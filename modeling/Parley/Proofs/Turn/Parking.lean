import Parley.Proofs.Turn.Succeeding

/-!
Turns that park. The session that they leave stands on the question at which they stopped, and the
next turn answers it.
-/

namespace Parley

open Storage (Part logParts SameBut)

/-! ### Where turns begin -/

namespace Turn

variable {σ : Type} {options : Options} {bot : Bot} {incoming : Incoming}

/-- A block is one of the store, and was there before the turn began. -/
def Found (storage reached : Storage) (botId : String) (block : Block) : Prop :=
  reached = storage ∧ storage.findBlock botId block.id = .ok (some block)

variable {before after opened reached : Storage} {session saved : Session} {begun : Start}

/-- A message answers a question on which a session is parked. -/
def Resumes (storage : Storage) (session : Session) (text : String) : Prop :=
  (∃ question, storage.AsksCard session question) ∨
    (∃ question, storage.AsksNode session question) ∧
      (outcome (Resolution.explicit session.outside text) storage).1 = .ok none

theorem Resumes.of_same {parts : List Part} {storage other : Storage} {text : String}
    (resumes : Resumes storage session text) (same : SameBut parts storage other)
    (blocks : .blocks ∉ parts) (flows : .flows ∉ parts) : Resumes other session text := by
  rcases resumes with ⟨question, asks⟩ | ⟨⟨question, asks⟩, unasked⟩
  · exact Or.inl ⟨question, asks.of_same (by rw [same.findBlock blocks])⟩
  · refine Or.inr ⟨⟨question, asks.of_same same blocks flows⟩, ?_⟩
    rw [← (Respects.explicit blocks session.outside text storage other same).1]
    exact unasked

def form : Block where
  id := "form"
  botId := "bot"
  cards := [⟨none, .userInput "" "name" none⟩, ⟨none, .userInput "" "city" none⟩]
  createdAt := ⟨0, none⟩

def filling : World Unit where
  storage :=
    { store := .memory
        { sessions := [{ id := "1", botId := "bot", senderId := "ada", currentBlockId := some "form" }]
          blocks := [form] }
      source := { micros := 0 } }
  gateway := { name := "test", medium := () }

def named : Start where
  mode := .block
  transition := .goto (.card form 1)
  context := [("name", Reply.clean "Ada")]

def filled : TurnResult × World Unit :=
  (execute (fun _ _ _ medium => { medium }) {} { id := "bot" }
    { senderId := "ada", text := "Ada" }).run filling

end Turn

end Parley
