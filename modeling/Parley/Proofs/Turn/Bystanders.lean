import Parley.Proofs.Storage.Keeping
import Parley.Proofs.Storage.Ledgers
import Parley.Proofs.Storage.Owners
import Parley.Proofs.Turn.Hosting

/-!
Those who do not write. A turn of a sender with a bot changes the session and the contact of no other
sender, and of no sender with another bot.
-/

namespace Parley

open Storage (Part Becomes SameBut)

def Store.otherSessions (botId senderId : String) (store : Store) : List SessionRow :=
  store.sessionRows.filter fun row => !row.isOf botId senderId

def Store.otherContacts (botId senderId : String) (store : Store) : List Contact :=
  store.ledger.contacts.filter fun contact => !contact.isOf botId senderId

theorem Sql.saveSession_others {found : Option SessionRow} {session saved : Session}
    {sql written : Sql} (done : sql.saveSession found session = .ok (saved, written))
    (either : found = none ∨ found = sql.sessionRow? session.botId session.senderId)
    (apart : (sql.sessions.map (·.id)).Nodup) :
    written.sessions.filter (fun row => !row.isOf session.botId session.senderId) =
      sql.sessions.filter fun row => !row.isOf session.botId session.senderId := by
  unfold Sql.saveSession at done
  split at done
  · cases done
  · cases found with
    | none =>
      dsimp only at done
      split at done
      · cases done
      · cases done
        simp [SessionRow.isOf, SessionRow.write]
    | some row =>
      have shown := either.resolve_left (by simp)
      cases done
      have hit := List.find?_some shown.symm
      have member := List.mem_of_find?_eq_some shown.symm
      refine Table.filter_update_out fun old member' same => ?_
      -- the update goes by the id of the row, which only the row of the sender has
      have only : old = row := List.inj_on_of_nodup_map apart member' member (of_decide_eq_true same)
      subst only
      have still : (old.write session).isOf session.botId session.senderId = true := hit
      rw [hit, still]
      exact ⟨rfl, rfl⟩

/-- Nothing has become of the sessions and contacts of others, if ids tell session rows apart. -/
structure SparesOthers (botId senderId : String) (storage reached : Storage) : Prop where
  apart : storage.store.SessionIdsApart → reached.store.SessionIdsApart
  sessions : storage.store.SessionIdsApart →
    reached.store.otherSessions botId senderId = storage.store.otherSessions botId senderId
  contacts : reached.store.otherContacts botId senderId = storage.store.otherContacts botId senderId

namespace SparesOthers

variable {botId senderId : String} {storage middle reached : Storage} {parts : List Part}

instance (botId senderId : String) : IsPreorder Storage (SparesOthers botId senderId) where
  refl _ := ⟨id, fun _ => rfl, rfl⟩
  trans _ _ _ first second :=
    ⟨fun apart => second.apart (first.apart apart),
      fun apart => (second.sessions (first.apart apart)).trans (first.sessions apart),
      second.contacts.trans first.contacts⟩

theorem of_becomes (becomes : Becomes parts storage reached) (sessions : .sessions ∉ parts)
    (contacts : .contacts ∉ parts) : SparesOthers botId senderId storage reached := by
  have rows := becomes.same.sessionRows sessions
  have kept (store : Store) : (store.blank parts).ledger.contacts = store.ledger.contacts := by
    cases store <;> simp [Store.blank, Store.ledger, Memory.blank, Sql.blank, contacts]
  have held : reached.store.ledger.contacts = storage.store.ledger.contacts := by
    rw [← kept reached.store, ← kept storage.store]
    exact congrArg (fun blanked : Storage => blanked.store.ledger.contacts) becomes.same.symm
  refine ⟨becomes.same.apart sessions, fun _ => ?_, ?_⟩
  · rw [Store.otherSessions, Store.otherSessions, rows]
  · rw [Store.otherContacts, Store.otherContacts, held]

/-! ### Sessions -/

theorem of_saves {session : Session} {answer : Except Failure Session}
    (saves : SavesSession session storage (answer, reached))
    (owner : session.botId = botId ∧ session.senderId = senderId) :
    SparesOthers botId senderId storage reached := by
  obtain ⟨rfl, rfl⟩ := owner
  have apart := @saves.apart
  cases saves with
  | failed read => exact of_becomes read.becomes (by decide) (by decide)
  | @memory memory middle content read =>
    refine ⟨apart, fun _ => ?_, ?_⟩
    · have saved : (memory.saveSession session).2.sessions.filter
          (fun other => !other.isOf session.botId session.senderId) =
          memory.sessions.filter fun other => !other.isOf session.botId session.senderId := by
        refine Table.filter_put ?_ (fun old mine => by rw [mine]; rfl) memory.sessions
        simp [Session.isOf]
      rw [content]
      change ((memory.saveSession session).2.sessions.map (·.toRow)).filter _ =
        (memory.sessions.map (·.toRow)).filter _
      rw [List.filter_map, List.filter_map]
      exact congrArg (List.map (·.toRow)) saved
    · rw [content]
      rfl
  | @sql sql written found saved middle content read either shown done =>
    refine ⟨apart, fun distinct => ?_, ?_⟩
    · rw [content] at distinct ⊢
      exact Sql.saveSession_others done either distinct
    · have kept : written.contacts = sql.contacts :=
        (congrArg Sql.contacts (Sql.saveSession_same done)).symm
      rw [content]
      exact congrArg (List.filter _) kept

/-! ### Contacts -/

theorem of_contacts {contacts : List Contact}
    (sessions : reached.store.sessionRows = storage.store.sessionRows)
    (apart : storage.store.SessionIdsApart → reached.store.SessionIdsApart)
    (ledger : reached.store.ledger.contacts = contacts)
    (others : contacts.filter (fun contact => !contact.isOf botId senderId) =
      storage.store.ledger.contacts.filter fun contact => !contact.isOf botId senderId) :
    SparesOthers botId senderId storage reached := by
  refine ⟨apart, fun _ => ?_, ?_⟩
  · rw [Store.otherSessions, Store.otherSessions, sessions]
  · rw [Store.otherContacts, ledger]
    exact others

theorem saveContact {memory : Memory} {contact : Contact} (content : storage.store = .memory memory)
    (owner : contact.botId = botId ∧ contact.senderId = senderId) (source : Source) :
    SparesOthers botId senderId storage
      { storage with source, store := .memory (memory.saveContact contact) } := by
  obtain ⟨rfl, rfl⟩ := owner
  refine of_contacts ?_ (fun _ => trivial) rfl ?_
  · rw [content]
    rfl
  · rw [content]
    refine Table.filter_put ?_ (fun old mine => by rw [mine]; rfl) memory.contacts
    simp [Contact.isOf]

theorem updateContact {sql : Sql} {contact : Contact} (content : storage.store = .sql sql)
    (owner : contact.botId = botId ∧ contact.senderId = senderId) (source : Source) :
    SparesOthers botId senderId storage
      { storage with source, store := .sql (sql.updateContact contact) } := by
  obtain ⟨rfl, rfl⟩ := owner
  refine of_contacts ?_ (fun apart => ?_) rfl ?_
  · rw [content]
    rfl
  · rw [content] at apart
    exact apart
  · rw [content]
    refine Table.filter_update_out fun old member mine => ?_
    rw [mine]
    simp [Contact.isOf]

theorem insertContact {sql written : Sql} {contact : Contact} (content : storage.store = .sql sql)
    (owner : contact.botId = botId ∧ contact.senderId = senderId)
    (inserted : sql.insertContact contact = .ok written) (source : Source) (stale : Nat) :
    SparesOthers botId senderId storage
      { storage with source, staleContacts := stale, store := .sql written } := by
  obtain ⟨rfl, rfl⟩ := owner
  unfold Sql.insertContact at inserted
  split at inserted
  · cases inserted
  · cases inserted
    refine of_contacts ?_ (fun apart => ?_) rfl ?_
    · rw [content]
      rfl
    · rw [content] at apart
      exact apart
    · rw [content]
      simp [Contact.isOf, Store.ledger]

theorem upsertContact (botId senderId : String) (profile : Storage.Profile) :
    Within (SparesOthers botId senderId) (Storage.upsertContact botId senderId profile) := by
  apply Within.request
  · intro storage memory content
    cases found : memory.contact? botId senderId with
    | none =>
      let first := Storage.firstContact botId senderId profile storage.source
      exact @saveContact _ _ _ _ first content ⟨rfl, rfl⟩ _
    | some contact =>
      have owned := List.find?_some found
      simp only [Contact.isOf, Bool.and_eq_true, decide_eq_true_eq] at owned
      let seen := contact.visit (Source.now.run storage.source).1 profile.name profile.picture
      exact @saveContact _ _ _ _ seen content owned _
  · intro storage sql content
    apply Within.retrying
    intro storage sql content
    rw [Storage.upsertContact.attempt, outcome_bind, Storage.outcome_lookUpContact]
    have inserts (stale : Nat) : SparesOthers botId senderId storage
        (outcome (do
          let contact ← Storage.newContact botId senderId profile
          Storage.setSql (← Storage.ofExcept (sql.insertContact contact))
          return contact) { storage with staleContacts := stale }).2 := by
      let drawn : Source := ⟨storage.source.issued + 1, storage.source.micros + 1 + 1⟩
      have made : outcome (Storage.newContact botId senderId profile)
          { storage with staleContacts := stale } =
          (.ok (Storage.firstContact botId senderId profile storage.source),
            { storage with source := drawn, staleContacts := stale }) := rfl
      rw [outcome_bind_of_ok made, outcome_bind, Storage.outcome_ofExcept]
      cases inserted : sql.insertContact
          (Storage.firstContact botId senderId profile storage.source) with
      | ok written => exact insertContact content ⟨rfl, rfl⟩ inserted drawn stale
      | error failure => exact ⟨id, fun _ => rfl, rfl⟩
    cases storage.staleContacts with
    | zero =>
      cases found : sql.contact? botId senderId with
      | none => exact inserts storage.staleContacts
      | some contact =>
        have owned := List.find?_some found
        simp only [Contact.isOf, Bool.and_eq_true, decide_eq_true_eq] at owned
        let seen := contact.visit (Source.now.run storage.source).1 profile.name profile.picture
        exact @updateContact _ _ _ _ seen content owned _
    | succ rest => exact inserts rest

theorem recordVisit (botId senderId : String) (profile : Storage.Profile) :
    Within (SparesOthers botId senderId) (Bookkeeping.recordVisit botId senderId profile) := by
  apply Within.bind
  · exact fun storage => of_becomes (Touches.getContact botId senderId storage) (by decide) (by decide)
  intro previous
  apply Within.bind (upsertContact botId senderId profile)
  intro contact
  cases previous with
  | none => exact Within.pure _
  | some previous =>
    apply Within.bind
    · exact fun storage => of_becomes (Touches.draw Source.today_issues storage) (by decide) (by decide)
    · exact fun _ => Within.pure _

end SparesOthers

namespace Turn

variable {σ : Type} {options : Options} {bot : Bot} {incoming : Incoming} {session : Session}
  {botId senderId : String}

theorem keepBooks_spares (bot : Bot) (incoming : Incoming) (storage : Storage) :
    SparesOthers bot.id incoming.senderId storage ((keepBooks bot incoming).run storage).2 := by
  have tracked := SparesOthers.recordVisit bot.id incoming.senderId incoming.profile storage
  rw [keepBooks_run]
  refine IsTrans.trans _ _ _ ?_
    (SparesOthers.of_becomes (Bookkeeping.log_becomes _ _ _ _ _ _ _) (by decide) (by decide))
  rw [Bookkeeping.track, Bookkeeping.attempt_run]
  exact tracked

theorem getOrCreate_spares (botId senderId : String) :
    Within (SparesOthers botId senderId) (Session.getOrCreate botId senderId) := by
  intro storage
  have gets := Session.getOrCreate_gets botId senderId storage
  rcases run : outcome (Session.getOrCreate botId senderId) storage with ⟨answer, reached⟩
  rw [run] at gets
  cases gets with
  | failed read => exact .of_becomes read.becomes (by decide) (by decide)
  | found read stored valid => exact .of_becomes read.becomes (by decide) (by decide)
  | created read absent saves =>
    exact IsTrans.trans _ _ _ (.of_becomes read.becomes (by decide) (by decide))
      (.of_saves saves ⟨rfl, rfl⟩)

theorem saveSession_spares (owner : session.botId = botId ∧ session.senderId = senderId) :
    Within (SparesOthers botId senderId) (Storage.saveSession session) := fun storage =>
  .of_saves (Storage.saveSession_saves session storage) owner

theorem heed_spares (text : String) (owner : session.botId = botId ∧ session.senderId = senderId) :
    Within (SparesOthers botId senderId) (heed options text session) := by
  rw [heed]
  split
  · exact saveSession_spares owner
  · exact Within.pure session

theorem heed_owner {text : String} {storage reached : Storage} {heeded : Session}
    (run : outcome (heed options text session) storage = (.ok heeded, reached)) :
    heeded.botId = session.botId ∧ heeded.senderId = session.senderId := by
  rw [heed] at run
  split at run
  · have saves := Storage.saveSession_saves session.reset storage
    rw [show Storage.saveSession session.reset = session.forget from rfl, run] at saves
    rw [saves.saved_eq]
    exact ⟨rfl, rfl⟩
  · cases run
    exact ⟨rfl, rfl⟩

theorem ready_spares (options : Options) (bot : Bot) (incoming : Incoming) (storage : Storage) :
    SparesOthers bot.id incoming.senderId storage
        (outcome (ready options bot incoming) storage).2 ∧
      ∀ begun, (outcome (ready options bot incoming) storage).1 = .ok begun →
        begun.1.botId = bot.id ∧ begun.1.senderId = incoming.senderId := by
  have got := getOrCreate_spares bot.id incoming.senderId storage
  have gets := Session.getOrCreate_gets bot.id incoming.senderId storage
  rcases getting : outcome (Session.getOrCreate bot.id incoming.senderId) storage with
    ⟨failure | session, found⟩
  all_goals rw [getting] at got gets
  · have refused : outcome (receive bot incoming) storage = (.error failure, found) := by
      rw [outcome_receive, getting]
    rw [ready_of_failed refused]
    exact ⟨got, fun begun failed => by cases failed⟩
  · have owner := gets.owner
    have booked := IsTrans.trans _ _ _ got (keepBooks_spares bot incoming found)
    rw [ready_of_received (receive_of_found getting), openReceived]
    have heeding := @heed_spares options session bot.id incoming.senderId incoming.text owner
      ((keepBooks bot incoming).run found).2
    rcases heeded : outcome (heed options incoming.text session)
      ((keepBooks bot incoming).run found).2 with ⟨failure | heed, opened⟩
    all_goals
      rw [heeded] at heeding
      have opens := IsTrans.trans _ _ _ booked heeding
    · rw [outcome_bind_of_error heeded]
      exact ⟨opens, fun begun failed => by cases failed⟩
    · have owned := heed_owner heeded
      have starts := Touches.start options heed incoming.text heed.context opened
      rw [outcome_bind_of_ok heeded, outcome_bind]
      rcases starting : outcome (start options heed incoming.text heed.context) opened with
        ⟨failure | begun, reached⟩
      all_goals
        rw [starting] at starts
        have readied : SparesOthers bot.id incoming.senderId storage reached :=
          IsTrans.trans _ _ _ opens (.of_becomes starts (by decide) (by decide))
      · exact ⟨readied, fun begun failed => by cases failed⟩
      · refine ⟨readied, fun begun answered => ?_⟩
        cases answered
        exact ⟨owned.1.trans owner.1, owned.2.trans owner.2⟩

theorem settle_spares (begun : Start) (plan : Plan) (sent : Nat)
    (owner : session.botId = botId ∧ session.senderId = senderId) :
    Within (SparesOthers botId senderId) (settle session begun plan sent) := by
  apply Within.bind
  · rcases park_cases session begun plan with ⟨failure, _, thrown⟩ | ⟨parked, _, saves⟩
    · rw [thrown]
      exact Within.throw failure
    · rw [saves]
      obtain ⟨sameBot, sameSender, _⟩ := stopped_kept begun.mode parked begun.context session
      exact saveSession_spares ⟨sameBot.trans owner.1, sameSender.trans owner.2⟩
  · exact fun _ => Within.pure _

/-- A turn changes the session and the contact of no other sender. -/
theorem execute_spares (carry : Carrier σ) (options : Options) (bot : Bot) (incoming : Incoming)
    (world : World σ) :
    SparesOthers bot.id incoming.senderId world.storage
      ((execute carry options bot incoming).run world).2.storage := by
  obtain ⟨opens, owned⟩ := ready_spares options bot incoming world.storage
  refine IsTrans.trans _ _ _ opens (execute_related carry ?_ ?_)
  · exact fun _ _ logged => .of_becomes logged (by decide) (by decide)
  · intro session begun reached opened sent
    rw [opened] at owned
    exact settle_spares begun _ sent (owned _ rfl)

end Turn

end Parley
