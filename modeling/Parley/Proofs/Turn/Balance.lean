import Parley.Proofs.Turn.Runs

/-!
The books balance. In every run of one bot the contacts, the message log and the daily counters agree
with each other, with the messages that came in and with those that were delivered.
-/

namespace Parley

/-- A day on which every message was counted in one direction, and no user without a message. -/
structure DailyCount.Balanced (count : DailyCount) : Prop where
  total : count.total = count.incoming + count.outgoing
  users : count.uniqueUsers ≤ count.incoming

theorem DailyCount.Balanced.bump {count : DailyCount} (balanced : count.Balanced)
    {direction : Direction} {newUser : Bool} (writes : newUser = true → direction = .incoming) :
    (count.bump direction newUser).Balanced := by
  obtain ⟨total, users⟩ := balanced
  cases direction with
  | incoming =>
    constructor
    · simp only [DailyCount.bump, if_true]
      omega
    · simp only [DailyCount.bump, if_true]
      split <;> omega
  | outgoing =>
    have old : newUser = false := by
      cases newUser with
      | false => rfl
      | true => cases writes rfl
    subst old
    constructor
    · simp only [DailyCount.bump, reduceCtorEq, if_false]
      omega
    · simp only [DailyCount.bump, reduceCtorEq, Bool.false_eq_true, if_false]
      omega

namespace Ledger

def total (ledger : Ledger) : Int := (ledger.counts.map (·.total)).sum

def logged (direction : Direction) (ledger : Ledger) : List LogEntry :=
  ledger.entries.filter (·.direction = direction)

/-- Books that agree with the counters of their days. -/
structure Tallies (ledger : Ledger) : Prop where
  total : ledger.total = ledger.entries.length
  days : ∀ count ∈ ledger.counts, count.Balanced

theorem count_balanced {ledger : Ledger} (tallies : ledger.Tallies) (botId : String) (day : Day) :
    (ledger.count botId day).Balanced := by
  rw [count]
  cases found : ledger.counts.find? (·.isOf botId day) with
  | none => exact ⟨rfl, Int.le_refl _⟩
  | some count => exact tallies.days count (List.mem_of_find?_eq_some found)

theorem Tallies.enter {ledger : Ledger} (tallies : ledger.Tallies) (entry : LogEntry)
    (botId : String) (day : Day) {direction : Direction} {newUser : Bool}
    (writes : newUser = true → direction = .incoming) :
    ((ledger.enter entry).tally botId day direction newUser).Tallies := by
  constructor
  · have before : ((ledger.counts.find? (·.isOf botId day)).map (·.total)).getD 0 =
        (ledger.count botId day).total := by
      rw [count]
      cases ledger.counts.find? (·.isOf botId day) <;> rfl
    have sum := Table.sum_put (·.isOf botId day) ((ledger.count botId day).bump direction newUser)
      (·.total) ledger.counts
    have counted : ((ledger.count botId day).bump direction newUser).total =
      (ledger.count botId day).total + 1 := rfl
    have total := tallies.total
    rw [Ledger.total] at total ⊢
    change ((Table.put _ ((ledger.count botId day).bump direction newUser) ledger.counts).map
      (·.total)).sum = ((ledger.entries ++ [entry]).length : Int)
    rw [sum, before, counted, total, List.length_append, List.length_singleton]
    push_cast
    omega
  · intro count member
    rcases Table.mem_put member with kept | rfl
    · exact tallies.days count kept
    · exact (count_balanced tallies botId day).bump writes

/-! ### Contacts -/

/-- Contacts of a bot that count the messages of some senders, one contact for each. -/
structure Remembers (botId : String) (senders : List String) (ledger : Ledger) : Prop where
  owners : ∀ contact ∈ ledger.contacts, contact.botId = botId
  apart : (ledger.contacts.map (·.senderId)).Nodup
  known : ∀ senderId ∈ senders, ∃ contact, ledger.contact? botId senderId = some contact
  counted : ∀ contact ∈ ledger.contacts, contact.messageCount = senders.count contact.senderId
  total : (ledger.contacts.map (·.messageCount)).sum = senders.length

variable {botId senderId : String} {senders : List String} {ledger : Ledger} {contact : Contact}

namespace Remembers

theorem messagesOf_eq (remembers : Remembers botId senders ledger) (senderId : String) :
    ledger.messagesOf botId senderId = senders.count senderId := by
  rw [Ledger.messagesOf]
  cases found : ledger.contact? botId senderId with
  | some contact =>
    obtain ⟨member, _, sender⟩ := contact?_owner found
    rw [← sender]
    exact remembers.counted contact member
  | none =>
    have unheard : senderId ∉ senders := by
      intro heard
      obtain ⟨contact, known⟩ := remembers.known senderId heard
      cases found.symm.trans known
    rw [List.count_eq_zero_of_not_mem unheard]
    rfl

theorem apart_greet (remembers : Remembers botId senders ledger)
    (owner : contact.botId = botId ∧ contact.senderId = senderId) :
    ((ledger.greet contact).contacts.map (·.senderId)).Nodup := by
  obtain ⟨rfl, rfl⟩ := owner
  rw [greet]
  cases found : ledger.contact? contact.botId contact.senderId with
  | some old =>
    have same : old.senderId = contact.senderId := (contact?_owner found).2.2
    rw [Table.map_put found same]
    exact remembers.apart
  | none =>
    rw [Table.put_of_none found, List.map_append, List.map_singleton]
    refine List.Nodup.append remembers.apart (List.nodup_singleton _) ?_
    intro sender earlier new
    obtain ⟨old, member, rfl⟩ := List.mem_map.mp earlier
    refine List.find?_eq_none.mp found old member ?_
    simp [Contact.isOf, remembers.owners old member, List.mem_singleton.mp new]

theorem greet (remembers : Remembers botId senders ledger)
    (owner : contact.botId = botId ∧ contact.senderId = senderId)
    (counted : contact.messageCount = ledger.messagesOf botId senderId + 1) :
    Remembers botId (senders ++ [senderId]) (ledger.greet contact) := by
  have apart := remembers.apart_greet owner
  have found : (ledger.greet contact).contact? botId senderId = some contact :=
    contact?_greet owner
  have member := (contact?_owner found).1
  have before := remembers.messagesOf_eq senderId
  obtain ⟨rfl, rfl⟩ := owner
  refine ⟨?_, apart, ?_, ?_, ?_⟩
  · intro other held
    rcases Table.mem_put held with kept | rfl
    · exact remembers.owners other kept
    · rfl
  · intro other heard
    by_cases same : other = contact.senderId
    · rw [same]
      exact ⟨contact, found⟩
    · have earlier := (List.mem_append.mp heard).resolve_right
        fun new => same (List.mem_singleton.mp new)
      rw [contact?_greet_of_apart (by simp [Contact.isOf, Ne.symm same])]
      exact remembers.known other earlier
  · intro other held
    rw [List.count_append]
    by_cases same : other.senderId = contact.senderId
    · have same := List.inj_on_of_nodup_map apart held member same
      subst same
      rw [counted, before, List.count_singleton_self]
      push_cast
      rfl
    · rcases Table.mem_put held with kept | rfl
      · rw [remembers.counted other kept, List.count_eq_zero_of_not_mem
          fun new => same (List.mem_singleton.mp new), Nat.add_zero]
      · exact absurd rfl same
  · have sum := Table.sum_put (·.isOf contact.botId contact.senderId) contact (·.messageCount)
      ledger.contacts
    have total := remembers.total
    have replaced : ((ledger.contacts.find? (·.isOf contact.botId contact.senderId)).map
      (·.messageCount)).getD 0 = ledger.messagesOf contact.botId contact.senderId := rfl
    rw [replaced, counted, total] at sum
    rw [Ledger.greet, sum, List.length_append, List.length_singleton]
    push_cast
    omega

end Remembers

/-! ### The books as a whole -/

/-- Books that agree with the senders who have written to a bot and the calls that were made. -/
structure Balances (botId : String) (senders : List String) (calls : List Call) (ledger : Ledger) :
    Prop where
  tallies : ledger.Tallies
  remembers : Remembers botId senders ledger
  incoming : (ledger.logged .incoming).map (·.senderId) = senders
  outgoing : List.Forall₂ LogEntry.IsFor (calls.filter (·.delivers)) (ledger.logged .outgoing)

theorem logged_enter (direction : Direction) (entry : LogEntry) (ledger : Ledger) :
    (ledger.enter entry).logged direction =
      ledger.logged direction ++ if entry.direction = direction then [entry] else [] := by
  rw [logged, enter, List.filter_append, List.filter_singleton, Bool.cond_decide]
  rfl

namespace Balances

theorem empty (botId : String) : Balances botId [] [] {} :=
  ⟨⟨rfl, fun _ none => absurd none List.not_mem_nil⟩,
    ⟨fun _ none => absurd none List.not_mem_nil, List.nodup_nil,
      fun _ none => absurd none List.not_mem_nil, fun _ none => absurd none List.not_mem_nil, rfl⟩,
    rfl, .nil⟩

theorem receive {calls : List Call} {bot : Bot} {incoming : Turn.Incoming} {receipt : Receipt}
    (balances : Balances bot.id senders calls ledger) (right : receipt.Of bot incoming ledger) :
    Balances bot.id (senders ++ [incoming.senderId]) calls
      (ledger.receive bot.id incoming.senderId receipt) := by
  have greeted := balances.remembers.greet right.owner right.counted
  have tallies : (ledger.greet receipt.contact).Tallies := { balances.tallies with }
  refine ⟨tallies.enter receipt.entry bot.id receipt.counted.day fun _ => rfl,
    { greeted with }, ?_, ?_⟩
  · change (((ledger.greet receipt.contact).enter receipt.entry).logged .incoming).map _ = _
    rw [logged_enter, if_pos right.records.direction, List.map_append, List.map_singleton,
      right.records.sender]
    exact congrArg (· ++ _) balances.incoming
  · change List.Forall₂ _ _ (((ledger.greet receipt.contact).enter receipt.entry).logged .outgoing)
    rw [logged_enter, right.records.direction, if_neg (by decide), List.append_nil]
    exact balances.outgoing

theorem takesCall {calls : List Call} {call : Call} {reached : Ledger}
    (balances : Balances botId senders calls ledger) (takes : TakesCall call ledger reached)
    (typed : call.message?.isSome = call.delivers) :
    Balances botId senders (calls ++ [call]) reached := by
  cases takes with
  | silent none =>
    have idle : call.delivers = false := by rw [← typed, none]; rfl
    refine ⟨balances.tallies, balances.remembers, balances.incoming, ?_⟩
    rw [List.filter_append, List.filter_singleton, idle, cond_false, List.append_nil]
    exact balances.outgoing
  | @delivered message entry day said logged =>
    have speaks : call.delivers = true := by rw [← typed, said]; rfl
    have outwards : entry.direction = .outgoing := by
      obtain ⟨_, _, records⟩ := logged
      exact records.direction
    have known : false = true → Direction.outgoing = .incoming := fun same => by cases same
    refine ⟨balances.tallies.enter entry call.bot.id day known, { balances.remembers with }, ?_, ?_⟩
    · change ((ledger.enter entry).logged .incoming).map _ = _
      rw [logged_enter, outwards, if_neg (by decide), List.append_nil]
      exact balances.incoming
    · change List.Forall₂ _ _ ((ledger.enter entry).logged .outgoing)
      rw [logged_enter, if_pos outwards, List.filter_append, List.filter_singleton, speaks,
        cond_true]
      exact List.rel_append balances.outgoing (.cons logged .nil)

theorem takesCalls {calls made : List Call} {reached : Ledger}
    (balances : Balances botId senders calls ledger) (takes : TakesCalls made ledger reached)
    (typed : ∀ call ∈ made, call.message?.isSome = call.delivers) :
    Balances botId senders (calls ++ made) reached := by
  induction takes generalizing calls with
  | nil ledger =>
    rw [List.append_nil]
    exact balances
  | @cons call rest ledger middle final head tail ih =>
    have first := balances.takesCall head (typed call List.mem_cons_self)
    have all := ih first fun call later => typed call (List.mem_cons_of_mem _ later)
    rwa [List.append_assoc] at all

end Balances

end Ledger

namespace History

variable {σ : Type}

/-- An ordinary event of a run of one bot. What is said when a turn fails is a text. -/
def Event.Serves (botId : String) (event : Event σ) : Prop :=
  event.Ordinary ∧
    match event with
    | .turn _ options bot _ => bot.id = botId ∧ options.SaysTexts
    | _ => True

def Event.sender? (event : Event σ) : Option String := event.visitor?.map (·.2)

/-- A world that works, with books that agree with what has happened in it. -/
structure Balanced (botId : String) (senders : List String) (world : World σ) : Prop where
  works : Works world
  books : Ledger.Balances botId senders world.calls world.storage.store.ledger

theorem Balanced.happen {botId : String} {senders : List String} {world : World σ}
    (balanced : Balanced botId senders world) {event : Event σ} (serves : event.Serves botId)
    (bound : (History.happen world event).storage.source.issued ≤ 2 ^ 64) :
    Balanced botId (senders ++ event.sender?.toList) (History.happen world event) := by
  obtain ⟨works, recorded⟩ := balanced.works.happen serves.1 bound
  refine ⟨works, ?_⟩
  cases recorded with
  | turn keeps =>
    obtain ⟨rfl, texts⟩ := serves.2
    rw [keeps.calls]
    exact (balanced.books.receive keeps.right).takesCalls keeps.books
      fun call made => (keeps.shows call made).typed texts
  | aside quiet aside =>
    rw [Event.sender?, quiet, aside.ledger, aside.calls, Option.map_none, Option.toList_none,
      List.append_nil]
    exact balanced.books

theorem Balanced.run {botId : String} {senders : List String} {start : World σ}
    (balanced : Balanced botId senders start) {events : List (Event σ)}
    (serves : ∀ event ∈ events, event.Serves botId)
    (bound : (History.run start events).storage.source.issued ≤ 2 ^ 64) :
    Balanced botId (senders ++ events.filterMap (·.sender?)) (History.run start events) := by
  induction events generalizing start senders with
  | nil =>
    rw [List.filterMap_nil, List.append_nil]
    exact balanced
  | cons event rest ih =>
    have early := Nat.le_trans (run_issued (History.happen start event) rest) bound
    have happened := balanced.happen (serves event List.mem_cons_self) early
    have all := ih happened (fun event later => serves event (List.mem_cons_of_mem _ later)) bound
    rw [List.append_assoc] at all
    rw [List.filterMap_cons]
    cases sender : event.sender? <;> rw [sender] at all <;> exact all

/-- In every run of a bot that starts without books, each message that comes in is entered once and
counted for its sender, what is entered as sent is what was delivered, in order, and the counters of
all days together count the log. -/
theorem books_balance {start : World σ} (fresh : Fresh start) (botId : String)
    (events : List (Event σ)) (serves : ∀ event ∈ events, event.Serves botId)
    (bound : (run start events).storage.source.issued ≤ 2 ^ 64) :
    let final := run start events
    let ledger := final.storage.store.ledger
    let senders := events.filterMap (·.sender?)
    (ledger.logged .incoming).map (·.senderId) = senders ∧
      (ledger.logged .incoming).length = senders.length ∧
      (ledger.contacts.map (·.messageCount)).sum = senders.length ∧
      (∀ contact ∈ ledger.contacts, contact.botId = botId) ∧
      (∀ senderId, ledger.messagesOf botId senderId = senders.count senderId) ∧
      (∀ contact ∈ ledger.contacts, contact.messageCount = senders.count contact.senderId) ∧
      List.Forall₂ LogEntry.IsFor (final.calls.filter (·.delivers)) (ledger.logged .outgoing) ∧
      ledger.total = ledger.entries.length ∧
      ∀ count ∈ ledger.counts, count.total = count.incoming + count.outgoing ∧
        count.uniqueUsers ≤ count.incoming := by
  intro final ledger senders
  have begins : Balanced botId [] start := by
    refine ⟨fresh.works, ?_⟩
    rw [fresh.ledger, fresh.calls]
    exact .empty botId
  have balanced : Ledger.Balances botId senders final.calls ledger := (begins.run serves bound).books
  have incoming := balanced.incoming
  have remembers := balanced.remembers
  refine ⟨incoming, ?_, remembers.total, remembers.owners, remembers.messagesOf_eq,
    remembers.counted, balanced.outgoing, balanced.tallies.total, ?_⟩
  · rw [← List.length_map, incoming]
  · intro count member
    have day := balanced.tallies.days count member
    exact ⟨day.total, day.users⟩

def beforeMidnight : World Unit where
  storage := Storage.onMemory {} ⟨0, 1714607999999990⟩
  gateway := { name := "test", medium := () }

def arrives : Carrier Unit := fun _ _ _ medium => { medium }

def bounces : Carrier Unit := fun _ _ _ medium => { medium, refusal := some (.broke "line") }

/-- Two customers write: to a shop that has nothing to say, then to one that answers, and then to one
whose answers are lost. -/
def customers : List (Event Unit) :=
  [.turn arrives { bootstrap := false } { id := "shop" } { senderId := "ann", text := "Hello?" },
    .turn arrives {} { id := "shop" } { senderId := "bob", text := "Hi" },
    .turn bounces {} { id := "shop" } { senderId := "ann", text := "Anyone there?" }]

theorem customers_are_booked :
    beforeMidnight.storage.Reliable ∧
      (run beforeMidnight customers).storage.source.issued ≤ 2 ^ 64 ∧
      ((run beforeMidnight customers).storage.store.ledger.logged .incoming).length = 3 ∧
      (run beforeMidnight customers).storage.store.ledger.messagesOf "shop" "ann" = 2 ∧
      (run beforeMidnight customers).storage.store.ledger.total =
        (run beforeMidnight customers).storage.store.ledger.entries.length := by
  have bound : (run beforeMidnight customers).storage.source.issued ≤ 2 ^ 64 := by decide +kernel
  have texts : ({} : Options).SaysTexts := ⟨fun _ => ⟨_, rfl⟩, fun _ => ⟨_, rfl⟩⟩
  have serves : ∀ event ∈ customers, event.Serves "shop" := by
    intro event member
    simp only [customers, List.mem_cons, List.not_mem_nil, or_false] at member
    rcases member with rfl | rfl | rfl
    · exact ⟨trivial, rfl, ⟨fun _ => ⟨_, rfl⟩, fun _ => ⟨_, rfl⟩⟩⟩
    · exact ⟨trivial, rfl, texts⟩
    · exact ⟨trivial, rfl, texts⟩
  have fresh : Fresh beforeMidnight := ⟨Storage.reliable_onMemory _ _, rfl, rfl, rfl⟩
  obtain ⟨_, incoming, _, _, counted, _, _, total, _⟩ :=
    books_balance fresh "shop" customers serves bound
  exact ⟨fresh.reliable, bound, incoming, counted "ann", total⟩

end History

end Parley
