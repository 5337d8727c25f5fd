import Mathlib.Data.Finset.Card
import Parley.Proofs.Turn.Runs

/-!
Visitors. What a day counts as its users are the people who wrote on it, as long as no midnight falls
while one of their messages is booked: the sender is marked as seen, is looked up among those of the
day and is counted at three readings of the clock.
-/

namespace Parley

theorem Timestamp.day_le {first last : Timestamp} (early : first.micros ≤ last.micros) :
    first.day.number ≤ last.day.number :=
  Int.ediv_le_ediv (by decide) early

theorem Timestamp.day_eq_of_between {first time last : Timestamp}
    (after : first.micros ≤ time.micros) (before : time.micros ≤ last.micros)
    (same : first.day = last.day) : time.day = last.day := by
  have early := Timestamp.day_le after
  rw [same] at early
  exact congrArg Day.mk (Int.le_antisymm (Timestamp.day_le before) early)

structure Arrival where
  botId : String
  senderId : String
  opened : Day
  counted : Day
  deriving DecidableEq

namespace Arrival

def isFrom (botId senderId : String) (arrival : Arrival) : Bool :=
  arrival.botId = botId && arrival.senderId = senderId

def isOn (botId : String) (day : Day) (arrival : Arrival) : Bool :=
  arrival.botId = botId && arrival.counted = day

/-- The days on which messages of a sender were counted. -/
def daysOf (botId senderId : String) (arrivals : List Arrival) : List Day :=
  (arrivals.filter (·.isFrom botId senderId)).map (·.counted)

/-- Who wrote the messages that were counted on a day. -/
def sendersOn (botId : String) (day : Day) (arrivals : List Arrival) : List String :=
  (arrivals.filter (·.isOn botId day)).map (·.senderId)

variable {botId senderId : String} {day : Day} {past : List Arrival} {arrival : Arrival}

theorem daysOf_append : daysOf botId senderId (past ++ [arrival]) =
    daysOf botId senderId past ++ if arrival.isFrom botId senderId then [arrival.counted] else [] := by
  rw [daysOf, List.filter_append, List.map_append, List.filter_singleton]
  cases arrival.isFrom botId senderId <;> rfl

theorem sendersOn_append : sendersOn botId day (past ++ [arrival]) =
    sendersOn botId day past ++ if arrival.isOn botId day then [arrival.senderId] else [] := by
  rw [sendersOn, List.filter_append, List.map_append, List.filter_singleton]
  cases arrival.isOn botId day <;> rfl

theorem mem_sendersOn_iff : senderId ∈ sendersOn botId day past ↔ day ∈ daysOf botId senderId past := by
  simp only [sendersOn, daysOf, List.mem_map, List.mem_filter, isOn, isFrom, Bool.and_eq_true,
    decide_eq_true_eq]
  constructor
  · rintro ⟨arrival, ⟨member, bot, on⟩, sender⟩
    exact ⟨arrival, ⟨member, bot, sender⟩, on⟩
  · rintro ⟨arrival, ⟨member, bot, sender⟩, on⟩
    exact ⟨arrival, ⟨member, bot, on⟩, sender⟩

end Arrival

namespace Ledger

variable {botId senderId : String} {day : Day} {ledger reached : Ledger}

theorem count_isOf (ledger : Ledger) (botId : String) (day : Day) :
    (ledger.count botId day).isOf botId day := by
  rw [count]
  cases found : ledger.counts.find? (·.isOf botId day) with
  | none => simp [DailyCount.isOf]
  | some count => exact List.find?_some found

theorem count_tally (direction : Direction) (newUser : Bool) :
    (ledger.tally botId day direction newUser).count botId day =
      (ledger.count botId day).bump direction newUser := by
  have hit : ((ledger.count botId day).bump direction newUser).isOf botId day :=
    count_isOf ledger botId day
  rw [count, tally, Table.find?_put_same hit, Option.getD_some]

theorem count_tally_of_apart {other : String} {date : Day} (apart : ¬ (other = botId ∧ date = day))
    (direction : Direction) (newUser : Bool) :
    (ledger.tally other date direction newUser).count botId day = ledger.count botId day := by
  have out (count : DailyCount) (here : count.isOf other date) : count.isOf botId day = false := by
    simp only [DailyCount.isOf, Bool.and_eq_true, decide_eq_true_eq] at here
    obtain ⟨rfl, rfl⟩ := here
    simpa [DailyCount.isOf] using apart
  have bumped : ((ledger.count other date).bump direction newUser).isOf botId day = false :=
    out _ (count_isOf ledger other date)
  rw [count, count]
  exact congrArg (Option.getD · { botId, day }) (Table.find?_put_of_apart bumped out ledger.counts)

/-- What is sent counts no user, and it does not change who is remembered. -/
structure Outgoes (ledger reached : Ledger) : Prop where
  contacts : reached.contacts = ledger.contacts
  incoming : ∀ botId day, (reached.count botId day).incoming = (ledger.count botId day).incoming
  users : ∀ botId day, (reached.count botId day).uniqueUsers = (ledger.count botId day).uniqueUsers

theorem TakesCall.outgoes {call : Call} (takes : TakesCall call ledger reached) :
    Outgoes ledger reached := by
  cases takes with
  | silent => exact ⟨rfl, fun _ _ => rfl, fun _ _ => rfl⟩
  | @delivered message entry date said logged =>
    have bumped (botId : String) (day : Day) :
        (((ledger.enter entry).tally call.bot.id date .outgoing false).count botId day).incoming =
            (ledger.count botId day).incoming ∧
          (((ledger.enter entry).tally call.bot.id date .outgoing false).count botId day).uniqueUsers =
            (ledger.count botId day).uniqueUsers := by
      by_cases same : call.bot.id = botId ∧ date = day
      · obtain ⟨rfl, rfl⟩ := same
        rw [count_tally]
        exact ⟨Int.add_zero _, Int.add_zero _⟩
      · rw [count_tally_of_apart same]
        exact ⟨rfl, rfl⟩
    exact ⟨rfl, fun botId day => (bumped botId day).1, fun botId day => (bumped botId day).2⟩

theorem TakesCalls.outgoes {calls : List Call} (takes : TakesCalls calls ledger reached) :
    Outgoes ledger reached := by
  induction takes with
  | nil => exact ⟨rfl, fun _ _ => rfl, fun _ _ => rfl⟩
  | cons head _ ih =>
    have first := head.outgoes
    exact ⟨ih.contacts.trans first.contacts,
      fun botId day => (ih.incoming botId day).trans (first.incoming botId day),
      fun botId day => (ih.users botId day).trans (first.users botId day)⟩

/-! ### Who is remembered, and who is counted -/

/-- The senders who are remembered were last seen on the last day on which they wrote. -/
structure Recalls (botId : String) (past : List Arrival) (clock : Int) (ledger : Ledger) : Prop where
  unknown : ∀ senderId, ledger.contact? botId senderId = none → Arrival.daysOf botId senderId past = []
  known : ∀ senderId contact, ledger.contact? botId senderId = some contact →
    contact.lastSeenAt.micros < clock ∧
      contact.lastSeenAt.day ∈ Arrival.daysOf botId senderId past ∧
      ∀ day ∈ Arrival.daysOf botId senderId past, day.number ≤ contact.lastSeenAt.day.number

/-- A day counts the messages that came in on it. -/
def CountsMessages (botId : String) (past : List Arrival) (ledger : Ledger) : Prop :=
  ∀ day, (ledger.count botId day).incoming = (Arrival.sendersOn botId day past).length

/-- A day counts each sender who wrote on it once. -/
def CountsSenders (botId : String) (past : List Arrival) (ledger : Ledger) : Prop :=
  ∀ day, (ledger.count botId day).uniqueUsers = (Arrival.sendersOn botId day past).toFinset.card

variable {past : List Arrival} {clock : Int}

namespace Recalls

theorem day_le (recalls : Recalls botId past clock ledger) {time : Timestamp}
    (late : clock ≤ time.micros) (wrote : day ∈ Arrival.daysOf botId senderId past) :
    day.number ≤ time.day.number := by
  cases found : ledger.contact? botId senderId with
  | none =>
    rw [recalls.unknown senderId found] at wrote
    cases wrote
  | some contact =>
    obtain ⟨seen, _, last⟩ := recalls.known senderId contact found
    exact Int.le_trans (last day wrote) (Timestamp.day_le (Int.le_trans (Int.le_of_lt seen) late))

/-- A sender is new on a day exactly if they have not written on it. -/
theorem isNew_iff (recalls : Recalls botId past clock ledger) (senderId : String) {today : Timestamp}
    (late : clock ≤ today.micros) :
    ledger.isNew botId senderId today.day = true ↔
      senderId ∉ Arrival.sendersOn botId today.day past := by
  rw [isNew, Arrival.mem_sendersOn_iff]
  cases found : ledger.contact? botId senderId with
  | none => simp [recalls.unknown senderId found]
  | some contact =>
    obtain ⟨seen, wrote, last⟩ := recalls.known senderId contact found
    have early := Timestamp.day_le (Int.le_trans (Int.le_of_lt seen) late)
    rw [Option.all_some, decide_eq_true_iff]
    refine not_congr ⟨fun same => same ▸ wrote, fun heard => ?_⟩
    exact congrArg Day.mk (Int.le_antisymm early (last _ heard))

theorem later (recalls : Recalls botId past clock ledger) {later : Int} (late : clock ≤ later)
    (contacts : reached.contacts = ledger.contacts) : Recalls botId past later reached := by
  have same (senderId : String) :
      reached.contact? botId senderId = ledger.contact? botId senderId := by
    rw [contact?, contact?, contacts]
  refine ⟨fun senderId absent => recalls.unknown senderId ((same senderId).symm.trans absent), ?_⟩
  intro senderId contact found
  obtain ⟨seen, rest⟩ := recalls.known senderId contact ((same senderId).symm.trans found)
  exact ⟨Int.lt_of_lt_of_le seen late, rest⟩

theorem greet (recalls : Recalls botId past clock ledger) {contact : Contact} {arrival : Arrival}
    {later : Int} (owner : contact.botId = arrival.botId ∧ contact.senderId = arrival.senderId)
    (late : clock ≤ contact.lastSeenAt.micros) (seen : contact.lastSeenAt.micros < later)
    (prompt : arrival.botId = botId → contact.lastSeenAt.day = arrival.counted) :
    Recalls botId (past ++ [arrival]) later (ledger.greet contact) := by
  have mine (senderId : String) :
      contact.isOf botId senderId = arrival.isFrom botId senderId := by
    rw [Contact.isOf, Arrival.isFrom, owner.1, owner.2]
  refine ⟨?_, ?_⟩
  · intro senderId absent
    rw [Arrival.daysOf_append]
    cases wrote : arrival.isFrom botId senderId with
    | false =>
      rw [contact?_greet_of_apart ((mine senderId).trans wrote)] at absent
      rw [recalls.unknown senderId absent]
      rfl
    | true =>
      have held := (mine senderId).trans wrote
      simp only [Contact.isOf, Bool.and_eq_true, decide_eq_true_eq] at held
      cases (contact?_greet held).symm.trans absent
  · intro senderId other found
    rw [Arrival.daysOf_append]
    cases wrote : arrival.isFrom botId senderId with
    | false =>
      rw [contact?_greet_of_apart ((mine senderId).trans wrote)] at found
      obtain ⟨before, rest⟩ := recalls.known senderId other found
      rw [if_neg Bool.false_ne_true, List.append_nil]
      exact ⟨Int.lt_trans before (Int.lt_of_le_of_lt late seen), rest⟩
    | true =>
      have held := (mine senderId).trans wrote
      simp only [Contact.isOf, Bool.and_eq_true, decide_eq_true_eq] at held
      cases (contact?_greet held).symm.trans found
      rw [if_pos rfl, ← prompt (owner.1.symm.trans held.1)]
      refine ⟨seen, List.mem_append_right _ (List.mem_singleton_self _), fun day wrote => ?_⟩
      rcases List.mem_append.mp wrote with earlier | now
      · exact recalls.day_le late earlier
      · rw [List.mem_singleton.mp now]

end Recalls

theorem count_receive (ledger : Ledger) (receipt : Receipt) {arrival : Arrival}
    (counted : arrival.counted = receipt.counted.day) (botId : String) (day : Day) :
    (ledger.receive arrival.botId arrival.senderId receipt).count botId day =
      if arrival.isOn botId day then
        (ledger.count botId day).bump .incoming
          (ledger.isNew botId arrival.senderId receipt.today.day)
      else ledger.count botId day := by
  rw [receive, ← counted]
  split
  · rename_i here
    simp only [Arrival.isOn, Bool.and_eq_true, decide_eq_true_eq] at here
    obtain ⟨rfl, rfl⟩ := here
    rw [count_tally]
    rfl
  · rename_i apart
    simp only [Arrival.isOn, Bool.and_eq_true, decide_eq_true_eq] at apart
    rw [count_tally_of_apart apart]
    rfl

theorem CountsMessages.receive (counts : CountsMessages botId past ledger) {receipt : Receipt}
    {arrival : Arrival} (counted : arrival.counted = receipt.counted.day) :
    CountsMessages botId (past ++ [arrival])
      (ledger.receive arrival.botId arrival.senderId receipt) := by
  intro day
  have before := counts day
  rw [count_receive ledger receipt counted, Arrival.sendersOn_append]
  split
  · change (ledger.count botId day).incoming + 1 = _
    rw [before, List.length_append, List.length_singleton]
    rfl
  · rw [List.append_nil]
    exact before

/-- If the day on which a sender is looked up is that on which the message is counted, a sender who
has not written on it is one user more. -/
theorem CountsSenders.receive (counts : CountsSenders botId past ledger)
    (recalls : Recalls botId past clock ledger) {receipt : Receipt} {arrival : Arrival}
    (counted : arrival.counted = receipt.counted.day) (late : clock ≤ receipt.today.micros)
    (prompt : arrival.botId = botId → receipt.today.day = arrival.counted) :
    CountsSenders botId (past ++ [arrival])
      (ledger.receive arrival.botId arrival.senderId receipt) := by
  intro day
  have before := counts day
  rw [count_receive ledger receipt counted, Arrival.sendersOn_append]
  split
  · rename_i here
    have isNew := recalls.isNew_iff arrival.senderId late
    simp only [Arrival.isOn, Bool.and_eq_true, decide_eq_true_eq] at here
    obtain ⟨rfl, rfl⟩ := here
    rw [prompt rfl] at isNew ⊢
    change (ledger.count arrival.botId arrival.counted).uniqueUsers + _ = _
    rw [before, List.toFinset_append, Finset.union_comm]
    by_cases wrote : arrival.senderId ∈ Arrival.sendersOn arrival.botId arrival.counted past
    · simp [isNew, wrote]
    · simp [isNew, wrote]
  · rw [List.append_nil]
    exact before

end Ledger

def Turn.arrival (bot : Bot) (incoming : Incoming) (storage : Storage) : Arrival where
  botId := bot.id
  senderId := incoming.senderId
  opened := (Timestamp.mk (booksOpened bot incoming storage).source.micros (some 0)).day
  counted := (Timestamp.mk ((booksClosed bot incoming storage).source.micros - 1) (some 0)).day

namespace History

variable {σ : Type}

def Event.arrival? (world : World σ) : Event σ → Option Arrival
  | .turn _ _ bot incoming => some (Turn.arrival bot incoming world.storage)
  | _ => none

def arrivals (world : World σ) : List (Event σ) → List Arrival
  | [] => []
  | event :: rest => (event.arrival? world).toList ++ arrivals (happen world event) rest

def Event.Forward : Event σ → Prop
  | .change conditions => 0 ≤ conditions.passed
  | _ => True

/-- No midnight falls while a message for a bot is booked. -/
def Prompt (botId : String) (arrivals : List Arrival) : Prop :=
  ∀ arrival ∈ arrivals, arrival.botId = botId → arrival.opened = arrival.counted

namespace Prompt

variable {botId : String} {past : List Arrival} {arrival : Arrival}

theorem init (prompt : Prompt botId (past ++ [arrival])) : Prompt botId past :=
  fun earlier member => prompt earlier (List.mem_append_left _ member)

theorem last (prompt : Prompt botId (past ++ [arrival])) (mine : arrival.botId = botId) :
    arrival.opened = arrival.counted :=
  prompt arrival (List.mem_append_right _ (List.mem_singleton_self _)) mine

end Prompt

/-- A world that works, after some messages have come in. -/
structure Visited (botId : String) (past : List Arrival) (world : World σ) : Prop where
  works : Works world
  messages : world.storage.store.ledger.CountsMessages botId past
  recalls : Prompt botId past →
    world.storage.store.ledger.Recalls botId past world.storage.source.micros
  senders : Prompt botId past → world.storage.store.ledger.CountsSenders botId past

theorem happen_later {event : Event σ} (forward : event.Forward) (world : World σ) :
    world.storage.source.micros ≤ (happen world event).storage.source.micros := by
  rcases happen_becomes world event with ⟨_, becomes⟩ | ⟨conditions, rfl⟩
  · exact becomes.later.micros
  · exact Int.le_add_of_nonneg_right forward

namespace Visited

variable {botId : String} {past : List Arrival} {world reached : World σ}

theorem aside (visited : Visited botId past world) (aside : Aside world reached)
    (later : world.storage.source.micros ≤ reached.storage.source.micros) :
    Visited botId past reached := by
  obtain ⟨_, messages, recalls, senders⟩ := visited
  have same := aside.ledger
  refine ⟨aside.works, same ▸ messages, fun prompt => ?_, fun prompt => same ▸ senders prompt⟩
  exact (recalls prompt).later later (congrArg Ledger.contacts same)

theorem turn {options : Options} {bot : Bot} {incoming : Turn.Incoming} {receipt : Receipt}
    {made : List Call} (visited : Visited botId past world) (works : Works reached)
    (keeps : Turn.Keeps bot options incoming world reached receipt made) :
    Visited botId (past ++ [Turn.arrival bot incoming world.storage]) reached := by
  obtain ⟨_, messages, recalls, senders⟩ := visited
  obtain ⟨seen, today, counted⟩ := keeps.between
  have outgoes := keeps.books.outgoes
  let arrival := Turn.arrival bot incoming world.storage
  have owner : receipt.contact.botId = arrival.botId ∧
      receipt.contact.senderId = arrival.senderId := keeps.right.owner
  have on : arrival.counted = receipt.counted.day :=
    congrArg (fun micros => (Timestamp.mk micros (some 0)).day) counted.symm
  refine ⟨works, fun day => ?_, fun prompt => ?_, fun prompt day => ?_⟩
  · rw [outgoes.incoming]
    exact messages.receive on day
  · have onDay (mine : arrival.botId = botId) : receipt.contact.lastSeenAt.day = arrival.counted :=
      Timestamp.day_eq_of_between seen.1 seen.2 (prompt.last mine)
    have greeted := (recalls prompt.init).greet owner (Int.le_trans keeps.earlier seen.1)
      (Int.lt_of_le_sub_one seen.2) onDay
    exact greeted.later keeps.later outgoes.contacts
  · have onDay (mine : arrival.botId = botId) : receipt.today.day = arrival.counted :=
      Timestamp.day_eq_of_between today.1 today.2 (prompt.last mine)
    rw [outgoes.users]
    exact (senders prompt.init).receive (recalls prompt.init) on
      (Int.le_trans keeps.earlier today.1) onDay day

end Visited

theorem Visited.happen {botId : String} {past : List Arrival} {world : World σ}
    (visited : Visited botId past world) {event : Event σ} (ordinary : event.Ordinary)
    (forward : event.Forward) (bound : (History.happen world event).storage.source.issued ≤ 2 ^ 64) :
    Visited botId (past ++ (event.arrival? world).toList) (History.happen world event) := by
  obtain ⟨works, recorded⟩ := visited.works.happen ordinary bound
  have later := happen_later forward world
  cases recorded with
  | @turn carry options bot incoming receipt made keeps => exact visited.turn works keeps
  | aside quiet aside =>
    have none : event.arrival? world = none := by
      cases event <;> first | rfl | cases quiet
    rw [none, Option.toList_none, List.append_nil]
    exact visited.aside aside later

theorem Visited.run {botId : String} {past : List Arrival} {start : World σ}
    (visited : Visited botId past start) {events : List (Event σ)}
    (ordinary : ∀ event ∈ events, event.Ordinary ∧ event.Forward)
    (bound : (History.run start events).storage.source.issued ≤ 2 ^ 64) :
    Visited botId (past ++ arrivals start events) (History.run start events) := by
  induction events generalizing start past with
  | nil =>
    rw [arrivals, List.append_nil]
    exact visited
  | cons event rest ih =>
    have early := Nat.le_trans (run_issued (History.happen start event) rest) bound
    obtain ⟨plain, forward⟩ := ordinary event List.mem_cons_self
    have happened := visited.happen plain forward early
    have all := ih happened (fun event later => ordinary event (List.mem_cons_of_mem _ later)) bound
    rwa [List.append_assoc] at all

def writes (senderId text : String) : Event Unit :=
  .turn (fun _ _ _ medium => { medium }) {} { id := "shop" } { senderId, text }

def passes (micros : Int) : Event Unit :=
  .change { gateway := { name := "test", medium := () }, passed := micros }

end History

end Parley
