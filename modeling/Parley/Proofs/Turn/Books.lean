import Parley.Proofs.Storage.Ledgers
import Parley.Proofs.Turn.Hosting

/-!
What a turn enters into the books while the store works: the message that comes in and its sender, and
then every message that is delivered, whether the turn succeeds or fails.
-/

namespace Parley

open Storage (Part Becomes logParts)

structure Receipt where
  contact : Contact
  entry : LogEntry
  /-- The reading of the clock that tells whether the sender has written on this day. -/
  today : Timestamp
  /-- The reading of the clock that tells on which day the message is counted. -/
  counted : Timestamp

namespace Receipt

/-- What is written down about a message is right. -/
structure Of (bot : Bot) (incoming : Turn.Incoming) (ledger : Ledger) (receipt : Receipt) :
    Prop where
  owner : receipt.contact.botId = bot.id ∧ receipt.contact.senderId = incoming.senderId
  counted : receipt.contact.messageCount = ledger.messagesOf bot.id incoming.senderId + 1
  records : receipt.entry.Records bot.id incoming.senderId incoming.text .incoming "text"

/-- The readings of the clock are taken from one on up to that by which the message is counted. -/
structure Between (first last : Int) (receipt : Receipt) : Prop where
  seen : first ≤ receipt.contact.lastSeenAt.micros ∧ receipt.contact.lastSeenAt.micros ≤ last
  today : first ≤ receipt.today.micros ∧ receipt.today.micros ≤ last
  counted : receipt.counted.micros = last

end Receipt

namespace Ledger

def isNew (botId senderId : String) (day : Day) (ledger : Ledger) : Bool :=
  (ledger.contact? botId senderId).all (·.lastSeenAt.day ≠ day)

def receive (botId senderId : String) (receipt : Receipt) (ledger : Ledger) : Ledger :=
  ((ledger.greet receipt.contact).enter receipt.entry).tally botId receipt.counted.day .incoming
    (ledger.isNew botId senderId receipt.today.day)

/-- What the books become with a call: a message that it has delivered is entered and counted. -/
inductive TakesCall (call : Call) (ledger : Ledger) : Ledger → Prop where
  | silent (none : call.message? = none) : TakesCall call ledger ledger
  | delivered {message : Message} {entry : LogEntry} {day : Day} (some : call.message? = some message)
    (logged : entry.IsFor call) :
    TakesCall call ledger ((ledger.enter entry).tally call.bot.id day .outgoing false)

/-- What the books become with some calls, one after the other. -/
inductive TakesCalls : List Call → Ledger → Ledger → Prop where
  | nil (ledger : Ledger) : TakesCalls [] ledger ledger
  | cons {call : Call} {rest : List Call} {ledger middle final : Ledger}
    (head : TakesCall call ledger middle) (tail : TakesCalls rest middle final) :
    TakesCalls (call :: rest) ledger final

theorem TakesCalls.append {calls more : List Call} {ledger middle final : Ledger}
    (first : TakesCalls calls ledger middle) (second : TakesCalls more middle final) :
    TakesCalls (calls ++ more) ledger final := by
  induction first with
  | nil ledger => exact second
  | cons head _ ih => exact .cons head (ih second)

end Ledger

theorem Call.message?_eq_some {call : Call} {message : Message}
    (said : call.message? = some message) :
    call.outbound = .message message ∧ call.failure = none := by
  unfold Call.message? at said
  split at said
  · cases said
    exact ⟨by assumption, by assumption⟩
  · cases said

def Outbound.isValue : Outbound → Bool
  | .value _ _ => true
  | _ => false

theorem Call.message?_isSome {call : Call} (typed : call.outbound.isValue = false) :
    call.message?.isSome = call.delivers := by
  obtain ⟨bot, recipientId, outbound, failure⟩ := call
  cases outbound with
  | value => cases typed
  | message | typing => cases failure <;> rfl

/-- A value that is said as a text, if it is said. -/
def Json.SaysText (value : Json) : Prop := value.isPresent = true → ∃ text, value = .str text

/-- What is said when a turn fails is a text. -/
structure Options.SaysTexts (options : Options) : Prop where
  apology : options.apology.SaysText
  notConfigured : options.notConfigured.SaysText

/-- A storage that keeps books. -/
structure Storage.KeepsBooks (storage : Storage) : Prop where
  reliable : storage.Reliable
  takes : storage.TakesEntries

theorem Storage.KeepsBooks.after {parts : List Part} {storage reached : Storage}
    (keeps : storage.KeepsBooks) (becomes : Becomes parts storage reached)
    (sessions : .sessionLookups ∉ parts) (contacts : .contactLookups ∉ parts)
    (entries : .entries ∉ parts) : reached.KeepsBooks :=
  ⟨becomes.same.reliable sessions contacts keeps.reliable, keeps.takes.after becomes entries⟩

theorem Storage.KeepsBooks.hosted {parts : List Part} {storage reached : Storage}
    (keeps : storage.KeepsBooks) (becomes : Becomes parts storage reached) (hosts : reached.Hosts)
    (contacts : .contactLookups ∉ parts) (entries : .entries ∉ parts) : reached.KeepsBooks := by
  have calm : reached.Calm := ⟨becomes.same.broken.trans keeps.reliable.calm.works,
    becomes.same.down.trans keeps.reliable.calm.up, hosts.current⟩
  have contacts := (becomes.same.staleContacts contacts).trans keeps.reliable.contacts
  exact ⟨⟨calm, contacts⟩, keeps.takes.after becomes entries⟩

namespace Turn

variable {σ : Type} {storage : Storage} {bot : Bot} {incoming : Incoming}

theorem logCall_takes (keeps : storage.KeepsBooks) (call : Call)
    (bound : (logCall storage call).source.issued ≤ 2 ^ 64) :
    (logCall storage call).KeepsBooks ∧
      storage.store.ledger.TakesCall call (logCall storage call).store.ledger := by
  unfold logCall at bound ⊢
  cases said : call.message? with
  | none => exact ⟨keeps, .silent said⟩
  | some message =>
    rw [said] at bound
    have issues := Bookkeeping.log_issues call.bot.id call.recipientId message.logText .outgoing
      message.logType false storage
    obtain ⟨entry, counted, logs⟩ := keeps.reliable.log keeps.takes (Nat.lt_of_lt_of_le issues bound)
      call.bot.id call.recipientId message.logText .outgoing message.logType false
    refine ⟨⟨logs.reliable, logs.takes⟩, ?_⟩
    rw [logs.ledger]
    exact .delivered said ⟨message, (Call.message?_eq_some said).1, logs.records⟩

theorem logged_takes (keeps : storage.KeepsBooks) (calls : List Call)
    (bound : (logged calls storage).source.issued ≤ 2 ^ 64) :
    (logged calls storage).KeepsBooks ∧
      Ledger.TakesCalls calls storage.store.ledger (logged calls storage).store.ledger := by
  induction calls generalizing storage with
  | nil => exact ⟨keeps, .nil _⟩
  | cons call rest ih =>
    have later := (logged_becomes rest (logCall storage call)).issued
    obtain ⟨keeps, head⟩ := logCall_takes keeps call (Nat.le_trans later bound)
    obtain ⟨keeps, tail⟩ := ih keeps bound
    exact ⟨keeps, .cons head tail⟩

theorem keepBooks_receives (keeps : storage.KeepsBooks) (bot : Bot) (incoming : Incoming)
    (bound : ((keepBooks bot incoming).run storage).2.source.issued ≤ 2 ^ 64) :
    ∃ receipt : Receipt,
      receipt.Of bot incoming storage.store.ledger ∧
      receipt.Between storage.source.micros
        (((keepBooks bot incoming).run storage).2.source.micros - 1) ∧
      ((keepBooks bot incoming).run storage).2.KeepsBooks ∧
      ((keepBooks bot incoming).run storage).2.store.ledger =
        storage.store.ledger.receive bot.id incoming.senderId receipt := by
  obtain ⟨visit, middle, visited, greets, today, after, before, first⟩ :=
    keeps.reliable.recordVisit bot.id incoming.senderId incoming.profile
  have tracked : (Bookkeeping.track bot.id incoming.senderId incoming.profile).run storage =
      (some visit, middle) := by
    rw [Bookkeeping.track, Bookkeeping.attempt_run, visited]
    rfl
  have becomes := Bookkeeping.track_becomes bot.id incoming.senderId incoming.profile storage
  rw [tracked] at becomes
  have takes := keeps.takes.after becomes (by decide)
  rw [keepBooks_run, tracked] at bound ⊢
  have issues := Bookkeeping.log_issues bot.id incoming.senderId incoming.text .incoming "text"
    visit.firstToday middle
  obtain ⟨entry, counted, logs⟩ := greets.reliable.log takes (Nat.lt_of_lt_of_le issues bound) bot.id
    incoming.senderId incoming.text .incoming "text" visit.firstToday
  have last : counted.micros = ((Bookkeeping.log bot.id incoming.senderId incoming.text .incoming
      "text" visit.firstToday).run middle).2.source.micros - 1 := by
    rw [logs.last]
    exact (Int.add_sub_cancel _ _).symm
  have later {micros : Int} (before : micros < middle.source.micros) : micros ≤ counted.micros :=
    Int.le_trans (Int.le_of_lt before) logs.after
  refine ⟨⟨visit.contact, entry, today, counted⟩,
    ⟨⟨greets.bot, greets.sender⟩, greets.counted, logs.records⟩,
    ⟨⟨greets.after, (later greets.before).trans_eq last⟩, ⟨after, (later before).trans_eq last⟩, last⟩,
    ⟨logs.reliable, logs.takes⟩, ?_⟩
  rw [Ledger.receive, Ledger.isNew, ← first, ← greets.ledger]
  exact logs.ledger

/-! ### Turns -/

theorem works_of_reliable (reliable : storage.Reliable) : Works storage := by
  obtain ⟨memory, source, rfl⟩ | ⟨sql, source, rfl⟩ := reliable.cases <;> exact ⟨rfl, rfl⟩

/-- A call that a turn makes is one for its bot, and it delivers nothing but messages if texts are
said when a turn fails. -/
structure Shows (bot : Bot) (options : Options) (call : Call) : Prop where
  owner : call.bot = bot
  typed : options.SaysTexts → call.message?.isSome = call.delivers

theorem spoken_message {options : Options} (texts : options.SaysTexts) (failure : Failure)
    {outbound : Outbound} (said : outbound ∈ spoken (answerTo options failure)) :
    outbound.isValue = false := by
  have text : (answerTo options failure).SaysText := by
    rw [answerTo]
    split
    · exact texts.notConfigured
    · exact texts.apology
  rw [spoken] at said
  split at said
  · rename_i present
    obtain ⟨words, same⟩ := text present
    rw [same] at said
    cases List.mem_singleton.mp said
    rfl
  · cases said

theorem shown_message {effect : Effect} {outbound : Outbound} (shown : outbound ∈ effect.shown) :
    outbound.isValue = false := by
  cases effect with
  | send message =>
    cases List.mem_singleton.mp shown
    rfl
  | wait pause =>
    rw [Effect.shown] at shown
    split at shown
    · rcases List.mem_cons.mp shown with rfl | shown
      · rfl
      · cases List.mem_singleton.mp shown
        rfl
    · cases shown

theorem Shows.of_made {carry : Carrier σ} {options : Options} {recipientId : String}
    {shown : List Outbound} {gateway : Gateway σ}
    (messages : options.SaysTexts → ∀ outbound ∈ shown, outbound.isValue = false) {call : Call}
    (made : call ∈ (gateway.showAll carry bot recipientId shown).1) : Shows bot options call := by
  obtain ⟨owner, shown⟩ := Gateway.mem_showAll made
  exact ⟨owner, fun texts => Call.message?_isSome (messages texts _ shown)⟩

/-- What the books become after a turn was opened, with the calls that it makes. -/
structure Enters (bot : Bot) (options : Options) (storage : Storage) (calls : List Call)
    (reached : World σ) (made : List Call) : Prop where
  keeps : reached.storage.KeepsBooks
  calls : reached.calls = calls ++ made
  books : storage.store.ledger.TakesCalls made reached.storage.store.ledger
  shows : ∀ call ∈ made, Shows bot options call

variable {carry : Carrier σ} {options : Options} {world : World σ} {reached : Storage}

theorem showIn_enters (keeps : world.storage.KeepsBooks) (recipientId : String) (naps : List Nap)
    {shown : List Outbound}
    (messages : options.SaysTexts → ∀ outbound ∈ shown, outbound.isValue = false)
    (bound : (showIn carry bot recipientId shown naps world).storage.source.issued ≤ 2 ^ 64) :
    Enters bot options world.storage world.calls (showIn carry bot recipientId shown naps world)
      (world.gateway.showAll carry bot recipientId shown).1 := by
  obtain ⟨keeps, books⟩ := logged_takes keeps _ bound
  exact ⟨keeps, rfl, books, fun call made => .of_made messages made⟩

theorem endedIn_enters {settled : Except Failure TurnResult × Storage}
    (keeps : settled.2.KeepsBooks)
    (bound : (endedIn carry bot options incoming world settled).2.storage.source.issued ≤ 2 ^ 64) :
    ∃ made, Enters bot options settled.2 world.calls
      (endedIn carry bot options incoming world settled).2 made := by
  obtain ⟨answer, final⟩ := settled
  cases answer with
  | ok result =>
    exact ⟨[], keeps, (List.append_nil _).symm, .nil _, fun _ none => by cases none⟩
  | error failure =>
    have keeps : Storage.KeepsBooks ({ world with storage := final } : World σ).storage := keeps
    exact ⟨_, showIn_enters keeps incoming.senderId []
      (fun texts _ said => spoken_message texts failure said) bound⟩

theorem ready_enters (hosts : reached.Hosts) (keeps : reached.KeepsBooks)
    {answer : Except Failure (Session × Start)}
    (seated : ∀ begun, answer = .ok begun → begun.1.Seated reached)
    (opened : outcome (ready options bot incoming) world.storage = (answer, reached))
    (bound : ((execute carry options bot incoming).run world).2.storage.source.issued ≤ 2 ^ 64) :
    ∃ made, Enters bot options reached world.calls
      ((execute carry options bot incoming).run world).2 made := by
  cases answer with
  | error failure =>
    rw [execute_of_unready carry bot opened] at bound ⊢
    exact endedIn_enters keeps bound
  | ok begun =>
    obtain ⟨session, begun⟩ := begun
    obtain ⟨row, member, same⟩ := seated _ rfl
    rw [execute_of_ready carry bot opened] at bound ⊢
    generalize planFrom options reached begun = plan at bound ⊢
    let opened : World σ := { world with storage := reached }
    let performed := performedIn carry bot session.senderId options opened plan
    let sent := deliveredIn carry bot session.senderId opened plan
    have messages (_ : options.SaysTexts) (outbound : Outbound)
        (shown : outbound ∈ plan.effects.flatMap (·.shown)) : outbound.isValue = false := by
      obtain ⟨effect, _, shown⟩ := List.mem_flatMap.mp shown
      exact shown_message shown
    have settled := settle_touches session begun plan sent performed.storage
    have early := Nat.le_trans settled.issued
      (Nat.le_trans (endedIn_becomes carry bot _).issued bound)
    have first : Enters bot options reached world.calls performed _ :=
      showIn_enters keeps session.senderId _ messages early
    have logs : Becomes logParts reached performed.storage := logged_becomes _ reached
    rw [← logs.same.sessionRows (by decide)] at member
    have hosts := settle_hosted (hosts.after logs (by decide) (by decide)) ⟨row, member, same⟩ begun
      plan sent
    obtain ⟨made, last⟩ := endedIn_enters
      (first.keeps.hosted settled hosts (by decide) (by decide)) bound
    have kept := settled.same.ledger (by decide) (by decide) (by decide)
    refine ⟨_, last.keeps, ?_, first.books.append (kept ▸ last.books), ?_⟩
    · rw [last.calls, first.calls, List.append_assoc]
    · intro call member
      rcases List.mem_append.mp member with made | made
      · exact first.shows call made
      · exact last.shows call made

def booksOpened (bot : Bot) (incoming : Incoming) (storage : Storage) : Storage :=
  (outcome (Session.getOrCreate bot.id incoming.senderId) storage).2

def booksClosed (bot : Bot) (incoming : Incoming) (storage : Storage) : Storage :=
  ((keepBooks bot incoming).run (booksOpened bot incoming storage)).2

/-- What a turn enters into the books. -/
structure Keeps (bot : Bot) (options : Options) (incoming : Incoming) (world reached : World σ)
    (receipt : Receipt) (made : List Call) : Prop where
  right : receipt.Of bot incoming world.storage.store.ledger
  between : receipt.Between (booksOpened bot incoming world.storage).source.micros
    ((booksClosed bot incoming world.storage).source.micros - 1)
  earlier : world.storage.source.micros ≤ (booksOpened bot incoming world.storage).source.micros
  later : (booksClosed bot incoming world.storage).source.micros ≤ reached.storage.source.micros
  keeps : reached.storage.KeepsBooks
  calls : reached.calls = world.calls ++ made
  books : (world.storage.store.ledger.receive bot.id incoming.senderId receipt).TakesCalls made
    reached.storage.store.ledger
  shows : ∀ call ∈ made, Shows bot options call

/-- A turn writes down the message that comes in, and then what it delivers. -/
theorem execute_keeps (carry : Carrier σ) (options : Options) (bot : Bot) (incoming : Incoming)
    (hosts : world.storage.Hosts) (keeps : world.storage.KeepsBooks)
    (bound : ((execute carry options bot incoming).run world).2.storage.source.issued ≤ 2 ^ 64) :
    ∃ receipt made, Keeps bot options incoming world ((execute carry options bot incoming).run world).2
      receipt made := by
  have concludes := ready_becomes carry options bot incoming world
  have creates := getOrCreate_issued options bot incoming world.storage
  have works := works_of_reliable keeps.reliable
  obtain ⟨session, found, finding, _, hosts, row, member, same⟩ := getOrCreate_hosted hosts works
    (Nat.le_trans creates (Nat.le_trans concludes.issued bound))
  have finds := (Touches.getOrCreate bot.id incoming.senderId).apply finding
  have unwritten := finds.same.ledger (by decide) (by decide) (by decide)
  have ready_eq := ready_of_received (receive_of_found finding) options
  have opens := openReceived_touches options incoming.text session
    ((keepBooks bot incoming).run found).2
  rcases opening : outcome (openReceived options incoming.text session)
    ((keepBooks bot incoming).run found).2 with ⟨answer, reached⟩
  rw [opening] at opens ready_eq
  rw [ready_eq] at concludes
  have books := keepBooks_becomes bot incoming found
  obtain ⟨receipt, right, between, kept, received⟩ := keepBooks_receives
    (keeps.hosted finds hosts (by decide) (by decide)) bot incoming
    (Nat.le_trans opens.issued (Nat.le_trans concludes.issued bound))
  rw [← books.same.sessionRows (by decide)] at member
  obtain ⟨hosts, seated⟩ := openReceived_hosted (hosts.after books (by decide) (by decide))
    ⟨row, member, same⟩ opening
  have kept := kept.hosted opens hosts (by decide) (by decide)
  have unchanged := opens.same.ledger (by decide) (by decide) (by decide)
  obtain ⟨made, enters⟩ := ready_enters hosts kept seated ready_eq bound
  rw [unwritten] at right received
  have entered := enters.books
  rw [unchanged, received] at entered
  have earlier := finds.later.micros
  have later := Int.le_trans opens.later.micros concludes.later.micros
  have booked : booksOpened bot incoming world.storage = found := congrArg Prod.snd finding
  rw [← booked] at between earlier later
  exact ⟨receipt, made, right, between, earlier, later, enters.keeps, enters.calls, entered,
    enters.shows⟩

end Turn

end Parley
