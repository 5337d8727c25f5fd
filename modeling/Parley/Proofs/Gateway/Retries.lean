import Parley.Gateway.Messenger
import Parley.Proofs.Gateway.Errands

/-!
How often a message is posted to Messenger, and what its last response means for the sender and for the
breaker of its bot.
-/

namespace Parley

namespace Messenger

/-- The response to a request that comes after some others. -/
def responseAt (responses : List Response) (place : Nat) : Response :=
  responses[place]?.getD (responses.getLast?.getD (.status 200))

/-- The first response that settles what comes of a message. -/
def SettledAt (responses : List Response) (place : Nat) : Prop :=
  (responseAt responses place).isRetryable = false ∧
    ∀ earlier < place, (responseAt responses earlier).isRetryable = true

theorem nextResponse_first (responses : List Response) :
    (nextResponse responses).1 = responseAt responses 0 := by
  rcases responses with _ | ⟨first, _ | ⟨second, rest⟩⟩ <;> rfl

theorem nextResponse_later (responses : List Response) (place : Nat) :
    responseAt (nextResponse responses).2 place = responseAt responses (place + 1) := by
  rcases responses with _ | ⟨first, _ | ⟨second, rest⟩⟩
  · rfl
  · cases place <;> simp [nextResponse, responseAt]
  · simp [nextResponse, responseAt]

/-- A message is posted until a response settles it or the attempts are used up. -/
structure Posts (request : PostRequest) (retries : Nat) (before after : Messenger)
    (answer : Response) (last : Nat) : Prop where
  requests : after.requests = before.requests ++ List.replicate (last + 1) request
  answer : answer = responseAt before.responses last
  again : ∀ earlier < last, (responseAt before.responses earlier).isRetryable = true
  within : last ≤ retries
  enough : last = retries ∨ (responseAt before.responses last).isRetryable = false

section

variable {url token : String} {body : Json} {retries last : Nat} {messenger : Messenger}

/-- The request of a message, which is the same at each attempt. -/
def requestOf (url token : String) (body : Json) (messenger : Messenger) : PostRequest :=
  { url, token, body, timeout := messenger.options.timeoutSeconds }

theorem Posts.again_first {after : Messenger} {answer : Response} (waits : List Nat)
    (retryable : (responseAt messenger.responses 0).isRetryable = true)
    (posts : Posts (messenger.requestOf url token body) retries
      { (messenger.post url token body).2 with waits } after answer last) :
    Posts (messenger.requestOf url token body) (retries + 1) messenger after answer (last + 1) where
  requests := by
    rw [posts.requests, List.replicate_succ (n := last + 1)]
    exact (List.append_cons ..).symm
  answer := by
    rw [← nextResponse_later]
    exact posts.answer
  again
    | 0, _ => retryable
    | earlier + 1, before => by
      rw [← nextResponse_later]
      exact posts.again earlier (Nat.lt_of_succ_lt_succ before)
  within := Nat.succ_le_succ posts.within
  enough := by
    rw [← nextResponse_later, Nat.add_right_cancel_iff]
    exact posts.enough

theorem postAll_posts (url token : String) (body : Json) (retries attempt : Nat)
    (messenger : Messenger) :
    let done := postAll url token body retries attempt messenger
    ∃ last, Posts (messenger.requestOf url token body) retries messenger done.2 done.1 last := by
  have first := nextResponse_first messenger.responses
  induction retries generalizing attempt messenger with
  | zero =>
    refine ⟨0, ?_⟩
    unfold postAll post
    dsimp only
    split <;>
      exact ⟨rfl, first, fun _ early => absurd early (Nat.not_lt_zero _), Nat.le_refl _, .inl rfl⟩
  | succ retries ih =>
    unfold postAll
    dsimp only
    split
    · rename_i retryable
      obtain ⟨last, posts⟩ := ih (attempt + 1)
        { (messenger.post url token body).2 with
          waits := (messenger.post url token body).2.waits ++ [pauseAfter attempt] }
        (nextResponse_first _)
      exact ⟨last + 1, posts.again_first _ (first ▸ retryable)⟩
    · rename_i settled
      refine ⟨0, rfl, first, fun _ early => absurd early (Nat.not_lt_zero _), Nat.zero_le _, .inr ?_⟩
      rw [← first]
      exact Bool.eq_false_iff.mpr settled

theorem Posts.count {request : PostRequest} {after : Messenger} {answer : Response}
    (posts : Posts request (maxAttempts messenger.options - 1) messenger after answer last) :
    let attempts := max messenger.options.maxRetries 1
    (∀ place, SettledAt messenger.responses place →
        ((last + 1 : Nat) : Int) = min attempts (place + 1)) ∧
      ((∀ place, (responseAt messenger.responses place).isRetryable = true) →
        ((last + 1 : Nat) : Int) = attempts) := by
  intro attempts
  have limit : ((maxAttempts messenger.options : Nat) : Int) = attempts := by
    unfold maxAttempts
    omega
  have within := posts.within
  constructor
  · rintro place ⟨settled, before⟩
    rcases Nat.lt_trichotomy last place with early | same | late
    · have retryable := before last early
      rcases posts.enough with full | ended
      · omega
      · simp [ended] at retryable
    · omega
    · have retryable := posts.again place late
      simp [settled] at retryable
  · intro never
    rcases posts.enough with full | ended
    · omega
    · simp [never last] at ended

end

/-! ### What the carrier makes of a message -/

section

variable {url token : String} {messenger : Messenger} {bot : Bot} (recipientId : String)
  (outbound : Outbound)

theorem carry_of_tokenless (absent : nonEmpty bot.pageAccessToken = none) (messenger : Messenger) :
    carry bot recipientId outbound messenger = { medium := messenger } := by
  unfold carry
  rw [absent]

theorem carry_of_aimless {cause : String} (present : nonEmpty bot.pageAccessToken = some token)
    (target : messenger.target = .error cause) :
    carry bot recipientId outbound messenger =
      { refusal := some (.broke cause), medium := messenger } := by
  unfold carry
  rw [present, target]

theorem carry_posts (present : nonEmpty bot.pageAccessToken = some token)
    (target : messenger.target = .ok url) :
    ∃ last, (carry bot recipientId outbound messenger).refusal =
        (responseAt messenger.responses last).refusal? bot.id ∧
      Posts (messenger.requestOf url token (body recipientId outbound))
        (maxAttempts messenger.options - 1) messenger (carry bot recipientId outbound messenger).medium
        (responseAt messenger.responses last) last := by
  obtain ⟨last, posts⟩ := postAll_posts url token (body recipientId outbound)
    (maxAttempts messenger.options - 1) 0 messenger
  unfold carry
  rw [present, target]
  exact ⟨last, congrArg (Response.refusal? bot.id) posts.answer, posts.answer ▸ posts⟩

end

end Messenger

/-! ### What the last response means -/

namespace Response

theorem refusal?_eq_none_iff (botId : String) (response : Response) :
    response.refusal? botId = none ↔ response.isSuccess = true := by
  cases response with
  | status code => cases success : (status code).isSuccess <;> simp [refusal?, success]
  | unreachable cause => simp [refusal?, isSuccess]
  | broke cause => simp [refusal?, isSuccess]

theorem isRetryable_of_refusal? {botId : String} {response : Response} {refusal : Refusal}
    (refused : response.refusal? botId = some refusal) :
    refusal.isRetryable = false ↔ ∃ code, response = .status code ∧ code < 500 ∧ code ≠ 429 := by
  cases response with
  | status code =>
    unfold refusal? at refused
    dsimp only at refused
    split at refused
    · cases refused
    · cases refused
      simp only [Refusal.isRetryable, isRetryable, Bool.or_eq_false_iff, decide_eq_false_iff_not,
        Response.status.injEq, exists_eq_left']
      omega
  | unreachable cause =>
    cases refused
    simp [Refusal.isRetryable]
  | broke cause =>
    cases refused
    simp [Refusal.isRetryable]

end Response

namespace Gateway

/-- The breaker of a bot after a message of which its sender was told this. -/
def noted (breaker : Breaker) (now : Rat) : Option DeliveryFailure → Breaker
  | none => breaker.succeed now
  | some failure => if failure.retryable then breaker.fail now else breaker

theorem send_noted {σ : Type} {gateway : Gateway σ} (carry : Carrier σ) {bot : Bot}
    (recipientId : String) (outbound : Outbound)
    (admitted : (gateway.breakerOf bot.id).isOpen gateway.clock = false) :
    let sent := gateway.send carry bot recipientId outbound
    sent.2.breakerOf bot.id = noted (gateway.breakerOf bot.id) sent.2.clock sent.1 := by
  rw [send_of_admitted carry bot recipientId outbound admitted]
  dsimp only
  conv => lhs; rw [breakerOf]
  rw [findBreaker_putBreaker_same, Option.getD_some]
  cases (carry bot recipientId outbound gateway.medium).refusal with
  | none => rfl
  | some refusal => rw [judge_refusal, Option.map_some, noted, failureOf_retryable]

open Messenger in
/-- A message is posted until a response settles it or the attempts are used up; its sender learns what
the last response means, and the breaker of its bot notes one success, one failure or nothing. Without a
token, or a place to post to, nothing is posted. -/
theorem messages_are_retried (gateway : Gateway Messenger) (bot : Bot) (recipientId : String)
    (outbound : Outbound)
    (admitted : (gateway.breakerOf bot.id).isOpen gateway.clock = false) :
    let messenger := gateway.medium
    let sent := gateway.send carry bot recipientId outbound
    sent.2.breakerOf bot.id = noted (gateway.breakerOf bot.id) sent.2.clock sent.1 ∧
      (nonEmpty bot.pageAccessToken = none → sent.1 = none ∧ sent.2.medium = messenger) ∧
      ∀ token, nonEmpty bot.pageAccessToken = some token →
        match messenger.target with
        | .error _ => sent.2.medium = messenger ∧ ∃ failure, sent.1 = some failure ∧
            failure.retryable = true
        | .ok url => ∃ before : Nat,
            let count := before + 1
            let attempts := max messenger.options.maxRetries 1
            let last := responseAt messenger.responses before
            sent.2.medium.requests = messenger.requests ++ List.replicate count
                { url, token
                  body := body recipientId outbound
                  timeout := messenger.options.timeoutSeconds } ∧
              (∀ place, SettledAt messenger.responses place →
                (count : Int) = min attempts (place + 1)) ∧
              ((∀ place, (responseAt messenger.responses place).isRetryable = true) →
                (count : Int) = attempts) ∧
              (sent.1 = none ↔ last.isSuccess = true) ∧
              ∀ failure, sent.1 = some failure →
                (failure.retryable = false ↔
                  ∃ code, last = .status code ∧ code < 500 ∧ code ≠ 429) := by
  intro messenger sent
  have told : sent.1 = (carry bot recipientId outbound messenger).refusal.map
      (gateway.failureOf bot recipientId outbound) :=
    congrArg Prod.fst (send_of_admitted carry bot recipientId outbound admitted)
  have medium : sent.2.medium = (carry bot recipientId outbound messenger).medium :=
    congrArg (·.2.medium) (send_of_admitted carry bot recipientId outbound admitted)
  refine ⟨send_noted carry recipientId outbound admitted, ?_, ?_⟩
  · intro absent
    rw [told, medium, carry_of_tokenless recipientId outbound absent]
    exact ⟨rfl, rfl⟩
  · intro token present
    cases target : messenger.target with
    | error cause =>
      rw [told, medium, carry_of_aimless recipientId outbound present target]
      exact ⟨rfl, _, rfl, rfl⟩
    | ok url =>
      obtain ⟨before, refuses, posts⟩ := carry_posts recipientId outbound present target
      rw [refuses] at told
      have counts := posts.count
      refine ⟨before, ?_, counts.1, counts.2, ?_, ?_⟩
      · rw [medium]
        exact posts.requests
      · rw [told, Option.map_eq_none_iff, Response.refusal?_eq_none_iff]
      · intro failure failed
        rw [told] at failed
        obtain ⟨refusal, refused, rfl⟩ := Option.map_eq_some_iff.mp failed
        rw [failureOf_retryable]
        exact Response.isRetryable_of_refusal? refused

def overloaded : Gateway Messenger where
  name := "messenger"
  medium :=
    { options := { maxRetries := 5 }
      responses := [.status 503, .unreachable "reset", .status 200] }

theorem third_attempt_arrives :
    let bot : Bot := { id := "shop", pageAccessToken := some "key" }
    let sent := overloaded.send Messenger.carry bot "ada" (.typing true)
    (overloaded.breakerOf "shop").isOpen overloaded.clock = false ∧
      sent.1 = none ∧ sent.2.medium.requests.length = 3 := by
  intro bot sent
  have admitted : (overloaded.breakerOf "shop").isOpen overloaded.clock = false := by
    decide +kernel
  have reached : overloaded.medium.target.isOk = true := by decide +kernel
  have settled : Messenger.SettledAt overloaded.medium.responses 2 := by
    refine ⟨rfl, fun earlier before => ?_⟩
    rcases (by omega : earlier = 0 ∨ earlier = 1) with rfl | rfl <;> rfl
  have law := (messages_are_retried overloaded bot "ada" (.typing true) admitted).2.2 "key" rfl
  cases target : overloaded.medium.target with
  | error cause => cases (congrArg Except.isOk target).symm.trans reached
  | ok url =>
    rw [target] at law
    obtain ⟨before, requests, count, -, arrives, -⟩ := law
    have two : before = 2 := by
      have three : ((before + 1 : Nat) : Int) = min 5 3 := count 2 settled
      omega
    subst two
    exact ⟨admitted, arrives.mpr rfl, congrArg List.length requests⟩

end Gateway

end Parley
