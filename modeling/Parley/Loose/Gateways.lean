import Parley.Gateway.Messenger
import Parley.Gateway.Recording
import Parley.Loose.Counters

/-!
Gateways set up and driven with loose arguments.
-/

namespace Parley.Loose

/-! ### Recording -/

def recordingGateway (limits : Limits) (clock : Rat) : Gateway Recording :=
  let breaker := limits.breaker
  { name := "recording", threshold := breaker.threshold, recovery := breaker.recovery
    precision := breaker.precision, clock, medium := {} }

/-- What a gateway reports; an opened breaker is looked at for that. -/
def report (limits : Limits) (gateway : Gateway Recording) : Answer Json := do
  gateway.breakers.forM fun (_, breaker) => checkRecovery limits breaker
  return gateway.report

/-! ### Messenger -/

def attempts (given : Json) : Except String Int :=
  match asNumber given with
  | .ok count => .ok (if count ≤ 1 then 1 else count.ceil)
  | .error _ => .error (incomparable ">" "int" (kindName given))

/-- A gateway to Messenger, and the time that its requests may take as it was given. Options that
cannot be used are noticed when something is posted, the address before the others. -/
def messenger (given : Json) (clock : Rat) (responses : List Response) :
    Answer (Gateway Messenger × Json) := do
  only ["graph_api_url", "timeout_seconds", "max_retries"] given
  let fresh : MessengerOptions := {}
  let url := given.fieldOr "graph_api_url" (.str fresh.graphApiUrl)
  let timeout := given.fieldOr "timeout_seconds" (.float fresh.timeoutSeconds)
  let retries := attempts (given.fieldOr "max_retries" (.int fresh.maxRetries))
  let options : MessengerOptions :=
    { graphApiUrl := url.text
      timeoutSeconds := timeout.real
      maxRetries := retries.toOption.getD fresh.maxRetries }
  let obstacle : Option String :=
    match url, Messenger.endpoint options, retries with
    | .str _, .ok _, .error cause => some cause
    | .str _, _, _ => none
    | url, _, _ => some (inability url "rstrip")
  return ({ name := "messenger", clock, precision := .binary, medium := { options, responses, obstacle } },
    timeout)

def requestJson (timeout : Json) (request : PostRequest) : Json :=
  match request.toJson with
  | .obj fields => .obj (Json.put "timeout" timeout fields)
  | shown => shown

end Parley.Loose
