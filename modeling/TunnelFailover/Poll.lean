import TunnelFailover.Endpoint
import TunnelFailover.Event
/-!
This file says where a bridge polls its partner, and what it makes of the answers.
-/

namespace TunnelFailover

/-- A response has a code, possibly the target of a redirection, and a body of bytes. -/
structure Response where
  code : Nat
  location : Option String
  body : ByteArray

/-- A poll fails because no response came, because of its code, or because of its body. -/
inductive PollFault where
  | transport
  | refused (code : Nat)
  | unreadable
deriving DecidableEq, Repr

/-- The text of a fault names its kind. -/
def PollFault.text : PollFault → String
  | transport => "transport"
  | refused code => s!"status {code}"
  | unreadable => "parse"

namespace Poll

/-- The status is a path below the address of the partner, whose slashes at the end do not count. -/
def url (partnerUrl : String) : String :=
  String.ofList (partnerUrl.toList.reverse.dropWhile (· = '/')).reverse ++ Endpoint.statusPath

/-- The codes of a redirection. -/
def isRedirection (code : Nat) : Bool := [301, 302, 303, 307, 308].contains code

/-- The number of redirections that are followed. -/
def redirections : Nat := 10

/-- A response with a code from 400 on is a refusal, and the body of any other one is a status. -/
def interpret (response : Response) : Except PollFault BridgeStatus :=
  if 400 ≤ response.code ∧ response.code < 600 then .error (.refused response.code)
  else
    match BridgeStatus.parseBytes? response.body with
    | some status => .ok status
    | none => .error .unreadable

/-- The responses to the requests of one poll come one after the other, as long as they redirect. A
poll without a final response fails. -/
def result (followed : Nat) : List Response → Except PollFault BridgeStatus
  | [] => .error .transport
  | response :: rest =>
    if isRedirection response.code ∧ response.location.isSome then
      if followed = redirections then .error .transport else result (followed + 1) rest
    else interpret response

/-- The occurrence that reports a poll. -/
def occurrence (sequence : UInt64) (responses : List Response) : Occurrence :=
  match result 0 responses with
  | .ok status => .partnerPolled sequence status
  | .error fault => .partnerPollFailed sequence fault.text

end Poll

/-- A poller knows where the status of the partner is and how many polls there have been. -/
structure Poller where
  url : String
  sequence : UInt64
deriving DecidableEq, Repr

namespace Poller

/-- The poller of a partner starts before the first poll. -/
def new (partnerUrl : String) : Poller := ⟨Poll.url partnerUrl, 0⟩

/-- Every poll has the next sequence number, the first one has one, and all of its outcomes are
reported. -/
def poll (poller : Poller) (responses : List Response) : Poller × Occurrence :=
  let sequence := poller.sequence + 1
  ({ poller with sequence }, Poll.occurrence sequence responses)

end Poller

end TunnelFailover
