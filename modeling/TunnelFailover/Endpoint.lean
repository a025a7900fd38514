import TunnelFailover.Status
/-!
This file defines the endpoint at which a bridge serves its status.
-/

namespace TunnelFailover

/-- A reply to a request over HTTP. -/
structure Reply where
  code : Nat
  contentType : Option String
  body : String
deriving DecidableEq, Repr

namespace Endpoint

/-- The path of the status. -/
def statusPath : String := "/status"

/-- The characters of the scheme of a target. -/
def isSchemeChar (char : Char) : Bool :=
  char.isAlphanum || char == '+' || char == '-' || char == '.'

/-- What follows the host of a target that names a scheme and a host. -/
def afterHost? (target : List Char) : Option (List Char) :=
  match target.dropWhile isSchemeChar with
  | ':' :: '/' :: '/' :: rest =>
    some (rest.dropWhile fun char => char != '/' && char != '?' && char != '#')
  | _ => none

/-- The path of a target without what follows a question mark or a hash. A target that names a host
as well has its path behind the host. -/
def pathOf (target : String) : String :=
  let chars := (afterHost? target.toList).getD target.toList
  String.ofList (chars.takeWhile fun char => char != '?' && char != '#')

/-- The status is served at its path for reading, to a HEAD request without the body. Any other
method is refused there, and any other path is unknown. -/
def reply (status : BridgeStatus) (method target : String) : Reply :=
  if pathOf target ≠ statusPath then ⟨404, none, ""⟩
  else if method = "GET" then ⟨200, some "application/json", status.toJson.render⟩
  else if method = "HEAD" then ⟨200, some "application/json", ""⟩
  else ⟨400, some "text/plain; charset=utf-8", "only GET is supported\n"⟩

end Endpoint

end TunnelFailover
