import TunnelFailover.Net.Address
/-!
This file defines the transponder, which owns the socket for the probes of one tunnel. A failed call
of the system leads to a new socket and one more attempt, unless the transponder was stopped.
-/

namespace TunnelFailover

/-- A call of the transponder can fail in these ways. -/
inductive TransponderFault where
  | bind (address : SocketAddress)
  | notConnected
  | shuttingDown
  | socket
deriving DecidableEq, Repr

/-- The message leaves out what the system says of the cause. -/
def TransponderFault.message : TransponderFault → String
  | bind address => s!"failed to bind probe socket to {address.text}"
  | notConnected => "transponder is not connected"
  | shuttingDown => "transponder is shutting down"
  | socket => "probe socket error"

/-- A transponder keeps its current socket by the number under which it was opened. -/
structure Transponder where
  address : SocketAddress
  socket : Option Nat
  opened : Nat
  goingDown : Bool
deriving DecidableEq, Repr

namespace Transponder

/-- A transponder starts without a socket. -/
def new (address : SocketAddress) : Transponder := ⟨address, none, 0, false⟩

/-- The socket in use. -/
def current (transponder : Transponder) : Except TransponderFault Nat :=
  match transponder.socket with
  | some socket => .ok socket
  | none => .error .notConnected

/-- A socket that the system has opened and bound takes its place. -/
def adopt (transponder : Transponder) : Transponder × Nat :=
  let socket := transponder.opened
  ({ transponder with socket := some socket, opened := socket + 1 }, socket)

/-- The first socket replaces whatever there was, if the system can bind it. -/
def connect (transponder : Transponder) (binds : Bool) :
    Transponder × Except TransponderFault Unit :=
  if binds then (transponder.adopt.1, .ok ()) else (transponder, .error (.bind transponder.address))

/-- A failed socket is given up before a new one is bound. A socket that another task has put in
its place stays and is used instead. -/
def reconnect (transponder : Transponder) (failed : Nat) (binds : Bool) :
    Transponder × Except TransponderFault Nat :=
  if transponder.goingDown then (transponder, .error .shuttingDown)
  else
    match transponder.socket with
    | some socket =>
      if socket ≠ failed then (transponder, .ok socket) else replace
    | none => replace
where
  replace : Transponder × Except TransponderFault Nat :=
    let vacant := { transponder with socket := none }
    if binds then
      let (renewed, socket) := vacant.adopt
      (renewed, .ok socket)
    else (vacant, .error (.bind transponder.address))

/-- The system answers the calls that one sending makes: the first attempt, the binding of a new
socket, and the second attempt. -/
structure Answers where
  first : Bool
  binds : Bool
  second : Bool
deriving DecidableEq, Repr

/-- A datagram is sent once more over a new socket if the first attempt fails. -/
def send (transponder : Transponder) (answers : Answers) :
    Transponder × Except TransponderFault Unit :=
  if transponder.goingDown then (transponder, .error .shuttingDown)
  else
    match transponder.current with
    | .error fault => (transponder, .error fault)
    | .ok socket =>
      if answers.first then (transponder, .ok ())
      else
        match transponder.reconnect socket answers.binds with
        | (renewed, .error fault) => (renewed, .error fault)
        | (renewed, .ok _) =>
          if answers.second then (renewed, .ok ()) else (renewed, .error .socket)

/-- The system answers a call that waits for a datagram with its bytes, or the call fails. Then the
system also answers the binding of a new socket. -/
inductive Arrival where
  | datagram (bytes : List UInt8)
  | failure (binds : Bool)
deriving DecidableEq, Repr

/-- A pass of the receive loop yields a datagram or a new socket, or it is the last one, because the
transponder was stopped or because of a fault. -/
inductive Pass where
  | received (bytes : List UInt8)
  | renewed
  | ended
  | failed (fault : TransponderFault)
deriving DecidableEq, Repr

/-- One pass of the receive loop. A missing socket is a fault unless the transponder was stopped. -/
def receive (transponder : Transponder) (arrival : Arrival) : Transponder × Pass :=
  match transponder.current, arrival with
  | .error fault, _ => (transponder, if transponder.goingDown then .ended else .failed fault)
  | .ok _, .datagram bytes => (transponder, .received bytes)
  | .ok socket, .failure binds =>
    if transponder.goingDown then (transponder, .ended)
    else
      match transponder.reconnect socket binds with
      | (renewed, .ok _) => (renewed, .renewed)
      | (renewed, .error fault) => (renewed, .failed fault)

/-- A stopped transponder has no socket and never gets one again. -/
def stop (transponder : Transponder) : Transponder :=
  { transponder with socket := none, goingDown := true }

end Transponder

end TunnelFailover
