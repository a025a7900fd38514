import TunnelFailover.Machine.Bridges
import TunnelFailover.Machine.Tunnels
import TunnelFailover.Machine.Upkeep
/-!
This file lets the machine process an event and everything that is derived from it, in the order in
which it is derived.
-/

namespace TunnelFailover

namespace Turn

/-- Every occurrence is handled by its own rule. -/
def handle (turn : Turn) (now : Instant) : Occurrence → Except BridgeFault Turn
  | .bridgeActivated => .ok (turn.bridgeActivated now)
  | .bridgeDeactivated => .ok turn.bridgeDeactivated
  | .bridgeReactivated iteration => .ok (turn.bridgeReactivated now iteration)
  | .bridgeWentDown => .ok (turn.bridgeWentDown now)
  | .bridgeWentUp => .ok (turn.bridgeWentUp now)
  | .connectivityLost | .connectivityRestored | .partnerActivated | .partnerDeactivated => .ok turn
  | .partnerChangedName former latter => .error (.partnerChangedName former latter)
  | .partnerPollFailed sequence _ => .ok (turn.partnerPollFailed now sequence)
  | .partnerPolled sequence report => turn.partnerPolled now sequence report
  | .partnerWentDown => .ok (turn.partnerWentDown now)
  | .partnerWentUp => .ok (turn.partnerWentUp now)
  | .interfaceActivated interface => .ok (turn.interfaceActivated now interface)
  | .interfaceDeactivated interface => .ok (turn.interfaceDeactivated interface)
  | .interfaceReactivated interface iteration =>
    .ok (turn.interfaceReactivated now interface iteration)
  | .interfaceWentDown interface => .ok (turn.interfaceWentDown now interface)
  | .interfaceWentUp interface => .ok (turn.interfaceWentUp now interface)
  | .probeLost interface sequence => .ok (turn.probeLost now interface sequence)
  | .probeReturned interface sequence forward backward location =>
    .ok (turn.probeReturned now interface sequence forward backward location)
  | .probeUnsent interface sequence _ => .ok (turn.probeUnsent now interface sequence)
  | .probeSent interface sequence => .ok (turn.probeSent now interface sequence)

end Turn

/-- The outcome of an event: the machine afterwards, the occurrences derived from the event in
order, what left the machine, and the fault that stopped the cascade, if there was one. -/
structure Outcome where
  machine : Machine
  derived : List Occurrence
  effects : List Effect
  fault : Option BridgeFault

namespace Outcome

/-- Nothing has happened yet. -/
def start (machine : Machine) : Outcome := ⟨machine, [], [], none⟩

/-- One more occurrence is handled. A fault stops everything after it and leaves what was done
before. -/
def step (now : Instant) (outcome : Outcome) (occurrence : Occurrence) : Outcome :=
  match outcome.fault with
  | some _ => outcome
  | none =>
    match (Turn.start outcome.machine).handle now occurrence with
    | .error fault => { outcome with fault := some fault }
    | .ok turn =>
      { outcome with
        machine := turn.machine
        derived := outcome.derived ++ turn.derived
        effects := outcome.effects ++ turn.effects }

/-- The occurrences of one generation are handled in order. They give the next generation. -/
def settle (now : Instant) : (depth : Nat) → List Occurrence → Outcome → Outcome
  | 0, _, outcome => outcome
  | depth + 1, generation, outcome =>
    let next := generation.foldl (step now) { outcome with derived := [] }
    let rest := settle now depth next.derived { next with derived := [] }
    { rest with derived := next.derived ++ rest.derived }

end Outcome

/-- The machine processes an event and what is derived from it. Everything derived has a lower rank,
so that as many generations as the rank says are enough. -/
def Machine.process (machine : Machine) (event : Event) : Outcome :=
  Outcome.settle event.time (event.occurrence.rank + 1) [event.occurrence] (.start machine)

end TunnelFailover
