import TunnelFailover.Machine.Cascade
/-!
This file lets the machine process one event after the other.
-/

namespace TunnelFailover

/-- A run has the machine at its end, what left the machine, and the faults on the way. -/
structure Run where
  machine : Machine
  effects : List Effect
  faults : List BridgeFault

namespace Run

/-- Nothing has been processed yet. -/
def start (machine : Machine) : Run := ⟨machine, [], []⟩

/-- The run after one more event. -/
def step (run : Run) (event : Event) : Run :=
  let outcome := run.machine.process event
  ⟨outcome.machine, run.effects ++ outcome.effects, run.faults ++ outcome.fault.toList⟩

end Run

/-- A machine whose faults are received processes every event. -/
def Machine.run (machine : Machine) (events : List Event) : Run :=
  events.foldl Run.step (.start machine)

/-- A machine whose faults nobody receives stops at the first one, which is not reported. -/
def Machine.runUnheard (machine : Machine) : List Event → Run
  | [] => .start machine
  | event :: rest =>
    let outcome := machine.process event
    if outcome.fault.isSome then ⟨outcome.machine, outcome.effects, []⟩
    else
      let later := outcome.machine.runUnheard rest
      { later with effects := outcome.effects ++ later.effects }

end TunnelFailover
