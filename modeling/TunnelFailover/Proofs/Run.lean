import TunnelFailover.Proofs.Cascade
import TunnelFailover.Proofs.Changes
/-!
This file says which occurrences the tasks of a bridge report, how a machine starts, and how a law
of single events becomes a law of runs.
-/

namespace TunnelFailover

namespace Occurrence

/-- The tasks of a bridge report what became of probes and polls, and which activations are due. All
other occurrences are derived by the machine. -/
def isReported : Occurrence → Bool
  | probeLost .. | probeReturned .. | probeUnsent .. | probeSent .. => true
  | partnerPollFailed .. | partnerPolled .. => true
  | bridgeReactivated .. | interfaceReactivated .. => true
  | _ => false

/-- The number of a poll and what came back, if the occurrence is the result of a poll. -/
def poll? : Occurrence → Option (UInt64 × Option BridgeStatus)
  | partnerPolled sequence report => some (sequence, some report)
  | partnerPollFailed sequence _ => some (sequence, none)
  | _ => none

end Occurrence

namespace Machine

/-- The run goes from machine to machine. -/
theorem run_machine (machine : Machine) (events : List Event) :
    (machine.run events).machine =
      events.foldl (fun machine event => (machine.process event).machine) machine := by
  have each (run : Run) : (events.foldl Run.step run).machine =
      events.foldl (fun machine event => (machine.process event).machine) run.machine := by
    induction events generalizing run with
    | nil => rfl
    | cons event rest inductionHypothesis => exact inductionHypothesis (run.step event)
  exact each (.start machine)

/-- The last event of a run is one more step. -/
theorem run_concat (machine : Machine) (events : List Event) (event : Event) :
    machine.run (events ++ [event]) = (machine.run events).step event := by
  simp [run]

/-- The occurrences that are derived in a run, in their order. -/
def journal (machine : Machine) : List Event → List Occurrence
  | [] => []
  | event :: rest =>
    let outcome := machine.process event
    outcome.derived ++ outcome.machine.journal rest

/-- A law of the machine and of what has been derived is a law of runs if every event keeps it. -/
theorem run_keeps_journal (machine : Machine) (events : List Event)
    (law : Machine → List Occurrence → Prop) (holds : law machine [])
    (kept : ∀ machine earlier, ∀ event ∈ events, law machine earlier →
      law (machine.process event).machine (earlier ++ (machine.process event).derived)) :
    law (machine.run events).machine (machine.journal events) := by
  suffices after : ∀ earlier, law machine earlier →
      law (machine.run events).machine (earlier ++ machine.journal events) from after [] holds
  rw [run_machine]
  clear holds
  induction events generalizing machine with
  | nil =>
    intro earlier holds
    rw [journal, List.append_nil]
    exact holds
  | cons event rest inductionHypothesis =>
    intro earlier holds
    rw [journal, ← List.append_assoc]
    refine inductionHypothesis _ ?_ _ (kept machine earlier event List.mem_cons_self holds)
    exact fun machine earlier event member =>
      kept machine earlier event (List.mem_cons_of_mem _ member)

/-- A law of the machine is a law of runs if every event keeps it. -/
theorem run_keeps (machine : Machine) (events : List Event) (law : Machine → Prop)
    (holds : law machine)
    (kept : ∀ machine, ∀ event ∈ events, law machine → law (machine.process event).machine) :
    law (machine.run events).machine :=
  machine.run_keeps_journal events (fun machine _ => law machine) holds
    fun machine _ event member => kept machine event member

/-- A part of the machine that no handled occurrence changes stays as it is. -/
theorem process_fixes {α : Type} (machine : Machine) (event : Event) (part : Machine → α)
    (fixed : ∀ {before : Machine} {now : Instant} {occurrence : Occurrence} {turn : Turn},
      (Turn.start before).handle now occurrence = .ok turn → part turn.machine = part before) :
    part (machine.process event).machine = part machine := by
  obtain ⟨waiting, kept, -⟩ := machine.process_keeps event
    (fun cascade => part cascade.machine = part machine)
    (fun before after _ same step => by
      cases step with
      | handle handled => exact (fixed handled).trans same)
    rfl
  exact kept

/-- A part of the machine that no handled occurrence changes stays as it is in every run. -/
theorem run_fixes {α : Type} (machine : Machine) (events : List Event) (part : Machine → α)
    (fixed : ∀ {before : Machine} {now : Instant} {occurrence : Occurrence} {turn : Turn},
      (Turn.start before).handle now occurrence = .ok turn → part turn.machine = part before) :
    part (machine.run events).machine = part machine :=
  machine.run_keeps events (fun other => part other = part machine) rfl
    fun other event _ same => (other.process_fixes event part fixed).trans same

/-- No run changes the name or the role of a bridge. -/
theorem run_identity (machine : Machine) (events : List Event) :
    (machine.run events).machine.identity = machine.identity :=
  machine.run_fixes events (·.identity) Turn.handle_identity

theorem run_role (machine : Machine) (events : List Event) :
    (machine.run events).machine.role = machine.role :=
  congrArg (·.2.1) (machine.run_identity events)

/-- A new machine has what its settings say, and the rest is as nothing had happened. -/
theorem new_eq_mk {name : String} {settings : BridgeSettings} {status : BridgeStatus}
    {machine : Machine} (built : new name settings status = .ok machine) :
    ∃ links partnerMonitor location, settings.tunnels.traverse link = .ok links ∧
      partnerMonitorOf settings = .ok partnerMonitor ∧
      machine =
        { name
          role := settings.role
          bridgeInterface := settings.bridgeInterface
          peerCidrs := settings.peerCidrs
          location
          links
          partnerMonitor
          partnerConfirmed := false
          status
          partner := none
          bridgeTimer := ReapplyTimer.ofPolicy settings.reconcile.bridgeActivate.reapply.policy
          interfaceTimer :=
            ReapplyTimer.ofPolicy settings.reconcile.interfaceActivate.reapply.policy } := by
  unfold new at built
  cases linked : settings.tunnels.traverse link with
  | error fault => simp [linked, bind, Except.bind] at built
  | ok links =>
    cases monitored : partnerMonitorOf settings with
    | error fault => simp [linked, monitored, bind, Except.bind] at built
    | ok monitor =>
      cases located : (settings.location name).mapError fun fault =>
          BridgeFault.invalidSettings fault.message with
      | error fault => simp [linked, monitored, located, bind, Except.bind] at built
      | ok location =>
        simp only [linked, monitored, located, bind, Except.bind, pure, Except.pure,
          Except.ok.injEq] at built
        exact ⟨links, monitor, location, rfl, rfl, built.symm⟩

/-- A new machine has a link for every tunnel and knows nothing of its partner. -/
theorem new_eq_ok {name : String} {settings : BridgeSettings} {status : BridgeStatus}
    {machine : Machine} (built : new name settings status = .ok machine) :
    settings.tunnels.traverse link = .ok machine.links ∧
      partnerMonitorOf settings = .ok machine.partnerMonitor ∧
      machine.name = name ∧ machine.role = settings.role ∧ machine.status = status ∧
      machine.partner = none ∧ machine.partnerConfirmed = false := by
  obtain ⟨links, partnerMonitor, location, linked, monitored, rfl⟩ := new_eq_mk built
  exact ⟨linked, monitored, rfl, rfl, rfl, rfl, rfl⟩

end Machine

/-- The settings of a bridge with two tunnels and the lowest thresholds. -/
def BridgeSettings.plain (role : Role) : BridgeSettings where
  role
  bridgeInterface := "br0"
  peerCidrs := []
  statusAddress := MetricsSettings.defaultAddress
  partnerUrl := "http://localhost"
  partnerPollingInterface := none
  partnerTimeout := .ofSeconds 1
  partnerThresholdDown := 2
  partnerThresholdUp := 2
  probeInterval := .ofSeconds 1
  probeLocation := some .empty
  tunnels :=
    let tunnel (role : Role) : TunnelSettings :=
      ⟨role, MetricsSettings.defaultAddress, MetricsSettings.defaultAddress, 2, 2⟩
    ⟨[("wg0", tunnel .active), ("wg1", tunnel .standby)], by decide⟩
  reconcile := .unset

end TunnelFailover
