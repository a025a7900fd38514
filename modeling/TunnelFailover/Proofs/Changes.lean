import TunnelFailover.Proofs.Turn
/-!
This file says which part of the machine an occurrence can change. Every other part is the same
before and after it.
-/

namespace TunnelFailover

/-- The name and the role of a bridge, and those that its status shows. -/
def Machine.identity (machine : Machine) : String × Role × String × Role :=
  (machine.name, machine.role, machine.status.name, machine.status.role)

/-- The part of a machine that an occurrence can change: a probe changes the links and the flags of
interfaces, a change of an interface the flags and the liveness of the bridge, a change of the bridge
or the partner its activity, a poll what is known of the partner, and the rest only the timers. -/
def Occurrence.Changes (before after : Machine) : Occurrence → Prop
  | probeLost .. | probeReturned .. | probeUnsent .. | probeSent .. =>
    after =
      { before with
        links := after.links
        status := { before.status with interfaces := after.status.interfaces } }
  | interfaceWentDown .. | interfaceWentUp .. =>
    after =
      { before with
        status :=
          { before.status with
            up := after.status.up
            upSince := after.status.upSince
            interfaces := after.status.interfaces } }
  | bridgeWentDown | bridgeWentUp =>
    after =
      { before with
        status :=
          { before.status with
            active := after.status.active
            activeSince := after.status.activeSince } }
  | partnerWentDown | partnerWentUp =>
    after =
      { before with
        status :=
          { before.status with
            active := after.status.active
            activeSince := after.status.activeSince }
        partner := after.partner }
  | partnerPollFailed .. | partnerPolled .. =>
    after =
      { before with
        partnerMonitor := after.partnerMonitor
        partnerConfirmed := after.partnerConfirmed
        partner := after.partner }
  | _ =>
    after =
      { before with
        bridgeTimer := after.bridgeTimer
        interfaceTimer := after.interfaceTimer }

namespace Turn

theorem observe_changes (turn : Turn) (now : Instant) (interface : String)
    (change : Monitor → Monitor) :
    let after := (turn.observe now interface change).machine
    after =
      { turn.machine with
        links := after.links
        status := { turn.machine.status with interfaces := after.status.interfaces } } := by
  unfold observe followVerdict
  split
  · rfl
  · dsimp only
    split
    · split <;> rfl
    · rfl

/-- The turn changes at most the flags of interfaces and the liveness of the bridge. -/
def ChangesFlags (before after : Turn) : Prop :=
  after.machine =
    { before.machine with
      status :=
        { before.machine.status with
          up := after.machine.status.up
          upSince := after.machine.status.upSince
          interfaces := after.machine.status.interfaces } }

theorem ChangesFlags.trans {first second third : Turn} (earlier : ChangesFlags first second)
    (later : ChangesFlags second third) : ChangesFlags first third := by
  unfold ChangesFlags at *
  rw [later, earlier]

theorem changesFlags_deriveBridge (turn : Turn) (now : Instant) :
    ChangesFlags turn (turn.deriveBridge now) := by
  unfold deriveBridge ChangesFlags
  dsimp only
  split <;> rfl

theorem changesFlags_supersede (turn : Turn) (now : Instant) (interface : String) :
    ChangesFlags turn (turn.supersede now interface) := by
  unfold supersede
  generalize List.filter _ _ = others
  dsimp only
  induction others generalizing turn with
  | nil => rfl
  | cons other rest inductionHypothesis =>
    have first : ChangesFlags turn (turn.deactivateInterface now other.1) := rfl
    exact first.trans (inductionHypothesis _)

theorem changesFlags_interfaceWentDown (turn : Turn) (now : Instant) (interface : String) :
    ChangesFlags turn (turn.interfaceWentDown now interface) := by
  refine (changesFlags_deriveBridge turn now).trans ?_
  unfold interfaceWentDown
  dsimp only
  split
  · split <;> rfl
  · rfl

theorem changesFlags_interfaceWentUp (turn : Turn) (now : Instant) (interface : String) :
    ChangesFlags turn (turn.interfaceWentUp now interface) := by
  refine (changesFlags_deriveBridge turn now).trans ?_
  unfold interfaceWentUp
  dsimp only
  split
  · split
    · rfl
    · split
      · exact (changesFlags_supersede _ now interface).trans rfl
      · split <;> rfl
  · rfl

/-- The turn changes at most what is known of the partner. -/
def ChangesPartner (before after : Turn) : Prop :=
  after.machine =
    { before.machine with
      partnerMonitor := after.machine.partnerMonitor
      partnerConfirmed := after.machine.partnerConfirmed
      partner := after.machine.partner }

theorem ChangesPartner.trans {first second third : Turn} (earlier : ChangesPartner first second)
    (later : ChangesPartner second third) : ChangesPartner first third := by
  unfold ChangesPartner at *
  rw [later, earlier]

theorem changesPartner_judgePartner (turn : Turn) (now : Instant) (sequence : UInt64)
    (result : Liveness) : ChangesPartner turn (turn.judgePartner now sequence result) := by
  unfold judgePartner
  dsimp only
  split
  · split <;> rfl
  · split <;> rfl
  · rfl

theorem changesPartner_followReport (turn : Turn) (report : BridgeStatus) :
    ChangesPartner turn (turn.followReport report) := by
  unfold followReport
  dsimp only
  split
  · split <;> split <;> rfl
  · split <;> rfl

/-- A handled occurrence changes no other part of the machine. -/
theorem handle_changes {machine : Machine} {now : Instant} {occurrence : Occurrence}
    {turn : Turn} (handled : (start machine).handle now occurrence = .ok turn) :
    occurrence.Changes machine turn.machine := by
  cases occurrence with
  | probeLost | probeReturned | probeUnsent | probeSent =>
    cases handled
    exact observe_changes ..
  | interfaceWentDown interface =>
    cases handled
    exact changesFlags_interfaceWentDown (start machine) now interface
  | interfaceWentUp interface =>
    cases handled
    exact changesFlags_interfaceWentUp (start machine) now interface
  | bridgeWentDown =>
    cases handled
    unfold bridgeWentDown
    dsimp only
    split <;> split <;> rfl
  | bridgeWentUp =>
    cases handled
    unfold bridgeWentUp
    dsimp only
    split <;> split <;> rfl
  | partnerWentDown =>
    cases handled
    unfold partnerWentDown
    dsimp only
    split <;> split <;> rfl
  | partnerWentUp =>
    cases handled
    unfold partnerWentUp
    split <;> rfl
  | partnerPollFailed sequence cause =>
    cases handled
    unfold partnerPollFailed
    dsimp only
    split
    · rfl
    · exact changesPartner_judgePartner ((start machine).countError Scope.partnerPolling) ..
  | partnerPolled sequence report =>
    have adopted : ChangesPartner (start machine) ((start machine).adoptPartner report) := rfl
    rw [handle_polled handled]
    exact (adopted.trans (changesPartner_judgePartner ..)).trans (changesPartner_followReport ..)
  | bridgeActivated | bridgeDeactivated | connectivityLost | connectivityRestored
  | partnerActivated | partnerDeactivated | interfaceActivated | interfaceDeactivated =>
    cases handled
    rfl
  | bridgeReactivated =>
    cases handled
    unfold bridgeReactivated
    split <;> rfl
  | interfaceReactivated =>
    cases handled
    unfold interfaceReactivated
    split <;> rfl
  | partnerChangedName => cases handled

/-- No occurrence changes the name or the role of a bridge, nor those of its status. -/
theorem handle_identity {machine : Machine} {now : Instant} {occurrence : Occurrence} {turn : Turn}
    (handled : (start machine).handle now occurrence = .ok turn) :
    turn.machine.identity = machine.identity := by
  have changes := handle_changes handled
  cases occurrence <;> exact congrArg (·.identity) changes

end Turn

end TunnelFailover
