import TunnelFailover.Machine.State
/-!
This file says how a bridge and its partner agree on which of them is active, and what the bridge
keeps of the reports of its partner.
-/

namespace TunnelFailover.Turn

/-- The bridge becomes active. -/
def activateBridge (turn : Turn) (now : Instant) : Turn :=
  (turn.updateStatus (·.setActive true now)).derive .bridgeActivated

/-- The bridge becomes inactive. -/
def deactivateBridge (turn : Turn) (now : Instant) : Turn :=
  (turn.updateStatus (·.setActive false now)).derive .bridgeDeactivated

/-- A bridge that goes down becomes inactive. Without a partner there is no connectivity left. -/
def bridgeWentDown (turn : Turn) (now : Instant) : Turn :=
  let turn := if turn.machine.status.active then turn.deactivateBridge now else turn
  if turn.machine.partnerIsUp then turn else turn.derive .connectivityLost

/-- A bridge of the active role that comes up becomes active, and one of the standby role does so
without a partner. -/
def bridgeWentUp (turn : Turn) (now : Instant) : Turn :=
  let claims := turn.machine.role = .active ∨ ¬turn.machine.partnerIsUp
  let turn := if ¬turn.machine.status.active ∧ claims then turn.activateBridge now else turn
  if turn.machine.partnerIsUp then turn else turn.derive .connectivityRestored

/-- The turn with another status of the partner, if it is known. -/
def updatePartner (turn : Turn) (change : BridgeStatus → BridgeStatus) : Turn :=
  turn.update fun machine => { machine with partner := machine.partner.map change }

/-- The first report of the partner is taken over as it is. -/
def adoptPartner (turn : Turn) (report : BridgeStatus) : Turn :=
  turn.update fun machine => { machine with partner := machine.partner <|> some report }

/-- The result of a poll goes to the monitor of the partner, and its verdict decides whether the
partner is up. A partner that has claimed to be up from the start is confirmed once. -/
def judgePartner (turn : Turn) (now : Instant) (sequence : UInt64) (result : Liveness) : Turn :=
  let turn := turn.update fun machine =>
    { machine with partnerMonitor := machine.partnerMonitor.register sequence result }
  let confirmed := turn.update fun machine => { machine with partnerConfirmed := true }
  match turn.machine.partnerMonitor.verdict with
  | .down =>
    if turn.machine.partnerIsUp then
      (confirmed.updatePartner (·.setUp false now)).derive .partnerWentDown
    else confirmed
  | .up =>
    if turn.machine.partnerIsUp ∧ turn.machine.partnerConfirmed then turn
    else (confirmed.updatePartner (·.setUp true now)).derive .partnerWentUp
  | .pending => turn

/-- The interfaces, the name and the activity of the partner are as it reports them. -/
def followReport (turn : Turn) (report : BridgeStatus) : Turn :=
  let turn := turn.updatePartner fun partner => { partner with interfaces := report.interfaces }
  let turn :=
    match turn.machine.partner with
    | some partner =>
      if partner.name = report.name then turn
      else
        (turn.updatePartner fun partner => { partner with name := report.name }).derive
          (.partnerChangedName partner.name report.name)
    | none => turn
  if turn.machine.partner.any (·.active != report.active) then
    (turn.updatePartner (·.setActive report.active report.activeSince)).derive
      (if report.active then .partnerActivated else .partnerDeactivated)
  else turn

/-- A failed poll counts as an error, and against a partner that has been heard of. -/
def partnerPollFailed (turn : Turn) (now : Instant) (sequence : UInt64) : Turn :=
  let turn := turn.countError Scope.partnerPolling
  if turn.machine.partner.isNone then turn else turn.judgePartner now sequence .down

/-- A report must have the name of the bridge and the other role. -/
def partnerPolled (turn : Turn) (now : Instant) (sequence : UInt64) (report : BridgeStatus) :
    Except BridgeFault Turn :=
  if report.name ≠ turn.machine.name then
    .error (.partnerNameMismatch turn.machine.name report.name)
  else if report.role = turn.machine.role then .error (.partnerRoleIdentical turn.machine.role)
  else
    let result := if report.up then Liveness.up else .down
    .ok (((turn.adoptPartner report).judgePartner now sequence result).followReport report)

/-- A bridge takes over from a partner that goes down. -/
def partnerWentDown (turn : Turn) (now : Instant) : Turn :=
  let turn :=
    if turn.machine.partner.any (·.active) then
      (turn.updatePartner (·.setActive false now)).derive .partnerDeactivated
    else turn
  if turn.machine.status.active then turn else turn.activateBridge now

/-- A bridge of the standby role yields to a partner that comes up. -/
def partnerWentUp (turn : Turn) (now : Instant) : Turn :=
  if turn.machine.status.active ∧ turn.machine.role ≠ .active then turn.deactivateBridge now
  else turn

end TunnelFailover.Turn
