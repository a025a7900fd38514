import TunnelFailover.Proofs.ActivityRun
import TunnelFailover.Proofs.Hearing
/-!
This file lets two machines poll each other, one of either role, and shows which of their bridges is
active once enough polls of the standby side agree.
-/

namespace TunnelFailover

/-- The role of the other side. -/
def Role.other : Role → Role
  | active => standby
  | standby => active

theorem Role.other_ne (role : Role) : role.other ≠ role := by
  cases role <;> decide

/-- A law holds of both roles if it holds of one and of the other. -/
theorem Role.forall_iff (role : Role) {law : Role → Prop} :
    (∀ any, law any) ↔ law role ∧ law role.other := by
  constructor
  · exact fun holds => ⟨holds role, holds role.other⟩
  · rintro ⟨one, another⟩ any
    cases role <;> cases any <;> assumption

/-- What came back from the polls among some events, the newest first. -/
def pollsOf (events : List Event) : List (Option BridgeStatus) :=
  (events.filterMap fun event => event.occurrence.poll?.map (·.2)).reverse

theorem pollsOf_concat (events : List Event) (event : Event) :
    pollsOf (events ++ [event]) = (event.occurrence.poll?.map (·.2)).toList ++ pollsOf events := by
  unfold pollsOf
  rw [List.filterMap_append, List.reverse_append]
  cases polled : event.occurrence.poll? <;> simp [polled]

/-- The machine had the status after some of the events. -/
def Machine.Showed (machine : Machine) (events : List Event) (status : BridgeStatus) : Prop :=
  ∃ earlier, earlier <+: events ∧ (machine.run earlier).machine.status = status

/-- The events that the two machines have processed so far. -/
structure Histories where
  active : List Event
  standby : List Event

namespace Histories

/-- The events of one machine. -/
def of (histories : Histories) : Role → List Event
  | .active => histories.active
  | .standby => histories.standby

/-- One more event of one machine. -/
def add (histories : Histories) (event : Event) : Role → Histories
  | .active => { histories with active := histories.active ++ [event] }
  | .standby => { histories with standby := histories.standby ++ [event] }

theorem of_add_self (histories : Histories) (event : Event) (role : Role) :
    (histories.add event role).of role = histories.of role ++ [event] := by
  cases role <;> rfl

theorem of_add_other (histories : Histories) (event : Event) (role : Role) :
    (histories.add event role).of role.other = histories.of role.other := by
  cases role <;> rfl

end Histories

/-- The events that two machines may have processed by now. A poll has the next number, and what it
brings is what the other machine showed at some time. -/
inductive Exchange (machines : Role → Machine) : Histories → Prop
  | start : Exchange machines ⟨[], []⟩
  | reports {histories : Histories} (exchange : Exchange machines histories) (role : Role)
      (event : Event) (reported : event.occurrence.isReported = true)
      (unpolled : event.occurrence.poll? = none) : Exchange machines (histories.add event role)
  | fails {histories : Histories} (exchange : Exchange machines histories) (role : Role)
      (time : Instant) (sequence : UInt64) (cause : String)
      (next : sequence.toNat = (pollsOf (histories.of role)).length + 1) :
      Exchange machines (histories.add ⟨time, .partnerPollFailed sequence cause⟩ role)
  | answers {histories : Histories} (exchange : Exchange machines histories) (role : Role)
      (time : Instant) (sequence : UInt64) (report : BridgeStatus)
      (next : sequence.toNat = (pollsOf (histories.of role)).length + 1)
      (showed : (machines role.other).Showed (histories.of role.other) report) :
      Exchange machines (histories.add ⟨time, .partnerPolled sequence report⟩ role)

namespace Machine

/-- One machine of an exchange has met no fault, and knows of the other one what its polls tell. -/
structure Attends (machine : Machine) (events : List Event) : Prop where
  reported : ∀ event ∈ events, event.occurrence.isReported = true
  faultless : (machine.run events).faults = []
  named : (machine.run events).machine.Named
  hears : (machine.run events).machine.Hears machine.partnerMonitor.thresholds (pollsOf events)

/-- A new machine attends an exchange. -/
theorem attends_of_new {name : String} {settings : BridgeSettings} {status : BridgeStatus}
    {machine : Machine} (built : new name settings status = .ok machine) : machine.Attends [] :=
  ⟨List.forall_mem_nil _, rfl, named_of_new built, hears_of_new built⟩

variable {machine : Machine} {events : List Event} {event : Event}

/-- What one accepted event more leaves of the attendance, whatever the event tells. -/
theorem Attends.concat (attends : machine.Attends events)
    (reported : event.occurrence.isReported = true)
    (accepted : event.occurrence.AcceptedBy (machine.run events).machine)
    (hears : (machine.run (events ++ [event])).machine.Hears machine.partnerMonitor.thresholds
      (pollsOf (events ++ [event]))) : machine.Attends (events ++ [event]) := by
  obtain ⟨harmless, named⟩ := process_accepted accepted attends.named
  refine ⟨?_, ?_, ?_, hears⟩
  · intro other member
    rcases List.mem_append.1 member with earlier | last
    · exact attends.reported other earlier
    · rw [List.mem_singleton.1 last]
      exact reported
  · rw [run_concat, Run.step, attends.faultless, harmless]
    rfl
  · rw [run_concat]
    exact named

/-- An event that is no poll leaves the attendance as it is. -/
theorem Attends.report (attends : machine.Attends events)
    (reported : event.occurrence.isReported = true) (unpolled : event.occurrence.poll? = none) :
    machine.Attends (events ++ [event]) := by
  have safe : event.occurrence.isSafe = true := by
    cases occurrence : event.occurrence with
    | partnerPolled => simp [occurrence, Occurrence.poll?] at unpolled
    | partnerChangedName => simp [occurrence, Occurrence.isReported] at reported
    | _ => rfl
  refine attends.concat reported (Occurrence.acceptedBy_of_isSafe safe _) ?_
  rw [run_concat, pollsOf_concat, unpolled]
  exact attends.hears.of_hearing (process_hearing _ unpolled)

/-- The next poll adds to what the machine has heard. -/
theorem Attends.poll (attends : machine.Attends events)
    (accepted : event.occurrence.AcceptedBy (machine.run events).machine) {sequence : UInt64}
    {poll : Option BridgeStatus} (polled : event.occurrence.poll? = some (sequence, poll))
    (next : sequence.toNat = (pollsOf events).length + 1) : machine.Attends (events ++ [event]) := by
  have reported : event.occurrence.isReported = true := by
    cases occurrence : event.occurrence with
    | partnerPolled | partnerPollFailed => rfl
    | _ => simp [occurrence, Occurrence.poll?] at polled
  refine attends.concat reported accepted ?_
  rw [run_concat, pollsOf_concat, polled]
  exact process_hears accepted polled next attends.hears

end Machine

namespace Exchange

variable {name : String} {machines : Role → Machine} {histories : Histories}

/-- The status that one machine showed is accepted by the other one. -/
theorem acceptedBy_of_showed (identities : ∀ role, (machines role).identity = (name, role, name, role))
    {role : Role} {events other : List Event} {report : BridgeStatus}
    (showed : (machines role.other).Showed other report) (sequence : UInt64) :
    (Occurrence.partnerPolled sequence report).AcceptedBy ((machines role).run events).machine := by
  obtain ⟨earlier, -, rfl⟩ := showed
  have reporter := ((machines role.other).run_identity earlier).trans (identities role.other)
  have receiver := ((machines role).run_identity events).trans (identities role)
  simp only [Machine.identity, Prod.mk.injEq] at reporter receiver
  obtain ⟨-, -, reportName, reportRole⟩ := reporter
  obtain ⟨receiverName, receiverRole, -, -⟩ := receiver
  constructor
  · rw [reportName, receiverName]
  · rw [reportRole, receiverRole]
    exact role.other_ne

/-- Every exchange is attended on both sides. -/
theorem attends (exchange : Exchange machines histories)
    (identities : ∀ role, (machines role).identity = (name, role, name, role))
    (fresh : ∀ role, (machines role).Attends []) :
    ∀ role, (machines role).Attends (histories.of role) := by
  have extended {earlier : Histories} {role : Role} {event : Event}
      (attended : ∀ role, (machines role).Attends (earlier.of role))
      (next : (machines role).Attends (earlier.of role ++ [event])) :
      ∀ other, (machines other).Attends ((earlier.add event role).of other) := by
    rw [role.forall_iff, earlier.of_add_self, earlier.of_add_other]
    exact ⟨next, attended role.other⟩
  induction exchange with
  | start =>
    intro role
    cases role <;> exact fresh _
  | reports _ role event reported unpolled inductionHypothesis =>
    exact extended inductionHypothesis ((inductionHypothesis role).report reported unpolled)
  | fails _ role time sequence cause next inductionHypothesis =>
    exact extended inductionHypothesis ((inductionHypothesis role).poll trivial rfl next)
  | answers _ role time sequence report next showed inductionHypothesis =>
    exact extended inductionHypothesis ((inductionHypothesis role).poll
      (acceptedBy_of_showed identities showed sequence) rfl next)

/-- Two bridges of one name that poll each other meet no fault. The standby side is inactive, and the
active side is active if it is up, once enough answers in a row have told that the active side is up.
The standby side is active if it is up once enough polls in a row have told nothing of that. -/
theorem agrees {settings : Role → BridgeSettings} {start : Role → Instant}
    (roles : ∀ role, (settings role).role = role)
    (built : ∀ role, Machine.new name (settings role)
      (Machine.initialStatus name (settings role) (start role)) = .ok (machines role))
    (exchange : Exchange machines histories) :
    let active := ((machines .active).run histories.active).machine
    let standby := ((machines .standby).run histories.standby).machine
    let polls := pollsOf histories.standby
    let down := (Machine.partnerThreshold .standby (settings .standby).partnerThresholdDown).toNat
    let up := (Machine.partnerThreshold .standby (settings .standby).partnerThresholdUp).toNat
    (∀ role, ((machines role).run (histories.of role)).faults = []) ∧
      (up ≤ polls.length → (∀ poll ∈ polls.take up, poll.any (·.up) = true) →
        standby.status.active = false ∧
          (active.status.up = true → active.status.active = true)) ∧
      (standby.status.up = true → (∀ poll ∈ polls.take down, poll.any (·.up) = false) →
        standby.status.active = true) := by
  intro active standby polls down up
  have identities (role : Role) : (machines role).identity = (name, role, name, role) := by
    obtain ⟨-, -, sameName, sameRole, status, -, -⟩ := Machine.new_eq_ok (built role)
    rw [Machine.identity, sameName, sameRole, status, roles role]
    simp [Machine.initialStatus, BridgeStatus.fresh, roles role]
  have attended := exchange.attends identities fun role => Machine.attends_of_new (built role)
  have suited (role : Role) :=
    (Machine.run_suited (built role) (histories.of role) (attended role).reported).2
  have lastRole (role : Role) : ((machines role).run (histories.of role)).machine.role = role := by
    rw [Machine.run_role]
    exact congrArg (·.2.1) (identities role)
  obtain ⟨-, monitored, -⟩ := Machine.new_eq_ok (built .standby)
  obtain ⟨-, downEqual, upEqual⟩ := Machine.partnerMonitorOf_eq_ok monitored
  rw [roles .standby] at downEqual upEqual
  have hears := (attended .standby).hears
  refine ⟨fun role => (attended role).faultless, fun enough answers => ⟨?_, ?_⟩,
    fun live silence => ?_⟩
  · have known := hears.up_of_answers (upEqual ▸ enough) (upEqual ▸ answers)
    exact (suited .standby).yields (lastRole .standby) known.2 known.1
  · exact (suited .active).claims (lastRole .active)
  · have gone := hears.down_of_silence (downEqual ▸ silence)
    exact (suited .standby).fills (lastRole .standby) live gone

/-- Two bridges that are both up agree on the one of the active role, until it does not answer. -/
theorem agrees_plain :
    let start : Instant := ⟨0, 0⟩
    let returned (sequence : UInt64) : Event :=
      ⟨start, .probeReturned "wg0" sequence .zero .zero .empty⟩
    let failed (sequence : UInt64) : Event := ⟨start, .partnerPollFailed sequence "timeout"⟩
    let probes := [returned 1, returned 2]
    ∃ machines : Role → Machine,
      (∀ role, Machine.new "vpn" (.plain role) (Machine.initialStatus "vpn" (.plain role) start) =
        .ok (machines role)) ∧
      let report := ((machines .active).run probes).machine.status
      let answered (sequence : UInt64) : Event := ⟨start, .partnerPolled sequence report⟩
      let together := probes ++ [answered 1, answered 2, answered 3]
      let apart := together ++ [failed 4, failed 5, failed 6]
      Exchange machines ⟨probes, together⟩ ∧ Exchange machines ⟨probes, apart⟩ ∧
        ((machines .active).run probes).machine.status.active = true ∧
        ((machines .standby).run together).machine.status.active = false ∧
        ((machines .standby).run apart).machine.status.active = true := by
  intro start returned failed probes
  let built (role : Role) : Except BridgeFault Machine :=
    Machine.new "vpn" (.plain role) (Machine.initialStatus "vpn" (.plain role) start)
  let machines (role : Role) : Machine := (built role).toOption.get (by cases role <;> rfl)
  have allBuilt (role : Role) : built role = .ok (machines role) := by cases role <;> rfl
  refine ⟨machines, allBuilt, ?_⟩
  intro report answered together apart
  have alone : Exchange machines ⟨probes, []⟩ :=
    (Exchange.start.reports .active (returned 1) rfl rfl).reports .active (returned 2) rfl rfl
  have bothUp : Exchange machines ⟨probes, probes⟩ :=
    (alone.reports .standby (returned 1) rfl rfl).reports .standby (returned 2) rfl rfl
  have showed : (machines .active).Showed probes report := ⟨probes, List.prefix_refl probes, rfl⟩
  have agreed : Exchange machines ⟨probes, together⟩ :=
    ((bothUp.answers .standby start 1 report rfl showed).answers .standby start 2 report rfl
      showed).answers .standby start 3 report rfl showed
  have parted : Exchange machines ⟨probes, apart⟩ :=
    ((agreed.fails .standby start 4 "timeout" rfl).fails .standby start 5 "timeout" rfl).fails
      .standby start 6 "timeout" rfl
  obtain ⟨-, settles, -⟩ := agrees (fun _ => rfl) allBuilt agreed
  obtain ⟨-, -, fills⟩ := agrees (fun _ => rfl) allBuilt parted
  dsimp only at settles fills
  obtain ⟨yields, claims⟩ := settles (by decide) (by decide)
  have active := claims (by decide)
  have filled := fills (by decide) (by decide)
  exact ⟨agreed, parted, active, yields, filled⟩

end Exchange

end TunnelFailover
