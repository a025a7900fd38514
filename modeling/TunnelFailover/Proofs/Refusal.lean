import TunnelFailover.Proofs.Handling
/-!
This file says which events a bridge refuses, and shows that a refused event leaves no trace: the run
goes on as if it had not come.
-/

namespace TunnelFailover

/-- A report with another name than the bridge is refused, and one with the same role. The name is
looked at first. -/
def Occurrence.refusal? (name : String) (role : Role) : Occurrence → Option BridgeFault
  | partnerPolled _ report =>
    if report.name ≠ name then some (.partnerNameMismatch name report.name)
    else if report.role = role then some (.partnerRoleIdentical role)
    else none
  | _ => none

/-- A reported occurrence is accepted unless it is refused. -/
theorem Occurrence.acceptedBy_of_refusal? {machine : Machine} {occurrence : Occurrence}
    (reported : occurrence.isReported = true)
    (welcome : occurrence.refusal? machine.name machine.role = none) :
    occurrence.AcceptedBy machine := by
  cases occurrence with
  | partnerChangedName => cases reported
  | partnerPolled sequence report =>
    unfold refusal? at welcome
    dsimp only at welcome
    split at welcome
    · cases welcome
    · rename_i sameName
      split at welcome
      · cases welcome
      · rename_i otherRole
        exact ⟨Decidable.not_not.1 sameName, otherRole⟩
  | _ => trivial

namespace Turn

/-- What is refused fails when it is handled. -/
theorem handle_refused {machine : Machine} {occurrence : Occurrence} {fault : BridgeFault}
    (refused : occurrence.refusal? machine.name machine.role = some fault) (now : Instant) :
    (start machine).handle now occurrence = .error fault := by
  cases occurrence with
  | partnerPolled sequence report =>
    by_cases otherName : report.name ≠ machine.name
    · rw [Occurrence.refusal?, if_pos otherName] at refused
      exact (if_pos otherName).trans (congrArg _ (Option.some.inj refused))
    · rw [Occurrence.refusal?, if_neg otherName] at refused
      by_cases sameRole : report.role = machine.role
      · rw [if_pos sameRole] at refused
        exact (if_neg otherName).trans
          ((if_pos sameRole).trans (congrArg _ (Option.some.inj refused)))
      · rw [if_neg sameRole] at refused
        cases refused
  | _ => cases refused

end Turn

namespace Machine

/-- A refused event stops the processing before anything has happened. -/
theorem process_refused {machine : Machine} {event : Event} {fault : BridgeFault}
    (refused : event.occurrence.refusal? machine.name machine.role = some fault) :
    machine.process event = ⟨machine, [], [], some fault⟩ :=
  process_of_failed (Turn.handle_refused refused event.time)

/-- A reported event is at fault just if it is refused. -/
theorem process_fault {machine : Machine} (named : machine.Named) {event : Event}
    (reported : event.occurrence.isReported = true) :
    (machine.process event).fault = event.occurrence.refusal? machine.name machine.role := by
  cases refusal : event.occurrence.refusal? machine.name machine.role with
  | some fault => rw [process_refused refusal]
  | none =>
    exact (process_accepted (Occurrence.acceptedBy_of_refusal? reported refusal) named).1

/-- No event leads to another name of the partner, since what is derived is handled in the end. -/
theorem process_keeps_name {machine : Machine} (named : machine.Named) (event : Event)
    (former latter : String) :
    ∀ derived ∈ machine.derivedEvents event,
      derived.occurrence ≠ .partnerChangedName former latter := by
  intro derived member renamed
  rcases (process_named named event).2 with calm | ⟨⟨fault, refused⟩, -⟩
  · have whole := (machine.transcript_spec event).2.2 calm
    have inside : derived ∈ (machine.transcript event).map (·.event) := by
      rw [whole]
      exact List.mem_cons_of_mem event member
    obtain ⟨handling, handlingMember, rfl⟩ := List.mem_map.1 inside
    have accepted := Turn.accepted_of_handled (of_mem_handlings handlingMember).2
    rw [renamed] at accepted
    cases accepted
  · rw [derivedEvents, refused] at member
    cases member

section Run

variable {name : String} {settings : BridgeSettings} {status : BridgeStatus} {machine : Machine}

/-- A machine refuses after any run what it refused at first. -/
theorem run_refusal? (built : new name settings status = .ok machine) (events : List Event)
    (occurrence : Occurrence) :
    occurrence.refusal? (machine.run events).machine.name (machine.run events).machine.role =
      occurrence.refusal? name settings.role := by
  obtain ⟨-, -, sameName, sameRole, -⟩ := new_eq_ok built
  have identity := machine.run_identity events
  rw [← sameName, ← sameRole]
  exact congrArg₂ occurrence.refusal? (congrArg (·.1) identity) (congrArg (·.2.1) identity)

/-- The faults of a run are those of the events that it refuses. -/
theorem run_faults (built : new name settings status = .ok machine) {events : List Event}
    (reported : ∀ event ∈ events, event.occurrence.isReported = true) :
    (machine.run events).faults = events.filterMap (·.occurrence.refusal? name settings.role) := by
  induction events using List.reverseRecOn with
  | nil => rfl
  | append_singleton earlier last inductionHypothesis =>
    have earlierReported : ∀ event ∈ earlier, event.occurrence.isReported = true :=
      fun event member => reported event (List.mem_append_left _ member)
    have fault := process_fault (run_named built earlier) (reported last (by simp))
    rw [run_refusal? built] at fault
    simp only [run_concat, Run.step, List.filterMap_append, inductionHypothesis earlierReported, fault]
    cases refusal : last.occurrence.refusal? name settings.role <;> simp [refusal]

/-- A run derives no other name of the partner. -/
theorem run_keeps_name (built : new name settings status = .ok machine) (events : List Event)
    (former latter : String) :
    ∀ derived ∈ machine.runDerivedEvents events,
      derived.occurrence ≠ .partnerChangedName former latter := by
  induction events using List.reverseRecOn with
  | nil => exact List.forall_mem_nil _
  | append_singleton earlier last inductionHypothesis =>
    rw [runDerivedEvents_concat]
    exact List.forall_mem_append.2 ⟨inductionHypothesis,
      process_keeps_name (run_named built earlier) last former latter⟩

/-- A run is the same without an event that it refuses, but for the fault. -/
theorem run_without (built : new name settings status = .ok machine) (earlier later : List Event)
    {event : Event} {fault : BridgeFault}
    (refused : event.occurrence.refusal? name settings.role = some fault) :
    (machine.run (earlier ++ event :: later)).machine = (machine.run (earlier ++ later)).machine ∧
      (machine.run (earlier ++ event :: later)).effects =
        (machine.run (earlier ++ later)).effects ∧
      machine.runDerivedEvents (earlier ++ event :: later) =
        machine.runDerivedEvents (earlier ++ later) := by
  have stands : (machine.run earlier).machine.process event =
      ⟨(machine.run earlier).machine, [], [], some fault⟩ :=
    process_refused (by rw [run_refusal? built]; exact refused)
  obtain ⟨run, derived⟩ := run_insert later stands
  rw [run, run_append, List.append_nil]
  exact ⟨rfl, rfl, derived⟩

end Run

/-- The faults of a run from a fresh status are exactly the reports that have another name than the
bridge, or the same role. Wherever such a report comes, nothing changes and nothing leaves the machine,
and the run goes on as if it had not come. Every other event is handled with all that is derived from
it, and no event leads to another name of the partner. -/
theorem run_refuses {name : String} {settings : BridgeSettings} {start : Instant}
    {machine : Machine} (built : new name settings (initialStatus name settings start) = .ok machine)
    (events : List Event) (reported : ∀ event ∈ events, event.occurrence.isReported = true) :
    (machine.run events).faults =
        events.filterMap (·.occurrence.refusal? name settings.role) ∧
      (∀ former latter, ∀ derived ∈ machine.runDerivedEvents events,
        derived.occurrence ≠ .partnerChangedName former latter) ∧
      ∀ earlier event later, events = earlier ++ event :: later →
        let before := (machine.run earlier).machine
        let refusal := event.occurrence.refusal? name settings.role
        (before.process event).fault = refusal ∧
          (refusal = none →
            (before.transcript event).map (·.event) = event :: before.derivedEvents event) ∧
          ∀ fault, refusal = some fault →
            before.process event = ⟨before, [], [], some fault⟩ ∧
              (machine.run events).machine = (machine.run (earlier ++ later)).machine ∧
              (machine.run events).effects = (machine.run (earlier ++ later)).effects ∧
              machine.runDerivedEvents events = machine.runDerivedEvents (earlier ++ later) := by
  refine ⟨run_faults built reported, run_keeps_name built events, ?_⟩
  rintro earlier event later rfl before refusal
  have same : event.occurrence.refusal? before.name before.role = refusal :=
    run_refusal? built earlier event.occurrence
  have fault : (before.process event).fault = refusal := by
    rw [← same]
    exact process_fault (run_named built earlier) (reported event (by simp))
  refine ⟨fault, fun welcome => ?_, fun reason refused => ?_⟩
  · exact (before.transcript_spec event).2.2 (fault.trans welcome)
  · exact ⟨process_refused (same.trans refused), run_without built earlier later refused⟩

/-- Between two reports of its partner, the bridge refuses one with another name and its own role, and
then one with its own role. -/
theorem run_refuses_astray :
    let start : Instant := ⟨0, 0⟩
    let settings := BridgeSettings.plain .active
    let polled (sequence : UInt64) (name : String) (role : Role) : Event :=
      ⟨start, .partnerPolled sequence { BridgeStatus.fresh name role [] start with up := true }⟩
    let events := [polled 1 "vpn" .standby, polled 2 "other" .active, polled 3 "vpn" .active,
      polled 4 "vpn" .standby]
    ∃ machine, new "vpn" settings (initialStatus "vpn" settings start) = .ok machine ∧
      (∀ event ∈ events, event.occurrence.isReported = true) ∧
      (machine.run events).faults =
        [.partnerNameMismatch "vpn" "other", .partnerRoleIdentical .active] ∧
      (machine.run events).machine.partnerMonitor.sequence = 4 ∧
      (machine.run events).effects =
        (machine.run ([polled 1 "vpn" .standby, polled 2 "other" .active] ++
          [polled 4 "vpn" .standby])).effects := by
  intro start settings polled events
  have reported : ∀ event ∈ events, event.occurrence.isReported = true := by decide
  have built : new "vpn" settings (initialStatus "vpn" settings start) = .ok _ := rfl
  obtain ⟨faults, -, refuses⟩ := run_refuses built events reported
  obtain ⟨-, -, traceless⟩ := refuses [polled 1 "vpn" .standby, polled 2 "other" .active]
    (polled 3 "vpn" .active) [polled 4 "vpn" .standby] rfl
  exact ⟨_, built, reported, faults, by decide +kernel, (traceless _ rfl).2.2.1⟩

end Machine

end TunnelFailover
