import TunnelFailover.Proofs.Effects
import TunnelFailover.Proofs.JournalRun
import TunnelFailover.Proofs.Probes
/-!
This file shows that a report on a probe which comes a second time leaves no trace, unless another
result of the probe has come in between.
-/

namespace TunnelFailover

/-- The last of some registrations counts, also if others of its number with the same result follow. -/
theorem lastRegistered_of_agreed (earlier : List Registration) (registration : Registration)
    {later : List Registration}
    (agreed : ∀ other ∈ later, other.sequence = registration.sequence →
      other.liveness = registration.liveness) :
    lastRegistered (earlier ++ registration :: later) registration.sequence.toNat =
      registration.liveness := by
  induction later using List.reverseRecOn with
  | nil =>
    rw [lastRegistered_concat]
    exact if_pos rfl
  | append_singleton later last inductionHypothesis =>
    rw [List.forall_mem_append, List.forall_mem_singleton] at agreed
    rw [← List.cons_append, ← List.append_assoc, lastRegistered_concat]
    split
    · rename_i own
      exact agreed.2 (UInt64.toNat_inj.1 (Int.ofNat_inj.1 own))
    · exact inductionHypothesis agreed.1

namespace Monitor

variable {monitor : Monitor}

/-- What a monitor shows already can be registered again. -/
theorem Shows.register_eq_self {registrations : List Registration}
    (shows : monitor.Shows registrations) {sequence : UInt64} {liveness : Liveness}
    (reached : sequence ≤ monitor.sequence)
    (last : lastRegistered registrations sequence.toNat = liveness) :
    monitor.register sequence liveness = monitor := by
  have notHigher : sequence.toNat ≤ monitor.sequence.toNat := UInt64.le_iff_toNat_le.1 reached
  have history : monitor.history.set (monitor.sequence.toNat - sequence.toNat) liveness =
      monitor.history := by
    refine List.ext_getElem List.length_set fun age _ young => ?_
    rw [List.getElem_set]
    split
    · rename_i own
      rw [shows.entry age young, ← last]
      congr 1
      omega
    · rfl
  unfold Monitor.register
  rw [if_neg (UInt64.not_lt.2 reached)]
  dsimp only
  rw [history]

/-- A report that was noted can be noted again, unless it has been disputed. -/
theorem Notes.note_eq_self {earlier later : List ProbeReport} {report : ProbeReport}
    (notes : monitor.Notes (earlier ++ report :: later))
    (undisputed : ∀ other ∈ later, ¬report.Disputes other) : monitor.note report = monitor := by
  have reached : report.sequence ≤ monitor.sequence := notes.newest report (by simp)
  obtain ⟨registrations, shows, same⟩ := notes.shows
  unfold Monitor.note
  cases told : report.returned? with
  | none => exact if_neg (UInt64.not_lt.2 reached)
  | some returned =>
    refine shows.register_eq_self reached ?_
    have registers : report.registration? =
        some ⟨report.sequence, if returned then .up else .down⟩ := by
      rw [ProbeReport.registration?, told, Option.map_some]
    rw [same, resultsOf, List.filterMap_append, List.filterMap_cons_some registers]
    refine lastRegistered_of_agreed _ ⟨report.sequence, if returned then .up else .down⟩ ?_
    intro other member own
    obtain ⟨source, sourceMember, isOther⟩ := List.mem_filterMap.1 member
    obtain ⟨result, sourceTold, rfl⟩ := Option.map_eq_some_iff.1 isOther
    have agrees : result = returned := by
      by_contra differs
      refine undisputed source sourceMember ⟨own.symm, returned, told, ?_⟩
      rw [sourceTold, Bool.eq_not_of_ne differs]
    rw [agrees]

end Monitor

/-- Nothing is requested for a report on a probe. -/
theorem Occurrence.requests_of_probe? {occurrence : Occurrence} {probe : String × ProbeReport}
    (told : occurrence.probe? = some probe) (machine : Machine) : occurrence.requests machine = [] := by
  cases occurrence with
  | probeLost | probeReturned | probeUnsent | probeSent => rfl
  | _ => cases told

/-- The flag of an interface is what the verdict of its monitor says, once there is a verdict. -/
def Machine.InStep (machine : Machine) (interface : String) : Prop :=
  ∀ link status, machine.links.get? interface = some link →
    machine.status.interfaces.get? interface = some status →
    (link.monitor.verdict = .down → status.up = false) ∧
      (link.monitor.verdict = .up → status.up = true)

/-- Only the monitor and the flag of an interface matter. -/
theorem Machine.InStep.transfer {machine other : Machine} {interface : String}
    (inStep : machine.InStep interface)
    (link : other.links.get? interface = machine.links.get? interface)
    (flag : other.status.flag? (.interfaceUp interface) =
      machine.status.flag? (.interfaceUp interface)) : other.InStep interface := by
  intro linked status isLinked known
  rw [link] at isLinked
  rw [BridgeStatus.flag?, known, Option.map_some] at flag
  obtain ⟨former, wasKnown, same⟩ := Option.map_eq_some_iff.1 flag.symm
  rw [← show former.up = status.up from congrArg Prod.fst same]
  exact inStep linked former isLinked wasKnown

namespace Turn

variable {turn : Turn} {machine : Machine} {now : Instant} {occurrence : Occurrence}
variable {interface : String}

/-- No verdict leads to a change while the flag is in step. -/
theorem followVerdict_eq_self (inStep : turn.machine.InStep interface) (now : Instant) :
    turn.followVerdict now interface = turn := by
  unfold followVerdict
  split
  · rename_i link status linked known
    obtain ⟨down, up⟩ := inStep link status linked known
    split
    · rename_i verdict isUp
      rw [down verdict] at isUp
      cases isUp
    · rename_i verdict isDown
      rw [up verdict] at isDown
      cases isDown
    · rfl
  · rfl

/-- A change that leaves a monitor as it is has no further consequences. -/
theorem observe_eq_self (inStep : turn.machine.InStep interface) (now : Instant)
    (change : Monitor → Monitor)
    (same : ∀ link, turn.machine.links.get? interface = some link →
      change link.monitor = link.monitor) :
    (turn.observe now interface change).machine = turn.machine ∧
      (turn.observe now interface change).derived = turn.derived := by
  have links : turn.machine.links.modify interface (fun link =>
      { link with monitor := change link.monitor }) = turn.machine.links := by
    refine NameMap.modify_eq_self fun link linked => ?_
    rw [same link linked]
  unfold observe
  split
  · exact ⟨rfl, rfl⟩
  · unfold update
    dsimp only
    rw [links, followVerdict_eq_self inStep]
    exact ⟨rfl, rfl⟩

/-- The flag of an interface is in step once its verdict has been followed. -/
theorem followVerdict_inStep (turn : Turn) (now : Instant) (interface : String) :
    (turn.followVerdict now interface).machine.InStep interface := by
  -- A flag that is set to what the verdict says is in step.
  have followed {link : Link} {up : Bool} (linked : turn.machine.links.get? interface = some link)
      (down : link.monitor.verdict = .down → up = false)
      (isUp : link.monitor.verdict = .up → up = true) :
      (turn.updateStatus (·.modifyInterface interface (·.setUp up now))).machine.InStep
        interface := by
    intro other status otherLinked known
    cases linked.symm.trans otherLinked
    simp only [updateStatus_machine, BridgeStatus.modifyInterface, NameMap.get?_modify, if_true] at known
    obtain ⟨former, -, rfl⟩ := Option.map_eq_some_iff.1 known
    exact ⟨down, isUp⟩
  unfold followVerdict
  split
  · rename_i link status linked known
    split
    · rename_i verdict wasUp
      exact followed linked (fun _ => rfl) (by simp [verdict])
    · rename_i verdict wasDown
      exact followed linked (by simp [verdict]) (fun _ => rfl)
    · rename_i notDown notUp
      intro other otherStatus otherLinked otherKnown
      cases linked.symm.trans otherLinked
      cases known.symm.trans otherKnown
      exact ⟨fun verdict => by simpa using notDown verdict, fun verdict => by simpa using notUp verdict⟩
  · rename_i none
    exact fun link status linked known => absurd known (none link status linked)

/-- A handled occurrence sets the flag of no interface but the one that a probe reports on. -/
theorem flag?_interfaceUp (handled : (start machine).handle now occurrence = .ok turn)
    (single : machine.status.IsSingle) (silent : occurrence.reportOn? interface = none) :
    turn.machine.status.flag? (.interfaceUp interface) =
      machine.status.flag? (.interfaceUp interface) := by
  refine (handle_records handled single).replays.flag?_of_unset ?_
  rw [List.filterMap_map]
  cases told : occurrence.probe? with
  | some probe =>
    obtain ⟨own, report⟩ := probe
    obtain ⟨counted, -, nothing, rfl⟩ := handle_probe handled told
    have apart : own ≠ interface := by
      rintro rfl
      rw [Occurrence.reportOn?_eq_some_iff.2 told] at silent
      cases silent
    rcases observe_derived nothing now own (·.note report) with derived | derived | derived <;>
      simp [derived, Occurrence.setting?, Occurrence.sets?, apart]
  | none =>
    by_contra set
    have stage := (handle_staged handled single (.interfaceUp interface)).2 set
    cases occurrence with
    | probeLost | probeReturned | probeUnsent | probeSent => cases told
    | _ => cases stage

/-- All flags stay in step. -/
theorem handle_inStep (handled : (start machine).handle now occurrence = .ok turn)
    (single : machine.status.IsSingle) (inStep : machine.InStep interface) :
    turn.machine.InStep interface := by
  cases told : occurrence.reportOn? interface with
  | some report =>
    obtain ⟨counted, -, -, rfl⟩ := handle_probe handled (Occurrence.reportOn?_eq_some_iff.1 told)
    unfold observe
    split
    · rename_i unlinked
      intro link status linked
      cases unlinked.symm.trans linked
    · exact followVerdict_inStep _ now interface
  | none =>
    refine inStep.transfer ?_ (flag?_interfaceUp handled single told)
    rw [handle_links handled, told]
    simp

end Turn

namespace Machine

/-- A report on a probe that its monitor has noted already changes nothing, and only samples leave the
machine. -/
theorem process_eq_self {machine : Machine} {event : Event} {interface : String}
    {report : ProbeReport} (told : event.occurrence.reportOn? interface = some report)
    (inStep : machine.InStep interface)
    (noted : ∀ link, machine.links.get? interface = some link →
      link.monitor.note report = link.monitor) :
    machine.process event = ⟨machine, [], event.occurrence.effects machine, none⟩ ∧
      requestsOf (event.occurrence.effects machine) = [] := by
  have probed := Occurrence.reportOn?_eq_some_iff.1 told
  cases handled : (Turn.start machine).handle event.time event.occurrence with
  | error fault =>
    rw [Turn.probe?_of_failed handled] at probed
    cases probed
  | ok turn =>
    have effects := Turn.handle_effects handled
    have requests : requestsOf turn.effects = event.occurrence.requests machine :=
      Turn.handle_requests handled
    obtain ⟨counted, rfl, nothing, rfl⟩ := Turn.handle_probe handled probed
    obtain ⟨same, silent⟩ := Turn.observe_eq_self inStep event.time (·.note report) noted
    refine ⟨?_, ?_⟩
    · rw [process_of_silent handled (silent.trans nothing), same, effects]
    · rw [← effects, requests, Occurrence.requests_of_probe? probed]

/-- No event puts a flag out of step. -/
theorem process_inStep {machine : Machine} {event : Event} {interface : String}
    (reported : event.occurrence.isReported = true)
    (elected : machine.Elected machine.status.hasUp) (inStep : machine.InStep interface) :
    (machine.process event).machine.InStep interface := by
  obtain ⟨waiting, ⟨-, stillInStep⟩, -⟩ := machine.process_keeps event
    (fun cascade => cascade.Electing machine.roleOf? ∧ cascade.machine.InStep interface)
    (fun before after orderly holds step => by
      refine ⟨step.electing orderly holds.1, ?_⟩
      cases step with
      | handle handled => exact Turn.handle_inStep handled holds.1.2.single holds.2)
    ⟨Cascade.start_electing reported elected, inStep⟩
  exact stillInStep

section Run

variable {name : String} {settings : BridgeSettings} {start : Instant} {machine : Machine}
variable {interface : String}

/-- Every flag is in step after every run from a fresh status. -/
theorem run_inStep (built : new name settings (initialStatus name settings start) = .ok machine)
    (interface : String) {events : List Event}
    (reported : ∀ event ∈ events, event.occurrence.isReported = true) :
    (machine.run events).machine.InStep interface := by
  induction events using List.reverseRecOn with
  | nil =>
    intro link status linked _
    obtain ⟨tunnel, thresholds, -, -, rfl⟩ := link_of_new built linked
    simp [Monitor.verdict_new]
  | append_singleton earlier last inductionHypothesis =>
    have earlierReported : ∀ event ∈ earlier, event.occurrence.isReported = true :=
      fun event member => reported event (List.mem_append_left _ member)
    obtain ⟨-, elected⟩ := run_elected built earlier earlierReported
    rw [run_concat]
    exact process_inStep (reported last (by simp)) elected (inductionHypothesis earlierReported)

/-- A report on a probe may come again, however much later, unless another report has given the probe
another result in between. Then nothing is derived from it and nothing is requested, and all that comes
later is as if it had not come again, but for samples. -/
theorem run_absorbs (built : new name settings (initialStatus name settings start) = .ok machine)
    {earlier between : List Event} {first again : Event}
    (reported : ∀ event ∈ earlier ++ first :: between, event.occurrence.isReported = true)
    {report : ProbeReport} (told : first.occurrence.reportOn? interface = some report)
    (toldAgain : again.occurrence.reportOn? interface = some report)
    (undisputed : ∀ other ∈ reportsOn interface between, ¬report.Disputes other)
    (later : List Event) :
    let before := earlier ++ first :: between
    let here := (machine.run before).machine
    let once := machine.run (before ++ later)
    let twice := machine.run (before ++ again :: later)
    here.process again = ⟨here, [], again.occurrence.effects here, none⟩ ∧
      requestsOf (again.occurrence.effects here) = [] ∧
      twice.machine = once.machine ∧ twice.faults = once.faults ∧
      requestsOf twice.effects = requestsOf once.effects ∧
      machine.runDerivedEvents (before ++ again :: later) =
        machine.runDerivedEvents (before ++ later) := by
  intro before here once twice
  have noted : ∀ link, here.links.get? interface = some link →
      link.monitor.note report = link.monitor := by
    intro link linked
    have notes := run_notes built before linked
    have reports : reportsOn interface before =
        reportsOn interface earlier ++ report :: reportsOn interface between := by
      unfold reportsOn
      rw [List.filterMap_append]
      exact congrArg _ (List.filterMap_cons_some told)
    rw [reports] at notes
    exact notes.note_eq_self undisputed
  obtain ⟨stands, silent⟩ := process_eq_self toldAgain (run_inStep built interface reported) noted
  obtain ⟨isTwice, derived⟩ := run_insert later stands
  have isOnce := run_append machine before later
  refine ⟨stands, silent, ?_, ?_, ?_, derived⟩
  · rw [show twice = _ from isTwice, show once = _ from isOnce]
  · rw [show twice = _ from isTwice, show once = _ from isOnce, Option.toList_none, List.append_nil]
  · rw [show twice = _ from isTwice, show once = _ from isOnce, requestsOf_append, requestsOf_append,
      requestsOf_append, silent, List.append_nil]

end Run

/-- A probe comes back twice. The second time, the window has moved past it, the bridge has become
active, and a failure has been reported of another interface. -/
theorem run_absorbs_behind :
    let start : Instant := ⟨0, 0⟩
    let settings := BridgeSettings.plain .standby
    let returned (time : Instant) (sequence : UInt64) : Event :=
      ⟨time, .probeReturned "wg0" sequence .zero .zero .empty⟩
    let between : List Event :=
      [⟨start, .probeSent "wg0" 2⟩, ⟨start, .probeLost "wg1" 2⟩, ⟨start, .probeSent "wg0" 9⟩]
    let before := [returned start 1] ++ returned start 2 :: between
    let again := returned ⟨60, 0⟩ 2
    let later := [returned ⟨61, 0⟩ 10, returned ⟨62, 0⟩ 11]
    ∃ machine, new "vpn" settings (initialStatus "vpn" settings start) = .ok machine ∧
      (∀ event ∈ before, event.occurrence.isReported = true) ∧
      (∀ other ∈ reportsOn "wg0" between, ¬ProbeReport.Disputes ⟨2, some true⟩ other) ∧
      let here := (machine.run before).machine
      ((here.links.get? "wg0").map (·.monitor.sequence), here.status.active) = (some 9, true) ∧
        here.process again = ⟨here, [], again.occurrence.effects here, none⟩ ∧
        (machine.run (before ++ again :: later)).machine = (machine.run (before ++ later)).machine ∧
        requestsOf (machine.run (before ++ again :: later)).effects =
          requestsOf (machine.run (before ++ later)).effects := by
  intro start settings returned between before again later
  have built : new "vpn" settings (initialStatus "vpn" settings start) = .ok _ := rfl
  have reported : ∀ event ∈ before, event.occurrence.isReported = true := by decide
  have undisputed : ∀ other ∈ reportsOn "wg0" between,
      ¬ProbeReport.Disputes ⟨2, some true⟩ other := by decide
  have told : (returned start 2).occurrence.reportOn? "wg0" = some ⟨2, some true⟩ := rfl
  have toldAgain : again.occurrence.reportOn? "wg0" = some ⟨2, some true⟩ := rfl
  obtain ⟨stands, -, same, -, requests, -⟩ :=
    run_absorbs built reported told toldAgain undisputed later
  exact ⟨_, built, reported, undisputed, by decide +kernel, stands, same, requests⟩

end Machine

end TunnelFailover
