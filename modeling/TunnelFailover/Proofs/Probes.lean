import TunnelFailover.Proofs.Handling
import TunnelFailover.Proofs.Registrations
import TunnelFailover.Proofs.TunnelFlags
/-!
This file says what the reports on probes leave in the monitor of their interface. They may come in any
order, also that a probe was sent after its result, and other events may come between them.
-/

namespace TunnelFailover

/-- A report on a probe has its number, and tells whether it came back once this is decided. -/
structure ProbeReport where
  sequence : UInt64
  returned? : Option Bool
deriving DecidableEq

namespace ProbeReport

/-- A probe that came back registers a success, one that did not a failure, and one that was sent
registers nothing yet. -/
def registration? (report : ProbeReport) : Option Registration :=
  report.returned?.map fun returned => ⟨report.sequence, if returned then .up else .down⟩

/-- Two reports give a probe different results. -/
def Disputes (first second : ProbeReport) : Prop :=
  first.sequence = second.sequence ∧
    ∃ returned, first.returned? = some returned ∧ second.returned? = some !returned

instance (first second : ProbeReport) : Decidable (first.Disputes second) :=
  inferInstanceAs (Decidable (_ ∧ _))

end ProbeReport

namespace Occurrence

/-- The interface and the report, if the occurrence tells of a probe. One that could not be sent does
not come back. -/
def probe? : Occurrence → Option (String × ProbeReport)
  | probeSent interface sequence => some (interface, ⟨sequence, none⟩)
  | probeReturned interface sequence _ _ _ => some (interface, ⟨sequence, some true⟩)
  | probeLost interface sequence | probeUnsent interface sequence _ =>
    some (interface, ⟨sequence, some false⟩)
  | _ => none

/-- The report on a probe of a certain interface. -/
def reportOn? (interface : String) (occurrence : Occurrence) : Option ProbeReport :=
  occurrence.probe?.bind fun probe => if probe.1 = interface then some probe.2 else none

theorem reportOn?_eq_some_iff {interface : String} {occurrence : Occurrence} {report : ProbeReport} :
    occurrence.reportOn? interface = some report ↔
      occurrence.probe? = some (interface, report) := by
  unfold reportOn?
  cases occurrence.probe? with
  | none => simp
  | some probe =>
    obtain ⟨other, told⟩ := probe
    by_cases same : other = interface <;> simp [same]

/-- Only probes have the highest rank. -/
theorem probe?_of_rank {occurrence : Occurrence} (low : occurrence.rank < 3) :
    occurrence.probe? = none := by
  cases occurrence with
  | probeLost | probeReturned | probeUnsent | probeSent => simp [rank] at low
  | _ => rfl

end Occurrence

/-- The reports on the probes of an interface, in their order. -/
def reportsOn (interface : String) (events : List Event) : List ProbeReport :=
  events.filterMap (·.occurrence.reportOn? interface)

theorem reportsOn_concat (interface : String) (events : List Event) (last : Event) :
    reportsOn interface (events ++ [last]) =
      reportsOn interface events ++ (last.occurrence.reportOn? interface).toList := by
  unfold reportsOn
  rw [List.filterMap_append, List.filterMap_cons, List.filterMap_nil]
  cases last.occurrence.reportOn? interface <;> rfl

/-- The results among some reports, in their order. -/
def resultsOf (reports : List ProbeReport) : List Registration :=
  reports.filterMap (·.registration?)

theorem resultsOf_concat (reports : List ProbeReport) (last : ProbeReport) :
    resultsOf (reports ++ [last]) = resultsOf reports ++ last.registration?.toList := by
  unfold resultsOf
  rw [List.filterMap_append, List.filterMap_cons, List.filterMap_nil]
  cases last.registration? <;> rfl

namespace Monitor

/-- A result is registered. That a probe was sent only counts if it is newer than all others. -/
def note (monitor : Monitor) (report : ProbeReport) : Monitor :=
  match report.returned? with
  | some returned => monitor.register report.sequence (if returned then .up else .down)
  | none =>
    if monitor.sequence < report.sequence then monitor.register report.sequence .pending
    else monitor

variable {monitor : Monitor} {reports : List ProbeReport}

theorem sequence_note (monitor : Monitor) (report : ProbeReport) :
    (monitor.note report).sequence =
      if monitor.sequence < report.sequence then report.sequence else monitor.sequence := by
  unfold note
  split
  · exact sequence_register ..
  · split
    · rename_i newer
      rw [sequence_register, if_pos newer]
    · rfl

theorem thresholds_note (monitor : Monitor) (report : ProbeReport) :
    (monitor.note report).thresholds = monitor.thresholds := by
  unfold note
  split
  · exact thresholds_register ..
  · split
    · exact thresholds_register ..
    · rfl

/-- The monitor has come to the largest number of some reports, and shows the last result of every
number. -/
structure Notes (monitor : Monitor) (reports : List ProbeReport) : Prop where
  shows : ∃ registrations, monitor.Shows registrations ∧
    lastRegistered registrations = lastRegistered (resultsOf reports)
  newest : ∀ report ∈ reports, report.sequence ≤ monitor.sequence
  reached : (reports = [] ∧ monitor.sequence = 0) ∨
    ∃ report ∈ reports, report.sequence = monitor.sequence

theorem notes_new (thresholds : Thresholds) : (new thresholds).Notes [] where
  shows := ⟨[], shows_new thresholds, rfl⟩
  newest := List.forall_mem_nil _
  reached := .inl ⟨rfl, rfl⟩

/-- One more report is noted. -/
theorem Notes.note (notes : monitor.Notes reports) (last : ProbeReport) :
    (monitor.note last).Notes (reports ++ [last]) := by
  obtain ⟨⟨registrations, shows, same⟩, newest, reached⟩ := notes
  have sequence := sequence_note monitor last
  refine ⟨?_, ?_, ?_⟩
  · unfold Monitor.note
    rw [resultsOf_concat, ProbeReport.registration?]
    cases last.returned? with
    | some returned =>
      refine ⟨_, shows.register ⟨last.sequence, if returned then .up else .down⟩, ?_⟩
      funext number
      rw [Option.map_some, Option.toList_some, lastRegistered_concat, lastRegistered_concat, same]
    | none =>
      rw [Option.map_none, Option.toList_none, List.append_nil, ← same]
      dsimp only
      split
      · -- Nothing is known yet of a number above all others.
        rename_i newer
        refine ⟨_, shows.register ⟨last.sequence, .pending⟩, ?_⟩
        funext number
        rw [lastRegistered_concat]
        dsimp only
        split
        · rename_i own
          refine (lastRegistered_of_above fun other member => ?_).symm
          have below := UInt64.lt_of_le_of_lt (shows.newest other member) newer
          have := UInt64.lt_iff_toNat_lt.1 below
          omega
        · rfl
      · exact ⟨registrations, shows, rfl⟩
  · rw [List.forall_mem_append, List.forall_mem_singleton, sequence]
    split
    · rename_i newer
      exact ⟨fun report member => UInt64.le_of_lt (UInt64.lt_of_le_of_lt (newest report member) newer),
        UInt64.le_refl _⟩
    · rename_i notNewer
      exact ⟨newest, UInt64.not_lt.1 notNewer⟩
  · right
    rw [sequence]
    split
    · exact ⟨last, by simp, rfl⟩
    · rename_i notNewer
      rcases reached with ⟨-, zero⟩ | ⟨report, member, largest⟩
      · refine ⟨last, by simp, ?_⟩
        rw [zero] at notNewer ⊢
        exact UInt64.le_antisymm (UInt64.not_lt.1 notNewer) UInt64.zero_le
      · exact ⟨report, List.mem_append_left _ member, largest⟩

/-- The slots hold what the last results say of their numbers. -/
def HoldsResults (monitor : Monitor) (reports : List ProbeReport) : Prop :=
  ∀ index (within : index < monitor.slots.length), monitor.slots[index] =
    lastRegistered (resultsOf reports)
      (monitor.sequence.toNat - monitor.slots.length + 1 + index)

theorem Notes.holdsResults (notes : monitor.Notes reports) : monitor.HoldsResults reports := by
  obtain ⟨⟨registrations, shows, same⟩, -, -⟩ := notes
  intro index within
  have length : monitor.slots.length = monitor.history.length := List.length_reverse
  have number : (monitor.sequence.toNat - monitor.slots.length + 1 + index : Int) =
      monitor.sequence.toNat - (monitor.history.length - 1 - index : Nat) := by omega
  rw [number, ← same]
  exact (List.getElem_reverse _).trans (shows.entry _ (by omega))

/-- The monitor depends on the order of the reports only as far as these are results of one number. -/
theorem Notes.unique {other : Monitor} {others : List ProbeReport} (notes : monitor.Notes reports)
    (otherNotes : other.Notes others) (thresholds : other.thresholds = monitor.thresholds)
    (reordered : others.Perm reports)
    (agree : ∀ sequence, (resultsOf others).filter (·.sequence = sequence) =
      (resultsOf reports).filter (·.sequence = sequence)) : other = monitor := by
  obtain ⟨⟨registrations, shows, same⟩, newest, reached⟩ := notes
  obtain ⟨⟨otherRegistrations, otherShows, otherSame⟩, otherNewest, otherReached⟩ := otherNotes
  have largest : other.sequence = monitor.sequence := by
    rcases reached with ⟨rfl, zero⟩ | ⟨report, member, isLargest⟩
    · rcases otherReached with ⟨-, otherZero⟩ | ⟨report, member, -⟩
      · rw [zero, otherZero]
      · cases reordered.mem_iff.1 member
    · rcases otherReached with ⟨rfl, -⟩ | ⟨otherReport, otherMember, otherLargest⟩
      · cases reordered.mem_iff.2 member
      · refine UInt64.le_antisymm ?_ ?_
        · exact otherLargest ▸ newest otherReport (reordered.mem_iff.1 otherMember)
        · exact isLargest ▸ otherNewest report (reordered.mem_iff.2 member)
  refine shows.eq_of_lastRegistered otherShows thresholds largest ?_
  rw [same, otherSame, lastRegistered_congr agree]

end Monitor

/-- A report is noted by the monitor of a link. -/
def Link.note (link : Link) (report : ProbeReport) : Link :=
  { link with monitor := link.monitor.note report }

/-- A new link notes all reports, and keeps its thresholds. -/
theorem Link.foldl_note (role : Role) (thresholds : Thresholds) (reports : List ProbeReport) :
    let link := reports.foldl Link.note ⟨role, .new thresholds⟩
    link.monitor.Notes reports ∧ link.monitor.thresholds = thresholds := by
  dsimp only
  induction reports using List.reverseRecOn with
  | nil => exact ⟨Monitor.notes_new thresholds, rfl⟩
  | append_singleton earlier last inductionHypothesis =>
    obtain ⟨notes, same⟩ := inductionHypothesis
    rw [List.foldl_append, List.foldl_cons, List.foldl_nil]
    exact ⟨notes.note last, (Monitor.thresholds_note ..).trans same⟩

namespace Turn

variable {machine : Machine} {now : Instant} {occurrence : Occurrence} {turn : Turn}
variable {interface : String}

/-- A report on a probe is observed by the monitor of its interface, after it has been counted. -/
theorem handle_probe (handled : (start machine).handle now occurrence = .ok turn)
    {report : ProbeReport} (told : occurrence.probe? = some (interface, report)) :
    ∃ counted : Turn, counted.machine = machine ∧ counted.derived = [] ∧
      turn = counted.observe now interface (·.note report) := by
  cases occurrence with
  | probeLost | probeReturned | probeUnsent | probeSent =>
    cases told
    cases handled
    exact ⟨_, rfl, rfl, rfl⟩
  | _ => cases told

/-- No report on a probe is at fault. -/
theorem probe?_of_failed {fault : BridgeFault}
    (failed : (start machine).handle now occurrence = .error fault) : occurrence.probe? = none := by
  rcases handle_error failed with ⟨sequence, report, rfl⟩ | ⟨former, latter, rfl⟩
  · rfl
  · rfl

/-- A change of a monitor changes the link of its interface and no other one. -/
theorem observe_links (turn : Turn) (now : Instant) (interface : String)
    (change : Monitor → Monitor) (other : String) :
    (turn.observe now interface change).machine.links.get? other =
      if other = interface then
        (turn.machine.links.get? other).map fun link => { link with monitor := change link.monitor }
      else turn.machine.links.get? other := by
  unfold observe
  split
  · rename_i unknown
    split
    · rename_i same
      rw [same, unknownInterface, countError_machine, unknown, Option.map_none]
    · rfl
  · rw [← NameMap.get?_modify]
    unfold followVerdict
    dsimp only
    split
    · split <;> rfl
    · rfl

/-- A report is noted by the link of its interface. -/
theorem handle_links (handled : (start machine).handle now occurrence = .ok turn)
    (interface : String) :
    turn.machine.links.get? interface = (machine.links.get? interface).map fun link =>
      (occurrence.reportOn? interface).toList.foldl Link.note link := by
  cases told : occurrence.probe? with
  | some probe =>
    obtain ⟨own, report⟩ := probe
    obtain ⟨counted, same, -, rfl⟩ := handle_probe handled told
    rw [observe_links, same, Occurrence.reportOn?, told, Option.bind_some]
    by_cases own : interface = own
    · rw [if_pos own, if_pos own.symm]
      rfl
    · rw [if_neg own, if_neg (Ne.symm own)]
      simp
  | none =>
    have links : turn.machine.links = machine.links := by
      have changes := handle_changes handled
      cases occurrence with
      | probeLost | probeReturned | probeUnsent | probeSent => cases told
      | _ => exact congrArg (·.links) changes
    rw [links, Occurrence.reportOn?, told]
    simp

end Turn

namespace Machine

/-- The reports among some events are noted by the link of their interface, whatever else happens. -/
theorem process_links (machine : Machine) (event : Event) (interface : String) :
    (machine.process event).machine.links.get? interface =
      (machine.links.get? interface).map fun link =>
        (event.occurrence.reportOn? interface).toList.foldl Link.note link := by
  cases handled : (Turn.start machine).handle event.time event.occurrence with
  | error fault =>
    rw [process_of_failed handled, Occurrence.reportOn?, Turn.probe?_of_failed handled]
    simp
  | ok turn =>
    obtain ⟨waiting, reaches⟩ := process_after handled
    have low : ∀ next ∈ turn.derived, next.rank < 3 := by
      intro next member
      have lower := (Turn.handle_orderly handled).2 next member
      have bounded : event.occurrence.rank ≤ 3 := by
        cases event.occurrence <;> exact Nat.le_of_ble_eq_true rfl
      omega
    have reached := reaches.keeps
      (fun cascade => cascade.machine.links.get? interface = turn.machine.links.get? interface ∧
        ∀ next ∈ cascade.waiting, next.rank < 3)
      (fun before after kept step => by
        obtain ⟨same, stillLow⟩ := kept
        cases step with
        | @handle current occurrence rest derived effects next handledNext =>
          have silent := Occurrence.probe?_of_rank (stillLow occurrence List.mem_cons_self)
          have links := Turn.handle_links handledNext interface
          have unchanged : next.machine.links.get? interface = current.links.get? interface := by
            simpa [Occurrence.reportOn?, silent] using links
          refine ⟨unchanged.trans same, fun waits member => ?_⟩
          rcases List.mem_append.1 member with old | new
          · exact stillLow waits (List.mem_cons_of_mem _ old)
          · have lower := (Turn.handle_orderly handledNext).2 waits new
            have := stillLow occurrence List.mem_cons_self
            omega)
      ⟨rfl, low⟩
    exact reached.1.trans (Turn.handle_links handled interface)

/-- Every link of a new machine has a new monitor, with the thresholds of its settings. -/
theorem link_of_new {name : String} {settings : BridgeSettings} {status : BridgeStatus}
    {machine : Machine} (built : new name settings status = .ok machine) {interface : String}
    {link : Link} (linked : machine.links.get? interface = some link) :
    ∃ tunnel thresholds, settings.tunnels.get? interface = some tunnel ∧
      Thresholds.ofCounts tunnel.thresholdDown tunnel.thresholdUp = .ok thresholds ∧
      link = ⟨tunnel.role, .new thresholds⟩ := by
  have related := NameMap.rel_get?_traverse (new_eq_ok built).1 interface
  rw [linked] at related
  generalize settings.tunnels.get? interface = configured at related ⊢
  cases related with
  | @some tunnel _ accepted =>
    unfold Machine.link at accepted
    split at accepted
    · rename_i thresholds counted
      cases accepted
      exact ⟨tunnel, thresholds, rfl, counted, rfl⟩
    · cases accepted

/-- The reports of a run are noted one after the other. -/
theorem run_links (machine : Machine) (events : List Event) (interface : String) :
    (machine.run events).machine.links.get? interface =
      (machine.links.get? interface).map fun link =>
        (reportsOn interface events).foldl Link.note link := by
  induction events using List.reverseRecOn with
  | nil =>
    rw [run, List.foldl_nil, Run.start]
    simp [reportsOn]
  | append_singleton earlier last inductionHypothesis =>
    rw [run_concat, Run.step, process_links, inductionHypothesis, Option.map_map, reportsOn_concat]
    congr 1
    funext link
    rw [Function.comp_apply, List.foldl_append]

section Run

variable {name : String} {settings : BridgeSettings} {status : BridgeStatus} {machine : Machine}
variable {interface : String}

/-- A monitor has noted all reports on the probes of its interface. -/
theorem run_notes (built : new name settings status = .ok machine) (events : List Event)
    {link : Link} (linked : (machine.run events).machine.links.get? interface = some link) :
    link.monitor.Notes (reportsOn interface events) := by
  rw [run_links, Option.map_eq_some_iff] at linked
  obtain ⟨first, firstLinked, rfl⟩ := linked
  obtain ⟨tunnel, thresholds, -, -, rfl⟩ := link_of_new built firstLinked
  exact (Link.foldl_note tunnel.role thresholds _).1

/-- An interface that is configured has a link after every run, with the thresholds of the settings. -/
theorem run_linked (built : new name settings status = .ok machine) {tunnel : TunnelSettings}
    (configured : settings.tunnels.get? interface = some tunnel) (events : List Event) :
    ∃ link, (machine.run events).machine.links.get? interface = some link ∧
      link.monitor.Notes (reportsOn interface events) ∧
      Thresholds.ofCounts tunnel.thresholdDown tunnel.thresholdUp = .ok link.monitor.thresholds := by
  obtain ⟨first, firstLinked⟩ : ∃ first, machine.links.get? interface = some first := by
    have related := NameMap.rel_get?_traverse (new_eq_ok built).1 interface
    rw [configured] at related
    generalize machine.links.get? interface = linked at related ⊢
    cases related with
    | some => exact ⟨_, rfl⟩
  have linked := run_links machine events interface
  rw [firstLinked, Option.map_some] at linked
  obtain ⟨other, thresholds, otherConfigured, counted, rfl⟩ := link_of_new built firstLinked
  cases configured.symm.trans otherConfigured
  obtain ⟨notes, same⟩ := Link.foldl_note tunnel.role thresholds (reportsOn interface events)
  exact ⟨_, linked, notes, by rw [same]; exact counted⟩

/-- After any events, the monitor of an interface has come to the largest number in the reports on its
probes. Its slots hold the last result of every number in the window, and nothing if there was none. A
probe that is reported as sent takes no result away. Events in another order leave the same monitor and
the same verdict, if the results of every probe come in the same order. -/
theorem run_measures (built : new name settings status = .ok machine) {tunnel : TunnelSettings}
    (configured : settings.tunnels.get? interface = some tunnel) (events : List Event) :
    let reports := reportsOn interface events
    ∃ link, (machine.run events).machine.links.get? interface = some link ∧
      (∀ report ∈ reports, report.sequence ≤ link.monitor.sequence) ∧
      ((reports = [] ∧ link.monitor.sequence = 0) ∨
        ∃ report ∈ reports, report.sequence = link.monitor.sequence) ∧
      link.monitor.slots.length =
        max tunnel.thresholdDown.toNat tunnel.thresholdUp.toNat + 1 ∧
      link.monitor.HoldsResults reports ∧
      (∀ time sequence, ∃ later,
        (machine.run (events ++ [⟨time, .probeSent interface sequence⟩])).machine.links.get? interface =
            some later ∧ later.monitor.HoldsResults reports) ∧
      ∀ others, (reportsOn interface others).Perm reports →
        (∀ sequence, (resultsOf (reportsOn interface others)).filter (·.sequence = sequence) =
          (resultsOf reports).filter (·.sequence = sequence)) →
        ∃ other, (machine.run others).machine.links.get? interface = some other ∧
          other.monitor = link.monitor ∧ other.monitor.verdict = link.monitor.verdict := by
  intro reports
  obtain ⟨link, linked, notes, counted⟩ := run_linked built configured events
  have window : link.monitor.slots.length =
      max tunnel.thresholdDown.toNat tunnel.thresholdUp.toNat + 1 := by
    obtain ⟨_, shows, -⟩ := notes.shows
    obtain ⟨down, up⟩ := Thresholds.ofCounts_eq_ok_iff.1 counted
    rw [Monitor.slots, List.length_reverse, shows.sized, ← down, ← up]
    rfl
  refine ⟨link, linked, notes.newest, notes.reached, window, notes.holdsResults, ?_, ?_⟩
  · intro time sequence
    obtain ⟨later, laterLinked, laterNotes, -⟩ :=
      run_linked built configured (events ++ [⟨time, .probeSent interface sequence⟩])
    have sent : (Occurrence.probeSent interface sequence).reportOn? interface =
        some ⟨sequence, none⟩ := Occurrence.reportOn?_eq_some_iff.2 rfl
    have results : resultsOf (reportsOn interface
        (events ++ [⟨time, .probeSent interface sequence⟩])) = resultsOf reports := by
      rw [reportsOn_concat, sent, Option.toList_some, resultsOf_concat]
      exact List.append_nil _
    refine ⟨later, laterLinked, ?_⟩
    have holds := laterNotes.holdsResults
    unfold Monitor.HoldsResults at holds ⊢
    rwa [results] at holds
  · intro others reordered agree
    obtain ⟨other, otherLinked, otherNotes, otherCounted⟩ := run_linked built configured others
    have thresholds : other.monitor.thresholds = link.monitor.thresholds :=
      Except.ok.inj (otherCounted.symm.trans counted)
    have same := notes.unique otherNotes thresholds reordered agree
    exact ⟨other, otherLinked, same, congrArg _ same⟩

end Run

/-- The second probe comes back before it is known to be sent, and the first one is lost only later. In
the order in which all was sent, the same would be known. -/
theorem run_measures_late :
    let start : Instant := ⟨0, 0⟩
    let settings := BridgeSettings.plain .standby
    let sent (sequence : UInt64) : Event := ⟨start, .probeSent "wg0" sequence⟩
    let lost (sequence : UInt64) : Event := ⟨start, .probeLost "wg0" sequence⟩
    let returned (interface : String) (sequence : UInt64) : Event :=
      ⟨start, .probeReturned interface sequence .zero .zero .empty⟩
    let events := [returned "wg0" 2, returned "wg1" 7, sent 2, lost 1, sent 1]
    let others := [sent 1, sent 2, lost 1, returned "wg0" 2]
    ∃ machine link, new "vpn" settings (initialStatus "vpn" settings start) = .ok machine ∧
      (settings.tunnels.get? "wg0").isSome = true ∧
      (machine.run events).machine.links.get? "wg0" = some link ∧
      link.monitor.slots = [.pending, .down, .up] ∧ link.monitor.HoldsResults (reportsOn "wg0" events) ∧
      (reportsOn "wg0" others).Perm (reportsOn "wg0" events) ∧
      (∀ sequence, (resultsOf (reportsOn "wg0" others)).filter (·.sequence = sequence) =
        (resultsOf (reportsOn "wg0" events)).filter (·.sequence = sequence)) ∧
      ∃ other, (machine.run others).machine.links.get? "wg0" = some other ∧
        other.monitor = link.monitor := by
  intro start settings sent lost returned events others
  have built : new "vpn" settings (initialStatus "vpn" settings start) = .ok _ := rfl
  have configured : settings.tunnels.get? "wg0" = some _ := rfl
  have reordered : (reportsOn "wg0" others).Perm (reportsOn "wg0" events) := by decide
  have agree (sequence : UInt64) :
      (resultsOf (reportsOn "wg0" others)).filter (·.sequence = sequence) =
        (resultsOf (reportsOn "wg0" events)).filter (·.sequence = sequence) := by
    have results : resultsOf (reportsOn "wg0" others) = [⟨1, .down⟩, ⟨2, .up⟩] ∧
        resultsOf (reportsOn "wg0" events) = [⟨2, .up⟩, ⟨1, .down⟩] := by decide
    rw [results.1, results.2]
    by_cases first : sequence = 1
    · rw [first]
      decide
    · have apart : ¬1 = sequence := fun same => first same.symm
      simp [List.filter_cons, apart]
  obtain ⟨link, linked, -, -, -, holds, -, unordered⟩ := run_measures built configured events
  obtain ⟨other, otherLinked, same, -⟩ := unordered others reordered agree
  have slots : link.monitor.slots = [.pending, .down, .up] := by
    have shown := congrArg (Option.map (·.monitor.slots)) linked
    exact Option.some.inj (shown.symm.trans (by decide +kernel))
  exact ⟨_, link, built, rfl, linked, slots, holds, reordered, agree, other, otherLinked, same⟩

end Machine

end TunnelFailover
