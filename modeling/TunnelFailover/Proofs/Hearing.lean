import TunnelFailover.Proofs.Faults
import TunnelFailover.Proofs.Window
/-!
This file says what a machine knows of its partner from the polls that it has processed: which window
they leave, and what the latest ones decide.
-/

namespace TunnelFailover

/-- The standby side judges its partner one step later. -/
def Role.handicap : Role → Nat
  | active => 0
  | standby => 1

/-- What a machine has heard of its partner. -/
def Machine.hearing (machine : Machine) : Monitor × Bool × Bool × Bool :=
  (machine.partnerMonitor, machine.stance.partnerKnown, machine.stance.partnerUp,
    machine.stance.partnerConfirmed)

namespace Turn

/-- Only polls tell of the partner. -/
theorem handle_hearing {machine : Machine} {now : Instant} {occurrence : Occurrence} {turn : Turn}
    (handled : (start machine).handle now occurrence = .ok turn)
    (other : occurrence.poll? = none) : turn.machine.hearing = machine.hearing := by
  have moves := handle_moves handled
  have changes := handle_changes handled
  have ofStance (monitor : turn.machine.partnerMonitor = machine.partnerMonitor)
      (known : turn.machine.stance.partnerKnown = machine.stance.partnerKnown)
      (up : turn.machine.stance.partnerUp = machine.stance.partnerUp)
      (confirmed : turn.machine.stance.partnerConfirmed = machine.stance.partnerConfirmed) :
      turn.machine.hearing = machine.hearing := by
    unfold Machine.hearing
    rw [monitor, known, up, confirmed]
  cases occurrence with
  | partnerPolled | partnerPollFailed => cases other
  | interfaceWentDown | interfaceWentUp =>
    obtain ⟨up, inert, stance, -⟩ := moves
    exact ofStance (congrArg (·.partnerMonitor) changes) (congrArg (·.partnerKnown) stance)
      (congrArg (·.partnerUp) stance) (congrArg (·.partnerConfirmed) stance)
  | _ =>
    exact ofStance (congrArg (·.partnerMonitor) changes) (congrArg (·.partnerKnown) moves.1)
      (congrArg (·.partnerUp) moves.1) (congrArg (·.partnerConfirmed) moves.1)

/-- No handled occurrence leads to a poll. -/
theorem handle_no_poll {machine : Machine} {now : Instant} {occurrence : Occurrence} {turn : Turn}
    (handled : (start machine).handle now occurrence = .ok turn) :
    ∀ derived ∈ turn.derived, derived.poll? = none := by
  have moves := handle_moves handled
  have lower := (handle_orderly handled).2
  intro derived member
  cases occurrence with
  | probeLost | probeReturned | probeUnsent | probeSent =>
    obtain ⟨interface, rfl | rfl⟩ := moves.2 derived member <;> rfl
  | _ =>
    have low := lower derived member
    cases derived with
    | partnerPolled | partnerPollFailed => simp [Occurrence.rank] at low
    | _ => rfl

end Turn

/-- What waits behind the polls tells nothing of the partner. -/
theorem Cascade.Reaches.hearing {now : Instant} {first last : Cascade}
    (reaches : Cascade.Reaches now first last)
    (quiet : ∀ occurrence ∈ first.waiting, occurrence.poll? = none) :
    last.machine.hearing = first.machine.hearing := by
  have reached := reaches.keeps
    (fun cascade => cascade.machine.hearing = first.machine.hearing ∧
      ∀ occurrence ∈ cascade.waiting, occurrence.poll? = none)
    (fun before after kept step => by
      obtain ⟨same, stillQuiet⟩ := kept
      cases step with
      | @handle machine occurrence rest derived effects turn handled =>
        refine ⟨(Turn.handle_hearing handled (stillQuiet occurrence List.mem_cons_self)).trans same,
          fun next member => ?_⟩
        rcases List.mem_append.1 member with old | new
        · exact stillQuiet next (List.mem_cons_of_mem _ old)
        · exact Turn.handle_no_poll handled next new)
    ⟨rfl, quiet⟩
  exact reached.1

namespace Machine

/-- An event that is no poll tells nothing of the partner. -/
theorem process_hearing (machine : Machine) {event : Event}
    (other : event.occurrence.poll? = none) :
    (machine.process event).machine.hearing = machine.hearing := by
  obtain ⟨waiting, reaches, -⟩ := machine.process_leadsTo event
  exact reaches.hearing (by simpa [Cascade.start] using other)

/-- A handled poll tells of the partner, and nothing after it does. -/
theorem process_hearing_of_handled {machine : Machine} {event : Event} {turn : Turn}
    (handled : (Turn.start machine).handle event.time event.occurrence = .ok turn) :
    (machine.process event).machine.hearing = turn.machine.hearing := by
  obtain ⟨waiting, reaches⟩ := process_after handled
  exact reaches.hearing (Turn.handle_no_poll handled)

end Machine

/-- The entry that the answer to a poll leaves. -/
def BridgeStatus.liveness (report : BridgeStatus) : Liveness := if report.up then .up else .down

/-- The entries that polls leave, the newest first. A poll that fails counts only once the partner has
been heard of. -/
def entriesOf : List (Option BridgeStatus) → List Liveness
  | [] => []
  | some report :: earlier => report.liveness :: entriesOf earlier
  | none :: earlier => (if earlier.any (·.isSome) then .down else .pending) :: entriesOf earlier

/-- Polls that all fail leave unknown entries. -/
theorem entriesOf_of_unheard {polls : List (Option BridgeStatus)}
    (unheard : polls.any (·.isSome) = false) :
    entriesOf polls = List.replicate polls.length .pending := by
  induction polls with
  | nil => rfl
  | cons poll earlier inductionHypothesis =>
    simp only [List.any_cons, Bool.or_eq_false_iff] at unheard
    cases poll with
    | some report => cases unheard.1
    | none =>
      rw [entriesOf, unheard.2, inductionHypothesis unheard.2]
      rfl

/-- A success is the answer to a poll. -/
theorem any_isSome_of_up_mem {polls : List (Option BridgeStatus)} (succeeded : .up ∈ entriesOf polls) :
    polls.any (·.isSome) = true := by
  rw [← Bool.not_eq_false]
  intro unheard
  rw [entriesOf_of_unheard unheard] at succeeded
  cases List.eq_of_mem_replicate succeeded

/-- Answers of a partner that is up are successes. -/
theorem entriesOf_of_answers {polls : List (Option BridgeStatus)} {count : Nat}
    (enough : count ≤ polls.length)
    (answers : ∀ poll ∈ polls.take count, poll.any (·.up) = true) :
    ∃ older, entriesOf polls = List.replicate count .up ++ older := by
  induction polls generalizing count with
  | nil =>
    obtain rfl : count = 0 := by simpa using enough
    exact ⟨[], rfl⟩
  | cons poll earlier inductionHypothesis =>
    cases count with
    | zero => exact ⟨_, rfl⟩
    | succ count =>
      rw [List.take_succ_cons, List.forall_mem_cons] at answers
      obtain ⟨first, others⟩ := answers
      obtain ⟨report, rfl, up⟩ := (Option.any_eq_true ..).1 first
      obtain ⟨older, entries⟩ := inductionHypothesis (Nat.le_of_succ_le_succ enough) others
      refine ⟨older, ?_⟩
      rw [entriesOf, entries, BridgeStatus.liveness, if_pos up]
      rfl

/-- Polls that fail or tell of a partner that is down leave no success. -/
theorem up_not_mem_entriesOf {polls : List (Option BridgeStatus)} {count : Nat}
    (silence : ∀ poll ∈ polls.take count, poll.any (·.up) = false) :
    .up ∉ (entriesOf polls).take count := by
  induction polls generalizing count with
  | nil => simp [entriesOf]
  | cons poll earlier inductionHypothesis =>
    cases count with
    | zero => simp
    | succ count =>
      rw [List.take_succ_cons, List.forall_mem_cons] at silence
      obtain ⟨first, others⟩ := silence
      have rest := inductionHypothesis others
      cases poll with
      | none =>
        rw [entriesOf, List.take_succ_cons, List.mem_cons, not_or]
        exact ⟨by split <;> simp, rest⟩
      | some report =>
        rw [entriesOf, List.take_succ_cons, List.mem_cons, not_or, BridgeStatus.liveness,
          show report.up = false from first]
        exact ⟨by simp, rest⟩

/-- A machine knows of its partner what its polls tell, which have been numbered from one on. -/
structure Machine.Hears (machine : Machine) (thresholds : Thresholds)
    (polls : List (Option BridgeStatus)) : Prop where
  limits : machine.partnerMonitor.thresholds = thresholds
  known : machine.stance.partnerKnown = polls.any (·.isSome)
  sequence : machine.partnerMonitor.sequence.toNat =
    if polls.any (·.isSome) then polls.length else 0
  history : machine.partnerMonitor.history =
    (entriesOf polls ++ List.replicate thresholds.window Liveness.pending).take thresholds.window
  fell : machine.stance.partnerUp = true →
    ∃ failures older, entriesOf polls = List.replicate failures .down ++ .up :: older
  down : machine.stance.partnerKnown = true → machine.partnerMonitor.verdict = .down →
    machine.stance.partnerUp = false
  up : machine.stance.partnerKnown = true → machine.partnerMonitor.verdict = .up →
    machine.stance.partnerUp = true ∧ machine.stance.partnerConfirmed = true

namespace Machine

variable {machine other : Machine} {thresholds : Thresholds} {polls : List (Option BridgeStatus)}

theorem Hears.of_hearing (hears : machine.Hears thresholds polls)
    (same : other.hearing = machine.hearing) : other.Hears thresholds polls := by
  simp only [hearing, Prod.mk.injEq] at same
  obtain ⟨monitor, known, up, confirmed⟩ := same
  obtain ⟨limits, heard, sequence, history, fell, down, isUp⟩ := hears
  constructor
  · rw [monitor, limits]
  · rw [known, heard]
  · rw [monitor, sequence]
  · rw [monitor, history]
  · rw [up]
    exact fell
  · rw [known, monitor, up]
    exact down
  · rw [known, monitor, up, confirmed]
    exact isUp

/-- The next poll leaves its entry in front of the others. -/
theorem Hears.register (hears : machine.Hears thresholds polls) {sequence : UInt64}
    (next : sequence.toNat = polls.length + 1) {poll : Option BridgeStatus} {result : Liveness}
    (entry : entriesOf (poll :: polls) = result :: entriesOf polls) :
    let monitor := machine.partnerMonitor.register sequence result
    monitor.thresholds = thresholds ∧ monitor.sequence = sequence ∧
      monitor.history = (entriesOf (poll :: polls) ++
        List.replicate thresholds.window Liveness.pending).take thresholds.window := by
  have newer : machine.partnerMonitor.sequence < sequence := by
    rw [UInt64.lt_iff_toNat_lt, hears.sequence, next]
    split <;> omega
  rw [Monitor.register_of_newer newer, hears.limits, hears.history, next, hears.sequence, entry]
  refine ⟨rfl, rfl, ?_⟩
  dsimp only
  generalize windowEqual : thresholds.window = window
  obtain ⟨older, rfl⟩ : ∃ older, window = older + 1 := ⟨thresholds.larger, windowEqual.symm⟩
  rw [List.take_succ_cons, List.cons_append, List.take_succ_cons]
  cases heard : polls.any (·.isSome) with
  | true =>
    simp only [if_true, Nat.add_sub_cancel_left, Nat.sub_self, List.replicate_zero, List.nil_append,
      List.take_take]
    rw [Nat.min_eq_left (Nat.le_succ older)]
  | false =>
    -- All that is older is unknown, so that only the length of the window matters.
    rw [entriesOf_of_unheard heard]
    simp only [Bool.false_eq_true, if_false, List.replicate_append_replicate, List.take_replicate]
    congr 2
    omega

/-- A verdict on the partner that follows the next poll follows all of them. -/
theorem Hears.judge (hears : machine.Hears thresholds polls) {sequence : UInt64}
    (next : sequence.toNat = polls.length + 1) {poll : Option BridgeStatus} {result : Liveness}
    (entry : entriesOf (poll :: polls) = result :: entriesOf polls)
    (decided : result = .up ∨ result = .down) (heard : (poll :: polls).any (·.isSome) = true)
    {stance : Stance} (known : stance.partnerKnown = true)
    (adopted : stance.partnerUp = true → result = .up ∨ machine.stance.partnerUp = true)
    (monitor : other.partnerMonitor = machine.partnerMonitor.register sequence result)
    (judged : other.stance = stance.judge other.partnerMonitor.verdict) :
    other.Hears thresholds (poll :: polls) := by
  obtain ⟨limits, number, history⟩ := hears.register next entry
  rw [← monitor] at limits number history
  constructor
  · exact limits
  · rw [judged, heard, ← known]
    cases other.partnerMonitor.verdict <;> rfl
  · rw [number, next, if_pos heard, List.length_cons]
  · exact history
  · intro up
    rw [entry]
    rcases decided with rfl | rfl
    · exact ⟨0, _, rfl⟩
    · have notUp := Monitor.verdict_ne_up (history.trans (by rw [entry]; rfl))
      have wasUp : machine.stance.partnerUp = true := by
        rw [judged] at up
        cases verdict : other.partnerMonitor.verdict with
        | down =>
          rw [verdict] at up
          cases up
        | up => exact absurd verdict notUp
        | pending =>
          rw [verdict] at up
          exact (adopted up).resolve_left (by simp)
      obtain ⟨failures, older, entries⟩ := hears.fell wasUp
      exact ⟨failures + 1, older, by rw [entries]; rfl⟩
  · intro _ verdict
    rw [judged, verdict]
    rfl
  · intro _ verdict
    rw [judged, verdict]
    exact ⟨rfl, rfl⟩

/-- A failed poll of a partner that has never answered tells nothing. -/
theorem Hears.unheard (hears : machine.Hears thresholds polls)
    (unheard : polls.any (·.isSome) = false) (monitor : other.partnerMonitor = machine.partnerMonitor)
    (stance : other.stance = machine.stance) : other.Hears thresholds (none :: polls) := by
  have stillUnheard : (none :: polls).any (·.isSome) = false := unheard
  have entries := entriesOf_of_unheard unheard
  have unknown := hears.known.trans unheard
  constructor
  · rw [monitor, hears.limits]
  · rw [stance, unknown, stillUnheard]
  · rw [monitor, hears.sequence, unheard, stillUnheard]
    rfl
  · rw [monitor, hears.history, entriesOf_of_unheard stillUnheard, entries]
    simp [List.replicate_append_replicate, List.take_replicate]
  · rw [stance]
    intro up
    obtain ⟨failures, older, fell⟩ := hears.fell up
    have heard := any_isSome_of_up_mem (by simp [fell] : .up ∈ entriesOf polls)
    rw [unheard] at heard
    cases heard
  · rw [stance, unknown]
    intro contrary
    cases contrary
  · rw [stance, unknown]
    intro contrary
    cases contrary

/-- A partner that has answered often enough while up is taken to be up for sure. -/
theorem Hears.up_of_answers (hears : machine.Hears thresholds polls)
    (enough : thresholds.up ≤ polls.length)
    (answers : ∀ poll ∈ polls.take thresholds.up, poll.any (·.up) = true) :
    machine.stance.partnerUp = true ∧ machine.stance.partnerConfirmed = true := by
  have positive := thresholds.up_mem.1
  obtain ⟨older, entries⟩ := entriesOf_of_answers enough answers
  have heard : polls.any (·.isSome) = true := by
    apply any_isSome_of_up_mem
    rw [entries, List.mem_append, List.mem_replicate]
    exact .inl ⟨by omega, rfl⟩
  have history : machine.partnerMonitor.history = List.replicate thresholds.up .up ++
      (older ++ List.replicate thresholds.window Liveness.pending).take
        (thresholds.window - thresholds.up) := by
    rw [hears.history, entries, List.append_assoc, List.take_append, List.take_replicate,
      List.length_replicate, Nat.min_eq_right thresholds.up_le_window]
  have atLeast : machine.partnerMonitor.thresholds.up ≤ thresholds.up :=
    Nat.le_of_eq (congrArg Thresholds.up hears.limits)
  exact hears.up (hears.known.trans heard) (Monitor.verdict_of_successes history atLeast)

/-- A partner that has not answered for long enough, or only while down, is not taken to be up. -/
theorem Hears.down_of_silence (hears : machine.Hears thresholds polls)
    (silence : ∀ poll ∈ polls.take thresholds.down, poll.any (·.up) = false) :
    machine.stance.partnerUp = false := by
  rw [← Bool.not_eq_true]
  intro up
  obtain ⟨failures, older, entries⟩ := hears.fell up
  have noSuccess := up_not_mem_entriesOf silence
  have enough : thresholds.down ≤ failures := by
    rw [← Nat.not_lt]
    intro fewer
    apply noSuccess
    rw [entries, List.take_append, List.mem_append, List.length_replicate]
    obtain ⟨more, difference⟩ : ∃ more, thresholds.down - failures = more + 1 :=
      ⟨thresholds.down - failures - 1, by omega⟩
    rw [difference]
    exact .inr List.mem_cons_self
  have heard := any_isSome_of_up_mem (by simp [entries] : .up ∈ entriesOf polls)
  -- The window can be too short for all failures, but it is long enough for a verdict.
  have history : machine.partnerMonitor.history =
      List.replicate (min thresholds.window failures) .down ++
        (.up :: older ++ List.replicate thresholds.window Liveness.pending).take
          (thresholds.window - failures) := by
    rw [hears.history, entries, List.append_assoc, List.take_append, List.take_replicate,
      List.length_replicate]
  have verdict := Monitor.verdict_of_failures history (by
    rw [hears.limits]
    exact Nat.le_min.2 ⟨thresholds.down_le_window, enough⟩)
  rw [hears.down (hears.known.trans heard) verdict] at up
  cases up

end Machine

/-- A handled poll adds to what the machine has heard. -/
theorem Turn.handle_hears {machine : Machine} {thresholds : Thresholds}
    {polls : List (Option BridgeStatus)} {now : Instant} {occurrence : Occurrence} {turn : Turn}
    {sequence : UInt64} {poll : Option BridgeStatus}
    (handled : (start machine).handle now occurrence = .ok turn)
    (polled : occurrence.poll? = some (sequence, poll))
    (next : sequence.toNat = polls.length + 1) (hears : machine.Hears thresholds polls) :
    turn.machine.Hears thresholds (poll :: polls) := by
  have moves := handle_moves handled
  cases occurrence with
  | partnerPolled number report =>
    cases polled
    obtain ⟨monitor, judged, -⟩ := moves
    rw [← monitor] at judged
    refine hears.judge next rfl ?_ rfl rfl (fun up => ?_) monitor judged
    · cases live : report.up <;> simp [BridgeStatus.liveness, live]
    · unfold Stance.adopt at up
      cases known : machine.stance.partnerKnown with
      | true => exact .inr (by simpa [known] using up)
      | false => exact .inl (by simpa [known, BridgeStatus.liveness] using up)
  | partnerPollFailed number cause =>
    cases polled
    simp only [Occurrence.Moves] at moves
    cases known : machine.stance.partnerKnown with
    | true =>
      rw [if_pos known] at moves
      obtain ⟨monitor, judged, -⟩ := moves
      rw [← monitor] at judged
      have heard : polls.any (·.isSome) = true := hears.known.symm.trans known
      exact hears.judge next (by simp [entriesOf, heard]) (.inr rfl) heard known .inr monitor judged
    | false =>
      rw [if_neg (by simp [known])] at moves
      obtain ⟨monitor, same, -⟩ := moves
      exact hears.unheard (hears.known.symm.trans known) monitor same
  | _ => cases polled

namespace Machine

/-- A processed poll adds to what the machine has heard. -/
theorem process_hears {machine : Machine} {thresholds : Thresholds}
    {polls : List (Option BridgeStatus)} {event : Event} {sequence : UInt64}
    {poll : Option BridgeStatus} (accepted : event.occurrence.AcceptedBy machine)
    (polled : event.occurrence.poll? = some (sequence, poll))
    (next : sequence.toNat = polls.length + 1) (hears : machine.Hears thresholds polls) :
    (machine.process event).machine.Hears thresholds (poll :: polls) := by
  obtain ⟨turn, handled⟩ := Turn.handle_accepted accepted event.time
  exact (Turn.handle_hears handled polled next hears).of_hearing (process_hearing_of_handled handled)

/-- The monitor of the partner starts empty, with the thresholds of the role. -/
theorem partnerMonitorOf_eq_ok {settings : BridgeSettings} {monitor : Monitor}
    (built : partnerMonitorOf settings = .ok monitor) :
    monitor = .new monitor.thresholds ∧
      monitor.thresholds.down =
        (partnerThreshold settings.role settings.partnerThresholdDown).toNat ∧
      monitor.thresholds.up =
        (partnerThreshold settings.role settings.partnerThresholdUp).toNat := by
  unfold partnerMonitorOf at built
  split at built
  · rename_i thresholds counted
    cases built
    exact ⟨rfl, Thresholds.ofCounts_eq_ok_iff.1 counted⟩
  · cases built

/-- A threshold that a monitor accepts does not overflow when it is raised for the standby side. -/
theorem toNat_partnerThreshold (role : Role) {configured : UInt64} (within : configured.toNat ≤ 10) :
    (partnerThreshold role configured).toNat = min (configured.toNat + role.handicap) 10 := by
  have raised (steps : UInt64) (few : steps.toNat ≤ 1) :
      (min (configured + steps) 10).toNat = min (configured.toNat + steps.toNat) 10 := by
    have sum : (configured + steps).toNat = configured.toNat + steps.toNat := by
      rw [UInt64.toNat_add, Nat.mod_eq_of_lt (by omega)]
    have ten : (10 : UInt64).toNat = 10 := rfl
    change (if configured + steps ≤ 10 then configured + steps else 10).toNat = _
    simp only [apply_ite UInt64.toNat, UInt64.le_iff_toNat_le, sum, ten]
    split <;> omega
  cases role with
  | active => exact raised 0 (by decide)
  | standby => exact raised 1 (by decide)

/-- A new machine has heard nothing. -/
theorem hears_of_new {name : String} {settings : BridgeSettings} {status : BridgeStatus}
    {machine : Machine} (built : new name settings status = .ok machine) :
    machine.Hears machine.partnerMonitor.thresholds [] := by
  obtain ⟨-, monitored, -, -, -, unknown, -⟩ := new_eq_ok built
  obtain ⟨empty, -, -⟩ := partnerMonitorOf_eq_ok monitored
  have stranger : machine.stance.partnerKnown = false := by simp [stance, unknown]
  have notUp : machine.stance.partnerUp = false := by simp [stance, partnerIsUp, unknown]
  constructor
  · rfl
  · exact stranger
  · rw [empty]
    rfl
  · rw [empty]
    simp [Monitor.new, entriesOf]
  · rw [notUp]
    intro contrary
    cases contrary
  · rw [stranger]
    intro contrary
    cases contrary
  · rw [stranger]
    intro contrary
    cases contrary

end Machine

end TunnelFailover
