import TunnelFailover.Proofs.Hearing
import TunnelFailover.Proofs.Registrations
/-!
This file says what the outcomes of polls register with the monitor of the partner, and how a machine
judges its partner by them. Polls may have any numbers, and other events may come between them.
-/

namespace TunnelFailover

/-- The outcome of a poll is its number, and whether the partner is up if it has answered. -/
structure PollOutcome where
  sequence : UInt64
  up? : Option Bool
deriving DecidableEq

/-- No answer counts as an answer of a partner that is down. -/
def PollOutcome.registration (outcome : PollOutcome) : Registration :=
  ⟨outcome.sequence, if outcome.up? = some true then .up else .down⟩

theorem PollOutcome.registration_decided (outcome : PollOutcome) :
    outcome.registration.liveness ≠ .pending := by
  unfold registration
  dsimp only
  split <;> simp

/-- The outcome that an occurrence reports, if it is the result of a poll. -/
def Occurrence.outcome? (occurrence : Occurrence) : Option PollOutcome :=
  occurrence.poll?.map fun poll => ⟨poll.1, poll.2.map (·.up)⟩

/-- The outcomes that some events report, in their order. -/
def outcomesOf (events : List Event) : List PollOutcome :=
  events.filterMap (·.occurrence.outcome?)

/-- What polls register with the monitor. Those before the first answer register nothing. -/
def registrationsOf (outcomes : List PollOutcome) : List Registration :=
  (outcomes.dropWhile (·.up?.isNone)).map (·.registration)

/-- A poll registers its outcome once the partner has been heard of. -/
theorem registrationsOf_concat_of_heard {outcomes : List PollOutcome} {last : PollOutcome}
    (heard : registrationsOf outcomes ≠ [] ∨ last.up? ≠ none) :
    registrationsOf (outcomes ++ [last]) = registrationsOf outcomes ++ [last.registration] := by
  unfold registrationsOf at *
  rw [List.dropWhile_append]
  cases answered : outcomes.dropWhile (·.up?.isNone) with
  | nil =>
    have answers : last.up? ≠ none := heard.resolve_left (by simp [answered])
    simp [Option.isNone_iff_eq_none, answers]
  | cons first rest => simp

/-- A poll without an answer registers nothing as long as the partner has not been heard of. -/
theorem registrationsOf_concat_of_unheard {outcomes : List PollOutcome} {last : PollOutcome}
    (unheard : registrationsOf outcomes = []) (failed : last.up? = none) :
    registrationsOf (outcomes ++ [last]) = [] := by
  unfold registrationsOf at *
  rw [List.dropWhile_append, List.map_eq_nil_iff.1 unheard]
  simp [failed]

/-- The first answer of the partner is taken over. -/
def Stance.heed (stance : Stance) : Option Bool → Stance
  | some up => stance.adopt up
  | none => stance

/-- The partner is taken to be up once it has been heard of, or by its answer. -/
theorem Stance.heard_of_heed_up {stance : Stance} {up? : Option Bool}
    (up : (stance.heed up?).partnerUp = true) :
    stance.partnerUp = true ∨ up? = some true := by
  cases up? with
  | none => exact .inl up
  | some answer =>
    unfold heed adopt at up
    dsimp only at up
    split at up
    · exact .inl up
    · exact .inr (congrArg some up)

namespace Turn

/-- A poll goes to the monitor of the partner once this has been heard of, and the verdict decides. -/
theorem handle_outcome {machine : Machine} {now : Instant} {occurrence : Occurrence} {turn : Turn}
    {outcome : PollOutcome} (handled : (start machine).handle now occurrence = .ok turn)
    (reported : occurrence.outcome? = some outcome) :
    if machine.stance.partnerKnown = true ∨ outcome.up? ≠ none then
      let heeded := machine.stance.heed outcome.up?
      let monitor := machine.partnerMonitor.register outcome.sequence outcome.registration.liveness
      heeded.partnerKnown = true ∧ turn.machine.partnerMonitor = monitor ∧
        turn.machine.stance = heeded.judge monitor.verdict ∧
        ∃ inert, turn.derived = heeded.follows monitor.verdict ++ inert ∧ Inert inert
    else turn.machine.hearing = machine.hearing ∧ turn.derived = [] := by
  have moves := handle_moves handled
  cases occurrence with
  | partnerPolled sequence report =>
    cases reported
    have result : (if report.up then Liveness.up else .down) =
        if some report.up = some true then .up else .down := by simp
    rw [if_pos (.inr (by simp))]
    obtain ⟨monitor, judged, followed⟩ := moves
    rw [result] at monitor judged followed
    exact ⟨rfl, monitor, judged, followed⟩
  | partnerPollFailed sequence cause =>
    cases reported
    simp only [Occurrence.Moves] at moves
    cases known : machine.stance.partnerKnown with
    | true =>
      rw [if_pos known] at moves
      rw [if_pos (.inl rfl)]
      obtain ⟨monitor, judged, followed⟩ := moves
      exact ⟨known, monitor, judged, [], by rw [followed, List.append_nil]; rfl, Inert.nil⟩
    | false =>
      rw [if_neg (by simp [known])] at moves
      obtain ⟨monitor, same, nothing⟩ := moves
      have unheard : machine.hearing = turn.machine.hearing := by
        unfold Machine.hearing
        rw [monitor, same]
      rw [if_neg (by simp)]
      exact ⟨unheard.symm, nothing⟩
  | _ => cases reported

end Turn

namespace Machine

/-- The machine has had a verdict on its partner, and takes it to be up or down. -/
def HasJudged (machine : Machine) (up : Bool) : Prop :=
  machine.partnerConfirmed = true ∧ ∃ partner, machine.partner = some partner ∧ partner.up = up

theorem hasJudged_of_stance {machine : Machine} {up : Bool}
    (known : machine.stance.partnerKnown = true) (taken : machine.stance.partnerUp = up)
    (confirmed : machine.stance.partnerConfirmed = true) : machine.HasJudged up := by
  obtain ⟨partner, found⟩ := Option.isSome_iff_exists.1 known
  refine ⟨confirmed, partner, found, ?_⟩
  rw [← taken]
  simp [stance, partnerIsUp, found]

theorem partnerKnown_of_partnerUp {machine : Machine} (up : machine.stance.partnerUp = true) :
    machine.stance.partnerKnown = true := by
  cases found : machine.partner with
  | none => simp [stance, partnerIsUp, found] at up
  | some partner => simp [stance, found]

/-- A machine judges its partner by what has been registered of it. -/
structure Judges (machine : Machine) (thresholds : Thresholds) (registrations : List Registration) :
    Prop where
  monitor : machine.partnerMonitor = (Monitor.new thresholds).registerAll registrations
  known : machine.stance.partnerKnown = true ↔ registrations ≠ []
  down : machine.partnerMonitor.verdict = .down → machine.HasJudged false
  up : machine.partnerMonitor.verdict = .up → machine.HasJudged true

variable {machine other : Machine} {thresholds : Thresholds}

theorem hasJudged_iff_of_hearing (same : other.hearing = machine.hearing) (up : Bool) :
    other.HasJudged up ↔ machine.HasJudged up := by
  simp only [hearing, Prod.mk.injEq] at same
  obtain ⟨-, known, taken, confirmed⟩ := same
  have transfer {first second : Machine}
      (known : second.stance.partnerKnown = first.stance.partnerKnown)
      (taken : second.stance.partnerUp = first.stance.partnerUp)
      (confirmed : second.stance.partnerConfirmed = first.stance.partnerConfirmed)
      (judged : first.HasJudged up) : second.HasJudged up := by
    obtain ⟨firstConfirmed, partner, found, isUp⟩ := judged
    refine hasJudged_of_stance (known.trans ?_) (taken.trans ?_) (confirmed.trans firstConfirmed)
    · simp [stance, found]
    · simpa [stance, partnerIsUp, found] using isUp
  exact ⟨transfer known.symm taken.symm confirmed.symm, transfer known taken confirmed⟩

theorem Judges.of_hearing {registrations : List Registration}
    (judges : machine.Judges thresholds registrations) (same : other.hearing = machine.hearing) :
    other.Judges thresholds registrations := by
  have parts := same
  simp only [hearing, Prod.mk.injEq] at parts
  obtain ⟨monitor, known, -, -⟩ := parts
  constructor
  · rw [monitor, judges.monitor]
  · rw [known, judges.known]
  · rw [monitor, hasJudged_iff_of_hearing same]
    exact judges.down
  · rw [monitor, hasJudged_iff_of_hearing same]
    exact judges.up

theorem Judges.of_failed {registrations : List Registration}
    (judges : machine.Judges thresholds registrations)
    (failed : ((Monitor.new thresholds).registerAll registrations).verdict = .down) :
    machine.HasJudged false := judges.down (judges.monitor ▸ failed)

theorem Judges.of_succeeded {registrations : List Registration}
    (judges : machine.Judges thresholds registrations)
    (succeeded : ((Monitor.new thresholds).registerAll registrations).verdict = .up) :
    machine.HasJudged true := judges.up (judges.monitor ▸ succeeded)

/-- A handled poll adds what it registers. -/
theorem Judges.handle {outcomes : List PollOutcome}
    (judges : machine.Judges thresholds (registrationsOf outcomes)) {now : Instant}
    {occurrence : Occurrence} {turn : Turn} {outcome : PollOutcome}
    (handled : (Turn.start machine).handle now occurrence = .ok turn)
    (reported : occurrence.outcome? = some outcome) :
    turn.machine.Judges thresholds (registrationsOf (outcomes ++ [outcome])) := by
  have judged := Turn.handle_outcome handled reported
  by_cases heard : machine.stance.partnerKnown = true ∨ outcome.up? ≠ none
  · rw [if_pos heard] at judged
    obtain ⟨known, monitor, stance, -⟩ := judged
    rw [registrationsOf_concat_of_heard (heard.imp_left judges.known.1)]
    rw [← monitor] at stance
    have stillKnown : turn.machine.stance.partnerKnown = true := by
      rw [stance, ← known]
      cases turn.machine.partnerMonitor.verdict <;> rfl
    constructor
    · rw [monitor, judges.monitor, Monitor.registerAll_concat]
      rfl
    · simp [stillKnown]
    · intro down
      rw [down] at stance
      exact hasJudged_of_stance stillKnown (by rw [stance]; rfl) (by rw [stance]; rfl)
    · intro up
      rw [up] at stance
      exact hasJudged_of_stance stillKnown (by rw [stance]; rfl) (by rw [stance]; rfl)
  · rw [if_neg heard] at judged
    rw [not_or, judges.known, not_not, not_not] at heard
    rw [registrationsOf_concat_of_unheard heard.1 heard.2, ← heard.1]
    exact judges.of_hearing judged.1

/-- A new machine has nothing to judge its partner by. -/
theorem judges_of_new {name : String} {settings : BridgeSettings} {status : BridgeStatus}
    (built : new name settings status = .ok machine) :
    machine.Judges machine.partnerMonitor.thresholds [] := by
  obtain ⟨-, monitored, -, -, -, unknown, -⟩ := new_eq_ok built
  obtain ⟨empty, -, -⟩ := partnerMonitorOf_eq_ok monitored
  have undecided : machine.partnerMonitor.verdict = .pending := by
    rw [empty]
    exact Monitor.verdict_new _
  exact ⟨empty, by simp [stance, unknown], by simp [undecided], by simp [undecided]⟩

/-- After any accepted events, a machine judges its partner by the polls among them. -/
theorem run_judges {name : String} {settings : BridgeSettings} {status : BridgeStatus}
    (built : new name settings status = .ok machine) {events : List Event}
    (accepted : ∀ event ∈ events, event.occurrence.AcceptedBy machine) :
    (machine.run events).machine.Judges machine.partnerMonitor.thresholds
      (registrationsOf (outcomesOf events)) := by
  induction events using List.reverseRecOn with
  | nil => exact judges_of_new built
  | append_singleton earlier last inductionHypothesis =>
    have judges := inductionHypothesis fun event member =>
      accepted event (List.mem_append_left _ member)
    rw [run_concat, Run.step, outcomesOf, List.filterMap_append, ← outcomesOf]
    cases reported : last.occurrence.outcome? with
    | none =>
      have unpolled : last.occurrence.poll? = none := Option.map_eq_none_iff.1 reported
      simpa [reported] using judges.of_hearing (process_hearing _ unpolled)
    | some outcome =>
      have acceptedLast := (acceptedBy_iff_of_identity (machine.run_identity earlier) _).2
        (accepted last (by simp))
      obtain ⟨turn, handled⟩ := Turn.handle_accepted acceptedLast last.time
      simpa [reported] using
        (judges.handle handled reported).of_hearing (process_hearing_of_handled handled)

end Machine

/-- What is derived from occurrences of a low rank has rank zero. -/
theorem Cascade.Reaches.derived_of_low {now : Instant} {first last : Cascade}
    (reaches : Cascade.Reaches now first last) (low : ∀ waiting ∈ first.waiting, waiting.rank ≤ 1) :
    ∀ occurrence ∈ last.derived, occurrence.rank ≠ 0 → occurrence ∈ first.derived := by
  have reached := reaches.keeps
    (fun cascade => (∀ waiting ∈ cascade.waiting, waiting.rank ≤ 1) ∧
      ∀ occurrence ∈ cascade.derived, occurrence.rank ≠ 0 → occurrence ∈ first.derived)
    (fun before after kept step => by
      obtain ⟨stillLow, old⟩ := kept
      cases step with
      | @handle machine occurrence rest derived effects turn handled =>
        have inert (next : Occurrence) (member : next ∈ turn.derived) : next.rank = 0 := by
          have := (Turn.handle_orderly handled).2 next member
          have := stillLow occurrence List.mem_cons_self
          omega
        refine ⟨fun next member => ?_, fun next member ranked => ?_⟩
        · rcases List.mem_append.1 member with waits | new
          · exact stillLow next (List.mem_cons_of_mem _ waits)
          · exact Nat.le_trans (Nat.le_of_eq (inert next new)) (Nat.zero_le 1)
        · rcases List.mem_append.1 member with before | new
          · exact old next before ranked
          · exact absurd (inert next new) ranked)
    ⟨low, fun _ member _ => member⟩
  exact reached.2

namespace Machine

variable {machine : Machine} {event : Event} {outcome : PollOutcome}

/-- Whether the partner went up or down is derived from a poll at once or not at all. -/
theorem followed_of_derived (accepted : event.occurrence.AcceptedBy machine)
    (reported : event.occurrence.outcome? = some outcome) {occurrence : Occurrence}
    (derived : occurrence ∈ (machine.process event).derived) (ranked : occurrence.rank ≠ 0) :
    (machine.stance.partnerKnown = true ∨ outcome.up? ≠ none) ∧
      occurrence ∈ (machine.stance.heed outcome.up?).follows
        (machine.process event).machine.partnerMonitor.verdict := by
  obtain ⟨turn, handled⟩ := Turn.handle_accepted accepted event.time
  obtain ⟨waiting, reaches⟩ := process_after handled
  have polled : event.occurrence.rank = 2 := by
    cases kind : event.occurrence with
    | partnerPolled | partnerPollFailed => rfl
    | _ => simp [kind, Occurrence.outcome?, Occurrence.poll?] at reported
  have first := reaches.derived_of_low (fun next member => by
    have := (Turn.handle_orderly handled).2 next member
    omega) occurrence derived ranked
  have judged := Turn.handle_outcome handled reported
  by_cases heard : machine.stance.partnerKnown = true ∨ outcome.up? ≠ none
  · rw [if_pos heard] at judged
    obtain ⟨-, monitor, -, inert, followed, zero⟩ := judged
    have same : (machine.process event).machine.partnerMonitor = turn.machine.partnerMonitor :=
      congrArg (·.1) (process_hearing_of_handled handled)
    refine ⟨heard, ?_⟩
    rw [same, monitor]
    rw [followed] at first
    exact (List.mem_append.1 first).resolve_right fun member => ranked (zero occurrence member)
  · rw [if_neg heard] at judged
    rw [judged.2] at first
    cases first

/-- The partner goes down by a verdict, after it has been taken to be up. -/
theorem verdict_of_wentDown (accepted : event.occurrence.AcceptedBy machine)
    (reported : event.occurrence.outcome? = some outcome)
    (derived : .partnerWentDown ∈ (machine.process event).derived) :
    (machine.process event).machine.partnerMonitor.verdict = .down ∧
      (machine.stance.partnerUp = true ∨ outcome.up? = some true) := by
  obtain ⟨-, followed⟩ := followed_of_derived accepted reported derived (by decide)
  cases verdict : (machine.process event).machine.partnerMonitor.verdict with
  | down =>
    rw [verdict, Stance.follows] at followed
    refine ⟨rfl, Stance.heard_of_heed_up ?_⟩
    by_contra notUp
    rw [if_neg notUp] at followed
    cases followed
  | pending =>
    rw [verdict] at followed
    cases followed
  | up =>
    rw [verdict, Stance.follows] at followed
    split at followed <;> simp at followed

/-- The partner comes up by a verdict, once it has been heard of. -/
theorem verdict_of_wentUp (accepted : event.occurrence.AcceptedBy machine)
    (reported : event.occurrence.outcome? = some outcome)
    (derived : .partnerWentUp ∈ (machine.process event).derived) :
    (machine.process event).machine.partnerMonitor.verdict = .up ∧
      (machine.stance.partnerKnown = true ∨ outcome.up? ≠ none) := by
  obtain ⟨heard, followed⟩ := followed_of_derived accepted reported derived (by decide)
  cases verdict : (machine.process event).machine.partnerMonitor.verdict with
  | up => exact ⟨rfl, heard⟩
  | pending =>
    rw [verdict] at followed
    cases followed
  | down =>
    rw [verdict, Stance.follows] at followed
    split at followed <;> simp at followed

end Machine

end TunnelFailover
