import TunnelFailover.Proofs.Frame
import TunnelFailover.Proofs.Polls
import TunnelFailover.Proofs.Refusal
/-!
This file says what a machine keeps of its partner: which part of its record follows the reports, which
part follows the verdicts of the monitor, and in which order the partner goes up and down.
-/

namespace TunnelFailover

/-- A failure can only end a success of the monitor. -/
theorem Monitor.verdict_of_register_down {monitor : Monitor} {sequence : UInt64}
    (up : (monitor.register sequence .down).verdict = .up) : monitor.verdict = .up := by
  by_cases newer : monitor.sequence < sequence
  · have newest : (monitor.register sequence .down).history = .down :: List.take
        monitor.thresholds.larger (List.replicate
          (sequence.toNat - monitor.sequence.toNat - 1) Liveness.pending ++ monitor.history) := by
      rw [register_of_newer newer]
      exact List.take_succ_cons
    exact absurd up (verdict_ne_up newest)
  · have overwritten : monitor.register sequence .down =
        { monitor with
          history := monitor.history.set (monitor.sequence.toNat - sequence.toNat) .down } := by
      unfold register
      rw [if_neg newer]
    rw [overwritten] at up
    obtain ⟨count, bounded, succeeds⟩ := (verdict_eq_up_iff _).1 up
    rw [List.take_set] at succeeds
    -- A window that succeeds has no failure, so that the entry lies behind it.
    have behind : (monitor.history.take count).length ≤ monitor.sequence.toNat - sequence.toNat := by
      by_contra within
      exact succeeds.2 (List.mem_set (Nat.lt_of_not_le within) _)
    rw [List.set_eq_of_length_le behind] at succeeds
    exact monitor.verdict_eq_up_iff.2 ⟨count, bounded, succeeds⟩

namespace BridgeStatus

/-- The name and the role of a bridge. -/
def title (status : BridgeStatus) : String × Role := (status.name, status.role)

/-- The partner as the verdict on it says. One that has claimed to be up is confirmed once. -/
def judged (partner : BridgeStatus) (confirmed : Bool) (now : Instant) : Liveness → BridgeStatus
  | .down => if partner.up then partner.setUp false now else partner
  | .up => if partner.up && confirmed then partner else partner.setUp true now
  | .pending => partner

/-- The partner with what a report says beside its liveness. -/
def mirroring (partner report : BridgeStatus) : BridgeStatus :=
  let renamed := { partner with interfaces := report.interfaces, name := report.name }
  if partner.active = report.active then renamed
  else renamed.setActive report.active report.activeSince

/-- The partner without its activity. -/
def withdrawn (partner : BridgeStatus) (now : Instant) : BridgeStatus :=
  if partner.active then partner.setActive false now else partner

/-- The partner after it has gone down. -/
def fallen (partner : BridgeStatus) (now : Instant) : BridgeStatus :=
  (partner.setUp false now).withdrawn now

/-- A record that is known is the same after a change that leaves it alone. -/
theorem eq_map {record : Option BridgeStatus} {change : BridgeStatus → BridgeStatus}
    (same : ∀ partner, record = some partner → change partner = partner) :
    record = record.map change := by
  cases known : record with
  | none => rfl
  | some partner => rw [Option.map_some, same partner known]

variable (partner report : BridgeStatus) (confirmed : Bool) (now : Instant) (verdict : Liveness)

theorem judged_up :
    (partner.judged confirmed now verdict).up =
      match verdict with
      | .down => false
      | .up => true
      | .pending => partner.up := by
  cases verdict with
  | pending => rfl
  | down => cases up : partner.up <;> simp [judged, up, setUp]
  | up => cases up : partner.up <;> cases confirmed <;> simp [judged, up, setUp]

theorem judged_title : (partner.judged confirmed now verdict).title = partner.title := by
  cases verdict with
  | pending => rfl
  | down | up =>
    unfold judged
    dsimp only
    split <;> rfl

theorem mirroring_up : (partner.mirroring report).up = partner.up := by
  unfold mirroring
  dsimp only
  split <;> rfl

theorem mirroring_title : (partner.mirroring report).title = (report.name, partner.role) := by
  unfold mirroring
  dsimp only
  split <;> rfl

theorem mirroring_interfaces : (partner.mirroring report).interfaces = report.interfaces := by
  unfold mirroring
  dsimp only
  split <;> rfl

theorem mirroring_active : (partner.mirroring report).active = report.active := by
  unfold mirroring
  dsimp only
  split
  · assumption
  · rfl

theorem withdrawn_up : (partner.withdrawn now).up = partner.up := by
  unfold withdrawn
  split <;> rfl

theorem withdrawn_title : (partner.withdrawn now).title = partner.title := by
  unfold withdrawn
  split <;> rfl

theorem withdrawn_interfaces : (partner.withdrawn now).interfaces = partner.interfaces := by
  unfold withdrawn
  split <;> rfl

theorem withdrawn_active : (partner.withdrawn now).active = false := by
  unfold withdrawn
  split
  · rfl
  · rename_i inactive
    exact Bool.eq_false_iff.2 inactive

theorem withdrawn_withdrawn : (partner.withdrawn now).withdrawn now = partner.withdrawn now := by
  rw [withdrawn, withdrawn_active]
  rfl

end BridgeStatus

/-- The record of the partner after an occurrence. Reports are mirrored, verdicts decide the liveness,
and a partner that has gone down is not active. -/
def Occurrence.recordOf (before : Machine) (now : Instant) : Occurrence → Option BridgeStatus
  | partnerPolled sequence report =>
    let monitor := before.partnerMonitor.register sequence (if report.up then .up else .down)
    some (((before.partner.getD report).judged before.partnerConfirmed now monitor.verdict).mirroring
      report)
  | partnerPollFailed sequence _ =>
    let monitor := before.partnerMonitor.register sequence .down
    before.partner.map (·.judged before.partnerConfirmed now monitor.verdict)
  | partnerWentDown => before.partner.map (·.withdrawn now)
  | _ => before.partner

namespace Turn

/-- The verdict of the monitor decides the liveness of a known partner. -/
theorem judgePartner_record (turn : Turn) (now : Instant) (sequence : UInt64) (result : Liveness) :
    (turn.judgePartner now sequence result).machine.partner =
      turn.machine.partner.map (·.judged turn.machine.partnerConfirmed now
        (turn.machine.partnerMonitor.register sequence result).verdict) := by
  have liveness {partner : BridgeStatus} (known : turn.machine.partner = some partner) :
      turn.machine.partnerIsUp = partner.up := by
    simp [Machine.partnerIsUp, known]
  unfold judgePartner
  dsimp only
  split
  · rename_i verdict
    have down : (turn.machine.partnerMonitor.register sequence result).verdict = .down := verdict
    rw [down]
    split
    · rename_i wasUp
      have up : turn.machine.partnerIsUp = true := wasUp
      exact Option.map_congr fun partner known =>
        (if_pos ((liveness known).symm.trans up)).symm
    · rename_i wasDown
      have notUp : ¬turn.machine.partnerIsUp = true := wasDown
      exact BridgeStatus.eq_map fun partner known => if_neg (liveness known ▸ notUp)
  · rename_i verdict
    have up : (turn.machine.partnerMonitor.register sequence result).verdict = .up := verdict
    rw [up]
    split
    · rename_i settled
      obtain ⟨wasUp, confirmed⟩ : turn.machine.partnerIsUp = true ∧
        turn.machine.partnerConfirmed = true := settled
      exact BridgeStatus.eq_map fun partner known =>
        if_pos (Bool.and_eq_true_iff.2 ⟨(liveness known).symm.trans wasUp, confirmed⟩)
    · rename_i unsettled
      have notBoth : ¬(turn.machine.partnerIsUp = true ∧ turn.machine.partnerConfirmed = true) :=
        unsettled
      refine Option.map_congr fun partner known => (if_neg ?_).symm
      rwa [← liveness known, Bool.and_eq_true]
  · rename_i verdict
    have pending : (turn.machine.partnerMonitor.register sequence result).verdict = .pending :=
      verdict
    rw [pending]
    exact BridgeStatus.eq_map fun _ _ => rfl

/-- A known partner mirrors a report. -/
theorem followReport_record (turn : Turn) (report : BridgeStatus) :
    (turn.followReport report).machine.partner =
      turn.machine.partner.map (·.mirroring report) := by
  cases known : turn.machine.partner with
  | none => simp [followReport, updatePartner, known]
  | some partner =>
    have named : (turn.followName report).machine.partner =
        some { partner with interfaces := report.interfaces, name := report.name } := by
      unfold followName
      by_cases same : partner.name = report.name
      · simp [updatePartner, known, ← same]
      · simp [updatePartner, known, same]
    rw [followReport_eq, named, Option.map_some, BridgeStatus.mirroring]
    by_cases same : partner.active = report.active
    · simp [same, named]
    · simp [same, named, updatePartner]

/-- An occurrence leaves the record of the partner that it says. -/
theorem handle_record {machine : Machine} {now : Instant} {occurrence : Occurrence} {turn : Turn}
    (handled : (start machine).handle now occurrence = .ok turn) :
    turn.machine.partner = occurrence.recordOf machine now := by
  have changes := handle_changes handled
  cases occurrence with
  | partnerPolled sequence report =>
    have adopted : ((start machine).adoptPartner report).machine.partner =
        some (machine.partner.getD report) := by
      cases known : machine.partner <;> simp [adoptPartner, known]
    rw [handle_polled handled, followReport_record, judgePartner_record, adopted]
    rfl
  | partnerPollFailed sequence cause =>
    cases handled
    unfold partnerPollFailed
    dsimp only
    split
    · rename_i unknown
      have none : machine.partner = none := Option.isNone_iff_eq_none.1 unknown
      simp [Occurrence.recordOf, none, countError_machine]
    · exact judgePartner_record ..
  | partnerWentDown =>
    cases handled
    have takesOver (turn : Turn) :
        (if turn.machine.status.active then turn else turn.activateBridge now).machine.partner =
          turn.machine.partner := by
      split <;> rfl
    refine (takesOver _).trans ?_
    split
    · rename_i active
      refine Option.map_congr fun partner (known : machine.partner = some partner) =>
        (if_pos ?_).symm
      simpa [known] using active
    · rename_i inactive
      refine BridgeStatus.eq_map fun partner (known : machine.partner = some partner) => if_neg ?_
      simpa [known] using inactive
  | partnerWentUp =>
    cases handled
    unfold partnerWentUp
    split <;> rfl
  | _ => exact congrArg (·.partner) changes

end Turn

/-- Beside polls, only the end of the partner is written down. -/
theorem Occurrence.recordOf_of_low {occurrence : Occurrence} (low : occurrence.rank ≤ 1)
    (before : Machine) (now : Instant) :
    occurrence.recordOf before now =
      if occurrence = .partnerWentDown then before.partner.map (·.withdrawn now)
      else before.partner := by
  cases occurrence with
  | partnerPolled | partnerPollFailed => exact absurd low (Nat.not_succ_le_self 1)
  | _ => rfl

/-- A cascade without polls withdraws the activity of a partner that has gone down, and leads to
nothing but occurrences of rank zero. -/
theorem Cascade.Reaches.withdraws {now : Instant} {first last : Cascade}
    (reaches : Cascade.Reaches now first last) (done : last.waiting = [])
    (low : ∀ waiting ∈ first.waiting, waiting.rank ≤ 1) :
    last.machine.partner =
        (if .partnerWentDown ∈ first.waiting then first.machine.partner.map (·.withdrawn now)
        else first.machine.partner) ∧
      ∃ inert, last.derived = first.derived ++ inert ∧ Inert inert := by
  induction reaches using Relation.ReflTransGen.head_induction_on with
  | refl =>
    rw [done]
    exact ⟨rfl, [], (List.append_nil _).symm, Inert.nil⟩
  | head step _ inductionHypothesis =>
    cases step with
    | @handle machine occurrence rest derived effects turn handled =>
      obtain ⟨firstLow, restLow⟩ := List.forall_mem_cons.1 low
      have inert : Inert turn.derived := fun next member => by
        have := (Turn.handle_orderly handled).2 next member
        omega
      have still : Occurrence.partnerWentDown ∈ rest ++ turn.derived ↔
          Occurrence.partnerWentDown ∈ rest := by
        rw [List.mem_append]
        refine or_iff_left fun member => ?_
        cases inert _ member
      obtain ⟨record, more, derivedLater, inertLater⟩ := inductionHypothesis
        (List.forall_mem_append.2 ⟨restLow, fun next member => inert next member ▸ Nat.zero_le 1⟩)
      refine ⟨?_, turn.derived ++ more, by rw [derivedLater, List.append_assoc],
        List.forall_mem_append.2 ⟨inert, inertLater⟩⟩
      rw [record, Turn.handle_record handled, Occurrence.recordOf_of_low firstLow]
      simp only [still, List.mem_cons]
      -- A second withdrawal changes nothing.
      have again : (machine.partner.map (·.withdrawn now)).map (·.withdrawn now) =
          machine.partner.map (·.withdrawn now) := by
        rw [Option.map_map]
        exact Option.map_congr fun partner _ => partner.withdrawn_withdrawn now
      by_cases fallen : occurrence = .partnerWentDown
      · simp only [fallen, true_or, if_true, again, ite_self]
      · simp only [if_neg fallen, Ne.symm fallen, false_or]

/-- Whether the partner goes up or down, if the occurrence tells that. -/
def Occurrence.partnerTurn? : Occurrence → Option Bool
  | partnerWentUp => some true
  | partnerWentDown => some false
  | _ => none

/-- A verdict turns the partner only if this was taken to be otherwise or was not confirmed. -/
theorem Stance.follows_cases (stance : Stance) (verdict : Liveness) :
    ((stance.follows verdict).filterMap (·.partnerTurn?) = [] ∧
        (stance.judge verdict).partnerUp = stance.partnerUp ∧
        (stance.partnerConfirmed = true → (stance.judge verdict).partnerConfirmed = true)) ∨
      ∃ up, (stance.follows verdict).filterMap (·.partnerTurn?) = [up] ∧
        (stance.judge verdict).partnerUp = up ∧ (stance.judge verdict).partnerConfirmed = true ∧
        ¬(stance.partnerUp = up ∧ stance.partnerConfirmed = true) := by
  cases verdict with
  | pending => exact .inl ⟨rfl, rfl, id⟩
  | down =>
    cases up : stance.partnerUp with
    | true => exact .inr ⟨false, by simp [follows, up, Occurrence.partnerTurn?], rfl, rfl, by simp⟩
    | false => exact .inl ⟨by simp [follows, up], rfl, fun _ => rfl⟩
  | up =>
    cases settled : stance.partnerUp && stance.partnerConfirmed with
    | true =>
      obtain ⟨up, confirmed⟩ := Bool.and_eq_true_iff.1 settled
      exact .inl ⟨by simp [follows, settled], up.symm, fun _ => rfl⟩
    | false =>
      refine .inr ⟨true, by simp [follows, settled, Occurrence.partnerTurn?], rfl, rfl, ?_⟩
      rw [← Bool.and_eq_true_iff, settled]
      exact Bool.false_ne_true

theorem Inert.filterMap_partnerTurn? {occurrences : List Occurrence} (inert : Inert occurrences) :
    occurrences.filterMap (·.partnerTurn?) = [] := by
  rw [List.filterMap_eq_nil_iff]
  intro occurrence member
  have zero := inert occurrence member
  cases occurrence with
  | partnerWentUp | partnerWentDown => cases zero
  | _ => rfl

/-- The report of a poll, if it has the name of the bridge and the other role. -/
def Occurrence.acceptedReport? (name : String) (role : Role) : Occurrence → Option BridgeStatus
  | partnerPolled _ report =>
    if report.name = name ∧ report.role ≠ role then some report else none
  | _ => none

theorem Occurrence.acceptedReport?_eq_some_iff {name : String} {role : Role} {occurrence : Occurrence}
    {report : BridgeStatus} :
    occurrence.acceptedReport? name role = some report ↔
      report.name = name ∧ report.role ≠ role ∧
        ∃ sequence, occurrence = partnerPolled sequence report := by
  cases occurrence with
  | partnerPolled sequence other =>
    unfold acceptedReport?
    dsimp only
    constructor
    · intro found
      split at found
      · rename_i accepted
        cases found
        exact ⟨accepted.1, accepted.2, sequence, rfl⟩
      · cases found
    · rintro ⟨sameName, otherRole, _, ⟨⟩⟩
      exact if_pos ⟨sameName, otherRole⟩
  | _ => simp [acceptedReport?]

namespace Machine

variable {machine : Machine} {event : Event}

/-- An event without fault is processed to its end. -/
theorem process_reaches {turn : Turn} (calm : (machine.process event).fault = none)
    (handled : (Turn.start machine).handle event.time event.occurrence = .ok turn) :
    Cascade.Reaches event.time ⟨turn.machine, turn.derived, turn.derived, turn.effects⟩
      ⟨(machine.process event).machine, [], (machine.process event).derived,
        (machine.process event).effects⟩ := by
  obtain ⟨waiting, reaches, ending⟩ := machine.process_leadsTo event
  rw [calm] at ending
  obtain rfl : waiting = [] := ending
  rcases Relation.ReflTransGen.cases_head reaches with same | ⟨next, step, rest⟩
  · cases (congrArg Cascade.waiting same : [event.occurrence] = [])
  · cases step with
    | handle taken =>
      rw [handled] at taken
      cases taken
      exact rest

/-- A handled poll leaves the record that it says, without the activity of a partner that goes down. What
else is derived has rank zero. -/
theorem process_polled {turn : Turn} (named : machine.Named)
    (accepted : event.occurrence.AcceptedBy machine) (polled : event.occurrence.poll?.isSome = true)
    (handled : (Turn.start machine).handle event.time event.occurrence = .ok turn) :
    let outcome := machine.process event
    let record := event.occurrence.recordOf machine event.time
    outcome.machine.partner =
        (if .partnerWentDown ∈ outcome.derived then record.map (·.withdrawn event.time)
        else record) ∧
      ∃ inert, outcome.derived = turn.derived ++ inert ∧ Inert inert := by
  intro outcome record
  have rank : event.occurrence.rank = 2 := by
    cases kind : event.occurrence with
    | partnerPolled | partnerPollFailed => rfl
    | _ => simp [kind, Occurrence.poll?] at polled
  obtain ⟨withdraws, inert, derived, zero⟩ :=
    (process_reaches (process_accepted accepted named).1 handled).withdraws rfl
      fun next member => by
        have := (Turn.handle_orderly handled).2 next member
        omega
  refine ⟨?_, inert, derived, zero⟩
  have told : Occurrence.partnerWentDown ∈ outcome.derived ↔
      Occurrence.partnerWentDown ∈ turn.derived := by
    rw [show outcome.derived = _ from derived, List.mem_append]
    refine or_iff_left fun member => ?_
    cases zero _ member
  simp only [told]
  rw [show record = turn.machine.partner from (Turn.handle_record handled).symm]
  exact withdraws

/-- Probes do not tell of the partner. -/
theorem process_probed {probe : String × ProbeReport}
    (told : event.occurrence.probe? = some probe) :
    (machine.process event).machine.partner = machine.partner ∧
      (machine.process event).derived.filterMap (·.partnerTurn?) = [] := by
  refine ⟨congrArg Prod.fst (process_probe_partner machine told), ?_⟩
  have within := (machine.process_within Occurrence.closes_isTunnelSide
    (isReported_of_probe? told).2.1 (fun _ => ()) fun _ _ => rfl).2
  rw [List.filterMap_eq_nil_iff]
  intro derived member
  have side := within derived member
  cases derived with
  | partnerWentUp | partnerWentDown => cases side
  | _ => rfl

/-- Other reports than those of polls do not tell of the partner. -/
theorem process_unpolled (machine : Machine)
    (reported : event.occurrence.isReported = true)
    (unpolled : event.occurrence.poll? = none) :
    (machine.process event).machine.partner = machine.partner ∧
      (machine.process event).derived.filterMap (·.partnerTurn?) = [] := by
  obtain ⟨time, occurrence⟩ := event
  cases occurrence with
  | probeLost | probeReturned | probeUnsent | probeSent => exact process_probed rfl
  | partnerPolled | partnerPollFailed => cases unpolled
  | bridgeReactivated iteration =>
    rw [process_bridgeReactivated]
    split <;> exact ⟨rfl, rfl⟩
  | interfaceReactivated interface iteration =>
    rw [process_interfaceReactivated]
    split <;> exact ⟨rfl, rfl⟩
  | _ => cases reported

/-- The partner has been judged, as far as the stance tells. -/
theorem hasJudged_iff {up : Bool} :
    machine.HasJudged up ↔
      machine.stance.partnerKnown = true ∧ machine.stance.partnerUp = up ∧
        machine.stance.partnerConfirmed = true := by
  constructor
  · rintro ⟨confirmed, partner, found, taken⟩
    refine ⟨?_, ?_, confirmed⟩
    · simp [stance, found]
    · simpa [stance, partnerIsUp, found] using taken
  · rintro ⟨known, taken, confirmed⟩
    exact hasJudged_of_stance known taken confirmed

theorem HasJudged.up_eq {up : Bool} (judged : machine.HasJudged up) {partner : BridgeStatus}
    (known : machine.partner = some partner) : partner.up = up := by
  obtain ⟨-, other, found, isUp⟩ := judged
  rw [known] at found
  cases found
  exact isUp

/-- The turns of the partner alternate, and the latest one tells how the machine has judged it. -/
structure Alternates (machine : Machine) (turns : List Bool) : Prop where
  chain : turns.IsChain (· ≠ ·)
  latest : ∀ up, turns.getLast? = some up → machine.HasJudged up

theorem Alternates.of_hearing {turns : List Bool} {other : Machine}
    (alternates : machine.Alternates turns) (same : other.hearing = machine.hearing) :
    other.Alternates turns :=
  ⟨alternates.chain, fun up last => (hasJudged_iff_of_hearing same up).2 (alternates.latest up last)⟩

/-- A poll adds a turn of the partner only if it contradicts the latest one. -/
theorem Alternates.handle {turns : List Bool} (alternates : machine.Alternates turns) {now : Instant}
    {occurrence : Occurrence} {turn : Turn} {outcome : PollOutcome}
    (handled : (Turn.start machine).handle now occurrence = .ok turn)
    (reported : occurrence.outcome? = some outcome) :
    turn.machine.Alternates (turns ++ turn.derived.filterMap (·.partnerTurn?)) := by
  have judged := Turn.handle_outcome handled reported
  by_cases heard : machine.stance.partnerKnown = true ∨ outcome.up? ≠ none
  · rw [if_pos heard] at judged
    obtain ⟨known, -, stance, inert, derived, zero⟩ := judged
    have latest (up : Bool) (last : turns.getLast? = some up) :
        (machine.stance.heed outcome.up?).partnerUp = up ∧
          (machine.stance.heed outcome.up?).partnerConfirmed = true := by
      obtain ⟨wasKnown, taken, confirmed⟩ := hasJudged_iff.1 (alternates.latest up last)
      cases outcome.up? with
      | none => exact ⟨taken, confirmed⟩
      | some answer => exact ⟨by simpa [Stance.heed, Stance.adopt, wasKnown] using taken, confirmed⟩
    rw [derived, List.filterMap_append, zero.filterMap_partnerTurn?, List.append_nil]
    generalize machine.stance.heed outcome.up? = heeded at known stance latest ⊢
    generalize (machine.partnerMonitor.register _ _).verdict = verdict at stance ⊢
    have stillKnown : turn.machine.stance.partnerKnown = true := by
      rw [stance, ← known]
      cases verdict <;> rfl
    have cases := heeded.follows_cases verdict
    rw [← stance] at cases
    rcases cases with ⟨nothing, same, confirmed⟩ | ⟨up, turned, taken, confirmed, otherwise⟩
    · rw [nothing, List.append_nil]
      refine ⟨alternates.chain, fun up last => ?_⟩
      obtain ⟨wasTaken, wasConfirmed⟩ := latest up last
      exact hasJudged_of_stance stillKnown (same.trans wasTaken) (confirmed wasConfirmed)
    · rw [turned]
      constructor
      · rw [List.isChain_append]
        refine ⟨alternates.chain, List.isChain_singleton up, ?_⟩
        rintro former last next ⟨⟩ rfl
        exact otherwise (latest former last)
      · intro last isLast
        rw [List.getLast?_concat] at isLast
        cases isLast
        exact hasJudged_of_stance stillKnown taken confirmed
  · rw [if_neg heard] at judged
    rw [judged.2, List.filterMap_nil, List.append_nil]
    exact alternates.of_hearing judged.1

/-- A reported event is a poll that is accepted, or leaves all that is known of the partner as it is. -/
theorem process_heard_or (machine : Machine) (reported : event.occurrence.isReported = true) :
    let outcome := machine.process event
    (event.occurrence.AcceptedBy machine ∧ event.occurrence.poll?.isSome = true) ∨
      (event.occurrence.acceptedReport? machine.name machine.role = none ∧
        outcome.machine.partner = machine.partner ∧ outcome.machine.hearing = machine.hearing ∧
        outcome.derived.filterMap (·.partnerTurn?) = []) := by
  intro outcome
  cases refusal : event.occurrence.refusal? machine.name machine.role with
  | some fault =>
    rw [show outcome = _ from process_refused refusal]
    refine .inr ⟨Option.eq_none_iff_forall_ne_some.2 fun report told => ?_, rfl, rfl, rfl⟩
    obtain ⟨sameName, otherRole, sequence, polled⟩ := Occurrence.acceptedReport?_eq_some_iff.1 told
    simp [polled, Occurrence.refusal?, sameName, otherRole] at refusal
  | none =>
    cases polled : event.occurrence.poll? with
    | none =>
      obtain ⟨partner, turns⟩ := machine.process_unpolled reported polled
      refine .inr ⟨?_, partner, process_hearing machine polled, turns⟩
      cases kind : event.occurrence with
      | partnerPolled => simp [kind, Occurrence.poll?] at polled
      | _ => rfl
    | some poll => exact .inl ⟨Occurrence.acceptedBy_of_refusal? reported refusal, rfl⟩

/-- Every event continues the turns of the partner. -/
theorem Alternates.process {turns : List Bool} (alternates : machine.Alternates turns)
    (named : machine.Named) (reported : event.occurrence.isReported = true) :
    (machine.process event).machine.Alternates
      (turns ++ (machine.process event).derived.filterMap (·.partnerTurn?)) := by
  rcases machine.process_heard_or reported with ⟨accepted, polled⟩ | ⟨-, -, hearing, nothing⟩
  · obtain ⟨turn, handled⟩ := Turn.handle_accepted accepted event.time
    obtain ⟨poll, found⟩ := Option.isSome_iff_exists.1 polled
    obtain ⟨-, inert, derived, zero⟩ := process_polled named accepted polled handled
    rw [derived, List.filterMap_append, zero.filterMap_partnerTurn?, List.append_nil]
    exact (alternates.handle handled (congrArg (Option.map _) found)).of_hearing
      (process_hearing_of_handled handled)
  · rw [nothing, List.append_nil]
    exact alternates.of_hearing hearing

/-- An accepted poll leaves the record that it says, but for the activity of a partner that goes down. -/
theorem process_poll_record (named : machine.Named) (accepted : event.occurrence.AcceptedBy machine)
    (polled : event.occurrence.poll?.isSome = true) {record : BridgeStatus}
    (recorded : event.occurrence.recordOf machine event.time = some record) :
    let outcome := machine.process event
    ∃ partner, outcome.machine.partner = some partner ∧ partner.title = record.title ∧
      partner.up = record.up ∧ partner.interfaces = record.interfaces ∧
      partner.active = (record.active && .partnerWentDown ∉ outcome.derived) := by
  intro outcome
  obtain ⟨turn, handled⟩ := Turn.handle_accepted accepted event.time
  have withdraws := (process_polled named accepted polled handled).1
  rw [recorded] at withdraws
  by_cases fell : Occurrence.partnerWentDown ∈ outcome.derived
  · rw [if_pos fell] at withdraws
    refine ⟨_, withdraws, record.withdrawn_title _, record.withdrawn_up _,
      record.withdrawn_interfaces _, ?_⟩
    simp [record.withdrawn_active, fell]
  · rw [if_neg fell] at withdraws
    exact ⟨_, withdraws, rfl, rfl, rfl, by simp [fell]⟩

/-- A failed poll of a known partner counts, and the verdict decides what is derived. -/
theorem moves_of_known {now : Instant} {sequence : UInt64} {cause : String} {turn : Turn}
    {former : BridgeStatus} (known : machine.partner = some former)
    (handled : (Turn.start machine).handle now (.partnerPollFailed sequence cause) = .ok turn) :
    turn.machine.partnerMonitor = machine.partnerMonitor.register sequence .down ∧
      turn.derived =
        machine.stance.follows (machine.partnerMonitor.register sequence .down).verdict := by
  have heard : machine.stance.partnerKnown = true := by simp [stance, known]
  have moves := Turn.handle_moves handled
  rw [Occurrence.Moves] at moves
  simp only [heard, if_true] at moves
  exact ⟨moves.1, moves.2.2⟩

/-- A known partner keeps its name and its role, and is up or down as the monitor says. As long as the
monitor says neither, it stays as it is. -/
theorem process_known (named : machine.Named) {thresholds : Thresholds}
    {registrations : List Registration} (judges : machine.Judges thresholds registrations)
    (reported : event.occurrence.isReported = true) {former : BridgeStatus}
    (known : machine.partner = some former) :
    let after := (machine.process event).machine
    ∃ partner, after.partner = some partner ∧ partner.title = former.title ∧
      partner.up =
        match after.partnerMonitor.verdict with
        | .down => false
        | .up => true
        | .pending => former.up := by
  intro after
  rcases machine.process_heard_or reported with ⟨accepted, polled⟩ | ⟨-, same, hearing, -⟩
  · obtain ⟨turn, handled⟩ := Turn.handle_accepted accepted event.time
    have monitor : after.partnerMonitor = turn.machine.partnerMonitor :=
      congrArg Prod.fst (process_hearing_of_handled handled)
    cases kind : event.occurrence with
    | partnerPolled sequence report =>
      have moves := Turn.handle_moves handled
      rw [kind] at accepted moves
      have recorded : event.occurrence.recordOf machine event.time =
          some ((former.judged machine.partnerConfirmed event.time
            turn.machine.partnerMonitor.verdict).mirroring report) := by
        rw [kind, moves.1, Occurrence.recordOf, known]
        rfl
      obtain ⟨partner, found, title, up, -⟩ :=
        process_poll_record named (kind ▸ accepted) polled recorded
      refine ⟨partner, found, ?_, ?_⟩
      · rw [title, BridgeStatus.mirroring_title, accepted.1, ← named former known]
        exact congrArg (former.name, ·.2) (former.judged_title ..)
      · rw [up, BridgeStatus.mirroring_up, BridgeStatus.judged_up, monitor]
    | partnerPollFailed sequence cause =>
      have moves := moves_of_known known (kind ▸ handled)
      have recorded : event.occurrence.recordOf machine event.time =
          some (former.judged machine.partnerConfirmed event.time
            turn.machine.partnerMonitor.verdict) := by
        rw [kind, moves.1, Occurrence.recordOf, known]
        rfl
      obtain ⟨partner, found, title, up, -⟩ := process_poll_record named accepted polled recorded
      refine ⟨partner, found, title.trans (former.judged_title ..), ?_⟩
      rw [up, BridgeStatus.judged_up, monitor]
    | _ => simp [kind, Occurrence.poll?] at polled
  · refine ⟨former, same.trans known, rfl, ?_⟩
    rw [show after.partnerMonitor = machine.partnerMonitor from congrArg Prod.fst hearing]
    cases verdict : machine.partnerMonitor.verdict with
    | pending => rfl
    | down => exact (judges.down verdict).up_eq known
    | up => exact (judges.up verdict).up_eq known

/-- A failed poll changes the record of the partner only if this goes down with it. -/
theorem process_failed (named : machine.Named) {thresholds : Thresholds}
    {registrations : List Registration} (judges : machine.Judges thresholds registrations)
    {sequence : UInt64} {cause : String}
    (failed : event.occurrence = .partnerPollFailed sequence cause) :
    let outcome := machine.process event
    outcome.machine.partner =
      if .partnerWentDown ∈ outcome.derived then machine.partner.map (·.fallen event.time)
      else machine.partner := by
  intro outcome
  have accepted : event.occurrence.AcceptedBy machine := by
    rw [failed]
    trivial
  obtain ⟨turn, handled⟩ := Turn.handle_accepted accepted event.time
  obtain ⟨withdraws, inert, derived, zero⟩ :=
    process_polled named accepted (by rw [failed]; rfl) handled
  change outcome.machine.partner = if .partnerWentDown ∈ outcome.derived then _ else _ at withdraws
  rw [withdraws]
  cases known : machine.partner with
  | none => simp [failed, Occurrence.recordOf, known]
  | some former =>
    have moves := moves_of_known known (failed ▸ handled)
    have told : Occurrence.partnerWentDown ∈ outcome.derived ↔ Occurrence.partnerWentDown ∈
        machine.stance.follows (machine.partnerMonitor.register sequence .down).verdict := by
      rw [show outcome.derived = _ from derived, List.mem_append, moves.2]
      refine or_iff_left fun member => ?_
      cases zero _ member
    have up : machine.stance.partnerUp = former.up := by simp [stance, partnerIsUp, known]
    simp only [told, failed, Occurrence.recordOf, known, Option.map_some]
    cases verdict : (machine.partnerMonitor.register sequence .down).verdict with
    | pending => rfl
    | down =>
      rw [Stance.follows, up, BridgeStatus.judged]
      cases former.up with
      | true => simp [BridgeStatus.fallen]
      | false => simp
    | up =>
      -- The monitor has been for it before, so that the partner is up and confirmed already.
      have judged := judges.up (Monitor.verdict_of_register_down verdict)
      obtain ⟨-, wasUp, confirmed⟩ := hasJudged_iff.1 judged
      have isConfirmed : machine.partnerConfirmed = true := confirmed
      have isUp : former.up = true := up.symm.trans wasUp
      simp [Stance.follows, BridgeStatus.judged, wasUp, confirmed, isUp, isConfirmed]

/-- An accepted report is mirrored, but for the activity of a partner that goes down. -/
theorem process_report (named : machine.Named) {report : BridgeStatus}
    (told : event.occurrence.acceptedReport? machine.name machine.role = some report) :
    let outcome := machine.process event
    ∃ partner, outcome.machine.partner = some partner ∧
      partner.interfaces = report.interfaces ∧
      partner.active = (report.active && .partnerWentDown ∉ outcome.derived) := by
  intro outcome
  obtain ⟨sameName, otherRole, sequence, polled⟩ := Occurrence.acceptedReport?_eq_some_iff.1 told
  have accepted : event.occurrence.AcceptedBy machine := by
    rw [polled]
    exact ⟨sameName, otherRole⟩
  obtain ⟨partner, found, -, -, interfaces, active⟩ :=
    process_poll_record named accepted (by rw [polled]; rfl) (by rw [polled]; rfl)
  rw [BridgeStatus.mirroring_interfaces] at interfaces
  rw [BridgeStatus.mirroring_active] at active
  exact ⟨partner, found, interfaces, active⟩

/-- The partner is known from the first report on that is accepted. -/
theorem process_isSome (named : machine.Named) (reported : event.occurrence.isReported = true) :
    (machine.process event).machine.partner.isSome =
      (machine.partner.isSome ||
        (event.occurrence.acceptedReport? machine.name machine.role).isSome) := by
  rcases machine.process_heard_or reported with ⟨accepted, polled⟩ | ⟨nothing, same, -⟩
  · obtain ⟨turn, handled⟩ := Turn.handle_accepted accepted event.time
    have recorded : (machine.process event).machine.partner.isSome =
        (event.occurrence.recordOf machine event.time).isSome := by
      rw [(process_polled named accepted polled handled).1]
      split
      · exact Option.isSome_map
      · rfl
    rw [recorded]
    cases kind : event.occurrence with
    | partnerPolled sequence report =>
      rw [kind] at accepted
      simp [Occurrence.recordOf, Occurrence.acceptedReport?_eq_some_iff.2
        ⟨accepted.1, accepted.2, sequence, rfl⟩]
    | partnerPollFailed => simp [Occurrence.recordOf, Occurrence.acceptedReport?]
    | _ => simp [kind, Occurrence.poll?] at polled
  · rw [same, nothing, Option.isSome_none, Bool.or_false]

section Run

variable {name : String} {settings : BridgeSettings} {start : Instant}

/-- A run knows as much as one without the events that it refuses. -/
theorem run_welcome {status : BridgeStatus} (built : new name settings status = .ok machine)
    (events : List Event) :
    (machine.run events).machine = (machine.run (events.filter fun event =>
      (event.occurrence.refusal? name settings.role).isNone)).machine := by
  induction events using List.reverseRecOn with
  | nil => rfl
  | append_singleton earlier last inductionHypothesis =>
    rw [List.filter_append]
    cases refusal : last.occurrence.refusal? name settings.role with
    | some fault =>
      have refused : (machine.run earlier).machine.process last = _ :=
        process_refused ((run_refusal? built earlier _).trans refusal)
      rw [run_concat, Run.step, refused]
      simpa [refusal] using inductionHypothesis
    | none =>
      have welcome : List.filter
          (fun event => (event.occurrence.refusal? name settings.role).isNone) [last] = [last] := by
        simp [refusal]
      rw [welcome, run_concat, run_concat, Run.step, Run.step, inductionHypothesis]

/-- After any reports, a machine judges its partner by the polls that it has accepted. -/
theorem run_judged {status : BridgeStatus} (built : new name settings status = .ok machine)
    {events : List Event} (reported : ∀ event ∈ events, event.occurrence.isReported = true) :
    ∃ registrations, (machine.run events).machine.Judges machine.partnerMonitor.thresholds
      registrations := by
  rw [run_welcome built]
  refine ⟨_, run_judges built fun event member => ?_⟩
  obtain ⟨among, welcome⟩ := List.mem_filter.1 member
  obtain ⟨-, -, sameName, sameRole, -⟩ := new_eq_ok built
  refine Occurrence.acceptedBy_of_refusal? (reported event among) ?_
  rw [sameName, sameRole]
  exact Option.isNone_iff_eq_none.1 welcome

/-- The turns of the partner alternate in every run. -/
theorem run_alternates {status : BridgeStatus} (built : new name settings status = .ok machine)
    {events : List Event} (reported : ∀ event ∈ events, event.occurrence.isReported = true) :
    (machine.run events).machine.Alternates
      ((machine.runDerivedEvents events).filterMap (·.occurrence.partnerTurn?)) := by
  induction events using List.reverseRecOn with
  | nil => exact ⟨List.isChain_nil, fun up last => nomatch last⟩
  | append_singleton earlier last inductionHypothesis =>
    obtain ⟨earlierReported, lastReported⟩ := List.forall_mem_append.1 reported
    rw [run_concat, runDerivedEvents_concat, List.filterMap_append, derivedEvents,
      List.filterMap_map]
    exact (inductionHypothesis earlierReported).process (run_named built earlier)
      (lastReported last (List.mem_singleton_self last))

/-- A known partner keeps its name and its role through all that follows. -/
theorem run_keeps_title {status : BridgeStatus} (built : new name settings status = .ok machine)
    {earlier : List Event} (reported : ∀ event ∈ earlier, event.occurrence.isReported = true)
    {former : BridgeStatus} (known : (machine.run earlier).machine.partner = some former)
    {later : List Event} (stillReported : ∀ event ∈ later, event.occurrence.isReported = true) :
    ∃ partner, (machine.run (earlier ++ later)).machine.partner = some partner ∧
      partner.title = former.title := by
  induction later using List.reverseRecOn with
  | nil => exact ⟨former, by rwa [List.append_nil], rfl⟩
  | append_singleton between last inductionHypothesis =>
    obtain ⟨betweenReported, lastReported⟩ := List.forall_mem_append.1 stillReported
    obtain ⟨partner, found, title⟩ := inductionHypothesis betweenReported
    obtain ⟨registrations, judges⟩ :=
      run_judged built (List.forall_mem_append.2 ⟨reported, betweenReported⟩)
    obtain ⟨next, nextFound, nextTitle, -⟩ := process_known (run_named built _) judges
      (lastReported last (List.mem_singleton_self last)) found
    rw [← List.append_assoc, run_concat]
    exact ⟨next, nextFound, nextTitle.trans title⟩

/-- The partner is known just if a report has been accepted. -/
theorem run_isSome {status : BridgeStatus} (built : new name settings status = .ok machine)
    {events : List Event} (reported : ∀ event ∈ events, event.occurrence.isReported = true) :
    (machine.run events).machine.partner.isSome =
      events.any fun event => (event.occurrence.acceptedReport? name settings.role).isSome := by
  induction events using List.reverseRecOn with
  | nil =>
    obtain ⟨-, -, -, -, -, unknown, -⟩ := new_eq_ok built
    exact congrArg Option.isSome unknown
  | append_singleton earlier last inductionHypothesis =>
    obtain ⟨earlierReported, lastReported⟩ := List.forall_mem_append.1 reported
    obtain ⟨-, -, sameName, sameRole, -⟩ := new_eq_ok built
    have identity := machine.run_identity earlier
    have name : (machine.run earlier).machine.name = name :=
      (congrArg (·.1) identity).trans sameName
    have role : (machine.run earlier).machine.role = settings.role :=
      (congrArg (·.2.1) identity).trans sameRole
    have isSome := process_isSome (run_named built earlier)
      (lastReported last (List.mem_singleton_self last))
    rw [inductionHypothesis earlierReported, name, role] at isSome
    rw [run_concat, List.any_append, List.any_cons, List.any_nil, Bool.or_false]
    exact isSome

/-- A machine knows its partner from the first accepted report on. From then on the partner keeps its
name and its role, is up or down as the monitor says, and stays as it is while the monitor says neither.
An accepted report is mirrored in the interfaces, and in the activity unless the partner goes down with
it. A failed poll changes the record only if the partner goes down with it, and nothing else changes it
at all. In every run, the partner comes up and goes down by turns. -/
theorem run_mirrors (built : new name settings (initialStatus name settings start) = .ok machine)
    {events : List Event} (reported : ∀ event ∈ events, event.occurrence.isReported = true) :
    let before := (machine.run events).machine
    before.partner.isSome =
        events.any (fun event =>
          (event.occurrence.acceptedReport? name settings.role).isSome) ∧
      ((machine.runDerivedEvents events).filterMap (·.occurrence.partnerTurn?)).IsChain (· ≠ ·) ∧
      (∀ former, before.partner = some former →
        (before.partnerMonitor.verdict = .down → former.up = false) ∧
          (before.partnerMonitor.verdict = .up → former.up = true) ∧
          ∀ later : List Event, (∀ event ∈ later, event.occurrence.isReported = true) →
            ∃ partner, (machine.run (events ++ later)).machine.partner = some partner ∧
              (partner.name, partner.role) = (former.name, former.role)) ∧
      ∀ event : Event, event.occurrence.isReported = true →
        let outcome := before.process event
        (∀ report, event.occurrence.acceptedReport? name settings.role = some report →
          ∃ partner, outcome.machine.partner = some partner ∧
            partner.interfaces = report.interfaces ∧
            partner.active = (report.active && .partnerWentDown ∉ outcome.derived)) ∧
        (∀ sequence cause, event.occurrence = .partnerPollFailed sequence cause →
          outcome.machine.partner =
            if .partnerWentDown ∈ outcome.derived then before.partner.map (·.fallen event.time)
            else before.partner) ∧
        (event.occurrence.acceptedReport? name settings.role = none →
          (∀ sequence cause, event.occurrence ≠ .partnerPollFailed sequence cause) →
            outcome.machine.partner = before.partner) ∧
        ∀ former, before.partner = some former →
          ∃ partner, outcome.machine.partner = some partner ∧
            partner.up =
              match outcome.machine.partnerMonitor.verdict with
              | .down => false
              | .up => true
              | .pending => former.up := by
  intro before
  obtain ⟨registrations, judges⟩ := run_judged built reported
  have named : before.Named := run_named built events
  obtain ⟨-, -, sameName, sameRole, -⟩ := new_eq_ok built
  have identity : before.identity = machine.identity := machine.run_identity events
  have accepts (event : Event) : event.occurrence.acceptedReport? before.name before.role =
      event.occurrence.acceptedReport? name settings.role := by
    rw [← sameName, ← sameRole]
    exact congrArg₂ event.occurrence.acceptedReport? (congrArg (·.1) identity)
      (congrArg (·.2.1) identity)
  refine ⟨run_isSome built reported, (run_alternates built reported).chain,
    fun former known => ⟨fun down => (judges.down down).up_eq known,
      fun up => (judges.up up).up_eq known, fun later stillReported =>
        run_keeps_title built reported known stillReported⟩, ?_⟩
  intro event next outcome
  refine ⟨fun report told => process_report named ((accepts event).trans told),
    fun sequence cause failed => process_failed named judges failed,
    fun untold answered => ?_, fun former known => ?_⟩
  · rcases before.process_heard_or next with ⟨accepted, polled⟩ | ⟨-, same, -⟩
    · cases kind : event.occurrence with
      | partnerPolled sequence report =>
        rw [kind] at accepted
        rw [← accepts, Occurrence.acceptedReport?_eq_some_iff.2
          ⟨accepted.1, accepted.2, sequence, kind⟩] at untold
        cases untold
      | partnerPollFailed sequence cause => exact absurd kind (answered sequence cause)
      | _ => simp [kind, Occurrence.poll?] at polled
    · exact same
  · obtain ⟨partner, found, -, up⟩ := process_known named judges next known
    exact ⟨partner, found, up⟩

/-- A standby bridge hears of its partner after a poll that has failed, and the third failure after
that takes the partner down, which has not come up before. Another run starts with the partner coming
up. -/
theorem run_mirrors_standby :
    let start : Instant := ⟨0, 0⟩
    let settings := BridgeSettings.plain .standby
    let polled (sequence : UInt64) : Event :=
      ⟨start, .partnerPolled sequence
        { initialStatus "vpn" (.plain .active) start with active := true, up := true }⟩
    let failed (sequence : UInt64) : Event := ⟨⟨60, 0⟩, .partnerPollFailed sequence "timeout"⟩
    let events := [failed 1, polled 2, failed 3, failed 4]
    let others := [polled 1, polled 2, polled 3, failed 4, failed 5, failed 6]
    let turns (machine : Machine) (events : List Event) :=
      (machine.runDerivedEvents events).filterMap (·.occurrence.partnerTurn?)
    ∃ machine, new "vpn" settings (initialStatus "vpn" settings start) = .ok machine ∧
      let before := (machine.run events).machine
      let outcome := before.process (failed 5)
      before.partner.isSome = true ∧ .partnerWentDown ∈ outcome.derived ∧
        outcome.machine.partner = before.partner.map (·.fallen ⟨60, 0⟩) ∧
        (turns machine (events ++ [failed 5]), turns machine others) = ([false], [true, false]) ∧
        (turns machine others).IsChain (· ≠ ·) := by
  intro start settings polled failed events others turns
  have built : new "vpn" settings (initialStatus "vpn" settings start) = .ok _ := rfl
  have reported : ∀ event ∈ events, event.occurrence.isReported = true := by decide
  have othersReported : ∀ event ∈ others, event.occurrence.isReported = true := by decide
  obtain ⟨known, -, -, next⟩ := run_mirrors built reported
  have record := (next (failed 5) rfl).2.1 5 "timeout" rfl
  have alternates := (run_mirrors built othersReported).2.1
  refine ⟨_, built, known, by decide +kernel, record.trans (if_pos (by decide +kernel)),
    by decide +kernel, alternates⟩

end Run

end Machine

end TunnelFailover
