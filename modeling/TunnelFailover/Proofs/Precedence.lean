import Mathlib.Data.List.Chain
import TunnelFailover.Proofs.Classification
import TunnelFailover.Proofs.Exchange
import TunnelFailover.Proofs.Polls
/-!
This file compares the two sides of a pair that see the same polls: the active side has its verdict
on the partner before the standby side, unless a threshold is the largest one already.
-/

namespace TunnelFailover

/-- The number of the later poll comes right after that of the former one. -/
def PollOutcome.Precedes (former latter : PollOutcome) : Prop :=
  latter.sequence.toNat = former.sequence.toNat + 1

instance (former latter : PollOutcome) : Decidable (former.Precedes latter) :=
  inferInstanceAs (Decidable (_ = _))

/-- The numbers of some registrations go up by one, and each of them is decided. -/
structure Successive (registrations : List Registration) : Prop where
  numbered : registrations.IsChain fun former latter =>
    latter.sequence.toNat = former.sequence.toNat + 1
  decided : ∀ next ∈ registrations, next.liveness ≠ .pending

/-- Polls with successive numbers register these. -/
theorem successive_registrationsOf {outcomes : List PollOutcome}
    (consecutive : outcomes.IsChain PollOutcome.Precedes) :
    Successive (registrationsOf outcomes) where
  numbered := (List.isChain_map _).2 (consecutive.suffix (List.dropWhile_suffix _))
  decided := by
    intro next member
    obtain ⟨outcome, -, rfl⟩ := List.mem_map.1 member
    exact outcome.registration_decided

namespace Successive

variable {registrations : List Registration} {former last : Registration}

theorem earlier (successive : Successive (registrations ++ [last])) : Successive registrations where
  numbered := (List.isChain_append.1 successive.numbered).1
  decided next member := successive.decided next (List.mem_append_left _ member)

theorem next (successive : Successive (registrations ++ [former] ++ [last])) :
    last.sequence.toNat = former.sequence.toNat + 1 :=
  (List.isChain_append.1 successive.numbered).2.2 former (by simp) last (by simp)

theorem last_decided (successive : Successive (registrations ++ [last])) :
    last.liveness = .up ∨ last.liveness = .down := by
  have decided := successive.decided last (by simp)
  cases liveness : last.liveness with
  | up => exact .inl rfl
  | down => exact .inr rfl
  | pending => exact absurd liveness decided

end Successive

namespace Monitor

variable {thresholds others : Thresholds} {registrations : List Registration} {last : Registration}

/-- The newest one of successive numbers is the last one. -/
theorem sequence_registerAll_concat (thresholds : Thresholds)
    (successive : Successive (registrations ++ [last])) :
    ((new thresholds).registerAll (registrations ++ [last])).sequence = last.sequence := by
  induction registrations using List.reverseRecOn generalizing last with
  | nil =>
    rw [registerAll_concat, sequence_register]
    split
    · rfl
    · rename_i zero
      exact UInt64.le_antisymm UInt64.zero_le (UInt64.not_lt.1 zero)
  | append_singleton earlier former inductionHypothesis =>
    have next := successive.next
    rw [registerAll_concat, sequence_register, inductionHypothesis successive.earlier, if_pos]
    rw [UInt64.lt_iff_toNat_lt, next]
    exact Nat.lt_succ_self _

/-- The last one of successive registrations goes in front of the entries of the earlier ones, whatever
the thresholds of the two monitors are. -/
theorem take_registerAll_concat (thresholds : Thresholds)
    (successive : Successive (registrations ++ [last])) {count : Nat}
    (within : count ≤ thresholds.window) (further : count < others.window) :
    ((new others).registerAll (registrations ++ [last])).history.take (count + 1) =
      last.liveness :: ((new thresholds).registerAll registrations).history.take count := by
  obtain ⟨earlier, earlierSame⟩ := shows_registerAll thresholds registrations
  obtain ⟨later, laterSame⟩ := shows_registerAll others (registrations ++ [last])
  have newest := sequence_registerAll_concat others successive
  have earlierLength := earlier.sized.trans (congrArg Thresholds.window earlierSame)
  have laterLength := later.sized.trans (congrArg Thresholds.window laterSame)
  -- An entry shows what was registered under its number, and the newest numbers differ by one.
  refine List.ext_getElem ?_ fun age young otherYoung => ?_
  · rw [List.length_take, List.length_cons, List.length_take]
    omega
  · rw [List.getElem_take, later.entry, newest, lastRegistered_concat]
    cases age with
    | zero => simp
    | succ age =>
      rw [if_neg (by omega), List.getElem_cons_succ, List.getElem_take, earlier.entry]
      rcases List.eq_nil_or_concat registrations with rfl | ⟨rest, former, rfl⟩
      · rfl
      · rw [List.concat_eq_append] at successive earlier ⊢
        rw [sequence_registerAll_concat thresholds successive.earlier, successive.next]
        congr 1
        omega

/-- The history depends on the thresholds only by how far back a verdict looks. -/
theorem registerAll_of_larger (same : others.larger = thresholds.larger)
    (registrations : List Registration) :
    (new others).registerAll registrations =
      { (new thresholds).registerAll registrations with thresholds := others } := by
  have sameWindow : others.window = thresholds.window := congrArg Nat.succ same
  induction registrations using List.reverseRecOn with
  | nil =>
    unfold registerAll new
    rw [List.foldl_nil, List.foldl_nil, sameWindow]
  | append_singleton earlier last inductionHypothesis =>
    obtain ⟨-, kept⟩ := shows_registerAll thresholds earlier
    rw [registerAll_concat, registerAll_concat, inductionHypothesis]
    unfold register advance
    dsimp only
    rw [kept, sameWindow]
    split <;> rfl

/-- A monitor that needs one failure less has failed before. -/
theorem fails_before (successive : Successive (registrations ++ [last]))
    (stricter : others.down = thresholds.down + 1) (wider : others.larger ≤ thresholds.larger + 1)
    (heard : registrations ≠ [] ∨ last.liveness = .up)
    (failed : ((new others).registerAll (registrations ++ [last])).verdict = .down) :
    ((new thresholds).registerAll registrations).verdict = .down := by
  have atLeast := thresholds.down_mem.1
  have window : thresholds.window = thresholds.larger + 1 := rfl
  obtain ⟨shows, kept⟩ := shows_registerAll thresholds registrations
  obtain ⟨laterShows, laterKept⟩ := shows_registerAll others (registrations ++ [last])
  obtain ⟨count, enough, bounded, noSuccess, -⟩ :=
    (verdict_eq_down_iff_hasFailed laterShows.sized).1 failed
  rw [laterKept] at enough bounded
  change count ≤ others.larger at bounded
  obtain ⟨fewer, rfl⟩ : ∃ fewer, count = fewer + 2 := ⟨count - 2, by omega⟩
  rw [take_registerAll_concat thresholds successive (by omega) (Nat.lt_succ_of_lt bounded),
    List.mem_cons, not_or] at noSuccess
  obtain ⟨lastFailed, noneBefore⟩ := noSuccess
  obtain ⟨earlier, former, rfl⟩ : ∃ earlier former, registrations = earlier ++ [former] := by
    have some := heard.resolve_right fun up => lastFailed up.symm
    simpa [List.concat_eq_append] using (List.eq_nil_or_concat registrations).resolve_left some
  -- The newest entry before the last one is decided, and it is no success.
  have failure : .down ∈ ((new thresholds).registerAll (earlier ++ [former])).history.take
      (fewer + 1) := by
    rw [take_registerAll_concat thresholds successive.earlier (by omega) (by omega)] at noneBefore ⊢
    rw [List.mem_cons, not_or] at noneBefore
    have down := successive.earlier.last_decided.resolve_left (Ne.symm noneBefore.1)
    exact down ▸ List.mem_cons_self
  refine (verdict_eq_down_iff_hasFailed shows.sized).2 ⟨fewer + 1, ?_, ?_, noneBefore, failure⟩
  · rw [kept]
    omega
  · rw [kept]
    change fewer + 1 ≤ thresholds.larger
    omega

/-- A monitor that needs one success less has succeeded before. -/
theorem succeeds_before (successive : Successive (registrations ++ [last]))
    (stricter : others.up = thresholds.up + 1) (wider : others.larger ≤ thresholds.larger + 1)
    (succeeded : ((new others).registerAll (registrations ++ [last])).verdict = .up) :
    ((new thresholds).registerAll registrations).verdict = .up := by
  obtain ⟨-, kept⟩ := shows_registerAll thresholds registrations
  obtain ⟨-, laterKept⟩ := shows_registerAll others (registrations ++ [last])
  obtain ⟨count, bounded, succeeds⟩ := (verdict_eq_up_iff _).1 succeeded
  rw [laterKept] at bounded succeeds
  cases count with
  | zero => cases up_mem_of_succeedsOn succeeds
  | succ older =>
    have within : older ≤ thresholds.larger := by omega
    rw [take_registerAll_concat thresholds successive (Nat.le_succ_of_le within)
      (Nat.lt_succ_of_lt bounded)] at succeeds
    obtain ⟨enough, noFailure⟩ := succeeds
    rw [List.mem_cons, not_or] at noFailure
    have up : last.liveness = .up := successive.last_decided.resolve_right (Ne.symm noFailure.1)
    refine (verdict_eq_up_iff _).2 ⟨older, by rwa [kept], ?_, noFailure.2⟩
    rw [kept]
    rw [up, successes, List.count_cons_self, List.head?_cons, if_neg (by simp)] at enough
    unfold successes
    omega

/-- Monitors that look equally far back and need the same number of failures fail together. -/
theorem fails_alike (sameLarger : others.larger = thresholds.larger)
    (same : others.down = thresholds.down)
    (failed : ((new others).registerAll registrations).verdict = .down) :
    ((new thresholds).registerAll registrations).verdict = .down := by
  obtain ⟨-, kept⟩ := shows_registerAll thresholds registrations
  rw [registerAll_of_larger sameLarger] at failed
  obtain ⟨count, bounded, fails⟩ := (verdict_eq_down_iff _).1 failed
  refine (verdict_eq_down_iff _).2 ⟨count, ?_, ?_, fails.2⟩
  · rwa [kept, ← sameLarger]
  · rw [kept, ← same]
    exact fails.1

/-- Monitors that look equally far back and need the same number of successes succeed together. -/
theorem succeeds_alike (sameLarger : others.larger = thresholds.larger)
    (same : others.up = thresholds.up)
    (succeeded : ((new others).registerAll registrations).verdict = .up) :
    ((new thresholds).registerAll registrations).verdict = .up := by
  obtain ⟨-, kept⟩ := shows_registerAll thresholds registrations
  rw [registerAll_of_larger sameLarger] at succeeded
  obtain ⟨count, bounded, succeeds⟩ := (verdict_eq_up_iff _).1 succeeded
  refine (verdict_eq_up_iff _).2 ⟨count, ?_, ?_, succeeds.2⟩
  · rwa [kept, ← sameLarger]
  · rw [kept, ← same]
    exact succeeds.1

/-- The thresholds of both sides, of which the standby side raises its own by one, up to ten. -/
def Raised (thresholds : Thresholds) (limits : Role → Thresholds) : Prop :=
  ∀ role, (limits role).down = min (thresholds.down + role.handicap) 10 ∧
    (limits role).up = min (thresholds.up + role.handicap) 10

/-- If the standby side has failed, the active side has failed before, or does now if its threshold is
ten. -/
theorem Raised.fails_first {limits : Role → Thresholds} (raised : Raised thresholds limits)
    (successive : Successive (registrations ++ [last]))
    (heard : registrations ≠ [] ∨ last.liveness = .up)
    (failed : ((new (limits .standby)).registerAll (registrations ++ [last])).verdict = .down) :
    if thresholds.down < 10 then
      ((new (limits .active)).registerAll registrations).verdict = .down
    else ((new (limits .active)).registerAll (registrations ++ [last])).verdict = .down := by
  obtain ⟨downMost, upMost⟩ := And.intro thresholds.down_mem.2 thresholds.up_mem.2
  obtain ⟨activeDown, activeUp⟩ := raised .active
  obtain ⟨standbyDown, standbyUp⟩ := raised .standby
  simp only [Role.handicap] at activeDown activeUp standbyDown standbyUp
  split
  · refine fails_before successive ?_ ?_ heard failed
    · omega
    · unfold Thresholds.larger
      omega
  · refine fails_alike ?_ ?_ failed
    · unfold Thresholds.larger
      omega
    · omega

/-- If the standby side has succeeded, the active side has succeeded before, or does now if its
threshold is ten. -/
theorem Raised.succeeds_first {limits : Role → Thresholds} (raised : Raised thresholds limits)
    (successive : Successive (registrations ++ [last]))
    (succeeded : ((new (limits .standby)).registerAll (registrations ++ [last])).verdict = .up) :
    if thresholds.up < 10 then
      ((new (limits .active)).registerAll registrations).verdict = .up
    else ((new (limits .active)).registerAll (registrations ++ [last])).verdict = .up := by
  obtain ⟨downMost, upMost⟩ := And.intro thresholds.down_mem.2 thresholds.up_mem.2
  obtain ⟨activeDown, activeUp⟩ := raised .active
  obtain ⟨standbyDown, standbyUp⟩ := raised .standby
  simp only [Role.handicap] at activeDown activeUp standbyDown standbyUp
  split
  · refine succeeds_before successive ?_ ?_ succeeded
    · omega
    · unfold Thresholds.larger
      omega
  · refine succeeds_alike ?_ ?_ succeeded
    · unfold Thresholds.larger
      omega
    · omega

end Monitor

/-- Events tell machines of either role of the same polls, whose numbers go up by one. Other events may
come between the polls. -/
structure ToldAlike (machines : Role → Machine) (events : Role → List Event)
    (outcomes : List PollOutcome) : Prop where
  accepted : ∀ role, ∀ event ∈ events role, event.occurrence.AcceptedBy (machines role)
  polled : ∀ role, outcomesOf (events role) = outcomes
  consecutive : outcomes.IsChain PollOutcome.Precedes

/-- What was told before the last poll was told alike, too. -/
theorem ToldAlike.earlier {machines : Role → Machine} {earlier : Role → List Event}
    {last : Role → Event} {outcomes : List PollOutcome} {outcome : PollOutcome}
    (told : ToldAlike machines (fun role => earlier role ++ [last role]) (outcomes ++ [outcome]))
    (polled : ∀ role, (last role).occurrence.outcome? = some outcome) :
    ToldAlike machines earlier outcomes where
  accepted role event member := told.accepted role event (List.mem_append_left _ member)
  polled role := by
    have whole := told.polled role
    rw [outcomesOf, List.filterMap_append] at whole
    exact List.append_inj_left' whole (by simp [polled role])
  consecutive := told.consecutive.left_of_append

/-- A machine of the role is told the outcome, by a partner of the other role if this has answered. -/
def PollOutcome.tell (outcome : PollOutcome) (role : Role) : Event :=
  let start : Instant := ⟨0, 0⟩
  let report : BridgeStatus := Machine.initialStatus "vpn" (.plain role.other) start
  ⟨start, match outcome.up? with
    | some up => .partnerPolled outcome.sequence { report with up }
    | none => .partnerPollFailed outcome.sequence "timeout"⟩

theorem PollOutcome.outcome_tell (outcome : PollOutcome) (role : Role) :
    (outcome.tell role).occurrence.outcome? = some outcome := by
  obtain ⟨sequence, up?⟩ := outcome
  cases up? <;> rfl

/-- Telling two machines nothing but the outcomes tells them alike. -/
theorem ToldAlike.of_tell {machines : Role → Machine} {outcomes : List PollOutcome}
    (named : ∀ role, (machines role).name = "vpn" ∧ (machines role).role = role)
    (consecutive : outcomes.IsChain PollOutcome.Precedes) :
    ToldAlike machines (fun role => outcomes.map (·.tell role)) outcomes where
  accepted role event member := by
    obtain ⟨outcome, -, rfl⟩ := List.mem_map.1 member
    obtain ⟨sequence, up?⟩ := outcome
    obtain ⟨name, sameRole⟩ := named role
    cases up? with
    | none => trivial
    | some up => exact ⟨name.symm, sameRole.symm ▸ role.other_ne⟩
  polled role := by
    rw [outcomesOf, List.filterMap_map]
    exact (List.filterMap_congr fun outcome _ => outcome.outcome_tell role).trans List.filterMap_some
  consecutive := consecutive

namespace Machine

/-- The monitor of the partner has the thresholds of the settings, which the standby side raises as far
as a monitor accepts it. -/
theorem partnerThresholds_of_new {name : String} {settings : BridgeSettings} {status : BridgeStatus}
    {machine : Machine} {thresholds : Thresholds}
    (accepted : Thresholds.ofCounts settings.partnerThresholdDown settings.partnerThresholdUp =
      .ok thresholds)
    (built : new name settings status = .ok machine) :
    machine.partnerMonitor.thresholds.down =
        min (thresholds.down + settings.role.handicap) 10 ∧
      machine.partnerMonitor.thresholds.up = min (thresholds.up + settings.role.handicap) 10 := by
  obtain ⟨-, down, up⟩ := partnerMonitorOf_eq_ok (new_eq_ok built).2.1
  obtain ⟨downCount, upCount⟩ := Thresholds.ofCounts_eq_ok_iff.1 accepted
  have downMost := thresholds.down_mem.2
  have upMost := thresholds.up_mem.2
  rw [down, up, toNat_partnerThreshold _ (by omega), toNat_partnerThreshold _ (by omega), downCount,
    upCount]
  exact ⟨rfl, rfl⟩

/-- New machines of both roles with the same settings have thresholds for their partners of which the
standby side raises its own. -/
theorem raised_of_new {name : Role → String} {settings : Role → BridgeSettings}
    {status : Role → BridgeStatus} {machines : Role → Machine} {down up : UInt64}
    {thresholds : Thresholds} (accepted : Thresholds.ofCounts down up = .ok thresholds)
    (configured : ∀ role, (settings role).role = role ∧
      (settings role).partnerThresholdDown = down ∧ (settings role).partnerThresholdUp = up)
    (built : ∀ role, new (name role) (settings role) (status role) = .ok (machines role)) :
    Monitor.Raised thresholds fun role => (machines role).partnerMonitor.thresholds := by
  intro role
  obtain ⟨sameRole, sameDown, sameUp⟩ := configured role
  have limits := partnerThresholds_of_new (by rwa [sameDown, sameUp]) (built role)
  rwa [sameRole] at limits

/-- Whenever a poll tells the standby side that its partner went down or came up, the active side has
already judged its own partner so by an earlier poll, unless the threshold in question is ten and
cannot be raised. In this case it judges so by the same poll at the latest. -/
theorem standby_trails {name : Role → String} {settings : Role → BridgeSettings}
    {start : Role → Instant} {machines : Role → Machine} {down up : UInt64} {thresholds : Thresholds}
    (accepted : Thresholds.ofCounts down up = .ok thresholds)
    (configured : ∀ role, (settings role).role = role ∧
      (settings role).partnerThresholdDown = down ∧ (settings role).partnerThresholdUp = up)
    (built : ∀ role, new (name role) (settings role)
      (initialStatus (name role) (settings role) (start role)) = .ok (machines role))
    {earlier : Role → List Event} {last : Role → Event} {outcomes : List PollOutcome}
    {outcome : PollOutcome}
    (told : ToldAlike machines (fun role => earlier role ++ [last role]) (outcomes ++ [outcome]))
    (polled : ∀ role, (last role).occurrence.outcome? = some outcome) :
    let before role := ((machines role).run (earlier role)).machine
    let after role := ((before role).process (last role)).machine
    let derived := ((before .standby).process (last .standby)).derived
    (.partnerWentDown ∈ derived →
      if thresholds.down < 10 then (before .active).HasJudged false
      else (after .active).HasJudged false) ∧
    (.partnerWentUp ∈ derived →
      if thresholds.up < 10 then (before .active).HasJudged true
      else (after .active).HasJudged true) := by
  intro before after derived
  have raised := raised_of_new accepted configured built
  have judgesBefore (role : Role) :
      (before role).Judges (machines role).partnerMonitor.thresholds (registrationsOf outcomes) := by
    have before := told.earlier polled
    rw [← before.polled role]
    exact run_judges (built role) (before.accepted role)
  have judgesAfter (role : Role) :
      (after role).Judges (machines role).partnerMonitor.thresholds
        (registrationsOf (outcomes ++ [outcome])) := by
    have judges := run_judges (built role) (told.accepted role)
    rwa [told.polled role, run_concat] at judges
  have acceptedLast : (last .standby).occurrence.AcceptedBy (before .standby) :=
    (acceptedBy_iff_of_identity ((machines .standby).run_identity _) _).2
      (told.accepted .standby _ (by simp))
  have successive := successive_registrationsOf told.consecutive
  have known : (before .standby).stance.partnerKnown = true ↔ registrationsOf outcomes ≠ [] :=
    (judgesBefore .standby).known
  have registered (heard : (before .standby).stance.partnerKnown = true ∨ outcome.up? ≠ none) :
      registrationsOf (outcomes ++ [outcome]) =
        registrationsOf outcomes ++ [outcome.registration] :=
    registrationsOf_concat_of_heard (heard.imp_left known.1)
  refine ⟨fun wentDown => ?_, fun wentUp => ?_⟩
  · obtain ⟨failed, wasUp⟩ := verdict_of_wentDown acceptedLast (polled .standby) wentDown
    -- A partner that goes down was up, so that its failures are not the first that is heard of it.
    have wasKnown := wasUp.imp_left partnerKnown_of_partnerUp
    have same := registered (wasKnown.imp_right fun answered => by simp [answered])
    rw [same] at successive judgesAfter
    rw [(judgesAfter .standby).monitor] at failed
    have heard : registrationsOf outcomes ≠ [] ∨ outcome.registration.liveness = .up :=
      wasKnown.imp known.1 fun answered => by simp [PollOutcome.registration, answered]
    have first := raised.fails_first successive heard failed
    by_cases raises : thresholds.down < 10
    · rw [if_pos raises] at first ⊢
      exact (judgesBefore .active).of_failed first
    · rw [if_neg raises] at first ⊢
      exact (judgesAfter .active).of_failed first
  · obtain ⟨succeeded, heard⟩ := verdict_of_wentUp acceptedLast (polled .standby) wentUp
    rw [registered heard] at successive judgesAfter
    rw [(judgesAfter .standby).monitor] at succeeded
    have first := raised.succeeds_first successive succeeded
    by_cases raises : thresholds.up < 10
    · rw [if_pos raises] at first ⊢
      exact (judgesBefore .active).of_succeeded first
    · rw [if_neg raises] at first ⊢
      exact (judgesAfter .active).of_succeeded first

/-- With the lowest thresholds, the active side knows of an outage of its partner after two failures,
and the standby side after three. Their partners come back after two answers and after three. -/
theorem standby_trails_outage :
    let settings := BridgeSettings.plain
    let start : Instant := ⟨0, 0⟩
    let polls (up? : Option Bool) (sequences : List UInt64) : List PollOutcome :=
      sequences.map (⟨·, up?⟩)
    let outage := polls (some true) [1, 2] ++ polls none [3, 4]
    let comeback := outage ++ polls none [5] ++ polls (some true) [6, 7]
    ∃ machines : Role → Machine,
      (∀ role, new "vpn" (settings role) (initialStatus "vpn" (settings role) start) =
        .ok (machines role)) ∧
      let after (outcomes : List PollOutcome) (role : Role) : Machine :=
        ((machines role).run (outcomes.map (·.tell role))).machine
      .partnerWentDown ∈
          ((after outage .standby).process (PollOutcome.tell ⟨5, none⟩ .standby)).derived ∧
        (after outage .active).HasJudged false ∧
        .partnerWentUp ∈
          ((after comeback .standby).process (PollOutcome.tell ⟨8, some true⟩ .standby)).derived ∧
        (after comeback .active).HasJudged true := by
  intro settings start polls outage comeback
  let built (role : Role) : Except BridgeFault Machine :=
    new "vpn" (settings role) (initialStatus "vpn" (settings role) start)
  let machines (role : Role) : Machine := (built role).toOption.get (by cases role <;> rfl)
  have allBuilt (role : Role) : built role = .ok (machines role) := by cases role <;> rfl
  have named (role : Role) : (machines role).name = "vpn" ∧ (machines role).role = role := by
    cases role <;> exact ⟨rfl, rfl⟩
  have told {outcomes : List PollOutcome} {outcome : PollOutcome}
      (consecutive : (outcomes ++ [outcome]).IsChain PollOutcome.Precedes) :
      ToldAlike machines (fun role => outcomes.map (·.tell role) ++ [outcome.tell role])
        (outcomes ++ [outcome]) := by
    simpa using ToldAlike.of_tell named consecutive
  have trails {outcomes : List PollOutcome} {outcome : PollOutcome}
      (consecutive : (outcomes ++ [outcome]).IsChain PollOutcome.Precedes) :=
    standby_trails (rfl : Thresholds.ofCounts 2 2 = .ok ⟨2, 2, by decide, by decide⟩)
      (fun _ => ⟨rfl, rfl, rfl⟩) allBuilt (told consecutive) outcome.outcome_tell
  have down := (@trails outage ⟨5, none⟩ (by decide)).1 (by decide)
  have up := (@trails comeback ⟨8, some true⟩ (by decide)).2 (by decide)
  exact ⟨machines, allBuilt, by decide, down, by decide, up⟩

/-- A threshold of ten cannot be raised, and then both sides know of an outage after the same poll. -/
theorem not_always_trails :
    ¬∀ (name : Role → String) (settings : Role → BridgeSettings) (start : Role → Instant)
      (machines : Role → Machine) (down up : UInt64) (thresholds : Thresholds)
      (earlier : Role → List Event) (last : Role → Event) (outcomes : List PollOutcome)
      (outcome : PollOutcome),
      Thresholds.ofCounts down up = .ok thresholds →
      (∀ role, (settings role).role = role ∧ (settings role).partnerThresholdDown = down ∧
        (settings role).partnerThresholdUp = up) →
      (∀ role, new (name role) (settings role)
        (initialStatus (name role) (settings role) (start role)) = .ok (machines role)) →
      ToldAlike machines (fun role => earlier role ++ [last role]) (outcomes ++ [outcome]) →
      (∀ role, (last role).occurrence.outcome? = some outcome) →
      let before role := ((machines role).run (earlier role)).machine
      .partnerWentDown ∈ ((before .standby).process (last .standby)).derived →
        (before .active).HasJudged false := by
  intro claim
  let settings (role : Role) : BridgeSettings :=
    { BridgeSettings.plain role with partnerThresholdDown := 10 }
  let built (role : Role) : Except BridgeFault Machine :=
    new "vpn" (settings role) (initialStatus "vpn" (settings role) ⟨0, 0⟩)
  let machines (role : Role) : Machine := (built role).toOption.get (by cases role <;> rfl)
  let failures : List PollOutcome := [2, 3, 4, 5, 6, 7, 8, 9, 10].map (⟨·, none⟩)
  let outcomes : List PollOutcome := ⟨1, some true⟩ :: failures
  let outcome : PollOutcome := ⟨11, none⟩
  have allBuilt (role : Role) : built role = .ok (machines role) := by cases role <;> rfl
  have named (role : Role) : (machines role).name = "vpn" ∧ (machines role).role = role := by
    cases role <;> exact ⟨rfl, rfl⟩
  have told := ToldAlike.of_tell named
    (by decide : (outcomes ++ [outcome]).IsChain PollOutcome.Precedes)
  obtain ⟨-, partner, found, down⟩ := claim _ settings _ machines 10 2 ⟨10, 2, by decide, by decide⟩
    (fun role => outcomes.map (·.tell role)) outcome.tell outcomes outcome rfl (fun _ => ⟨rfl, rfl, rfl⟩)
    allBuilt (by simpa using told) outcome.outcome_tell (by decide)
  have up : ((machines .active).run (outcomes.map (·.tell .active))).machine.partnerIsUp = true := by
    decide
  simp [partnerIsUp, found, down] at up

end Machine

end TunnelFailover
