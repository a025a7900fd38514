import TunnelFailover.Proofs.Changes
/-!
This file reduces a machine to what the activity of its bridge depends on, and says what every
occurrence does to that.
-/

namespace TunnelFailover

/-- The stance of a bridge: its role, its two flags, and what is known of its partner. -/
structure Stance where
  role : Role
  active : Bool
  up : Bool
  partnerKnown : Bool
  partnerUp : Bool
  partnerConfirmed : Bool
deriving DecidableEq

/-- The stance of the bridge of a machine. -/
def Machine.stance (machine : Machine) : Stance where
  role := machine.role
  active := machine.status.active
  up := machine.status.up
  partnerKnown := machine.partner.isSome
  partnerUp := machine.partnerIsUp
  partnerConfirmed := machine.partnerConfirmed

/-- The occurrences have rank zero, so that nothing follows from them. -/
def Inert (occurrences : List Occurrence) : Prop :=
  ∀ occurrence ∈ occurrences, occurrence.rank = 0

theorem Inert.nil : Inert [] := by simp [Inert]

theorem Inert.rank_ne_one {occurrences : List Occurrence} (inert : Inert occurrences) :
    ∀ occurrence ∈ occurrences, occurrence.rank ≠ 1 := by
  intro occurrence member
  rw [inert occurrence member]
  exact Nat.zero_ne_one

namespace Stance

/-- The first report of the partner is taken over. -/
def adopt (stance : Stance) (up : Bool) : Stance :=
  { stance with
    partnerKnown := true
    partnerUp := if stance.partnerKnown then stance.partnerUp else up }

/-- The partner is as the verdict on it says. -/
def judge (stance : Stance) : Liveness → Stance
  | .down => { stance with partnerUp := false, partnerConfirmed := true }
  | .up => { stance with partnerUp := true, partnerConfirmed := true }
  | .pending => stance

/-- A confirmed partner that is up stays as it is. -/
theorem judge_up {stance : Stance} (up : stance.partnerUp = true)
    (confirmed : stance.partnerConfirmed = true) : stance.judge .up = stance := by
  unfold judge
  cases stance
  cases up
  cases confirmed
  rfl

/-- What follows from the verdict on the partner. -/
def follows (stance : Stance) : Liveness → List Occurrence
  | .down => if stance.partnerUp then [.partnerWentDown] else []
  | .up => if stance.partnerUp && stance.partnerConfirmed then [] else [.partnerWentUp]
  | .pending => []

/-- What follows if the bridge comes up or goes down. -/
def turns (stance : Stance) (up : Bool) : List Occurrence :=
  if up = stance.up then [] else [if up then .bridgeWentUp else .bridgeWentDown]

theorem isSafe_of_mem_follows {stance : Stance} {verdict : Liveness} {occurrence : Occurrence}
    (member : occurrence ∈ stance.follows verdict) : occurrence.isSafe = true := by
  unfold follows at member
  cases verdict <;> dsimp only at member
  · split at member <;> simp_all [Occurrence.isSafe]
  · cases member
  · split at member <;> simp_all [Occurrence.isSafe]

theorem isSafe_of_mem_turns {stance : Stance} {up : Bool} {occurrence : Occurrence}
    (member : occurrence ∈ stance.turns up) : occurrence.isSafe = true := by
  unfold turns at member
  split at member
  · cases member
  · cases up <;> simp_all [Occurrence.isSafe]

end Stance

/-- What an occurrence does to the stance of a machine, and what it leads to. -/
def Occurrence.Moves (before after : Machine) (derived : List Occurrence) : Occurrence → Prop
  | probeLost .. | probeReturned .. | probeUnsent .. | probeSent .. =>
    after.stance = before.stance ∧ ∀ occurrence ∈ derived, ∃ interface,
      occurrence = .interfaceWentDown interface ∨ occurrence = .interfaceWentUp interface
  | interfaceWentDown _ | interfaceWentUp _ =>
    ∃ up inert, after.stance = { before.stance with up } ∧
      derived = before.stance.turns up ++ inert ∧ Inert inert
  | bridgeWentDown => after.stance = { before.stance with active := false } ∧ Inert derived
  | bridgeWentUp =>
    after.stance =
      { before.stance with
        active := before.stance.active || before.role = .active || !before.stance.partnerUp } ∧
      Inert derived
  | partnerWentDown => after.stance = { before.stance with active := true } ∧ Inert derived
  | partnerWentUp =>
    after.stance = { before.stance with active := before.stance.active && before.role = .active } ∧
      Inert derived
  | partnerPollFailed sequence _ =>
    let monitor := before.partnerMonitor.register sequence .down
    if before.stance.partnerKnown then
      after.partnerMonitor = monitor ∧ after.stance = before.stance.judge monitor.verdict ∧
        derived = before.stance.follows monitor.verdict
    else
      after.partnerMonitor = before.partnerMonitor ∧ after.stance = before.stance ∧ derived = []
  | partnerPolled sequence report =>
    let monitor := before.partnerMonitor.register sequence (if report.up then .up else .down)
    let adopted := before.stance.adopt report.up
    after.partnerMonitor = monitor ∧ after.stance = adopted.judge monitor.verdict ∧
      ∃ inert, derived = adopted.follows monitor.verdict ++ inert ∧ Inert inert
  | _ => after.stance = before.stance ∧ derived = []

namespace Turn

/-- The derivation of the bridge brings its liveness up to date. -/
theorem deriveBridge_stance (turn : Turn) (now : Instant) :
    ∃ up, (turn.deriveBridge now).machine.stance = { turn.machine.stance with up } ∧
      (turn.deriveBridge now).machine.status.up = up ∧
      (turn.deriveBridge now).derived = turn.derived ++ turn.machine.stance.turns up := by
  refine ⟨turn.machine.status.interfaces.anyValue (·.up), ?_⟩
  unfold deriveBridge Stance.turns
  dsimp only
  split
  · rename_i same
    have unchanged : turn.machine.status.interfaces.anyValue (·.up) = turn.machine.stance.up := same
    rw [unchanged]
    simp [Machine.stance]
  · rename_i differs
    have changed : ¬turn.machine.status.interfaces.anyValue (·.up) = turn.machine.stance.up :=
      differs
    rw [if_neg changed]
    exact ⟨rfl, rfl, rfl⟩

/-- A known partner that is taken to be up or down is confirmed. -/
theorem stance_of_judged {machine : Machine} (known : machine.partner.isSome = true)
    (monitor : Monitor) (up : Bool) (now : Instant) :
    Machine.stance
        { machine with
          partnerMonitor := monitor
          partnerConfirmed := true
          partner := machine.partner.map (·.setUp up now) } =
      { machine.stance with partnerUp := up, partnerConfirmed := true } := by
  obtain ⟨partner, found⟩ := Option.isSome_iff_exists.1 known
  simp [Machine.stance, Machine.partnerIsUp, found, BridgeStatus.setUp]

/-- The second turn comes from the first one by the verdict of a monitor of the partner. -/
structure Judged (before after : Turn) (monitor : Monitor) : Prop where
  heard : after.machine.partnerMonitor = monitor
  stance : after.machine.stance = before.machine.stance.judge monitor.verdict
  derived : after.derived = before.derived ++ before.machine.stance.follows monitor.verdict

/-- The verdict on a known partner decides its liveness. -/
theorem judgePartner_judged {turn : Turn} (known : turn.machine.partner.isSome = true)
    (now : Instant) (sequence : UInt64) (result : Liveness) :
    Judged turn (turn.judgePartner now sequence result)
      (turn.machine.partnerMonitor.register sequence result) := by
  have unchanged : turn.derived = turn.derived ++ [] := (List.append_nil _).symm
  unfold judgePartner
  dsimp only
  split
  · rename_i verdict
    have down : (turn.machine.partnerMonitor.register sequence result).verdict = .down := verdict
    split
    · rename_i wasUp
      have wasTakenUp : turn.machine.stance.partnerUp = true := wasUp
      constructor
      · rfl
      · rw [down]
        exact stance_of_judged known _ false now
      · rw [down, Stance.follows, if_pos wasTakenUp]
        rfl
    · rename_i wasDown
      have wasTakenDown : turn.machine.stance.partnerUp = false := Bool.eq_false_iff.2 wasDown
      constructor
      · rfl
      · rw [down, Stance.judge, ← wasTakenDown]
        rfl
      · rw [down, Stance.follows, wasTakenDown]
        exact unchanged
  · rename_i verdict
    have up : (turn.machine.partnerMonitor.register sequence result).verdict = .up := verdict
    split
    · rename_i confirmed
      have wasTakenUp : turn.machine.stance.partnerUp = true := confirmed.1
      have wasConfirmed : turn.machine.stance.partnerConfirmed = true := confirmed.2
      constructor
      · rfl
      · rw [up, Stance.judge_up wasTakenUp wasConfirmed]
        rfl
      · rw [up, Stance.follows, wasTakenUp, wasConfirmed]
        exact unchanged
    · rename_i unconfirmed
      have notBoth : (turn.machine.stance.partnerUp && turn.machine.stance.partnerConfirmed) =
          false := by
        rw [← Bool.not_eq_true, Bool.and_eq_true]
        exact unconfirmed
      constructor
      · rfl
      · rw [up]
        exact stance_of_judged known _ true now
      · rw [up, Stance.follows, notBoth]
        rfl
  · rename_i verdict
    have pending : (turn.machine.partnerMonitor.register sequence result).verdict = .pending :=
      verdict
    constructor
    · rfl
    · rw [pending]
      rfl
    · rw [pending]
      exact unchanged

/-- A change of the partner that keeps its liveness keeps the stance. -/
theorem updatePartner_stance (turn : Turn) (change : BridgeStatus → BridgeStatus)
    (up : ∀ partner, (change partner).up = partner.up) :
    (turn.updatePartner change).machine.stance = turn.machine.stance := by
  simp [updatePartner, update, Machine.stance, Machine.partnerIsUp, Option.any_map, up]

/-- The interfaces and the name of the partner decide nothing that the stance depends on. -/
theorem followName_stance (turn : Turn) (report : BridgeStatus) :
    (turn.followName report).machine.stance = turn.machine.stance ∧
      (turn.followName report).machine.partnerMonitor = turn.machine.partnerMonitor := by
  have interfaces := turn.updatePartner_stance
    (fun partner => { partner with interfaces := report.interfaces }) fun _ => rfl
  unfold followName
  dsimp only
  split
  · split
    · exact ⟨interfaces, rfl⟩
    · have renamed := updatePartner_stance
        (turn.updatePartner fun partner => { partner with interfaces := report.interfaces })
        (fun partner => { partner with name := report.name }) fun _ => rfl
      exact ⟨renamed.trans interfaces, rfl⟩
  · exact ⟨interfaces, rfl⟩

/-- Beside its liveness, a report decides nothing that the stance depends on. -/
theorem followReport_stance (turn : Turn) (report : BridgeStatus) :
    (turn.followReport report).machine.stance = turn.machine.stance ∧
      (turn.followReport report).machine.partnerMonitor = turn.machine.partnerMonitor := by
  obtain ⟨stance, monitor⟩ := followName_stance turn report
  rw [followReport_eq]
  split
  · have switched := (turn.followName report).updatePartner_stance
      (·.setActive report.active report.activeSince) fun _ => rfl
    exact ⟨switched.trans stance, monitor⟩
  · exact ⟨stance, monitor⟩

/-- The first report of the partner is taken over with its liveness. -/
theorem adoptPartner_stance (turn : Turn) (report : BridgeStatus) :
    (turn.adoptPartner report).machine.stance = turn.machine.stance.adopt report.up := by
  cases known : turn.machine.partner <;>
    simp [adoptPartner, Machine.stance, Machine.partnerIsUp, Stance.adopt, known]

/-- A probe leads at most to a change of its interface. -/
theorem observe_moves {turn : Turn} (nothing : turn.derived = []) (now : Instant)
    (interface : String) (change : Monitor → Monitor) :
    let after := turn.observe now interface change
    after.machine.stance = turn.machine.stance ∧ ∀ occurrence ∈ after.derived, ∃ interface,
      occurrence = .interfaceWentDown interface ∨ occurrence = .interfaceWentUp interface := by
  constructor
  · rw [observe_changes turn now interface change]
    rfl
  · rcases observe_derived nothing now interface change with silent | down | up
    · simp [silent]
    · simp [down]
    · simp [up]

/-- Whatever trails the derivation of the bridge moves the stance by the liveness of the bridge. -/
theorem interface_moves {machine : Machine} {now : Instant} {after : Turn}
    (trails : Trails ((start machine).deriveBridge now) after)
    (changes : ChangesFlags (start machine) after) :
    ∃ up inert, after.machine.stance = { machine.stance with up } ∧
      after.derived = machine.stance.turns up ++ inert ∧ Inert inert := by
  obtain ⟨up, -, bridgeUp, bridgeDerived⟩ := deriveBridge_stance (start machine) now
  obtain ⟨sameUp, elections, derived, elect⟩ := trails
  refine ⟨up, elections, ?_, ?_, fun occurrence member =>
    Occurrence.rank_of_isElection (elect occurrence member)⟩
  · rw [changes, sameUp, bridgeUp]
    rfl
  · rw [derived, bridgeDerived]
    rfl

@[simp] theorem ite_derive_machine (condition : Prop) [Decidable condition] (turn : Turn)
    (occurrence : Occurrence) :
    (if condition then turn else turn.derive occurrence).machine = turn.machine := by
  split <;> rfl

@[simp] theorem deactivateBridge_stance (turn : Turn) (now : Instant) :
    (turn.deactivateBridge now).machine.stance = { turn.machine.stance with active := false } := rfl

theorem bridgeWentDown_stance (machine : Machine) (now : Instant) :
    ((start machine).bridgeWentDown now).machine.stance =
      { machine.stance with active := false } := by
  unfold bridgeWentDown
  rw [ite_derive_machine]
  split
  · rfl
  · rename_i inactive
    have wasInactive : machine.stance.active = false := Bool.eq_false_iff.2 inactive
    rw [start_machine, ← wasInactive]

theorem bridgeWentUp_stance (machine : Machine) (now : Instant) :
    ((start machine).bridgeWentUp now).machine.stance =
      { machine.stance with
        active := machine.stance.active || machine.role = .active || !machine.stance.partnerUp } := by
  unfold bridgeWentUp
  dsimp only
  rw [ite_derive_machine]
  split
  · rename_i claims
    have active : (machine.stance.active || machine.role = .active || !machine.stance.partnerUp) =
        true := by
      obtain ⟨-, asActive | alone⟩ := claims
      · have role : machine.role = .active := asActive
        simp [role]
      · have partnerDown : machine.stance.partnerUp = false := Bool.eq_false_iff.2 alone
        simp [partnerDown]
    rw [active]
    rfl
  · rename_i yields
    have same : (machine.stance.active || machine.role = .active || !machine.stance.partnerUp) =
        machine.stance.active := by
      cases active : machine.stance.active with
      | true => rfl
      | false =>
        have inactive : machine.status.active = false := active
        simpa [inactive, Machine.stance] using yields
    rw [same]
    rfl

theorem partnerWentDown_stance (machine : Machine) (now : Instant) :
    ((start machine).partnerWentDown now).machine.stance = { machine.stance with active := true } := by
  have takesOver (turn : Turn) (same : turn.machine.stance = machine.stance) :
      (if turn.machine.status.active then turn else turn.activateBridge now).machine.stance =
        { machine.stance with active := true } := by
    rw [← same]
    split
    · rename_i active
      have wasActive : turn.machine.stance.active = true := active
      rw [← wasActive]
    · rfl
  unfold partnerWentDown
  apply takesOver
  split
  · exact updatePartner_stance (start machine) (·.setActive false now) fun _ => rfl
  · rfl

theorem partnerWentUp_stance (machine : Machine) (now : Instant) :
    ((start machine).partnerWentUp now).machine.stance =
      { machine.stance with active := machine.stance.active && machine.role = .active } := by
  unfold partnerWentUp
  split
  · rename_i yields
    have standby : ¬machine.role = .active := yields.2
    simp [standby]
  · rename_i stays
    have same : (machine.stance.active && machine.role = .active) = machine.stance.active := by
      cases active : machine.stance.active with
      | false => rfl
      | true =>
        have wasActive : machine.status.active = true := active
        simpa [wasActive] using stays
    rw [same]
    rfl

/-- Every handled occurrence moves the stance by its own rule. -/
theorem handle_moves {machine : Machine} {now : Instant} {occurrence : Occurrence} {turn : Turn}
    (handled : (start machine).handle now occurrence = .ok turn) :
    occurrence.Moves machine turn.machine turn.derived := by
  cases occurrence with
  | probeLost | probeReturned | probeUnsent | probeSent =>
    cases handled
    refine observe_moves ?_ ..
    rfl
  | interfaceWentDown interface =>
    cases handled
    exact interface_moves (trails_interfaceWentDown _ now interface)
      (changesFlags_interfaceWentDown _ now interface)
  | interfaceWentUp interface =>
    cases handled
    exact interface_moves (trails_interfaceWentUp _ now interface)
      (changesFlags_interfaceWentUp _ now interface)
  | bridgeWentDown =>
    cases handled
    exact ⟨bridgeWentDown_stance machine now, (bridgeWentDown_derived machine now).inert⟩
  | bridgeWentUp =>
    cases handled
    exact ⟨bridgeWentUp_stance machine now, (bridgeWentUp_derived machine now).inert⟩
  | partnerWentDown =>
    cases handled
    exact ⟨partnerWentDown_stance machine now, (partnerWentDown_derived machine now).inert⟩
  | partnerWentUp =>
    cases handled
    exact ⟨partnerWentUp_stance machine now, (partnerWentUp_derived machine now).inert⟩
  | partnerPollFailed sequence cause =>
    cases handled
    unfold partnerPollFailed
    dsimp only
    split
    · rename_i unknown
      have partnerUnknown : machine.stance.partnerKnown = false := by
        simpa [Machine.stance] using unknown
      simp only [Occurrence.Moves, partnerUnknown]
      exact ⟨rfl, rfl, rfl⟩
    · rename_i known
      have partnerKnown :
          ((start machine).countError Scope.partnerPolling).machine.partner.isSome = true := by
        simpa [Option.isSome_iff_ne_none] using known
      have stanceKnown : machine.stance.partnerKnown = true := partnerKnown
      have judged := judgePartner_judged partnerKnown now sequence .down
      simp only [Occurrence.Moves, stanceKnown]
      exact ⟨judged.heard, judged.stance, judged.derived⟩
  | partnerPolled sequence report =>
    rw [handle_polled handled]
    have known : ((start machine).adoptPartner report).machine.partner.isSome = true := by
      simp [adoptPartner]
    have judged := judgePartner_judged known now sequence
      (if report.up then Liveness.up else .down)
    generalize Turn.judgePartner _ now sequence _ = turn at judged ⊢
    obtain ⟨inert, followed, zero⟩ := followReport_inert turn report
    obtain ⟨sameStance, sameMonitor⟩ := followReport_stance turn report
    refine ⟨sameMonitor.trans judged.heard, ?_, inert, ?_, zero⟩
    · rw [sameStance, judged.stance, adoptPartner_stance]
      rfl
    · rw [followed, judged.derived, adoptPartner_stance]
      rfl
  | bridgeActivated | bridgeDeactivated | connectivityLost | connectivityRestored
  | partnerActivated | partnerDeactivated | interfaceActivated interface
  | interfaceDeactivated interface =>
    cases handled
    exact ⟨rfl, rfl⟩
  | bridgeReactivated iteration =>
    cases handled
    unfold bridgeReactivated
    split <;> exact ⟨rfl, rfl⟩
  | interfaceReactivated interface iteration =>
    cases handled
    unfold interfaceReactivated
    split <;> exact ⟨rfl, rfl⟩
  | partnerChangedName former latter => cases handled

end Turn

end TunnelFailover
