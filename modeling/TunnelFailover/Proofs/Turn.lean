import TunnelFailover.Machine.Cascade
/-!
This file says what the parts of a turn do to the machine and to what has been derived, and which
occurrences a handled one can derive.
-/

namespace TunnelFailover.Turn

section Parts

variable (turn : Turn) (occurrence : Occurrence) (scope : String)
variable (change : Machine → Machine) (changeStatus : BridgeStatus → BridgeStatus)

@[simp] theorem start_machine (machine : Machine) : (start machine).machine = machine := rfl

@[simp] theorem start_derived (machine : Machine) : (start machine).derived = [] := rfl

@[simp] theorem derive_machine : (turn.derive occurrence).machine = turn.machine := rfl

@[simp] theorem derive_derived :
    (turn.derive occurrence).derived = turn.derived ++ [occurrence] := rfl

@[simp] theorem update_machine : (turn.update change).machine = change turn.machine := rfl

@[simp] theorem update_derived : (turn.update change).derived = turn.derived := rfl

@[simp] theorem updateStatus_machine :
    (turn.updateStatus changeStatus).machine =
      { turn.machine with status := changeStatus turn.machine.status } := rfl

@[simp] theorem updateStatus_derived :
    (turn.updateStatus changeStatus).derived = turn.derived := rfl

@[simp] theorem countError_machine : (turn.countError scope).machine = turn.machine := rfl

@[simp] theorem countError_derived : (turn.countError scope).derived = turn.derived := rfl

@[simp] theorem updatePartner_derived :
    (turn.updatePartner changeStatus).derived = turn.derived := rfl

end Parts

end TunnelFailover.Turn

namespace TunnelFailover

/-- Only the answer to a poll and a change of the name of the partner can be at fault. -/
def Occurrence.isSafe : Occurrence → Bool
  | partnerPolled .. | partnerChangedName .. => false
  | _ => true

/-- An interface becomes active or inactive. -/
def Occurrence.isElection : Occurrence → Bool
  | interfaceActivated _ | interfaceDeactivated _ => true
  | _ => false

theorem Occurrence.rank_of_isElection {occurrence : Occurrence}
    (election : occurrence.isElection = true) : occurrence.rank = 0 := by
  cases occurrence with
  | interfaceActivated | interfaceDeactivated => rfl
  | _ => cases election

theorem Occurrence.isSafe_of_isElection {occurrence : Occurrence}
    (election : occurrence.isElection = true) : occurrence.isSafe = true := by
  cases occurrence with
  | interfaceActivated | interfaceDeactivated => rfl
  | _ => cases election

/-- Only the first occurrence of the list derives anything, and one of rank two or more is alone. -/
def Orderly : List Occurrence → Prop
  | [] => True
  | first :: rest => (2 ≤ first.rank → rest = []) ∧ ∀ occurrence ∈ rest, occurrence.rank = 0

/-- The first occurrence of the list has rank one at most, and all others have rank zero. -/
def Settling (occurrences : List Occurrence) : Prop :=
  (∀ occurrence ∈ occurrences, occurrence.rank ≤ 1) ∧
    ∀ occurrence ∈ occurrences.tail, occurrence.rank = 0

namespace Settling

theorem nil : Settling [] := by simp [Settling]

theorem single {occurrence : Occurrence} (low : occurrence.rank ≤ 1) : Settling [occurrence] := by
  simp [Settling, low]

/-- Occurrences of rank zero may follow. -/
theorem append {occurrences more : List Occurrence} (settling : Settling occurrences)
    (inert : ∀ occurrence ∈ more, occurrence.rank = 0) : Settling (occurrences ++ more) := by
  obtain ⟨low, tailInert⟩ := settling
  constructor
  · intro occurrence member
    rcases List.mem_append.1 member with earlier | later
    · exact low occurrence earlier
    · exact inert occurrence later ▸ Nat.zero_le 1
  · intro occurrence member
    cases occurrences with
    | nil => exact inert occurrence (List.mem_of_mem_tail member)
    | cons first rest =>
      rcases List.mem_append.1 member with earlier | later
      · exact tailInert occurrence earlier
      · exact inert occurrence later

theorem orderly {occurrences : List Occurrence} (settling : Settling occurrences) :
    Orderly occurrences := by
  cases occurrences with
  | nil => trivial
  | cons first rest =>
    have low := settling.1 first List.mem_cons_self
    exact ⟨fun high => absurd high (by omega), settling.2⟩

end Settling

namespace Turn

/-- The second turn only activates and deactivates interfaces more than the first one, and the bridge
is as live in it. -/
structure Trails (before after : Turn) : Prop where
  up : after.machine.status.up = before.machine.status.up
  derived : ∃ elections : List Occurrence, after.derived = before.derived ++ elections ∧
    ∀ occurrence ∈ elections, occurrence.isElection = true

namespace Trails

theorem refl (turn : Turn) : Trails turn turn := ⟨rfl, [], by simp⟩

/-- A turn trails another one if it activates or deactivates one interface more. -/
theorem of_derived {before after : Turn} {occurrence : Occurrence}
    (up : after.machine.status.up = before.machine.status.up)
    (derived : after.derived = before.derived ++ [occurrence])
    (election : occurrence.isElection = true) : Trails before after :=
  ⟨up, [occurrence], derived, by simpa using election⟩

theorem trans {first second third : Turn} (earlier : Trails first second)
    (later : Trails second third) : Trails first third := by
  obtain ⟨earlierUp, elections, earlierDerived, earlierElect⟩ := earlier
  obtain ⟨laterUp, more, laterDerived, laterElect⟩ := later
  refine ⟨laterUp.trans earlierUp, elections ++ more, ?_, ?_⟩
  · rw [laterDerived, earlierDerived, List.append_assoc]
  · intro occurrence member
    rcases List.mem_append.1 member with old | new
    · exact earlierElect occurrence old
    · exact laterElect occurrence new

theorem settling {before after : Turn} (trails : Trails before after)
    (first : Settling before.derived) : Settling after.derived := by
  obtain ⟨-, elections, derived, elect⟩ := trails
  rw [derived]
  exact first.append fun occurrence member =>
    Occurrence.rank_of_isElection (elect occurrence member)

end Trails

theorem trails_activateInterface (turn : Turn) (now : Instant) (interface : String) :
    Trails turn (turn.activateInterface now interface) :=
  .of_derived rfl rfl rfl

theorem trails_deactivateInterface (turn : Turn) (now : Instant) (interface : String) :
    Trails turn (turn.deactivateInterface now interface) :=
  .of_derived rfl rfl rfl

theorem trails_supersede (turn : Turn) (now : Instant) (interface : String) :
    Trails turn (turn.supersede now interface) := by
  unfold supersede
  generalize List.filter _ _ = others
  dsimp only
  induction others generalizing turn with
  | nil => exact .refl turn
  | cons other rest inductionHypothesis =>
    exact (trails_deactivateInterface turn now other.1).trans (inductionHypothesis _)

/-- A hand-over follows the derivation of the bridge. -/
theorem trails_interfaceWentDown (turn : Turn) (now : Instant) (interface : String) :
    Trails (turn.deriveBridge now) (turn.interfaceWentDown now interface) := by
  unfold interfaceWentDown
  dsimp only
  split
  · have handedOver := trails_deactivateInterface (turn.deriveBridge now) now interface
    split
    · exact handedOver.trans (trails_activateInterface _ now _)
    · exact handedOver
  · exact .refl _

/-- A take-over follows the derivation of the bridge. -/
theorem trails_interfaceWentUp (turn : Turn) (now : Instant) (interface : String) :
    Trails (turn.deriveBridge now) (turn.interfaceWentUp now interface) := by
  unfold interfaceWentUp
  dsimp only
  split
  · split
    · exact .refl _
    · split
      · exact (trails_supersede _ now interface).trans (trails_activateInterface _ now interface)
      · split
        · exact .refl _
        · exact trails_activateInterface _ now interface
  · exact .refl _

/-- The first half of a report: the interfaces and the name of the partner. -/
def followName (turn : Turn) (report : BridgeStatus) : Turn :=
  let turn := turn.updatePartner fun partner => { partner with interfaces := report.interfaces }
  match turn.machine.partner with
  | some partner =>
    if partner.name = report.name then turn
    else
      (turn.updatePartner fun partner => { partner with name := report.name }).derive
        (.partnerChangedName partner.name report.name)
  | none => turn

theorem followReport_eq (turn : Turn) (report : BridgeStatus) :
    turn.followReport report =
      if (turn.followName report).machine.partner.any (·.active != report.active) then
        ((turn.followName report).updatePartner
          (·.setActive report.active report.activeSince)).derive
            (if report.active then .partnerActivated else .partnerDeactivated)
      else turn.followName report := rfl

/-- A report with another name than the partner has leads to a change of the name. -/
theorem followName_derived (turn : Turn) (report : BridgeStatus) :
    (turn.followName report).derived = turn.derived ∨
      ∃ partner, turn.machine.partner = some partner ∧ partner.name ≠ report.name ∧
        (turn.followName report).derived =
          turn.derived ++ [.partnerChangedName partner.name report.name] := by
  unfold followName
  cases known : turn.machine.partner with
  | none => simp [updatePartner, known]
  | some partner =>
    by_cases same : partner.name = report.name
    · simp [updatePartner, known, same]
    · simp [updatePartner, known, same]

/-- A report with another activity than the partner has leads to a change of the activity. -/
theorem followReport_derived (turn : Turn) (report : BridgeStatus) :
    ∃ activity, (turn.followReport report).derived = (turn.followName report).derived ++ activity ∧
      (activity = [] ∨ activity = [.partnerActivated] ∨ activity = [.partnerDeactivated]) := by
  rw [followReport_eq]
  split
  · cases report.active with
    | true => exact ⟨[.partnerActivated], rfl, .inr (.inl rfl)⟩
    | false => exact ⟨[.partnerDeactivated], rfl, .inr (.inr rfl)⟩
  · exact ⟨[], (List.append_nil _).symm, .inl rfl⟩

/-- What a report changes beside the liveness of the partner has rank zero. -/
theorem followReport_inert (turn : Turn) (report : BridgeStatus) :
    ∃ inert : List Occurrence, (turn.followReport report).derived = turn.derived ++ inert ∧
      ∀ occurrence ∈ inert, occurrence.rank = 0 := by
  obtain ⟨activity, derived, kinds⟩ := followReport_derived turn report
  have active : ∀ occurrence ∈ activity, occurrence.rank = 0 := by
    rcases kinds with rfl | rfl | rfl <;> simp [Occurrence.rank]
  rcases followName_derived turn report with same | ⟨partner, -, -, renamed⟩
  · rw [derived, same]
    exact ⟨activity, rfl, active⟩
  · rw [derived, renamed, List.append_assoc]
    refine ⟨_, rfl, ?_⟩
    rw [List.singleton_append, List.forall_mem_cons]
    exact ⟨rfl, active⟩

theorem settling_followReport {turn : Turn} (settling : Settling turn.derived)
    (report : BridgeStatus) : Settling (turn.followReport report).derived := by
  obtain ⟨inert, derived, zero⟩ := followReport_inert turn report
  rw [derived]
  exact settling.append zero

/-- A change of the bridge is derived first. -/
theorem settling_deriveBridge (machine : Machine) (now : Instant) :
    Settling ((start machine).deriveBridge now).derived := by
  unfold deriveBridge
  dsimp only
  split
  · exact .nil
  · refine Settling.single ?_
    split <;> exact Nat.le_refl 1

/-- The verdict on the partner is derived first. -/
theorem settling_judgePartner {turn : Turn} (nothing : turn.derived = []) (now : Instant)
    (sequence : UInt64) (result : Liveness) :
    Settling (turn.judgePartner now sequence result).derived := by
  have single (occurrence : Occurrence) (low : occurrence.rank ≤ 1) :
      Settling (turn.derived ++ [occurrence]) := by
    rw [nothing]
    exact .single low
  have none : Settling turn.derived := nothing ▸ .nil
  unfold judgePartner
  dsimp only
  split
  · split
    · exact single .partnerWentDown (Nat.le_refl 1)
    · exact none
  · split
    · exact none
    · exact single .partnerWentUp (Nat.le_refl 1)
  · exact none

/-- A probe of an interface derives at most that the interface went up or down. -/
theorem observe_derived {turn : Turn} (nothing : turn.derived = []) (now : Instant)
    (interface : String) (change : Monitor → Monitor) :
    (turn.observe now interface change).derived = [] ∨
      (turn.observe now interface change).derived = [.interfaceWentDown interface] ∨
        (turn.observe now interface change).derived = [.interfaceWentUp interface] := by
  unfold observe followVerdict
  split
  · exact .inl nothing
  · dsimp only
    split
    · split
      · exact .inr (.inl (by simp [nothing]))
      · exact .inr (.inr (by simp [nothing]))
      · exact .inl nothing
    · exact .inl nothing

theorem orderly_observe {turn : Turn} (nothing : turn.derived = []) (now : Instant)
    (interface : String) (change : Monitor → Monitor) :
    Orderly (turn.observe now interface change).derived ∧
      ∀ derived ∈ (turn.observe now interface change).derived, derived.rank < 3 := by
  rcases observe_derived nothing now interface change with silent | down | up
  · simp [silent, Orderly]
  · simp [down, Orderly, Occurrence.rank]
  · simp [up, Orderly, Occurrence.rank]

/-- At most two occurrences follow, all of them safe and of rank zero. -/
structure Echoes (occurrences : List Occurrence) : Prop where
  inert : ∀ derived ∈ occurrences, derived.rank = 0
  safe : ∀ derived ∈ occurrences, derived.isSafe = true
  few : occurrences.length ≤ 2

theorem bridgeWentDown_derived (machine : Machine) (now : Instant) :
    Echoes ((start machine).bridgeWentDown now).derived := by
  unfold bridgeWentDown deactivateBridge
  dsimp only
  split <;> split <;> constructor <;> simp [Occurrence.rank, Occurrence.isSafe]

theorem bridgeWentUp_derived (machine : Machine) (now : Instant) :
    Echoes ((start machine).bridgeWentUp now).derived := by
  unfold bridgeWentUp activateBridge
  dsimp only
  split <;> split <;> constructor <;> simp [Occurrence.rank, Occurrence.isSafe]

theorem partnerWentDown_derived (machine : Machine) (now : Instant) :
    Echoes ((start machine).partnerWentDown now).derived := by
  unfold partnerWentDown activateBridge
  dsimp only
  split <;> split <;> constructor <;> simp [Occurrence.rank, Occurrence.isSafe]

theorem partnerWentUp_derived (machine : Machine) (now : Instant) :
    Echoes ((start machine).partnerWentUp now).derived := by
  unfold partnerWentUp deactivateBridge
  split <;> constructor <;> simp [Occurrence.rank, Occurrence.isSafe]

/-- An accepted report is adopted, judged and followed. -/
theorem handle_polled {machine : Machine} {now : Instant} {sequence : UInt64}
    {report : BridgeStatus} {turn : Turn}
    (handled : (start machine).handle now (.partnerPolled sequence report) = .ok turn) :
    turn = (((start machine).adoptPartner report).judgePartner now sequence
      (if report.up then .up else .down)).followReport report := by
  simp only [handle, partnerPolled] at handled
  split at handled
  · cases handled
  · split at handled
    · cases handled
    · cases handled
      rfl

/-- What an occurrence derives is orderly and has a lower rank. -/
theorem handle_orderly {machine : Machine} {now : Instant} {occurrence : Occurrence} {turn : Turn}
    (handled : (start machine).handle now occurrence = .ok turn) :
    Orderly turn.derived ∧ ∀ derived ∈ turn.derived, derived.rank < occurrence.rank := by
  have settled {occurrences : List Occurrence} (settling : Settling occurrences) :
      Orderly occurrences ∧ ∀ derived ∈ occurrences, derived.rank < 2 :=
    ⟨settling.orderly, fun derived member => Nat.lt_succ_of_le (settling.1 derived member)⟩
  have inert {occurrences : List Occurrence} (echoes : Echoes occurrences) :
      Orderly occurrences ∧ ∀ derived ∈ occurrences, derived.rank < 1 :=
    ⟨(Settling.nil.append echoes.inert).orderly, fun derived member =>
      echoes.inert derived member ▸ Nat.one_pos⟩
  have silent {occurrences : List Occurrence} (rank : Nat) (nothing : occurrences = []) :
      Orderly occurrences ∧ ∀ derived ∈ occurrences, derived.rank < rank := by
    simp [nothing, Orderly]
  cases occurrence with
  | probeLost | probeReturned | probeUnsent | probeSent =>
    cases handled
    refine orderly_observe ?_ ..
    rfl
  | interfaceWentDown interface =>
    cases handled
    exact settled
      ((trails_interfaceWentDown _ now interface).settling (settling_deriveBridge machine now))
  | interfaceWentUp interface =>
    cases handled
    exact settled
      ((trails_interfaceWentUp _ now interface).settling (settling_deriveBridge machine now))
  | partnerPollFailed sequence cause =>
    cases handled
    unfold partnerPollFailed
    dsimp only
    split
    · exact silent 2 rfl
    · exact settled (settling_judgePartner rfl now sequence .down)
  | partnerPolled sequence report =>
    rw [handle_polled handled]
    exact settled (settling_followReport (settling_judgePartner rfl ..) report)
  | bridgeWentDown =>
    cases handled
    exact inert (bridgeWentDown_derived machine now)
  | bridgeWentUp =>
    cases handled
    exact inert (bridgeWentUp_derived machine now)
  | partnerWentDown =>
    cases handled
    exact inert (partnerWentDown_derived machine now)
  | partnerWentUp =>
    cases handled
    exact inert (partnerWentUp_derived machine now)
  | bridgeReactivated iteration =>
    cases handled
    refine silent 0 ?_
    unfold bridgeReactivated
    split <;> rfl
  | interfaceReactivated interface iteration =>
    cases handled
    refine silent 0 ?_
    unfold interfaceReactivated
    split <;> rfl
  | bridgeActivated | bridgeDeactivated | connectivityLost | connectivityRestored
  | partnerActivated | partnerDeactivated | interfaceActivated interface
  | interfaceDeactivated interface =>
    cases handled
    exact silent 0 rfl
  | partnerChangedName former latter => cases handled

/-- Only a poll and a changed name can be at fault. -/
theorem handle_error {machine : Machine} {now : Instant} {occurrence : Occurrence}
    {fault : BridgeFault} (failed : (start machine).handle now occurrence = .error fault) :
    (∃ sequence report, occurrence = .partnerPolled sequence report) ∨
      ∃ former latter, occurrence = .partnerChangedName former latter := by
  cases occurrence with
  | partnerPolled sequence report => exact .inl ⟨sequence, report, rfl⟩
  | partnerChangedName former latter => exact .inr ⟨former, latter, rfl⟩
  | _ => cases failed

end Turn

end TunnelFailover
