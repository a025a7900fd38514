import Mathlib.Data.List.Nodup
import TunnelFailover.Proofs.Flag
import TunnelFailover.Proofs.Stance
/-!
This file shows that a turn derives an event for every flag that it flips, and says which flags the
handling of an occurrence flips.
-/

namespace TunnelFailover

/-- What changes if one choice follows another one: the former is given up first, and then the latter
is taken. -/
def changes {α : Type} [DecidableEq α] (former latter : Option α) : List (α × Bool) :=
  if former = latter then []
  else former.toList.map (·, false) ++ latter.toList.map (·, true)

theorem changes_self {α : Type} [DecidableEq α] (choice : Option α) : changes choice choice = [] :=
  if_pos rfl

/-- A choice that is given up is not taken again. -/
theorem nodup_changes {α : Type} [DecidableEq α] (former latter : Option α) :
    ((changes former latter).map (·.1)).Nodup := by
  unfold changes
  cases former <;> cases latter <;> split <;> simp_all

/-- The rank of the occurrences whose handling can set a flag. -/
def Flag.stage : Flag → Nat
  | interfaceUp _ => 3
  | bridgeUp | interfaceActive _ => 2
  | bridgeActive => 1

/-- The flags that the handling of an occurrence sets, and the values that it gives them. -/
def Occurrence.Sets (before after : BridgeStatus) (settings : List (Flag × Bool)) :
    Occurrence → Prop
  | probeLost .. | probeReturned .. | probeUnsent .. | probeSent .. =>
    settings = [] ∨ ∃ interface up, settings = [(.interfaceUp interface, up)]
  | interfaceWentDown _ | interfaceWentUp _ =>
    settings = (if after.up = before.up then [] else [(.bridgeUp, after.up)]) ++
      (changes before.activeInterface? after.activeInterface?).map fun change =>
        (.interfaceActive change.1, change.2)
  | bridgeWentDown | bridgeWentUp | partnerWentDown | partnerWentUp =>
    settings = if after.active = before.active then [] else [(.bridgeActive, after.active)]
  | _ => settings = []

/-- No flag is set twice, and each one is set in its stage. -/
theorem Occurrence.Sets.staged {before after : BridgeStatus} {settings : List (Flag × Bool)}
    {occurrence : Occurrence} (sets : occurrence.Sets before after settings) :
    (settings.map (·.1)).Nodup ∧ ∀ flag ∈ settings.map (·.1), flag.stage = occurrence.rank := by
  cases occurrence with
  | probeLost | probeReturned | probeUnsent | probeSent =>
    obtain rfl | ⟨interface, up, rfl⟩ := sets
    · simp
    · simp [Flag.stage, rank]
  | interfaceWentDown | interfaceWentUp =>
    subst sets
    have distinct := nodup_changes before.activeInterface? after.activeInterface?
    generalize changes before.activeInterface? after.activeInterface? = choices at distinct
    have named : (choices.map fun change => (Flag.interfaceActive change.1, change.2)).map (·.1) =
        (choices.map (·.1)).map Flag.interfaceActive := by simp
    have apart : ((choices.map (·.1)).map Flag.interfaceActive).Nodup :=
      distinct.map fun _ _ same => Flag.interfaceActive.inj same
    rw [List.map_append, named]
    generalize choices.map (·.1) = names at apart
    split <;> simp_all [Flag.stage, rank]
  | bridgeWentDown | bridgeWentUp | partnerWentDown | partnerWentUp =>
    subst sets
    split <;> simp [Flag.stage, rank]
  | _ =>
    subst sets
    simp

/-- What sets a flag could not have been reported. -/
theorem Occurrence.unreported_of_sets? {occurrence : Occurrence} {setting : Flag × Bool}
    (sets : occurrence.sets? = some setting) : occurrence.isReported = false := by
  cases occurrence <;> first | rfl | cases sets

/-- The flag of an active interface is known and set. -/
theorem BridgeStatus.flag?_of_activeInterface? {status : BridgeStatus} {interface : String}
    (active : status.activeInterface? = some interface) :
    (status.flag? (.interfaceActive interface)).map (·.1) = some true := by
  obtain ⟨⟨name, value⟩, entry, rfl⟩ := Option.map_eq_some_iff.1 active
  obtain ⟨known, flag⟩ := NameMap.get?_of_find? entry
  simp [flag?, known, flag]

/-- A known interface that is not active has its flag, which is not set. -/
theorem BridgeStatus.flag?_of_inactive {status : BridgeStatus} {interface : String}
    (known : (status.interfaces.get? interface).isSome)
    (inactive : status.hasActive interface = false) :
    (status.flag? (.interfaceActive interface)).map (·.1) = some false := by
  obtain ⟨value, found⟩ := Option.isSome_iff_exists.1 known
  simpa [flag?, hasActive, found] using inactive

namespace Turn

/-- The settings of flags that are derived so far. -/
def settings (turn : Turn) : List (Flag × Bool) := turn.derived.filterMap (·.sets?)

/-- The events that are derived so far lead from a first status to the one of the machine. None of
them could have been reported. -/
structure Records (now : Instant) (first : BridgeStatus) (turn : Turn) : Prop where
  replays : first.Replays (turn.derived.map (Event.mk now)) turn.machine.status
  unreported : ∀ occurrence ∈ turn.derived, occurrence.isReported = false

variable {now : Instant} {first : BridgeStatus} {turn other : Turn}

@[simp] theorem settings_derive (occurrence : Occurrence) :
    (turn.derive occurrence).settings = turn.settings ++ occurrence.sets?.toList := by
  simp [settings, List.filterMap_append, List.filterMap_cons]
  cases occurrence.sets? <;> rfl

@[simp] theorem settings_updateStatus (change : BridgeStatus → BridgeStatus) :
    (turn.updateStatus change).settings = turn.settings := rfl

@[simp] theorem settings_updatePartner (change : BridgeStatus → BridgeStatus) :
    (turn.updatePartner change).settings = turn.settings := rfl

@[simp] theorem updatePartner_status (change : BridgeStatus → BridgeStatus) :
    (turn.updatePartner change).machine.status = turn.machine.status := rfl

theorem records_start (machine : Machine) (now : Instant) :
    (start machine).Records now machine.status where
  replays := .nil machine.status
  unreported := List.forall_mem_nil _

/-- Only the status and what is derived matters. -/
theorem Records.transfer (records : turn.Records now first)
    (status : other.machine.status = turn.machine.status)
    (derived : other.derived = turn.derived) : other.Records now first := by
  obtain ⟨replays, unreported⟩ := records
  constructor
  · rw [status, derived]
    exact replays
  · rw [derived]
    exact unreported

/-- One more occurrence is recorded if its replay gives the status. -/
theorem Records.derive (records : turn.Records now first) {occurrence : Occurrence}
    (unreported : occurrence.isReported = false)
    (flips : ∀ flag value, occurrence.sets? = some (flag, value) →
      (turn.machine.status.flag? flag).map (·.1) = some !value)
    {status : BridgeStatus} (replayed : turn.machine.status.replay ⟨now, occurrence⟩ = status) :
    ((turn.updateStatus fun _ => status).derive occurrence).Records now first := by
  constructor
  · rw [derive_derived, updateStatus_derived, List.map_append]
    subst replayed
    exact records.replays.concat flips
  · rw [derive_derived, updateStatus_derived, List.forall_mem_append, List.forall_mem_singleton]
    exact ⟨records.unreported, unreported⟩

/-- A flag that is flipped is recorded. -/
theorem Records.set (records : turn.Records now first) (flag : Flag) (value : Bool)
    {occurrence : Occurrence} (sets : occurrence.sets? = some (flag, value))
    (flips : (turn.machine.status.flag? flag).map (·.1) = some !value) :
    ((turn.updateStatus (·.set value now flag)).derive occurrence).Records now first := by
  refine records.derive (Occurrence.unreported_of_sets? sets) (fun changed given same => ?_) ?_
  · rw [sets] at same
    cases same
    exact flips
  · rw [BridgeStatus.replay, sets]

/-- An occurrence that sets no flag may be derived at any time. -/
theorem Records.pass (records : turn.Records now first) (occurrence : Occurrence)
    (silent : occurrence.sets? = none) (unreported : occurrence.isReported = false) :
    (turn.derive occurrence).Records now first := by
  refine records.derive unreported (fun changed given same => ?_) ?_
  · rw [silent] at same
    cases same
  · rw [BridgeStatus.replay, silent]

theorem Records.ite (condition : Prop) [Decidable condition]
    (holds : condition → turn.Records now first) (fails : ¬condition → other.Records now first) :
    (if condition then turn else other).Records now first := by
  split
  · exact holds ‹_›
  · exact fails ‹_›

theorem Records.followVerdict (records : turn.Records now first) (interface : String) :
    (turn.followVerdict now interface).Records now first := by
  unfold Turn.followVerdict
  split
  · rename_i link status linked known
    split
    · rename_i wasUp
      exact records.set (.interfaceUp interface) false rfl
        (by simp [BridgeStatus.flag?, known, wasUp])
    · rename_i wasDown
      exact records.set (.interfaceUp interface) true rfl
        (by simp [BridgeStatus.flag?, known, wasDown])
    · exact records
  · exact records

theorem Records.observe (records : turn.Records now first) (interface : String)
    (change : Monitor → Monitor) : (turn.observe now interface change).Records now first := by
  unfold Turn.observe
  split
  · exact records.transfer rfl rfl
  · dsimp only
    refine Records.followVerdict ?_ interface
    exact records.transfer rfl rfl

theorem Records.deriveBridge (records : turn.Records now first) :
    (turn.deriveBridge now).Records now first := by
  unfold Turn.deriveBridge
  dsimp only
  split
  · exact records
  · rename_i differs
    refine records.set .bridgeUp _ (by split <;> simp [Occurrence.sets?, *]) ?_
    simpa [BridgeStatus.flag?] using (Bool.eq_not_of_ne differs).symm

/-- An active interface that is withdrawn and an inactive one that is elected are recorded. -/
theorem Records.handOver (records : turn.Records now first)
    (single : turn.machine.status.IsSingle) {latter : Option String}
    (known : ∀ name, latter = some name → (turn.machine.status.interfaces.get? name).isSome) :
    (turn.handOver now turn.machine.status.activeInterface? latter).Records now first := by
  have withdrawn : (turn.withdraw now turn.machine.status.activeInterface?).Records now first := by
    cases active : turn.machine.status.activeInterface? with
    | none => exact records
    | some former =>
      exact records.set (.interfaceActive former) false rfl
        (BridgeStatus.flag?_of_activeInterface? active)
  unfold Turn.handOver
  refine .ite _ (fun _ => records) fun _ => ?_
  cases latter with
  | none => exact withdrawn
  | some elected =>
    refine withdrawn.set (.interfaceActive elected) true rfl ?_
    refine BridgeStatus.flag?_of_inactive ?_ (withdraw_inactive now single elected)
    rw [withdraw_known]
    exact known elected rfl

theorem Records.activateBridge (records : turn.Records now first)
    (inactive : turn.machine.status.active = false) :
    (turn.activateBridge now).Records now first :=
  records.set .bridgeActive true rfl (congrArg some inactive)

theorem Records.deactivateBridge (records : turn.Records now first)
    (active : turn.machine.status.active = true) :
    (turn.deactivateBridge now).Records now first :=
  records.set .bridgeActive false rfl (congrArg some active)

theorem Records.judgePartner (records : turn.Records now first) (sequence : UInt64)
    (result : Liveness) : (turn.judgePartner now sequence result).Records now first := by
  unfold Turn.judgePartner
  dsimp only
  split
  · split
    · refine Records.pass ?_ _ rfl rfl
      exact records.transfer rfl rfl
    · exact records.transfer rfl rfl
  · split
    · exact records.transfer rfl rfl
    · refine Records.pass ?_ _ rfl rfl
      exact records.transfer rfl rfl
  · exact records.transfer rfl rfl

theorem Records.followReport (records : turn.Records now first) (report : BridgeStatus) :
    (turn.followReport report).Records now first := by
  have named : (turn.followName report).Records now first := by
    unfold Turn.followName
    dsimp only
    split
    · split
      · exact records.transfer rfl rfl
      · refine Records.pass ?_ _ rfl rfl
        exact records.transfer rfl rfl
    · exact records.transfer rfl rfl
  rw [followReport_eq]
  refine .ite _ (fun _ => Records.pass ?_ _ (by split <;> rfl) (by split <;> rfl)) fun _ => named
  exact named.transfer rfl rfl

@[simp] theorem start_settings (machine : Machine) : (start machine).settings = [] := rfl

theorem settings_deriveBridge :
    (turn.deriveBridge now).settings = turn.settings ++
      if (turn.deriveBridge now).machine.status.up = turn.machine.status.up then []
      else [(.bridgeUp, (turn.deriveBridge now).machine.status.up)] := by
  unfold Turn.deriveBridge
  dsimp only
  split
  · simp
  · rename_i differs
    cases up : turn.machine.status.interfaces.anyValue (·.up) <;> rw [up] at differs <;>
      simp [BridgeStatus.setUp, Occurrence.sets?, differs]

theorem settings_handOver (former latter : Option String) :
    (turn.handOver now former latter).settings = turn.settings ++
      (changes former latter).map fun change => (.interfaceActive change.1, change.2) := by
  unfold Turn.handOver changes
  split
  · simp
  · cases former <;> cases latter <;>
      simp [withdraw, elect, deactivateInterface, activateInterface, Occurrence.sets?]

@[simp] theorem handOver_up (former latter : Option String) :
    (turn.handOver now former latter).machine.status.up = turn.machine.status.up := by
  unfold Turn.handOver
  split
  · rfl
  · cases former <;> cases latter <;> rfl

/-- Every handled occurrence derives an event for every flag that it flips, and nothing that could have
been reported. -/
theorem handle_records {machine : Machine} {occurrence : Occurrence} {turn : Turn}
    (handled : (start machine).handle now occurrence = .ok turn)
    (single : machine.status.IsSingle) : turn.Records now machine.status := by
  have started := records_start machine now
  have handedOver {after : Turn} (handsOver : HandsOver now machine after) :
      after.Records now machine.status := by
    obtain ⟨latter, known, rfl⟩ := handsOver
    rw [← start_machine machine, ← deriveBridge_interfaces] at known
    have derived := started.deriveBridge.handOver (isSingle_deriveBridge now single) known
    rwa [deriveBridge_activeInterface?] at derived
  cases occurrence with
  | probeLost | probeReturned | probeUnsent | probeSent =>
    cases handled
    refine Records.observe ?_ ..
    exact started.transfer rfl rfl
  | interfaceWentDown interface =>
    cases handled
    exact handedOver (handsOver_interfaceWentDown now single interface)
  | interfaceWentUp interface =>
    cases handled
    exact handedOver (handsOver_interfaceWentUp now single interface)
  | bridgeWentDown =>
    cases handled
    have deactivated := Records.ite _ started.deactivateBridge fun _ => started
    exact .ite _ (fun _ => deactivated) fun _ => deactivated.pass _ rfl rfl
  | bridgeWentUp =>
    cases handled
    have activated := Records.ite
      (¬machine.status.active = true ∧ (machine.role = .active ∨ ¬machine.partnerIsUp = true))
      (fun claims => started.activateBridge (Bool.eq_false_iff.2 claims.1)) fun _ => started
    exact .ite _ (fun _ => activated) fun _ => activated.pass _ rfl rfl
  | partnerWentDown =>
    cases handled
    have told : ((start machine).updatePartner (·.setActive false now)).Records now machine.status :=
      started.transfer rfl rfl
    have lost := Records.ite (machine.partner.any (·.active) = true)
      (fun _ => told.pass .partnerDeactivated rfl rfl) fun _ => started
    exact .ite _ (fun _ => lost) fun inactive => lost.activateBridge (Bool.eq_false_iff.2 inactive)
  | partnerWentUp =>
    cases handled
    exact .ite _ (fun yields => started.deactivateBridge yields.1) fun _ => started
  | partnerPollFailed sequence cause =>
    cases handled
    unfold partnerPollFailed
    dsimp only
    split
    · exact started.transfer rfl rfl
    · refine Records.judgePartner ?_ sequence .down
      exact started.transfer rfl rfl
  | partnerPolled sequence report =>
    rw [handle_polled handled]
    refine (Records.judgePartner ?_ sequence _).followReport report
    exact started.transfer rfl rfl
  | partnerChangedName => cases handled
  | _ =>
    have moves := handle_moves handled
    have changes := handle_changes handled
    exact started.transfer (congrArg (·.status) changes) moves.2

/-- A probe sets at most the flag of its interface. -/
theorem observe_sets (nothing : turn.derived = []) (interface : String)
    (change : Monitor → Monitor) :
    let after := turn.observe now interface change
    after.settings = [] ∨ ∃ interface up, after.settings = [(.interfaceUp interface, up)] := by
  dsimp only
  unfold settings
  rcases observe_derived nothing now interface change with silent | down | up
  · exact .inl (by rw [silent]; rfl)
  · exact .inr ⟨interface, false, by rw [down]; rfl⟩
  · exact .inr ⟨interface, true, by rw [up]; rfl⟩

/-- No verdict on the partner sets a flag. -/
theorem settings_judgePartner (sequence : UInt64) (result : Liveness) :
    (turn.judgePartner now sequence result).settings = turn.settings := by
  unfold Turn.judgePartner
  dsimp only
  split
  · split
    · exact (settings_derive _).trans (List.append_nil _)
    · rfl
  · split
    · rfl
    · exact (settings_derive _).trans (List.append_nil _)
  · rfl

/-- No report of the partner sets a flag. -/
theorem settings_followReport (report : BridgeStatus) :
    (turn.followReport report).settings = turn.settings := by
  obtain ⟨activity, derived, kinds⟩ := followReport_derived turn report
  have silent : activity.filterMap (·.sets?) = [] := by
    rcases kinds with rfl | rfl | rfl <;> rfl
  unfold settings
  rw [derived, List.filterMap_append, silent, List.append_nil]
  rcases followName_derived turn report with same | ⟨partner, -, -, renamed⟩
  · rw [same]
  · rw [renamed, List.filterMap_append]
    exact List.append_nil _

/-- Every handled occurrence sets flags by its own rule. -/
theorem handle_sets {machine : Machine} {occurrence : Occurrence} {turn : Turn}
    (handled : (start machine).handle now occurrence = .ok turn)
    (single : machine.status.IsSingle) :
    occurrence.Sets machine.status turn.machine.status turn.settings := by
  have handedOver {after : Turn} (handsOver : HandsOver now machine after) :
      after.settings =
        (if after.machine.status.up = machine.status.up then []
          else [(.bridgeUp, after.machine.status.up)]) ++
        (changes machine.status.activeInterface? after.machine.status.activeInterface?).map
          fun change => (.interfaceActive change.1, change.2) := by
    obtain ⟨latter, known, rfl⟩ := handsOver
    rw [← start_machine machine, ← deriveBridge_interfaces] at known
    have elected := handOver_activeInterface? now (isSingle_deriveBridge now single) known
    rw [deriveBridge_activeInterface?, start_machine] at elected
    rw [settings_handOver, settings_deriveBridge, handOver_up, elected]
    rfl
  cases occurrence with
  | probeLost | probeReturned | probeUnsent | probeSent =>
    cases handled
    refine observe_sets ?_ ..
    rfl
  | interfaceWentDown interface =>
    cases handled
    exact handedOver (handsOver_interfaceWentDown now single interface)
  | interfaceWentUp interface =>
    cases handled
    exact handedOver (handsOver_interfaceWentUp now single interface)
  | bridgeWentDown =>
    cases handled
    unfold Occurrence.Sets bridgeWentDown deactivateBridge
    dsimp only
    split <;> split <;> simp_all [Occurrence.sets?, BridgeStatus.setActive]
  | bridgeWentUp =>
    cases handled
    unfold Occurrence.Sets bridgeWentUp activateBridge
    dsimp only
    split <;> split <;> simp_all [Occurrence.sets?, BridgeStatus.setActive]
  | partnerWentDown =>
    cases handled
    unfold Occurrence.Sets partnerWentDown activateBridge
    dsimp only
    split <;> split <;> simp_all [Occurrence.sets?, BridgeStatus.setActive]
  | partnerWentUp =>
    cases handled
    unfold Occurrence.Sets partnerWentUp deactivateBridge
    dsimp only
    split <;> simp_all [Occurrence.sets?, BridgeStatus.setActive]
  | partnerPollFailed sequence cause =>
    cases handled
    unfold Occurrence.Sets partnerPollFailed
    dsimp only
    split
    · rfl
    · exact settings_judgePartner sequence .down
  | partnerPolled sequence report =>
    rw [handle_polled handled]
    exact (settings_followReport report).trans (settings_judgePartner sequence _)
  | partnerChangedName => cases handled
  | _ =>
    have moves := handle_moves handled
    exact congrArg (List.filterMap (·.sets?)) moves.2

/-- The settings of one flag are those among the settings of all flags. -/
theorem filterMap_setting? (flag : Flag) :
    turn.derived.filterMap (·.setting? flag) =
      turn.settings.filterMap fun setting => if setting.1 = flag then some setting.2 else none :=
  (List.filterMap_filterMap ..).symm

/-- A handled occurrence sets every flag at most once, and only in the stage of the flag. -/
theorem handle_staged {machine : Machine} {occurrence : Occurrence} {turn : Turn}
    (handled : (start machine).handle now occurrence = .ok turn)
    (single : machine.status.IsSingle) (flag : Flag) :
    (turn.derived.filterMap (·.setting? flag)).length ≤ 1 ∧
      (turn.derived.filterMap (·.setting? flag) ≠ [] → flag.stage = occurrence.rank) := by
  obtain ⟨distinct, stages⟩ := (handle_sets handled single).staged
  rw [filterMap_setting?]
  generalize turn.settings = settings at distinct stages ⊢
  constructor
  · have counted : (settings.filterMap fun setting =>
        if setting.1 = flag then some setting.2 else none).length =
          (settings.map (·.1)).count flag := by
      clear distinct stages
      induction settings with
      | nil => rfl
      | cons setting rest inductionHypothesis =>
        by_cases same : setting.1 = flag <;> simp [same, inductionHypothesis]
    rw [counted]
    exact List.nodup_iff_count_le_one.1 distinct flag
  · intro given
    obtain ⟨value, member⟩ := List.exists_mem_of_ne_nil _ given
    obtain ⟨setting, settingMember, isValue⟩ := List.mem_filterMap.1 member
    split at isValue
    · rename_i same
      exact stages flag (same ▸ List.mem_map_of_mem settingMember)
    · cases isValue

end Turn

end TunnelFailover
