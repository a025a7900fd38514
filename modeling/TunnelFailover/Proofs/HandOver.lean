import TunnelFailover.Proofs.ElectionRun
/-!
This file shows that a change of an interface leads to nothing but one hand-over, from the interface
that was active to the one that is active afterwards.
-/

namespace TunnelFailover

namespace BridgeStatus

/-- At most one interface is active. -/
def IsSingle (status : BridgeStatus) : Prop :=
  ∀ first second, status.hasActive first = true → status.hasActive second = true → first = second

variable {status : BridgeStatus} {interface : String}

theorem activeInterface?_eq_some_iff (single : status.IsSingle) :
    status.activeInterface? = some interface ↔ status.hasActive interface = true := by
  unfold activeInterface?
  constructor
  · intro found
    obtain ⟨⟨name, value⟩, entry, rfl⟩ := Option.map_eq_some_iff.1 found
    obtain ⟨known, active⟩ := NameMap.get?_of_find? entry
    simp [hasActive, known, active]
  · intro active
    cases found : status.interfaces.find? fun _ interface => interface.active with
    | none =>
      obtain ⟨value, known, flag⟩ := Option.any_eq_true _ _ |>.1 active
      have inactive := (NameMap.find?_eq_none_iff _ _).1 found interface value known
      rw [flag] at inactive
      cases inactive
    | some entry =>
      obtain ⟨name, value⟩ := entry
      obtain ⟨known, flag⟩ := NameMap.get?_of_find? found
      have same := single name interface (by simp [hasActive, known, flag]) active
      rw [Option.map_some, same]

theorem activeInterface?_eq_none_iff :
    status.activeInterface? = none ↔ ∀ name, status.hasActive name = false := by
  rw [activeInterface?, Option.map_eq_none_iff, NameMap.find?_eq_none_iff]
  constructor
  · intro inactive name
    rw [hasActive, Option.any_eq_false]
    intro value known
    rw [inactive name value known]
  · intro inactive name value known
    have none := inactive name
    rw [hasActive, known] at none
    exact none

/-- An active interface is known. -/
theorem known_of_activeInterface? (active : status.activeInterface? = some interface) :
    (status.interfaces.get? interface).isSome := by
  obtain ⟨⟨name, value⟩, entry, rfl⟩ := Option.map_eq_some_iff.1 active
  simp [(NameMap.get?_of_find? entry).1]

/-- The active interface is the one that alone is active. -/
theorem activeInterface?_eq {elected : Option String}
    (active : ∀ name, status.hasActive name = true ↔ elected = some name) :
    status.activeInterface? = elected := by
  have single : status.IsSingle := fun first second firstActive secondActive =>
    Option.some.inj (((active first).1 firstActive).symm.trans ((active second).1 secondActive))
  cases elected with
  | none =>
    rw [activeInterface?_eq_none_iff]
    intro name
    rw [← Bool.not_eq_true, active]
    exact nofun
  | some name => exact (activeInterface?_eq_some_iff single).2 ((active name).2 rfl)

end BridgeStatus

/-- No interface of a new machine with fresh status is active. -/
theorem Machine.activeInterface?_of_new {name : String} {settings : BridgeSettings} {start : Instant}
    {machine : Machine}
    (built : Machine.new name settings (initialStatus name settings start) = .ok machine) :
    machine.status.activeInterface? = none := by
  rw [BridgeStatus.activeInterface?_eq_none_iff, (new_eq_ok built).2.2.2.2.1]
  intro interface
  rw [BridgeStatus.hasActive, get?_initialStatus]
  cases settings.tunnels.get? interface <;> rfl

namespace Turn

/-- The active interface, if there is one, becomes inactive. -/
def withdraw (turn : Turn) (now : Instant) : Option String → Turn
  | none => turn
  | some interface => turn.deactivateInterface now interface

/-- An interface, if there is one to elect, becomes active. -/
def elect (turn : Turn) (now : Instant) : Option String → Turn
  | none => turn
  | some interface => turn.activateInterface now interface

/-- One interface hands over to another one, if they differ. -/
def handOver (turn : Turn) (now : Instant) (former latter : Option String) : Turn :=
  if former = latter then turn else (turn.withdraw now former).elect now latter

variable {turn : Turn} {interface : String} (now : Instant)

/-- No other interface than the active one is superseded. -/
theorem supersede_eq (single : turn.machine.status.IsSingle)
    (inactive : turn.machine.status.hasActive interface = false) :
    turn.supersede now interface = turn.withdraw now turn.machine.status.activeInterface? := by
  unfold supersede
  generalize othersEqual : turn.machine.status.interfaces.entries.filter _ = others
  have isActive (entry : String × InterfaceStatus) (member : entry ∈ others) :
      turn.machine.status.hasActive entry.1 = true := by
    rw [← othersEqual, List.mem_filter, Bool.and_eq_true] at member
    have known := (NameMap.get?_eq_some_iff _ entry.1 entry.2).2 member.1
    simp [BridgeStatus.hasActive, known, member.2.2]
  have distinct : others.Pairwise (·.1 < ·.1) := by
    rw [← othersEqual]
    exact turn.machine.status.interfaces.sorted.filter _
  rcases others with _ | ⟨first, _ | ⟨second, rest⟩⟩
  · have none : turn.machine.status.activeInterface? = none := by
      rw [BridgeStatus.activeInterface?_eq_none_iff]
      intro name
      rw [← Bool.not_eq_true]
      intro active
      obtain ⟨value, known, flag⟩ := Option.any_eq_true _ _ |>.1 active
      have apart : name ≠ interface := by
        rintro rfl
        rw [inactive] at active
        cases active
      have member := (NameMap.get?_eq_some_iff _ name value).1 known
      have refused := List.filter_eq_nil_iff.1 othersEqual (name, value) member
      simp [apart, flag] at refused
    rw [none]
    rfl
  · have active := isActive first List.mem_cons_self
    rw [(BridgeStatus.activeInterface?_eq_some_iff single).2 active]
    rfl
  · have same := single first.1 second.1 (isActive first (by simp)) (isActive second (by simp))
    have smaller := (List.pairwise_cons.1 distinct).1 second List.mem_cons_self
    rw [same] at smaller
    exact absurd smaller (String.lt_irrefl _)

theorem isSingle_deriveBridge (single : turn.machine.status.IsSingle) :
    (turn.deriveBridge now).machine.status.IsSingle := by
  intro first second firstActive secondActive
  rw [deriveBridge_hasActive] at firstActive secondActive
  exact single first second firstActive secondActive

@[simp] theorem deriveBridge_activeInterface? :
    (turn.deriveBridge now).machine.status.activeInterface? =
      turn.machine.status.activeInterface? := by
  unfold BridgeStatus.activeInterface?
  rw [deriveBridge_interfaces]

/-- No interface is active once the active one has been withdrawn. -/
theorem withdraw_inactive (single : turn.machine.status.IsSingle) (name : String) :
    (turn.withdraw now turn.machine.status.activeInterface?).machine.status.hasActive name =
      false := by
  cases elected : turn.machine.status.activeInterface? with
  | none => exact BridgeStatus.activeInterface?_eq_none_iff.1 elected name
  | some active =>
    rw [withdraw, deactivateInterface_machine, BridgeStatus.hasActive_setActive, Bool.and_false]
    split
    · rfl
    · rename_i apart
      rw [← Bool.not_eq_true, ← BridgeStatus.activeInterface?_eq_some_iff single, elected]
      rintro ⟨⟩
      exact apart rfl

/-- Withdrawals keep the names of interfaces. -/
theorem withdraw_known (former : Option String) (name : String) :
    ((turn.withdraw now former).machine.status.interfaces.get? name).isSome =
      (turn.machine.status.interfaces.get? name).isSome := by
  cases former with
  | none => rfl
  | some active =>
    rw [withdraw, deactivateInterface_machine, BridgeStatus.modifyInterface, NameMap.get?_modify]
    split <;> simp

/-- A known interface that is elected while none is active is the active one. -/
theorem elect_activeInterface? (inactive : ∀ name, turn.machine.status.hasActive name = false)
    {latter : Option String}
    (known : ∀ name, latter = some name → (turn.machine.status.interfaces.get? name).isSome) :
    (turn.elect now latter).machine.status.activeInterface? = latter := by
  cases latter with
  | none => exact BridgeStatus.activeInterface?_eq_none_iff.2 inactive
  | some elected =>
    refine BridgeStatus.activeInterface?_eq fun name => ?_
    rw [elect, activateInterface_machine, BridgeStatus.hasActive_setActive, known elected rfl,
      inactive name]
    by_cases same : name = elected
    · simp [same]
    · simp [same, Ne.symm same]

/-- The active interface after a hand-over is the one that was elected. -/
theorem handOver_activeInterface? (single : turn.machine.status.IsSingle) {latter : Option String}
    (known : ∀ name, latter = some name → (turn.machine.status.interfaces.get? name).isSome) :
    (turn.handOver now turn.machine.status.activeInterface?
      latter).machine.status.activeInterface? = latter := by
  unfold handOver
  split
  · assumption
  · refine elect_activeInterface? now (withdraw_inactive now single) fun name elected => ?_
    rw [withdraw_known]
    exact known name elected

/-- A change of an interface leads to a hand-over, to an interface that is known. -/
def HandsOver (machine : Machine) (turn : Turn) : Prop :=
  ∃ latter : Option String,
    (∀ name, latter = some name → (machine.status.interfaces.get? name).isSome) ∧
    turn = ((start machine).deriveBridge now).handOver now machine.status.activeInterface? latter

/-- Without a hand-over, the active interface stays. -/
theorem handsOver_deriveBridge (machine : Machine) :
    HandsOver now machine ((start machine).deriveBridge now) :=
  ⟨machine.status.activeInterface?, fun _ => BridgeStatus.known_of_activeInterface?,
    (if_pos rfl).symm⟩

/-- An interface that goes down hands over if it was active. -/
theorem handsOver_interfaceWentDown {machine : Machine} (single : machine.status.IsSingle)
    (interface : String) :
    HandsOver now machine ((start machine).interfaceWentDown now interface) := by
  unfold interfaceWentDown
  dsimp only
  split
  · rename_i active
    rw [deriveBridge_interfaces] at active
    have former : machine.status.activeInterface? = some interface :=
      (BridgeStatus.activeInterface?_eq_some_iff single).2 active
    split
    · rename_i promoted status found
      obtain ⟨known, chosen⟩ := NameMap.get?_of_find? found
      have apart : some interface ≠ some promoted := by
        rw [Bool.and_eq_true, bne_iff_ne] at chosen
        exact fun same => chosen.1 (Option.some.inj same).symm
      refine ⟨some promoted, ?_, ?_⟩
      · rintro name ⟨⟩
        have withdrawn : ((((start machine).deriveBridge now).withdraw now
            (some interface)).machine.status.interfaces.get? promoted).isSome :=
          Option.isSome_of_eq_some known
        rwa [withdraw_known, deriveBridge_interfaces] at withdrawn
      · rw [former, handOver, if_neg apart]
        rfl
    · refine ⟨none, nofun, ?_⟩
      rw [former]
      rfl
  · exact handsOver_deriveBridge now machine

/-- An interface that comes up takes over or fills a gap, unless another one stays active. -/
theorem handsOver_interfaceWentUp {machine : Machine} (single : machine.status.IsSingle)
    (interface : String) :
    HandsOver now machine ((start machine).interfaceWentUp now interface) := by
  unfold interfaceWentUp
  dsimp only
  split
  · rename_i link status linked known
    rw [deriveBridge_interfaces, start_machine] at known
    split
    · exact handsOver_deriveBridge now machine
    · rename_i notActive
      have inactive : machine.status.hasActive interface = false := by
        simpa [BridgeStatus.hasActive, known] using notActive
      have apart : machine.status.activeInterface? ≠ some interface := by
        rw [Ne, BridgeStatus.activeInterface?_eq_some_iff single, inactive]
        exact Bool.false_ne_true
      have known : ∀ name, some interface = some name →
          (machine.status.interfaces.get? name).isSome := by
        rintro name ⟨⟩
        rw [known]
        rfl
      have stillInactive : ((start machine).deriveBridge now).machine.status.hasActive interface =
          false := by
        rw [deriveBridge_hasActive]
        exact inactive
      have superseded := supersede_eq now (isSingle_deriveBridge now single) stillInactive
      split
      · refine ⟨some interface, known, ?_⟩
        rw [superseded, deriveBridge_activeInterface?, handOver, start_machine, if_neg apart]
        rfl
      · split
        · exact handsOver_deriveBridge now machine
        · rename_i vacant
          have none : machine.status.activeInterface? = none := by
            rw [BridgeStatus.activeInterface?_eq_none_iff]
            intro name
            rw [← Bool.not_eq_true]
            intro active
            rw [deriveBridge_interfaces] at vacant
            exact vacant ((NameMap.anyValue_iff _ _).2 ⟨name, active⟩)
          refine ⟨some interface, known, ?_⟩
          rw [handOver, if_neg apart, none]
          rfl
  · exact handsOver_deriveBridge now machine

end Turn

end TunnelFailover
