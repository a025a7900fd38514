import TunnelFailover.Proofs.Changes
import TunnelFailover.Proofs.Lookup
import TunnelFailover.Proofs.Run
/-!
This file says which interfaces of a bridge are up and which are active, and what the parts of a turn
do to them.
-/

namespace TunnelFailover

namespace BridgeStatus

/-- The status knows the interface and takes it to be up. -/
def hasUp (status : BridgeStatus) (interface : String) : Bool :=
  (status.interfaces.get? interface).any (·.up)

/-- The status knows the interface and has it active. -/
def hasActive (status : BridgeStatus) (interface : String) : Bool :=
  (status.interfaces.get? interface).any (·.active)

variable (status : BridgeStatus) (interface other : String) (flag : Bool) (now : Instant)

@[simp] theorem hasUp_setActive :
    (status.modifyInterface interface (·.setActive flag now)).hasUp other =
      status.hasUp other := by
  simp only [hasUp, modifyInterface, NameMap.get?_modify]
  split <;> cases status.interfaces.get? other <;> rfl

@[simp] theorem hasActive_setUp :
    (status.modifyInterface interface (·.setUp flag now)).hasActive other =
      status.hasActive other := by
  simp only [hasActive, modifyInterface, NameMap.get?_modify]
  split <;> cases status.interfaces.get? other <;> rfl

theorem hasActive_setActive :
    (status.modifyInterface interface (·.setActive flag now)).hasActive other =
      if other = interface then (status.interfaces.get? interface).isSome && flag
      else status.hasActive other := by
  simp only [hasActive, modifyInterface, NameMap.get?_modify]
  split
  · rename_i same
    subst same
    cases status.interfaces.get? other <;> simp [InterfaceStatus.setActive]
  · rfl

theorem hasUp_setUp :
    (status.modifyInterface interface (·.setUp flag now)).hasUp other =
      if other = interface then (status.interfaces.get? interface).isSome && flag
      else status.hasUp other := by
  simp only [hasUp, modifyInterface, NameMap.get?_modify]
  split
  · rename_i same
    subst same
    cases status.interfaces.get? other <;> simp [InterfaceStatus.setUp]
  · rfl

@[simp] theorem modifyInterface_up (change : InterfaceStatus → InterfaceStatus) :
    (status.modifyInterface interface change).up = status.up := rfl

/-- An interface that is up is known. -/
theorem known_of_hasUp {status : BridgeStatus} {interface : String}
    (up : status.hasUp interface = true) : (status.interfaces.get? interface).isSome := by
  unfold hasUp at up
  cases found : status.interfaces.get? interface <;> simp_all

end BridgeStatus

namespace Machine

/-- The role of an interface in the election. -/
def roleOf? (machine : Machine) (interface : String) : Option Role :=
  (machine.links.get? interface).map (·.role)

/-- A change of a monitor keeps the roles. -/
theorem roleOf?_modify (machine : Machine) (interface : String) (change : Monitor → Monitor) :
    roleOf? { machine with
      links := machine.links.modify interface fun link =>
        { link with monitor := change link.monitor } } = machine.roleOf? := by
  funext name
  unfold roleOf?
  dsimp only
  rw [NameMap.get?_modify]
  split
  · cases machine.links.get? name <;> rfl
  · rfl

/-- The interfaces of a fresh status are those of the settings. -/
theorem interfaces_initialStatus (name : String) (settings : BridgeSettings) (now : Instant) :
    (initialStatus name settings now).interfaces =
      settings.tunnels.mapWithName fun _ _ => .fresh now := by
  have entries : (settings.tunnels.mapWithName fun _ _ => InterfaceStatus.fresh now).entries =
      settings.tunnels.names.map fun interface => (interface, .fresh now) := by
    rw [NameMap.names, List.map_map]
    rfl
  rw [initialStatus, BridgeStatus.fresh, ← entries, NameMap.ofList_entries]

theorem get?_initialStatus (name : String) (settings : BridgeSettings) (now : Instant)
    (interface : String) :
    (initialStatus name settings now).interfaces.get? interface =
      (settings.tunnels.get? interface).map fun _ => .fresh now := by
  rw [interfaces_initialStatus, NameMap.get?_mapWithName]

/-- A new machine gives every interface the role of its settings. -/
theorem roleOf?_new {name : String} {settings : BridgeSettings} {status : BridgeStatus}
    {machine : Machine} (built : new name settings status = .ok machine) (interface : String) :
    machine.roleOf? interface = (settings.tunnels.get? interface).map (·.role) := by
  have related := NameMap.rel_get?_traverse (new_eq_ok built).1 interface
  unfold roleOf?
  generalize settings.tunnels.get? interface = tunnel at related
  generalize machine.links.get? interface = link at related
  cases related with
  | none => rfl
  | @some tunnel linked linkedOk =>
    unfold link at linkedOk
    split at linkedOk
    · cases linkedOk
      rfl
    · cases linkedOk

end Machine

namespace Turn

variable (turn : Turn) (now : Instant) (interface other : String)

@[simp] theorem activateInterface_machine :
    (turn.activateInterface now interface).machine =
      { turn.machine with
        status := turn.machine.status.modifyInterface interface (·.setActive true now) } := rfl

@[simp] theorem deactivateInterface_machine :
    (turn.deactivateInterface now interface).machine =
      { turn.machine with
        status := turn.machine.status.modifyInterface interface (·.setActive false now) } := rfl

@[simp] theorem deriveBridge_links :
    (turn.deriveBridge now).machine.links = turn.machine.links := by
  rw [changesFlags_deriveBridge turn now]

@[simp] theorem deriveBridge_interfaces :
    (turn.deriveBridge now).machine.status.interfaces = turn.machine.status.interfaces := by
  unfold deriveBridge
  dsimp only
  split <;> rfl

@[simp] theorem deriveBridge_up :
    (turn.deriveBridge now).machine.status.up =
      turn.machine.status.interfaces.anyValue (·.up) := by
  unfold deriveBridge
  dsimp only
  split
  · rename_i same
    exact same.symm
  · rfl

/-- Deactivations touch neither the links nor the liveness, and leave all other interfaces as they
are. -/
theorem foldl_deactivateInterface (entries : List (String × InterfaceStatus)) :
    let after := entries.foldl (fun turn entry => turn.deactivateInterface now entry.1) turn
    after.machine.links = turn.machine.links ∧ after.machine.status.up = turn.machine.status.up ∧
      after.machine.status.hasUp = turn.machine.status.hasUp ∧
      ∀ name, after.machine.status.hasActive name = true ↔
        turn.machine.status.hasActive name = true ∧ ∀ entry ∈ entries, name ≠ entry.1 := by
  induction entries generalizing turn with
  | nil => simp
  | cons entry rest inductionHypothesis =>
    obtain ⟨links, up, interfacesUp, active⟩ :=
      inductionHypothesis (turn.deactivateInterface now entry.1)
    refine ⟨links, up, interfacesUp.trans ?_, fun name => ?_⟩
    · funext name
      simp
    · rw [List.foldl_cons, active, deactivateInterface_machine, BridgeStatus.hasActive_setActive,
        List.forall_mem_cons]
      by_cases same : name = entry.1 <;> simp [same]

/-- No other interface is active once one has superseded them. -/
theorem supersede_machine :
    let after := turn.supersede now interface
    after.machine.links = turn.machine.links ∧ after.machine.status.up = turn.machine.status.up ∧
      after.machine.status.hasUp = turn.machine.status.hasUp ∧
      ∀ name, after.machine.status.hasActive name = true → name = interface := by
  obtain ⟨links, up, interfacesUp, active⟩ := foldl_deactivateInterface turn now
    (turn.machine.status.interfaces.entries.filter fun entry =>
      entry.1 != interface && entry.2.active)
  refine ⟨links, up, interfacesUp, fun name isActive => ?_⟩
  obtain ⟨wasActive, notDeactivated⟩ := (active name).1 isActive
  obtain ⟨status, found, flag⟩ := Option.any_eq_true _ _ |>.1 wasActive
  have member := (NameMap.get?_eq_some_iff _ name status).1 found
  by_contra apart
  refine notDeactivated (name, status) (List.mem_filter.2 ⟨member, ?_⟩) rfl
  simp [apart, flag]

/-- The bridge is up after its derivation if some interface is. -/
theorem deriveBridge_live :
    (turn.deriveBridge now).machine.status.up = true ↔
      ∃ name, turn.machine.status.hasUp name = true := by
  rw [deriveBridge_up, NameMap.anyValue_iff]
  rfl

@[simp] theorem deriveBridge_hasUp :
    (turn.deriveBridge now).machine.status.hasUp = turn.machine.status.hasUp := by
  unfold BridgeStatus.hasUp
  rw [deriveBridge_interfaces]

@[simp] theorem deriveBridge_hasActive :
    (turn.deriveBridge now).machine.status.hasActive = turn.machine.status.hasActive := by
  unfold BridgeStatus.hasActive
  rw [deriveBridge_interfaces]

@[simp] theorem deriveBridge_roleOf? :
    (turn.deriveBridge now).machine.roleOf? = turn.machine.roleOf? := by
  unfold Machine.roleOf?
  rw [deriveBridge_links]

@[simp] theorem deactivateInterface_hasUp :
    (turn.deactivateInterface now interface).machine.status.hasUp = turn.machine.status.hasUp := by
  funext name
  simp

@[simp] theorem activateInterface_hasUp :
    (turn.activateInterface now interface).machine.status.hasUp = turn.machine.status.hasUp := by
  funext name
  simp

end Turn

end TunnelFailover
