import Mathlib.Logic.Function.Basic
import TunnelFailover.Proofs.TunnelFlags
/-!
This file says when the election among the tunnel interfaces of a bridge is decided, and shows that
every handled occurrence leaves it decided, up to a change of an interface that then waits.
-/

namespace TunnelFailover

namespace Machine

/-- The interface is the only one of the active role. -/
def Prefers (machine : Machine) (interface : String) : Prop :=
  ∀ other, machine.roleOf? other = some .active ↔ other = interface

/-- The election is decided for interfaces of which some are live. -/
structure Elected (machine : Machine) (live : String → Bool) : Prop where
  single : ∀ first second, machine.status.hasActive first = true →
    machine.status.hasActive second = true → first = second
  active_live : ∀ interface, machine.status.hasActive interface = true → live interface = true
  bridge_live : machine.status.up = true ↔ ∃ interface, live interface = true
  some_active : ∀ interface, live interface = true →
    ∃ elected, machine.status.hasActive elected = true
  preferred_active : ∀ interface, machine.Prefers interface → live interface = true →
    machine.status.hasActive interface = true

/-- The election looks only at the links, at the flags of the interfaces and at the liveness of the
bridge. -/
theorem Elected.transfer {machine other : Machine} {live : String → Bool}
    (elected : machine.Elected live) (roles : other.roleOf? = machine.roleOf?)
    (active : other.status.hasActive = machine.status.hasActive)
    (up : other.status.up = machine.status.up) : other.Elected live := by
  obtain ⟨single, activeLive, bridgeLive, someActive, preferredActive⟩ := elected
  refine ⟨?_, ?_, ?_, ?_, ?_⟩
  · simpa only [active] using single
  · simpa only [active] using activeLive
  · rw [up]
    exact bridgeLive
  · simpa only [active] using someActive
  · simpa only [active, Prefers, roles] using preferredActive

/-- A live interface that is the only active one decides the election, unless another one is
preferred and live. -/
theorem Elected.of_winner {machine : Machine} {live : String → Bool} {winner : String}
    (active : ∀ interface, machine.status.hasActive interface = true ↔ interface = winner)
    (winnerLive : live winner = true)
    (bridgeLive : machine.status.up = true ↔ ∃ interface, live interface = true)
    (preferred : ∀ interface, machine.Prefers interface → live interface = true →
      interface = winner) : machine.Elected live where
  single first second firstActive secondActive :=
    ((active first).1 firstActive).trans ((active second).1 secondActive).symm
  active_live interface isActive := by
    rw [(active interface).1 isActive]
    exact winnerLive
  bridge_live := bridgeLive
  some_active _ _ := ⟨winner, (active winner).2 rfl⟩
  preferred_active interface prefers isLive := (active interface).2 (preferred interface prefers isLive)

/-- Nothing has to be elected if no interface is live. -/
theorem Elected.of_none {machine : Machine} {live : String → Bool}
    (inactive : ∀ interface, machine.status.hasActive interface = false)
    (dead : ∀ interface, live interface = false)
    (down : machine.status.up = false) : machine.Elected live where
  single first second firstActive := by simp [inactive] at firstActive
  active_live interface isActive := by simp [inactive] at isActive
  bridge_live := by simp [dead, down]
  some_active interface isLive := by simp [dead] at isLive
  preferred_active interface _ isLive := by simp [dead] at isLive

/-- The election is decided for the interfaces that are up, or for those that were before the change
that waits. -/
def Electing (machine : Machine) : List Occurrence → Prop
  | .interfaceWentDown interface :: _ =>
    machine.status.hasUp interface = false ∧
      machine.Elected (Function.update machine.status.hasUp interface true)
  | .interfaceWentUp interface :: _ =>
    machine.status.hasUp interface = true ∧ (machine.links.get? interface).isSome ∧
      machine.Elected (Function.update machine.status.hasUp interface false)
  | _ => machine.Elected machine.status.hasUp

/-- Nothing of low rank is a change of an interface, nor is a poll. -/
theorem electing_iff_of_quiet (machine : Machine) {waiting : List Occurrence}
    (quiet : ∀ occurrence ∈ waiting, occurrence.rank < 2 ∨
      ∃ sequence report, occurrence = .partnerPolled sequence report) :
    machine.Electing waiting ↔ machine.Elected machine.status.hasUp := by
  cases waiting with
  | nil => rfl
  | cons occurrence rest =>
    have headQuiet := quiet occurrence List.mem_cons_self
    cases occurrence with
    | interfaceWentDown | interfaceWentUp => simp [Occurrence.rank] at headQuiet
    | _ => rfl

end Machine

namespace Turn

variable (now : Instant)

/-- The derivation of the bridge decides the election if the right interface is active already. -/
theorem elected_deriveBridge {turn : Turn}
    (single : ∀ first second, turn.machine.status.hasActive first = true →
      turn.machine.status.hasActive second = true → first = second)
    (activeUp : ∀ name, turn.machine.status.hasActive name = true →
      turn.machine.status.hasUp name = true)
    (someActive : ∀ name, turn.machine.status.hasUp name = true →
      ∃ elected, turn.machine.status.hasActive elected = true)
    (preferredActive : ∀ name, turn.machine.Prefers name → turn.machine.status.hasUp name = true →
      turn.machine.status.hasActive name = true) :
    let after := (turn.deriveBridge now).machine
    after.Elected after.status.hasUp := by
  dsimp only
  rw [deriveBridge_hasUp]
  constructor
  · simpa using single
  · simpa using activeUp
  · exact deriveBridge_live turn now
  · simpa using someActive
  · simpa [Machine.Prefers] using preferredActive

/-- The activation of an interface that is up decides the election if no other one is active or
preferred. -/
theorem elected_activateInterface {turn : Turn} {interface : String}
    (up : turn.machine.status.hasUp interface = true)
    (others : ∀ name, turn.machine.status.hasActive name = true → name = interface)
    (bridgeLive : turn.machine.status.up = true ↔
      ∃ name, turn.machine.status.hasUp name = true)
    (preferred : ∀ name, turn.machine.Prefers name → turn.machine.status.hasUp name = true →
      name = interface) :
    let after := (turn.activateInterface now interface).machine
    after.Elected after.status.hasUp := by
  have known := BridgeStatus.known_of_hasUp up
  have active (name : String) :
      (turn.activateInterface now interface).machine.status.hasActive name = true ↔
        name = interface := by
    rw [activateInterface_machine, BridgeStatus.hasActive_setActive]
    by_cases same : name = interface
    · simp [same, known]
    · simpa [same] using fun isActive => same (others name isActive)
  dsimp only
  rw [activateInterface_hasUp]
  exact Machine.Elected.of_winner active up bridgeLive preferred

/-- A gap that no preferred interface can fill is filled by any other one that is up. -/
theorem elected_handOver {turn : Turn} {interface : String}
    (down : turn.machine.status.hasUp interface = false)
    (inactive : ∀ name, turn.machine.status.hasActive name = false)
    (bridgeLive : turn.machine.status.up = true ↔
      ∃ name, turn.machine.status.hasUp name = true)
    (unpreferred : ∀ name, turn.machine.Prefers name →
      turn.machine.status.hasUp name = false) :
    let after :=
      (match turn.machine.status.interfaces.find? fun name status =>
          name != interface && status.up with
        | some (name, _) => turn.activateInterface now name
        | none => turn).machine
    after.Elected after.status.hasUp := by
  split
  · rename_i promoted status found
    obtain ⟨known, chosen⟩ := NameMap.get?_of_find? found
    have up : turn.machine.status.hasUp promoted = true := by
      rw [Bool.and_eq_true] at chosen
      simp [BridgeStatus.hasUp, known, chosen.2]
    exact elected_activateInterface now up (by simp [inactive]) bridgeLive
      fun name prefers isUp => by simp [unpreferred name prefers] at isUp
  · rename_i notFound
    have dead (name : String) : turn.machine.status.hasUp name = false := by
      by_cases same : name = interface
      · rw [same, down]
      · rw [← Bool.not_eq_true]
        intro isUp
        obtain ⟨status, known, flag⟩ := Option.any_eq_true _ _ |>.1 isUp
        have refused := (NameMap.find?_eq_none_iff _ _).1 notFound name status known
        simp [same, flag] at refused
    have bridgeDown : turn.machine.status.up = false := by
      rw [← Bool.not_eq_true, bridgeLive]
      simp [dead]
    exact .of_none inactive dead bridgeDown

/-- An active interface that goes down hands over to another one that is up. -/
theorem elected_interfaceWentDown {machine : Machine} {interface : String}
    (down : machine.status.hasUp interface = false)
    (elected : machine.Elected (Function.update machine.status.hasUp interface true)) :
    let after := ((start machine).interfaceWentDown now interface).machine
    after.Elected after.status.hasUp := by
  have live (name : String) (up : machine.status.hasUp name = true) :
      name ≠ interface ∧ Function.update machine.status.hasUp interface true name = true := by
    have apart : name ≠ interface := by
      rintro rfl
      simp [down] at up
    exact ⟨apart, by rwa [Function.update_of_ne apart]⟩
  have bridgeLive := deriveBridge_live (start machine) now
  unfold interfaceWentDown
  dsimp only
  split
  · rename_i active
    have wasActive : machine.status.hasActive interface = true := by
      rw [deriveBridge_interfaces] at active
      exact active
    refine elected_handOver now (by simpa using down) ?_ (by simpa using bridgeLive) ?_
    · intro name
      rw [deactivateInterface_machine, BridgeStatus.hasActive_setActive, deriveBridge_hasActive]
      by_cases same : name = interface
      · simp [same]
      · simpa [same] using fun isActive => same (elected.single name interface isActive wasActive)
    · -- A preferred interface that is up would have been the active one.
      intro name prefers
      have preferred : machine.Prefers name := by
        simpa [Machine.Prefers, Machine.roleOf?] using prefers
      rw [deactivateInterface_hasUp, deriveBridge_hasUp, ← Bool.not_eq_true]
      intro up
      obtain ⟨apart, isLive⟩ := live name up
      have isActive := elected.preferred_active name preferred isLive
      exact apart (elected.single name interface isActive wasActive)
  · rename_i inactive
    have notActive : ¬machine.status.hasActive interface = true := by
      rw [deriveBridge_interfaces] at inactive
      exact inactive
    refine elected_deriveBridge now elected.single ?_ ?_ ?_
    · intro name isActive
      have apart : name ≠ interface := by
        rintro rfl
        exact notActive isActive
      have isLive := elected.active_live name isActive
      rwa [Function.update_of_ne apart] at isLive
    · exact fun name up => elected.some_active name (live name up).2
    · exact fun name prefers up => elected.preferred_active name prefers (live name up).2

/-- An interface that comes up takes over if it has the active role, and fills a gap otherwise. -/
theorem elected_interfaceWentUp {machine : Machine} {interface : String}
    (up : machine.status.hasUp interface = true)
    (linked : (machine.links.get? interface).isSome)
    (elected : machine.Elected (Function.update machine.status.hasUp interface false)) :
    let after := ((start machine).interfaceWentUp now interface).machine
    after.Elected after.status.hasUp := by
  have live (name : String) (isUp : machine.status.hasUp name = true) (apart : name ≠ interface) :
      Function.update machine.status.hasUp interface false name = true := by
    rwa [Function.update_of_ne apart]
  have activeApart (name : String) (isActive : machine.status.hasActive name = true) :
      name ≠ interface ∧ machine.status.hasUp name = true := by
    have isLive := elected.active_live name isActive
    have apart : name ≠ interface := by
      rintro rfl
      simp at isLive
    rw [Function.update_of_ne apart] at isLive
    exact ⟨apart, isLive⟩
  have bridgeLive := deriveBridge_live (start machine) now
  obtain ⟨link, linkFound⟩ := Option.isSome_iff_exists.1 linked
  obtain ⟨status, statusFound⟩ := Option.isSome_iff_exists.1 (BridgeStatus.known_of_hasUp up)
  have inactive : status.active = false := by
    rw [← Bool.not_eq_true]
    intro isActive
    exact (activeApart interface (by simp [BridgeStatus.hasActive, statusFound, isActive])).1 rfl
  unfold interfaceWentUp
  simp only [deriveBridge_links, deriveBridge_interfaces, start_machine, linkFound, statusFound,
    inactive, Bool.false_eq_true, ↓reduceIte]
  have interfaceRole : machine.roleOf? interface = some link.role := by
    rw [Machine.roleOf?, linkFound]
    rfl
  cases role : link.role with
  | active =>
    obtain ⟨links, sameLive, sameUp, onlyItself⟩ :=
      supersede_machine ((start machine).deriveBridge now) now interface
    rw [deriveBridge_hasUp] at sameUp
    refine elected_activateInterface now ?_ onlyItself ?_ ?_
    · rw [sameUp]
      exact up
    · rw [sameLive, sameUp]
      exact bridgeLive
    · intro name prefers _
      have preferred : machine.Prefers name := by
        simpa [Machine.Prefers, Machine.roleOf?, links] using prefers
      exact ((preferred interface).1 (by rw [interfaceRole, role])).symm
  | standby =>
    -- A preferred interface that is up is another one, so that it is active already.
    have preferredActive (name : String) (prefers : machine.Prefers name)
        (isUp : machine.status.hasUp name = true) : machine.status.hasActive name = true := by
      have apart : name ≠ interface := by
        rintro rfl
        have isActiveRole := (prefers name).2 rfl
        rw [interfaceRole, role] at isActiveRole
        cases isActiveRole
      exact elected.preferred_active name prefers (live name isUp apart)
    by_cases occupied : machine.status.interfaces.anyValue (·.active) = true
    · obtain ⟨elsewhere, isActive⟩ := (NameMap.anyValue_iff _ _).1 occupied
      simp only [occupied, ↓reduceIte]
      exact elected_deriveBridge now elected.single (fun name active => (activeApart name active).2)
        (fun _ _ => ⟨elsewhere, isActive⟩) preferredActive
    · have vacant (name : String) : ¬machine.status.hasActive name = true := fun isActive =>
        occupied ((NameMap.anyValue_iff _ _).2 ⟨name, isActive⟩)
      simp only [occupied, Bool.false_eq_true, ↓reduceIte]
      refine elected_activateInterface now (by simpa using up) ?_ (by simpa using bridgeLive) ?_
      · intro name isActive
        rw [deriveBridge_hasActive] at isActive
        exact absurd isActive (vacant name)
      · intro name prefers isUp
        rw [deriveBridge_hasUp] at isUp
        have preferred : machine.Prefers name := by simpa [Machine.Prefers] using prefers
        exact absurd (preferredActive name preferred isUp) (vacant name)

/-- A verdict that changes an interface leaves the election as it was before the change. -/
theorem electing_followVerdict {turn : Turn} (nothing : turn.derived = [])
    (elected : turn.machine.Elected turn.machine.status.hasUp) (interface : String) :
    let after := turn.followVerdict now interface
    after.machine.roleOf? = turn.machine.roleOf? ∧ after.machine.Electing after.derived := by
  have unchanged : turn.machine.Electing turn.derived := by
    rw [nothing]
    exact elected
  -- The change is waiting, so that the election still knows the interface as it was.
  have changed {status : InterfaceStatus} (up : Bool)
      (found : turn.machine.status.interfaces.get? interface = some status)
      (differs : status.up = !up) :
      let after := turn.machine.status.modifyInterface interface (·.setUp up now)
      after.hasUp interface = up ∧
        Machine.Elected { turn.machine with status := after }
          (Function.update after.hasUp interface (!up)) := by
    have former : turn.machine.status.hasUp interface = !up := by
      simp [BridgeStatus.hasUp, found, differs]
    have before : Function.update
        (turn.machine.status.modifyInterface interface (·.setUp up now)).hasUp interface (!up) =
        turn.machine.status.hasUp := by
      funext name
      by_cases same : name = interface
      · rw [same, Function.update_self, former]
      · rw [Function.update_of_ne same, BridgeStatus.hasUp_setUp, if_neg same]
    refine ⟨by simp [BridgeStatus.hasUp_setUp, found], ?_⟩
    dsimp only
    rw [before]
    exact elected.transfer rfl (by funext name; simp) rfl
  unfold followVerdict
  split
  · rename_i link status linkFound statusFound
    split
    · rename_i wasUp
      refine ⟨rfl, ?_⟩
      rw [derive_derived, updateStatus_derived, nothing]
      exact changed false statusFound wasUp
    · rename_i wasDown
      obtain ⟨up, before⟩ := changed true statusFound wasDown
      refine ⟨rfl, ?_⟩
      rw [derive_derived, updateStatus_derived, nothing]
      exact ⟨up, by simp [linkFound], before⟩
    · exact ⟨rfl, unchanged⟩
  · exact ⟨rfl, unchanged⟩

/-- A probe leaves the election decided, up to the change of its own interface. -/
theorem electing_observe {turn : Turn} (nothing : turn.derived = [])
    (elected : turn.machine.Elected turn.machine.status.hasUp) (interface : String)
    (change : Monitor → Monitor) :
    let after := turn.observe now interface change
    after.machine.roleOf? = turn.machine.roleOf? ∧ after.machine.Electing after.derived := by
  unfold observe
  cases turn.machine.links.get? interface with
  | none =>
    dsimp only
    rw [unknownInterface, countError_derived, nothing]
    exact ⟨rfl, elected⟩
  | some link =>
    have roles := turn.machine.roleOf?_modify interface change
    dsimp only
    rw [← roles]
    refine electing_followVerdict now ?_ ?_ interface
    · exact nothing
    · exact elected.transfer roles rfl rfl

/-- A handled occurrence leaves the election decided, up to a change that then waits. -/
theorem handle_electing {machine : Machine} {now : Instant} {occurrence : Occurrence}
    {rest : List Occurrence} {turn : Turn}
    (handled : (start machine).handle now occurrence = .ok turn)
    (orderly : Orderly (occurrence :: rest))
    (electing : machine.Electing (occurrence :: rest)) :
    turn.machine.roleOf? = machine.roleOf? ∧ turn.machine.Electing (rest ++ turn.derived) := by
  obtain ⟨alone, restInert⟩ := orderly
  have lower := (handle_orderly handled).2
  have changes := handle_changes handled
  have low (rank : occurrence.rank ≤ 2) :
      ∀ waiting ∈ rest ++ turn.derived, waiting.rank < 2 ∨
        ∃ sequence report, waiting = .partnerPolled sequence report := by
    intro waiting member
    left
    rcases List.mem_append.1 member with old | new
    · have := restInert waiting old
      omega
    · have := lower waiting new
      omega
  have sameRoles (links : turn.machine.links = machine.links) :
      turn.machine.roleOf? = machine.roleOf? := by
    unfold Machine.roleOf?
    rw [links]
  -- All that is not about interfaces leaves what the election looks at.
  have aside (rank : occurrence.rank ≤ 2) (elected : machine.Elected machine.status.hasUp)
      (links : turn.machine.links = machine.links)
      (interfaces : turn.machine.status.interfaces = machine.status.interfaces)
      (up : turn.machine.status.up = machine.status.up) :
      turn.machine.roleOf? = machine.roleOf? ∧ turn.machine.Electing (rest ++ turn.derived) := by
    have sameUp : turn.machine.status.hasUp = machine.status.hasUp := by
      unfold BridgeStatus.hasUp
      rw [interfaces]
    have sameActive : turn.machine.status.hasActive = machine.status.hasActive := by
      unfold BridgeStatus.hasActive
      rw [interfaces]
    rw [Machine.electing_iff_of_quiet _ (low rank), sameUp]
    exact ⟨sameRoles links, elected.transfer (sameRoles links) sameActive up⟩
  cases occurrence with
  | probeLost | probeReturned | probeUnsent | probeSent =>
    rw [alone (by simp [Occurrence.rank])]
    cases handled
    refine electing_observe now ?_ ?_ ..
    · rfl
    · exact electing
  | interfaceWentDown interface =>
    have roles := sameRoles (congrArg (·.links) changes)
    rw [Machine.electing_iff_of_quiet _ (low (Nat.le_refl 2))]
    cases handled
    exact ⟨roles, elected_interfaceWentDown now electing.1 electing.2⟩
  | interfaceWentUp interface =>
    have roles := sameRoles (congrArg (·.links) changes)
    rw [Machine.electing_iff_of_quiet _ (low (Nat.le_refl 2))]
    cases handled
    exact ⟨roles, elected_interfaceWentUp now electing.1 electing.2.1 electing.2.2⟩
  | _ =>
    exact aside (by simp [Occurrence.rank]) electing (congrArg (·.links) changes)
      (congrArg (·.status.interfaces) changes) (congrArg (·.status.up) changes)

end Turn

end TunnelFailover
