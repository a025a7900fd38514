import TunnelFailover.Config.Validation
import TunnelFailover.Proofs.TunnelElection
/-!
This file shows that a bridge with fresh status never has two active tunnel interfaces, and that
after every event the right one of them is active.
-/

namespace TunnelFailover

namespace Cascade

/-- The election at one point of a cascade, among interfaces of given roles. -/
def Electing (roles : String → Option Role) (cascade : Cascade) : Prop :=
  cascade.machine.roleOf? = roles ∧ cascade.machine.Electing cascade.waiting

theorem Step.electing {now : Instant} {roles : String → Option Role} {before after : Cascade}
    (step : Step now before after) (orderly : Orderly before.waiting)
    (electing : before.Electing roles) : after.Electing roles := by
  cases step with
  | handle handled =>
    obtain ⟨sameRoles, stillElecting⟩ := Turn.handle_electing handled orderly electing.2
    exact ⟨sameRoles.trans electing.1, stillElecting⟩

/-- A reported event is no change of an interface. -/
theorem start_electing {machine : Machine} {event : Event}
    (reported : event.occurrence.isReported = true)
    (elected : machine.Elected machine.status.hasUp) :
    (start machine event).Electing machine.roleOf? := by
  obtain ⟨time, occurrence⟩ := event
  refine ⟨rfl, ?_⟩
  cases occurrence with
  | interfaceWentDown | interfaceWentUp => cases reported
  | _ => exact elected

/-- The election stays decided at every point of a cascade, up to a change that waits. -/
theorem Reaches.electing {machine : Machine} {event : Event} {cascade : Cascade}
    (reaches : Reaches event.time (.start machine event) cascade)
    (reported : event.occurrence.isReported = true)
    (elected : machine.Elected machine.status.hasUp) : cascade.Electing machine.roleOf? := by
  have reached := reaches.keeps
    (fun cascade => Orderly cascade.waiting ∧ cascade.Electing machine.roleOf?)
    (fun before after holds step => ⟨step.orderly holds.1, step.electing holds.1 holds.2⟩)
    ⟨start_orderly machine event, start_electing reported elected⟩
  exact reached.2

end Cascade

namespace Machine

/-- No two interfaces are active while the election is decided up to a change. -/
theorem Electing.single {machine : Machine} {waiting : List Occurrence}
    (electing : machine.Electing waiting) :
    ∀ first second, machine.status.hasActive first = true →
      machine.status.hasActive second = true → first = second := by
  unfold Electing at electing
  split at electing
  · exact electing.2.single
  · exact electing.2.2.single
  · exact electing.single

/-- The election is decided after every event. -/
theorem process_elected {machine : Machine} {event : Event}
    (reported : event.occurrence.isReported = true)
    (elected : machine.Elected machine.status.hasUp) :
    let after := (machine.process event).machine
    after.roleOf? = machine.roleOf? ∧ after.Elected after.status.hasUp := by
  obtain ⟨waiting, ⟨roles, electing⟩, quiet⟩ :=
    machine.process_keeps event (Cascade.Electing machine.roleOf?)
      (fun _ _ orderly electing step => step.electing orderly electing)
      (Cascade.start_electing reported elected)
  refine ⟨roles, (electing_iff_of_quiet _ fun occurrence member => ?_).1 electing⟩
  exact (quiet occurrence member).imp_left (by omega)

/-- No interface of a fresh status is up or active. -/
theorem elected_initialStatus {machine : Machine} {name : String} {settings : BridgeSettings}
    {now : Instant} (fresh : machine.status = initialStatus name settings now) :
    machine.Elected machine.status.hasUp := by
  refine .of_none ?_ ?_ (by rw [fresh]; rfl)
  · intro interface
    rw [fresh, BridgeStatus.hasActive, get?_initialStatus]
    cases settings.tunnels.get? interface <;> rfl
  · intro interface
    rw [fresh, BridgeStatus.hasUp, get?_initialStatus]
    cases settings.tunnels.get? interface <;> rfl

/-- The only tunnel of the active role is preferred. -/
theorem prefers_of_single {settings : BridgeSettings} {machine : Machine}
    (roles : ∀ interface, machine.roleOf? interface = (settings.tunnels.get? interface).map (·.role))
    (single : settings.activeTunnels = 1) {interface : String} {tunnel : TunnelSettings}
    (found : settings.tunnels.get? interface = some tunnel) (active : tunnel.role = .active) :
    machine.Prefers interface := by
  have counted : (settings.tunnels.entries.filter (·.2.role = .active)).length = 1 := by
    rw [← single, BridgeSettings.activeTunnels, NameMap.values, List.filter_map, List.length_map]
    rfl
  obtain ⟨entry, only⟩ := List.length_eq_one_iff.1 counted
  have isOnly (name : String) (other : TunnelSettings)
      (otherFound : settings.tunnels.get? name = some other) (otherActive : other.role = .active) :
      (name, other) = entry := by
    have member : (name, other) ∈ settings.tunnels.entries.filter (·.2.role = .active) :=
      List.mem_filter.2 ⟨(NameMap.get?_eq_some_iff _ name other).1 otherFound, by simpa⟩
    rw [only] at member
    exact List.mem_singleton.1 member
  intro name
  rw [roles]
  constructor
  · intro otherRole
    obtain ⟨other, otherFound, otherActive⟩ := Option.map_eq_some_iff.1 otherRole
    have same := (isOnly name other otherFound otherActive).trans
      (isOnly interface tunnel found active).symm
    exact congrArg Prod.fst same
  · rintro rfl
    rw [found, Option.map_some, active]

/-- The election is decided after every run from a fresh status. -/
theorem run_elected {name : String} {settings : BridgeSettings} {start : Instant}
    {machine : Machine} (built : new name settings (initialStatus name settings start) = .ok machine)
    (events : List Event) (reported : ∀ event ∈ events, event.occurrence.isReported = true) :
    let last := (machine.run events).machine
    last.roleOf? = machine.roleOf? ∧ last.Elected last.status.hasUp := by
  refine machine.run_keeps events
    (fun other => other.roleOf? = machine.roleOf? ∧ other.Elected other.status.hasUp) ?_ ?_
  · exact ⟨rfl, elected_initialStatus (new_eq_ok built).2.2.2.2.1⟩
  · rintro other event member ⟨roles, elected⟩
    obtain ⟨sameRoles, stillElected⟩ := process_elected (reported event member) elected
    exact ⟨sameRoles.trans roles, stillElected⟩

/-- In a run from a fresh status, no two interfaces are active at any point of any cascade. After
every event, the bridge is up if some interface is, and then one that is up is active: the one of
the active role, if that one is up. -/
theorem run_elects {name : String} {settings : BridgeSettings} {start : Instant}
    {machine : Machine} (single : settings.activeTunnels = 1)
    (built : new name settings (initialStatus name settings start) = .ok machine)
    (events : List Event) (reported : ∀ event ∈ events, event.occurrence.isReported = true) :
    (∀ event : Event, event.occurrence.isReported = true → ∀ cascade,
      Cascade.Reaches event.time (.start (machine.run events).machine event) cascade →
      ∀ first second, cascade.machine.status.hasActive first = true →
        cascade.machine.status.hasActive second = true → first = second) ∧
    let status := (machine.run events).machine.status
    (status.up = true ↔ ∃ interface, status.hasUp interface = true) ∧
      (status.up = true ↔ ∃ interface, status.hasActive interface = true) ∧
      (∀ interface, status.hasActive interface = true → status.hasUp interface = true) ∧
      ∀ interface tunnel, settings.tunnels.get? interface = some tunnel →
        tunnel.role = .active → status.hasUp interface = true →
          status.hasActive interface = true := by
  obtain ⟨roles, elected⟩ := run_elected built events reported
  refine ⟨?_, elected.bridge_live, ?_, elected.active_live, ?_⟩
  · intro event eventReported cascade reaches
    exact (reaches.electing eventReported elected).2.single
  · rw [elected.bridge_live]
    constructor
    · rintro ⟨interface, up⟩
      exact elected.some_active interface up
    · rintro ⟨interface, active⟩
      exact ⟨interface, elected.active_live interface active⟩
  · intro interface tunnel found active
    have settled (other : String) : (machine.run events).machine.roleOf? other =
        (settings.tunnels.get? other).map (·.role) := by
      rw [roles]
      exact roleOf?_new built other
    exact elected.preferred_active interface (prefers_of_single settled single found active)

/-- The standby tunnel of a bridge comes up first, and the other one takes over from it. -/
theorem run_elects_wg0 :
    let start : Instant := ⟨0, 0⟩
    let settings := BridgeSettings.plain .standby
    let returned (interface : String) (sequence : UInt64) : Event :=
      ⟨start, .probeReturned interface sequence .zero .zero .empty⟩
    let events := [returned "wg1" 1, returned "wg1" 2, returned "wg0" 1, returned "wg0" 2]
    ∃ machine, new "vpn" settings (initialStatus "vpn" settings start) = .ok machine ∧
      settings.activeTunnels = 1 ∧ (∀ event ∈ events, event.occurrence.isReported = true) ∧
      let status := (machine.run events).machine.status
      status.hasUp "wg1" = true ∧ status.hasActive "wg0" = true ∧ status.hasActive "wg1" = false := by
  intro start settings returned events
  have single : settings.activeTunnels = 1 := by decide
  have reported : ∀ event ∈ events, event.occurrence.isReported = true := by decide
  have built : new "vpn" settings (initialStatus "vpn" settings start) = .ok _ := rfl
  obtain ⟨-, -, -, -, preferred⟩ := run_elects single built events reported
  exact ⟨_, built, single, reported, by decide, preferred "wg0" _ rfl rfl (by decide), by decide⟩

end Machine

end TunnelFailover
