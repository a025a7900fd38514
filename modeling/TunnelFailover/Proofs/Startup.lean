import TunnelFailover.Proofs.FailureCount
import TunnelFailover.Proofs.Hearing
import TunnelFailover.Proofs.Validity
/-!
This file shows that every bridge of valid settings starts, with a monitor for each of its interfaces,
and that its machine knows these interfaces from then on and no others.
-/

namespace TunnelFailover

/-- The interfaces that have a monitor, and those in the status. -/
def Machine.interfaces (machine : Machine) : List String × List String :=
  (machine.links.names, machine.status.interfaces.names)

namespace Turn

variable {now : Instant} {turn : Turn} {interface : String}

theorem interfaces_activateInterface :
    (turn.activateInterface now interface).machine.interfaces = turn.machine.interfaces :=
  Prod.ext rfl (NameMap.names_modify ..)

theorem interfaces_deactivateInterface :
    (turn.deactivateInterface now interface).machine.interfaces = turn.machine.interfaces :=
  Prod.ext rfl (NameMap.names_modify ..)

theorem interfaces_deriveBridge :
    (turn.deriveBridge now).machine.interfaces = turn.machine.interfaces := by
  unfold deriveBridge
  dsimp only
  split <;> rfl

theorem interfaces_observe (change : Monitor → Monitor) :
    (turn.observe now interface change).machine.interfaces = turn.machine.interfaces := by
  have links : ((turn.machine.links.modify interface fun link =>
      { link with monitor := change link.monitor }).names) = turn.machine.links.names :=
    NameMap.names_modify ..
  unfold observe followVerdict
  split
  · rfl
  · dsimp only
    split
    · split
      · exact Prod.ext links (NameMap.names_modify ..)
      · exact Prod.ext links (NameMap.names_modify ..)
      · exact Prod.ext links rfl
    · exact Prod.ext links rfl

theorem interfaces_supersede :
    (turn.supersede now interface).machine.interfaces = turn.machine.interfaces := by
  unfold supersede
  generalize List.filter _ _ = others
  dsimp only
  induction others generalizing turn with
  | nil => rfl
  | cons other rest inductionHypothesis =>
    rw [List.foldl_cons, inductionHypothesis, interfaces_deactivateInterface]

theorem interfaces_interfaceWentDown :
    (turn.interfaceWentDown now interface).machine.interfaces = turn.machine.interfaces := by
  unfold interfaceWentDown
  dsimp only
  split
  · split
    · exact interfaces_activateInterface.trans
        (interfaces_deactivateInterface.trans interfaces_deriveBridge)
    · exact interfaces_deactivateInterface.trans interfaces_deriveBridge
  · exact interfaces_deriveBridge

theorem interfaces_interfaceWentUp :
    (turn.interfaceWentUp now interface).machine.interfaces = turn.machine.interfaces := by
  unfold interfaceWentUp
  dsimp only
  split
  · split
    · exact interfaces_deriveBridge
    · split
      · exact interfaces_activateInterface.trans (interfaces_supersede.trans interfaces_deriveBridge)
      · split
        · exact interfaces_deriveBridge
        · exact interfaces_activateInterface.trans interfaces_deriveBridge
  · exact interfaces_deriveBridge

/-- No occurrence brings or takes an interface. -/
theorem handle_interfaces {machine : Machine} {occurrence : Occurrence}
    (handled : (start machine).handle now occurrence = .ok turn) :
    turn.machine.interfaces = machine.interfaces := by
  have changes := handle_changes handled
  cases occurrence with
  | probeLost | probeReturned | probeUnsent | probeSent =>
    cases handled
    exact interfaces_observe _
  | interfaceWentDown =>
    cases handled
    exact interfaces_interfaceWentDown
  | interfaceWentUp =>
    cases handled
    exact interfaces_interfaceWentUp
  | _ => exact congrArg (·.interfaces) changes

end Turn

namespace Machine

/-- No run brings or takes an interface. -/
theorem run_interfaces (machine : Machine) (events : List Event) :
    (machine.run events).machine.interfaces = machine.interfaces :=
  machine.run_fixes events (·.interfaces) Turn.handle_interfaces

/-- An event that tells of an unknown interface is counted as an error of the program. -/
def Disowns (machine : Machine) (event : Event) : Prop :=
  .error machine.name Scope.internalLogic ∈ samplesOf (machine.process event).effects

/-- A probe tells of an unknown interface exactly if this has no monitor. -/
theorem disowns_iff (machine : Machine) {event : Event} {interface : String}
    (probe : event.occurrence.isProbe = true)
    (concerned : event.occurrence.interface? = some interface) :
    machine.Disowns event ↔ interface ∉ machine.links.names := by
  have stray : .error machine.name Scope.internalLogic ∈ samplesOf (machine.strayEffects interface) ↔
      interface ∉ machine.links.names := by
    rw [← NameMap.get?_eq_none_iff, ← Option.isNone_iff_eq_none]
    unfold strayEffects
    split
    · rename_i unknown
      exact iff_of_true List.mem_cons_self unknown
    · rename_i known
      exact iff_of_false List.not_mem_nil known
  rw [Disowns, process_samples, ← stray]
  obtain ⟨time, occurrence⟩ := event
  cases occurrence with
  | probeUnsent other =>
    cases concerned
    have scopes : Scope.internalLogic ≠ Scope.peerProbing := by decide
    simp [Occurrence.effects, scopes]
  | probeLost | probeReturned | probeSent =>
    cases concerned
    simp [Occurrence.effects]
  | _ => cases probe

theorem link_eq_ok_iff {interface : String} {settings : TunnelSettings} {linked : Link} :
    link interface settings = .ok linked ↔
      ∃ thresholds, Thresholds.ofCounts settings.thresholdDown settings.thresholdUp =
        .ok thresholds ∧ linked = ⟨settings.role, .new thresholds⟩ := by
  unfold link
  split
  · rename_i thresholds counted
    simp [counted, eq_comm]
  · rename_i fault refused
    simp [refused]

/-- A threshold that is allowed still is after it has been raised for the standby side. -/
theorem allows_partnerThreshold (role : Role) {configured : UInt64}
    (allowed : Thresholds.Allows configured) :
    Thresholds.Allows (partnerThreshold role configured) := by
  obtain ⟨atLeast, atMost⟩ := allowed
  rw [Thresholds.Allows, toNat_partnerThreshold role atMost]
  omega

/-- Sound settings with a location give a machine. -/
theorem exists_new {name : String} {settings : BridgeSettings} (sound : settings.Sound)
    (located : ∃ location, settings.location name = .ok location) (status : BridgeStatus) :
    ∃ machine, new name settings status = .ok machine ∧
      settings.location name = .ok machine.location := by
  obtain ⟨links, linked⟩ : ∃ links, settings.tunnels.traverse link = .ok links := by
    refine NameMap.exists_traverse fun interface tunnel present => ?_
    have sound := sound.tunnels interface tunnel present
    obtain ⟨thresholds, counted⟩ := (Thresholds.exists_ofCounts_iff ..).2 ⟨sound.down, sound.up⟩
    exact ⟨_, link_eq_ok_iff.2 ⟨thresholds, counted, rfl⟩⟩
  obtain ⟨thresholds, counted⟩ := (Thresholds.exists_ofCounts_iff ..).2
    ⟨allows_partnerThreshold settings.role sound.partnerDown,
      allows_partnerThreshold settings.role sound.partnerUp⟩
  have monitored : partnerMonitorOf settings = .ok (.new thresholds) := by
    rw [partnerMonitorOf, counted]
  obtain ⟨location, located⟩ := located
  unfold new
  rw [linked, monitored, located]
  exact ⟨_, rfl, rfl⟩

/-- The machine has a monitor for every interface of the settings and for the partner. The standby side
raises the thresholds for the partner, which does not overflow. -/
structure Equipped (machine : Machine) (settings : BridgeSettings) : Prop where
  links : ∀ interface tunnel, settings.tunnels.get? interface = some tunnel →
    ∃ thresholds, Thresholds.ofCounts tunnel.thresholdDown tunnel.thresholdUp = .ok thresholds ∧
      machine.links.get? interface = some ⟨tunnel.role, .new thresholds⟩
  room : settings.partnerThresholdDown.toNat + settings.role.handicap < UInt64.size ∧
    settings.partnerThresholdUp.toNat + settings.role.handicap < UInt64.size
  partner : ∃ thresholds, machine.partnerMonitor = .new thresholds ∧
    thresholds.down = min (settings.partnerThresholdDown.toNat + settings.role.handicap) 10 ∧
    thresholds.up = min (settings.partnerThresholdUp.toNat + settings.role.handicap) 10

theorem equipped_of_new {name : String} {settings : BridgeSettings} {status : BridgeStatus}
    {machine : Machine} (sound : settings.Sound)
    (built : new name settings status = .ok machine) : machine.Equipped settings := by
  obtain ⟨linked, monitored, -⟩ := new_eq_ok built
  obtain ⟨downLeast, downMost⟩ := sound.partnerDown
  obtain ⟨upLeast, upMost⟩ := sound.partnerUp
  have handicap : settings.role.handicap ≤ 1 := by cases settings.role <;> decide
  have size : 11 < UInt64.size := by decide
  constructor
  · intro interface tunnel present
    have related := NameMap.rel_get?_traverse linked interface
    rw [present] at related
    cases found : machine.links.get? interface with
    | none =>
      rw [found] at related
      cases related
    | some link =>
      rw [found] at related
      cases related with
      | some changed =>
        obtain ⟨thresholds, counted, rfl⟩ := link_eq_ok_iff.1 changed
        exact ⟨thresholds, counted, rfl⟩
  · omega
  · obtain ⟨empty, down, up⟩ := partnerMonitorOf_eq_ok monitored
    rw [toNat_partnerThreshold _ downMost] at down
    rw [toNat_partnerThreshold _ upMost] at up
    exact ⟨_, empty, down, up⟩

/-- Every bridge of valid settings has a location and a machine, with a monitor under each name of a
fresh status. In no run does a probe of one of these interfaces count as one of an unknown
interface. -/
theorem new_of_isValid {config : Config} (valid : config.isValid = true) {name : String}
    {settings : BridgeSettings} (present : config.bridges.get? name = some settings)
    (now : Instant) :
    let status := initialStatus name settings now
    ∃ machine, new name settings status = .ok machine ∧
      settings.location name = .ok machine.location ∧ machine.Equipped settings ∧
      machine.links.names = status.interfaces.names ∧
      status.interfaces.names = settings.tunnels.names ∧
      ∀ events : List Event,
        let last := (machine.run events).machine
        last.interfaces = machine.interfaces ∧
        ∀ event interface, event.occurrence.isProbe = true →
          event.occurrence.interface? = some interface →
            (last.Disowns event ↔ interface ∉ settings.tunnels.names) := by
  intro status
  have soundAll := (config.issues_eq_nil_iff).1 (List.isEmpty_iff.1 valid)
  obtain ⟨sound, located⟩ := soundAll.bridges name settings present
  obtain ⟨machine, built, location⟩ := exists_new sound located status
  have linked : machine.links.names = settings.tunnels.names :=
    NameMap.names_traverse (new_eq_ok built).1
  have fresh : status.interfaces.names = settings.tunnels.names := by
    rw [interfaces_initialStatus, NameMap.names_mapWithName]
  refine ⟨machine, built, location, equipped_of_new sound built, linked.trans fresh.symm, fresh, ?_⟩
  intro events last
  -- The names under which there are monitors never change, so it is enough to look at the start.
  have same : last.interfaces = machine.interfaces := machine.run_interfaces events
  refine ⟨same, fun event interface probe concerned => ?_⟩
  have links : last.links.names = settings.tunnels.names := (congrArg Prod.fst same).trans linked
  rw [disowns_iff last probe concerned, links]

/-- A valid bridge with two interfaces starts, and knows the probes of these interfaces only. -/
theorem new_of_isValid_standby :
    let settings := BridgeSettings.scheduled .standby .unset
    let config := Config.single "vpn" settings
    let start : Instant := ⟨0, 0⟩
    let returned (interface : String) : Event :=
      ⟨start, .probeReturned interface 1 .zero .zero .empty⟩
    config.isValid = true ∧ config.bridges.get? "vpn" = some settings ∧
      ∃ machine, new "vpn" settings (initialStatus "vpn" settings start) = .ok machine ∧
        machine.Equipped settings ∧
        let last := (machine.run [returned "wg0"]).machine
        ¬last.Disowns (returned "wg1") ∧ last.Disowns (returned "wg2") := by
  intro settings config start returned
  have valid : config.isValid = true :=
    Config.isValid_single (BridgeSettings.sound_scheduled _ ReapplySettings.sound_unset) ⟨.empty, rfl⟩
  have present : config.bridges.get? "vpn" = some settings := Config.get?_single.2 ⟨rfl, rfl⟩
  obtain ⟨machine, built, -, equipped, -, -, knows⟩ := new_of_isValid valid present start
  obtain ⟨-, disowns⟩ := knows [returned "wg0"]
  have names : settings.tunnels.names = ["wg0", "wg1"] := rfl
  refine ⟨valid, present, machine, built, equipped, fun disowned => ?_, ?_⟩
  · exact (disowns (returned "wg1") "wg1" rfl rfl).1 disowned (by simp [names])
  · exact (disowns (returned "wg2") "wg2" rfl rfl).2 (by simp [names])

end Machine

end TunnelFailover
