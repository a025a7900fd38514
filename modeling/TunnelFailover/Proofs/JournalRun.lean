import TunnelFailover.Proofs.Handling
import TunnelFailover.Proofs.Records
/-!
This file shows that the events which a machine derives are an exact journal of its status: they tell
every flip of a flag, in order and at its time, and nothing else changes the status.
-/

namespace TunnelFailover

namespace Cascade

/-- What a cascade has derived so far leads from a first status to the one of its machine. A flag is
set at most once, and not before its stage. -/
structure Recorded (now : Instant) (first : BridgeStatus) (cascade : Cascade) : Prop where
  replays : first.Replays (cascade.derived.map (Event.mk now)) cascade.machine.status
  once : ∀ flag, (cascade.derived.filterMap (·.setting? flag)).length ≤ 1
  unset : ∀ flag, ∀ occurrence ∈ cascade.waiting, flag.stage ≤ occurrence.rank →
    cascade.derived.filterMap (·.setting? flag) = []

theorem start_recorded (machine : Machine) (event : Event) :
    Recorded event.time machine.status (start machine event) where
  replays := .nil machine.status
  once _ := Nat.zero_le 1
  unset _ _ _ _ := rfl

theorem Step.recorded {now : Instant} {first : BridgeStatus} {before after : Cascade}
    (step : Step now before after) (orderly : Orderly before.waiting)
    (single : before.machine.status.IsSingle) (recorded : before.Recorded now first) :
    after.Recorded now first := by
  cases step with
  | @handle machine occurrence rest derived effects turn handled =>
    obtain ⟨replays, once, unset⟩ := recorded
    obtain ⟨-, restInert⟩ := orderly
    have lower := (Turn.handle_orderly handled).2
    constructor
    · rw [List.map_append]
      exact replays.trans (Turn.handle_records handled single).replays
    · intro flag
      obtain ⟨onceMore, staged⟩ := Turn.handle_staged handled single flag
      rw [List.filterMap_append, List.length_append]
      by_cases silent : turn.derived.filterMap (·.setting? flag) = []
      · rw [silent]
        exact once flag
      · -- The flag is set in its stage, so that it was not set before.
        rw [unset flag occurrence List.mem_cons_self (Nat.le_of_eq (staged silent))]
        simpa using onceMore
    · intro flag waiting member high
      obtain ⟨-, staged⟩ := Turn.handle_staged handled single flag
      have positive : 0 < flag.stage := by cases flag <;> simp [Flag.stage]
      rcases List.mem_append.1 member with old | new
      · rw [restInert waiting old] at high
        omega
      · have below := lower waiting new
        rw [List.filterMap_append, unset flag occurrence List.mem_cons_self (by omega),
          List.nil_append]
        by_contra given
        have := staged given
        omega

end Cascade

namespace Machine

/-- The events that are derived from an event lead from the status before it to the one after it, and
set no flag twice. -/
theorem process_replays {machine : Machine} {event : Event}
    (reported : event.occurrence.isReported = true)
    (elected : machine.Elected machine.status.hasUp) :
    machine.status.Replays (machine.derivedEvents event) (machine.process event).machine.status ∧
      ∀ flag, ((machine.derivedEvents event).filterMap (·.occurrence.setting? flag)).length ≤ 1 := by
  obtain ⟨waiting, ⟨-, recorded⟩, -⟩ := machine.process_keeps event
    (fun cascade =>
      cascade.Electing machine.roleOf? ∧ cascade.Recorded event.time machine.status)
    (fun _ _ orderly holds step => ⟨step.electing orderly holds.1,
      step.recorded orderly holds.1.2.single holds.2⟩)
    ⟨Cascade.start_electing reported elected, Cascade.start_recorded machine event⟩
  refine ⟨recorded.replays, fun flag => ?_⟩
  rw [derivedEvents, List.filterMap_map]
  exact recorded.once flag

/-- No flag of a fresh status is set. -/
theorem flag?_initialStatus {name : String} {settings : BridgeSettings} {now : Instant}
    {flag : Flag} {value : Bool}
    (known : ((initialStatus name settings now).flag? flag).map (·.1) = some value) :
    value = false := by
  cases flag with
  | bridgeUp | bridgeActive => exact (Option.some.inj known).symm
  | interfaceUp interface | interfaceActive interface =>
    simp only [BridgeStatus.flag?, get?_initialStatus] at known
    cases found : settings.tunnels.get? interface with
    | none => simp [found] at known
    | some tunnel =>
      rw [found] at known
      exact (Option.some.inj known).symm

variable {name : String} {settings : BridgeSettings} {start : Instant} {machine : Machine}

/-- All that is derived in a run leads from the first status to the last one. -/
theorem run_replays (built : new name settings (initialStatus name settings start) = .ok machine)
    {events : List Event} (reported : ∀ event ∈ events, event.occurrence.isReported = true) :
    machine.status.Replays (machine.runDerivedEvents events)
      (machine.run events).machine.status := by
  induction events using List.reverseRecOn with
  | nil => exact .nil machine.status
  | append_singleton earlier last inductionHypothesis =>
    have earlierReported : ∀ event ∈ earlier, event.occurrence.isReported = true :=
      fun event member => reported event (List.mem_append_left _ member)
    have lastReported := reported last (by simp)
    obtain ⟨-, elected⟩ := run_elected built earlier earlierReported
    rw [runDerivedEvents_concat, run_concat]
    exact (inductionHypothesis earlierReported).trans (process_replays lastReported elected).1

/-- The derived events are an exact journal of a bridge with fresh status. Over every run, the events
of a flag alternate, and the first one sets it. Whatever event follows, it is handled first, and then
all that it derives in this order. What is derived has the time of the event, and leads from the
status before it to the one after it. A flag that is set has flipped and keeps this time, and all
other flags are as before. -/
theorem run_journals (built : new name settings (initialStatus name settings start) = .ok machine)
    (events : List Event) (reported : ∀ event ∈ events, event.occurrence.isReported = true) :
    (∀ flag, (false :: (machine.runDerivedEvents events).filterMap
      (·.occurrence.setting? flag)).IsChain (· ≠ ·)) ∧
    ∀ event : Event, event.occurrence.isReported = true →
      let before := (machine.run events).machine
      let after := (before.process event).machine
      let derived := before.derivedEvents event
      ((before.process event).fault = none →
        (before.transcript event).map (·.event) = event :: derived) ∧
      (before.transcript event).flatMap (·.derived) = derived ∧
      (∀ later ∈ derived, later.time = event.time) ∧
      before.status.Replays derived after.status ∧
      ∀ flag,
        (∃ value since, (∃ later ∈ derived, later.occurrence.setting? flag = some value) ∧
          before.status.flag? flag = some (!value, since) ∧
          after.status.flag? flag = some (value, event.time)) ∨
        (∀ later ∈ derived, later.occurrence.setting? flag = none) ∧
          after.status.flag? flag = before.status.flag? flag := by
  refine ⟨fun flag => ?_, fun event eventReported => ?_⟩
  · obtain ⟨flips, -⟩ := run_replays built reported
    cases current : (machine.status.flag? flag).map (·.1) with
    | none =>
      rw [flips.settings_of_unknown (Option.map_eq_none_iff.1 current)]
      exact .singleton false
    | some value =>
      have unset : value = false := by
        rw [(new_eq_ok built).2.2.2.2.1] at current
        exact flag?_initialStatus current
      exact unset ▸ flips.isChain current
  · intro before after derived
    obtain ⟨-, elected⟩ := run_elected built events reported
    obtain ⟨replays, once⟩ := process_replays eventReported elected
    obtain ⟨derives, -, handled⟩ := before.transcript_spec event
    have times : ∀ later ∈ derived, later.time = event.time := by
      intro later member
      obtain ⟨occurrence, -, rfl⟩ := List.mem_map.1 member
      rfl
    refine ⟨handled, derives, times, replays, fun flag => ?_⟩
    rcases given : derived.filterMap (·.occurrence.setting? flag) with _ | ⟨value, _ | ⟨more, rest⟩⟩
    · right
      refine ⟨?_, replays.flag?_of_unset given⟩
      simpa using given
    · left
      obtain ⟨setter, member, since, sets, was, is⟩ := replays.flag?_of_set given
      rw [times setter member] at is
      exact ⟨value, since, ⟨setter, member, sets⟩, was, is⟩
    · have twice := once flag
      rw [given] at twice
      simp at twice

/-- An interface of the active role comes up and takes over from another one, which is told in three
events. -/
theorem run_journals_wg0 :
    let start : Instant := ⟨0, 0⟩
    let later : Instant := ⟨5, 0⟩
    let settings := BridgeSettings.plain .standby
    let returned (time : Instant) (interface : String) (sequence : UInt64) : Event :=
      ⟨time, .probeReturned interface sequence .zero .zero .empty⟩
    let events := [returned start "wg1" 1, returned start "wg1" 2, returned start "wg0" 1]
    let event := returned later "wg0" 2
    ∃ machine, new "vpn" settings (initialStatus "vpn" settings start) = .ok machine ∧
      (∀ event ∈ events, event.occurrence.isReported = true) ∧
      event.occurrence.isReported = true ∧
      let before := (machine.run events).machine
      before.derivedEvents event =
          [⟨later, .interfaceWentUp "wg0"⟩, ⟨later, .interfaceDeactivated "wg1"⟩,
            ⟨later, .interfaceActivated "wg0"⟩] ∧
        before.status.Replays (before.derivedEvents event) (before.process event).machine.status ∧
        before.status.activeInterface? = some "wg1" := by
  intro start later settings returned events event
  have reported : ∀ event ∈ events, event.occurrence.isReported = true := by decide
  have built : new "vpn" settings (initialStatus "vpn" settings start) = .ok _ := rfl
  obtain ⟨-, journals⟩ := run_journals built events reported
  obtain ⟨-, -, -, replays, -⟩ := journals event rfl
  exact ⟨_, built, reported, rfl, by decide, replays, by decide⟩

end Machine

end TunnelFailover
