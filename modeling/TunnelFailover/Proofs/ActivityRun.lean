import TunnelFailover.Proofs.BridgeActivity
import TunnelFailover.Proofs.ElectionRun
/-!
This file shows which activity a bridge with fresh status has after every event, and when one that is
down stays active beside a partner that is up.
-/

namespace TunnelFailover

namespace Cascade

/-- The activity at one point of a cascade, after what was derived before it. -/
def Deciding (earlier : List Occurrence) (cascade : Cascade) : Prop :=
  cascade.machine.stance.Founded ∧
    cascade.machine.stance.Deciding (earlier ++ cascade.derived) cascade.waiting

theorem Step.deciding {now : Instant} {earlier : List Occurrence} {before after : Cascade}
    (step : Step now before after) (orderly : Orderly before.waiting)
    (deciding : before.Deciding earlier) : after.Deciding earlier := by
  cases step with
  | handle handled =>
    obtain ⟨founded, decides⟩ := deciding
    refine ⟨Turn.handle_founded handled founded, ?_⟩
    rw [← List.append_assoc]
    exact Turn.handle_deciding handled orderly founded decides

/-- A reported event does not concern the activity yet. -/
theorem start_deciding {machine : Machine} {event : Event} {journal : List Occurrence}
    (reported : event.occurrence.isReported = true) (founded : machine.stance.Founded)
    (suited : machine.stance.Suited journal) : (start machine event).Deciding journal := by
  have rank : ∀ occurrence ∈ [event.occurrence], occurrence.rank ≠ 1 := by
    rw [List.forall_mem_singleton]
    obtain ⟨time, occurrence⟩ := event
    cases occurrence with
    | bridgeWentDown | bridgeWentUp | partnerWentDown | partnerWentUp => cases reported
    | _ => simp [Occurrence.rank]
  refine ⟨founded, (Stance.deciding_iff_of_rank _ _ rank).2 ?_⟩
  rw [start, List.append_nil]
  exact suited

end Cascade

namespace Machine

/-- The activity suits the stance after every event. -/
theorem process_suited {machine : Machine} {event : Event} {journal : List Occurrence}
    (reported : event.occurrence.isReported = true) (founded : machine.stance.Founded)
    (suited : machine.stance.Suited journal) :
    let outcome := machine.process event
    outcome.machine.stance.Founded ∧ outcome.machine.stance.Suited (journal ++ outcome.derived) := by
  obtain ⟨waiting, ⟨stillFounded, deciding⟩, quiet⟩ :=
    machine.process_keeps event (Cascade.Deciding journal)
      (fun _ _ orderly deciding step => step.deciding orderly deciding)
      (Cascade.start_deciding reported founded suited)
  refine ⟨stillFounded, (Stance.deciding_iff_of_rank _ _ fun occurrence member => ?_).1 deciding⟩
  rcases quiet occurrence member with inert | ⟨sequence, report, rfl⟩
  · rw [inert]
    decide
  · simp [Occurrence.rank]

/-- The activity suits the stance in every run from a fresh status. -/
theorem run_suited {name : String} {settings : BridgeSettings} {start : Instant}
    {machine : Machine} (built : new name settings (initialStatus name settings start) = .ok machine)
    (events : List Event) (reported : ∀ event ∈ events, event.occurrence.isReported = true) :
    let last := (machine.run events).machine
    last.stance.Founded ∧ last.stance.Suited (machine.journal events) := by
  obtain ⟨-, -, -, role, status, unknown, unconfirmed⟩ := new_eq_ok built
  refine machine.run_keeps_journal events
    (fun other journal => other.stance.Founded ∧ other.stance.Suited journal) ?_ ?_
  · have stance : machine.stance = ⟨settings.role, false, false, false, false, false⟩ := by
      simp [Machine.stance, partnerIsUp, role, status, unknown, unconfirmed, initialStatus,
        BridgeStatus.fresh]
    rw [stance]
    refine ⟨⟨?_, ?_⟩, ⟨?_, ?_, ?_, ?_⟩⟩ <;> simp [lastFall?]
  · rintro other journal event member ⟨founded, suited⟩
    exact process_suited (reported event member) founded suited

/-- A bridge of the active role is active whenever it is up. One of the standby role is active if it
is up and its partner is not known to be, and inactive if its partner is up for sure. -/
theorem run_decides {name : String} {settings : BridgeSettings} {start : Instant}
    {machine : Machine} (built : new name settings (initialStatus name settings start) = .ok machine)
    (events : List Event) (reported : ∀ event ∈ events, event.occurrence.isReported = true) :
    let last := (machine.run events).machine
    (settings.role = .active → last.status.up = true → last.status.active = true) ∧
      (settings.role = .standby → last.status.up = true → last.partnerIsUp = false →
        last.status.active = true) ∧
      (settings.role = .standby → last.partnerConfirmed = true → last.partnerIsUp = true →
        last.status.active = false) := by
  obtain ⟨-, suited⟩ := run_suited built events reported
  have role : (machine.run events).machine.role = settings.role :=
    (machine.run_role events).trans (new_eq_ok built).2.2.2.1
  rw [← role]
  exact ⟨suited.claims, suited.fills, suited.yields⟩

/-- A bridge of the standby role takes over when its interface is up, and yields once its partner has
been up for three polls. -/
theorem run_decides_standby :
    let start : Instant := ⟨0, 0⟩
    let settings := BridgeSettings.plain .standby
    let returned (sequence : UInt64) : Event :=
      ⟨start, .probeReturned "wg0" sequence .zero .zero .empty⟩
    let polled (sequence : UInt64) : Event :=
      ⟨start, .partnerPolled sequence
        { initialStatus "vpn" (.plain .active) start with active := true, up := true }⟩
    let alone := [returned 1, returned 2]
    let together := alone ++ [polled 1, polled 2, polled 3]
    ∃ machine, new "vpn" settings (initialStatus "vpn" settings start) = .ok machine ∧
      (∀ event ∈ together, event.occurrence.isReported = true) ∧
      (machine.run alone).machine.status.active = true ∧
      (machine.run together).machine.status.up = true ∧
      (machine.run together).machine.status.active = false := by
  intro start settings returned polled alone together
  have reported : ∀ event ∈ together, event.occurrence.isReported = true := by decide
  have aloneReported : ∀ event ∈ alone, event.occurrence.isReported = true := by decide
  have built : new "vpn" settings (initialStatus "vpn" settings start) = .ok _ := rfl
  obtain ⟨-, fills, -⟩ := run_decides built alone aloneReported
  obtain ⟨-, -, yields⟩ := run_decides built together reported
  exact ⟨_, built, reported, fills rfl (by decide) (by decide), by decide,
    yields rfl (by decide) (by decide)⟩

/-- A bridge of which no interface is up can stay active beside a partner that is up: one of the active
role takes over from a partner that goes down and keeps this activity when the partner is back. -/
theorem not_dead_yields :
    ¬∀ (name : String) (settings : BridgeSettings) (start : Instant) (machine : Machine)
      (events : List Event), new name settings (initialStatus name settings start) = .ok machine →
      (∀ event ∈ events, event.occurrence.isReported = true) →
      let last := (machine.run events).machine
      last.status.interfaces.anyValue (·.up) = false → last.partnerConfirmed = true →
        last.partnerIsUp = true → last.status.active = false := by
  intro claim
  let polled (sequence : UInt64) (up : Bool) : Event :=
    ⟨⟨0, 0⟩, .partnerPolled sequence { initialStatus "vpn" (.plain .standby) ⟨0, 0⟩ with up }⟩
  have inactive := claim "vpn" (.plain .active) ⟨0, 0⟩ _
    [polled 1 true, polled 2 true, polled 3 false, polled 4 false, polled 5 true, polled 6 true]
    rfl (by decide) (by decide) (by decide) (by decide)
  exact absurd inactive (by decide)

/-- If no interface is up while the partner is up for sure, then the bridge is active exactly if it
has the active role and its partner went down after it went down itself. -/
theorem run_holds {name : String} {settings : BridgeSettings} {start : Instant}
    {machine : Machine} (built : new name settings (initialStatus name settings start) = .ok machine)
    (events : List Event) (reported : ∀ event ∈ events, event.occurrence.isReported = true) :
    let last := (machine.run events).machine
    last.status.interfaces.anyValue (·.up) = false → last.partnerConfirmed = true →
      last.partnerIsUp = true →
      (last.status.active = true ↔
        settings.role = .active ∧
          lastFall? (machine.journal events) = some .partnerWentDown) := by
  intro last dead confirmed partnerUp
  obtain ⟨-, suited⟩ := run_suited built events reported
  obtain ⟨-, elected⟩ := run_elected built events reported
  have role : last.role = settings.role :=
    (machine.run_role events).trans (new_eq_ok built).2.2.2.1
  have down : last.status.up = false := by
    rw [← Bool.not_eq_true, elected.bridge_live]
    intro live
    have someUp := (NameMap.anyValue_iff _ _).2 live
    rw [dead] at someUp
    cases someUp
  cases asked : settings.role with
  | active =>
    have held : last.status.active = true ↔
        lastFall? (machine.journal events) = some .partnerWentDown :=
      suited.holds (role.trans asked) down
    simpa using held
  | standby =>
    have inactive : last.status.active = false :=
      suited.yields (role.trans asked) confirmed partnerUp
    simp [inactive]

/-- A bridge of the standby role whose interfaces were never up takes over from its partner, and yields
when the partner is up again. -/
theorem run_holds_standby :
    let start : Instant := ⟨0, 0⟩
    let settings := BridgeSettings.plain .standby
    let polled (sequence : UInt64) (up : Bool) : Event :=
      ⟨start, .partnerPolled sequence { initialStatus "vpn" (.plain .active) start with up }⟩
    let outage := [polled 1 true, polled 2 true, polled 3 true, polled 4 false, polled 5 false,
      polled 6 false]
    let events := outage ++ [polled 7 true, polled 8 true, polled 9 true]
    ∃ machine, new "vpn" settings (initialStatus "vpn" settings start) = .ok machine ∧
      (∀ event ∈ events, event.occurrence.isReported = true) ∧
      (machine.run outage).machine.status.active = true ∧
      let last := (machine.run events).machine
      last.status.interfaces.anyValue (·.up) = false ∧ last.partnerConfirmed = true ∧
        last.partnerIsUp = true ∧ ¬last.status.active = true := by
  intro start settings polled outage events
  have reported : ∀ event ∈ events, event.occurrence.isReported = true := by decide
  have built : new "vpn" settings (initialStatus "vpn" settings start) = .ok _ := rfl
  have holds := run_holds built events reported (by decide) (by decide) (by decide)
  refine ⟨_, built, reported, by decide, by decide, by decide, by decide, fun active => ?_⟩
  cases (holds.1 active).1

end Machine

end TunnelFailover
