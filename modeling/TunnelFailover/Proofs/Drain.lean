import Mathlib.Logic.Hydra
import TunnelFailover.Proofs.JournalRun
/-!
This file shows that the queue of every cascade is drained, and that at most five occurrences are derived
from an event.
-/

namespace TunnelFailover

namespace Cascade

variable {now : Instant} {before after : Cascade}

/-- The ranks of the occurrences that wait. -/
def ranks (cascade : Cascade) : Multiset Nat := cascade.waiting.map (·.rank)

/-- A step replaces one rank by lower ones. -/
theorem Step.cutExpand (step : Step now before after) :
    Relation.CutExpand (· < ·) after.ranks before.ranks := by
  cases step with
  | @handle machine occurrence rest derived effects turn handled =>
    refine ⟨turn.derived.map (·.rank), occurrence.rank, fun rank member => ?_, ?_⟩
    · obtain ⟨next, nextMember, rfl⟩ := List.mem_map.1 (Multiset.mem_coe.1 member)
      exact (Turn.handle_orderly handled).2 next nextMember
    · simp only [ranks, List.map_append, List.map_cons, ← Multiset.coe_add, ← Multiset.cons_coe,
        ← Multiset.singleton_add]
      exact (add_comm _ _).trans (add_assoc _ _ _).symm

/-- There are no infinite cascades, whatever waits in a machine of any state. -/
theorem wellFounded_step (now : Instant) :
    WellFounded fun after before : Cascade => Step now before after :=
  Subrelation.wf (fun step => Step.cutExpand step)
    (InvImage.wf ranks (wellFounded_lt (α := Nat)).cutExpand)

/-- A cascade goes on until nothing waits or there is a fault. -/
theorem drains (now : Instant) (cascade : Cascade) :
    ∃ last, Reaches now cascade last ∧ (last.waiting = [] ∨ ∃ fault, last.FailsWith now fault) := by
  induction cascade using (wellFounded_step now).induction with
  | _ cascade inductionHypothesis =>
    obtain ⟨machine, waiting, derived, effects⟩ := cascade
    cases waiting with
    | nil => exact ⟨_, .refl, .inl rfl⟩
    | cons occurrence rest =>
      cases handled : (Turn.start machine).handle now occurrence with
      | error fault => exact ⟨_, .refl, .inr ⟨fault, occurrence, rest, rfl, handled⟩⟩
      | ok turn =>
        obtain ⟨last, reaches, ended⟩ := inductionHypothesis _ (.handle handled)
        exact ⟨last, .head (.handle handled) reaches, ended⟩

end Cascade

/-- How many occurrences can follow from one, by its rank. -/
def Occurrence.yield (occurrence : Occurrence) : Nat :=
  match occurrence.rank with
  | 0 => 0
  | 1 => 2
  | 2 => 4
  | _ => 5

theorem Occurrence.yield_le (occurrence : Occurrence) : occurrence.yield ≤ 5 := by
  unfold yield
  split <;> decide

/-- The number of some occurrences with all that can follow from them. -/
def load (occurrences : List Occurrence) : Nat :=
  occurrences.length + (occurrences.map (·.yield)).sum

@[simp] theorem load_nil : load [] = 0 := rfl

@[simp] theorem load_cons (occurrence : Occurrence) (rest : List Occurrence) :
    load (occurrence :: rest) = occurrence.yield + 1 + load rest := by
  simp only [load, List.length_cons, List.map_cons, List.sum_cons]
  omega

@[simp] theorem load_append (occurrences more : List Occurrence) :
    load (occurrences ++ more) = load occurrences + load more := by
  simp only [load, List.length_append, List.map_append, List.sum_append]
  omega

/-- Nothing follows from occurrences of rank zero. -/
theorem Inert.load_eq {occurrences : List Occurrence} (inert : Inert occurrences) :
    load occurrences = occurrences.length := by
  induction occurrences with
  | nil => rfl
  | cons occurrence rest inductionHypothesis =>
    have silent : occurrence.yield = 0 := by
      rw [Occurrence.yield, inert occurrence List.mem_cons_self]
      rfl
    rw [load_cons, silent,
      inductionHypothesis fun other member => inert other (List.mem_cons_of_mem _ member),
      List.length_cons, Nat.zero_add, Nat.add_comm]

/-- No interface of a bridge that is down is active while the election is decided. -/
theorem Machine.Elected.activeInterface?_of_down {machine : Machine} {live : String → Bool}
    (elected : machine.Elected live) (down : machine.status.up = false) :
    machine.status.activeInterface? = none := by
  rw [BridgeStatus.activeInterface?_eq_none_iff]
  intro interface
  rw [← Bool.not_eq_true]
  intro active
  have up := elected.bridge_live.2 ⟨interface, elected.active_live interface active⟩
  rw [down] at up
  cases up

namespace Turn

variable {machine : Machine} {now : Instant} {occurrence : Occurrence} {turn : Turn}

/-- A hand-over derives at most that one interface is withdrawn and that another one is elected. -/
theorem handOver_derived (turn : Turn) (now : Instant) (former latter : Option String) :
    ∃ elections, (turn.handOver now former latter).derived = turn.derived ++ elections ∧
      Inert elections ∧ elections.length ≤ former.toList.length + latter.toList.length := by
  unfold handOver
  split
  · exact ⟨[], (List.append_nil _).symm, .nil, Nat.zero_le _⟩
  · cases former with
    | none =>
      cases latter with
      | none => exact ⟨[], (List.append_nil _).symm, .nil, Nat.zero_le _⟩
      | some elected =>
        exact ⟨[.interfaceActivated elected], rfl, by simp [Inert, Occurrence.rank], by simp⟩
    | some withdrawn =>
      cases latter with
      | none =>
        exact ⟨[.interfaceDeactivated withdrawn], rfl, by simp [Inert, Occurrence.rank], by simp⟩
      | some elected =>
        refine ⟨[.interfaceDeactivated withdrawn, .interfaceActivated elected], ?_,
          by simp [Inert, Occurrence.rank], by simp⟩
        exact List.append_assoc ..

/-- If a change of an interface turns the bridge, then at most one interface is withdrawn or elected. -/
theorem HandsOver.load_le (handsOver : HandsOver now machine turn) (single : machine.status.IsSingle)
    (before : machine.status.up = false → machine.status.activeInterface? = none)
    (after : turn.machine.status.up = false → turn.machine.status.activeInterface? = none) :
    load turn.derived ≤ 4 := by
  obtain ⟨latter, known, rfl⟩ := handsOver
  rw [← start_machine machine, ← deriveBridge_interfaces] at known
  have elected := handOver_activeInterface? now (isSingle_deriveBridge now single) known
  rw [deriveBridge_activeInterface?, start_machine] at elected
  rw [elected, handOver_up] at after
  obtain ⟨up, -, isUp, turned⟩ := deriveBridge_stance (start machine) now
  obtain ⟨elections, derived, inert, few⟩ := handOver_derived ((start machine).deriveBridge now) now
    machine.status.activeInterface? latter
  have one (choice : Option String) : choice.toList.length ≤ 1 := by cases choice <;> simp
  have former := one machine.status.activeInterface?
  have next := one latter
  rw [derived, load_append, inert.load_eq, turned, load_append, Stance.turns]
  split
  · simp only [start, load_nil]
    omega
  · rename_i differs
    -- The bridge is down before or after, and then no interface is active.
    have vacant : machine.status.activeInterface? = none ∨ latter = none := by
      cases up with
      | true =>
        have down : machine.status.up = false := Bool.eq_false_iff.2 fun same => differs same.symm
        exact .inl (before down)
      | false => exact .inr (after isUp)
    have most : elections.length ≤ 1 := by
      rcases vacant with none | none <;> rw [none, Option.toList_none, List.length_nil] at few <;> omega
    have last : load [if up = true then Occurrence.bridgeWentUp else .bridgeWentDown] = 3 := by
      cases up <;> rfl
    rw [last]
    simp only [start, load_nil]
    omega

/-- A probe leads at most to a change of its interface. -/
theorem observe_load {turn : Turn} (nothing : turn.derived = []) (now : Instant) (interface : String)
    (change : Monitor → Monitor) : load (turn.observe now interface change).derived ≤ 5 := by
  rcases observe_derived nothing now interface change with derived | derived | derived <;>
    simp [derived, Occurrence.yield, Occurrence.rank]

/-- At most one occurrence follows from the verdict on the partner. -/
theorem load_follows (stance : Stance) (verdict : Liveness) : load (stance.follows verdict) ≤ 3 := by
  unfold Stance.follows
  cases verdict with
  | down => dsimp only; split <;> simp [Occurrence.yield, Occurrence.rank]
  | up => dsimp only; split <;> simp [Occurrence.yield, Occurrence.rank]
  | pending => exact Nat.zero_le 3

/-- A report of a partner that keeps its name changes at most the activity of the partner. -/
theorem followReport_load (turn : Turn) (report : BridgeStatus)
    (safe : ∀ derived ∈ (turn.followReport report).derived, derived.isSafe = true) :
    load (turn.followReport report).derived ≤ load turn.derived + 1 := by
  obtain ⟨activity, derived, kinds⟩ := followReport_derived turn report
  have most : load activity ≤ 1 := by
    rcases kinds with rfl | rfl | rfl <;> simp [Occurrence.yield, Occurrence.rank]
  rcases followName_derived turn report with same | ⟨partner, -, -, renamed⟩
  · rw [derived, same, load_append]
    omega
  · have keepsName := safe (.partnerChangedName partner.name report.name) (by simp [derived, renamed])
    cases keepsName

/-- No occurrence leads to more than its rank says. -/
theorem handle_load {rest : List Occurrence}
    (handled : (start machine).handle now occurrence = .ok turn)
    (orderly : Orderly (occurrence :: rest)) (electing : machine.Electing (occurrence :: rest))
    (named : machine.Named) : load turn.derived ≤ occurrence.yield := by
  have single : machine.status.IsSingle := electing.single
  have moves := handle_moves handled
  have accepted := accepted_of_handled handled
  -- A change of an interface waits alone, and the election is decided before it and after it.
  have decided (rank : occurrence.rank = 2) :
      turn.machine.status.up = false → turn.machine.status.activeInterface? = none := by
    have stillElecting := (handle_electing handled orderly electing).2
    rw [orderly.1 (Nat.le_of_eq rank.symm), List.nil_append,
      Machine.electing_iff_of_quiet _ fun next member => .inl (by
        have := (handle_orderly handled).2 next member
        omega)] at stillElecting
    exact stillElecting.activeInterface?_of_down
  cases occurrence with
  | probeLost | probeReturned | probeUnsent | probeSent =>
    cases handled
    refine observe_load ?_ ..
    rfl
  | interfaceWentDown interface =>
    have after := decided rfl
    cases handled
    exact (handsOver_interfaceWentDown now single interface).load_le single
      electing.2.activeInterface?_of_down after
  | interfaceWentUp interface =>
    have after := decided rfl
    cases handled
    exact (handsOver_interfaceWentUp now single interface).load_le single
      electing.2.2.activeInterface?_of_down after
  | bridgeWentDown =>
    rw [moves.2.load_eq]
    cases handled
    exact (bridgeWentDown_derived machine now).few
  | bridgeWentUp =>
    rw [moves.2.load_eq]
    cases handled
    exact (bridgeWentUp_derived machine now).few
  | partnerWentDown =>
    rw [moves.2.load_eq]
    cases handled
    exact (partnerWentDown_derived machine now).few
  | partnerWentUp =>
    rw [moves.2.load_eq]
    cases handled
    exact (partnerWentUp_derived machine now).few
  | partnerPollFailed sequence cause =>
    unfold Occurrence.Moves at moves
    dsimp only at moves
    split at moves
    · rw [moves.2.2]
      exact Nat.le_succ_of_le (load_follows ..)
    · rw [moves.2.2]
      exact Nat.zero_le _
  | partnerPolled sequence report =>
    have safe := handle_safe handled accepted named
    rw [handle_polled handled] at safe ⊢
    have known : ((start machine).adoptPartner report).machine.partner.isSome = true := by
      simp [adoptPartner]
    have judged := (judgePartner_judged known now sequence (if report.up then .up else .down)).derived
    have most := load_follows ((start machine).adoptPartner report).machine.stance
      (((start machine).adoptPartner report).machine.partnerMonitor.register sequence
        (if report.up then .up else .down)).verdict
    refine (followReport_load _ report safe).trans ?_
    rw [judged, load_append]
    exact Nat.succ_le_succ ((Nat.zero_add _).le.trans most)
  | partnerChangedName => cases handled
  | _ =>
    rw [moves.2]
    exact Nat.zero_le _

end Turn

namespace Machine

/-- At most five occurrences are derived from a reported event while the election is decided. -/
theorem process_derived_length {machine : Machine} {event : Event}
    (reported : event.occurrence.isReported = true)
    (elected : machine.Elected machine.status.hasUp) (named : machine.Named) :
    (machine.process event).derived.length ≤ 5 := by
  obtain ⟨waiting, ⟨-, -, few⟩, -⟩ := machine.process_keeps event
    (fun cascade => cascade.Electing machine.roleOf? ∧ cascade.machine.Named ∧
      cascade.derived.length + (cascade.waiting.map (·.yield)).sum ≤ 5)
    (fun before after orderly holds step => by
      obtain ⟨electing, named, few⟩ := holds
      refine ⟨step.electing orderly electing, ?_⟩
      cases step with
      | handle handled =>
        refine ⟨Turn.handle_named handled (Turn.accepted_of_handled handled) named, ?_⟩
        have follow := Turn.handle_load handled orderly electing.2 named
        simp only [load, List.map_cons, List.sum_cons, List.length_append, List.map_append,
          List.sum_append] at few follow ⊢
        omega)
    ⟨Cascade.start_electing reported elected, named, by
      simp only [Cascade.start, List.length_nil, List.map_cons, List.map_nil, List.sum_cons,
        List.sum_nil]
      have := event.occurrence.yield_le
      omega⟩
  dsimp only at few
  omega

/-- Every handled occurrence derives only what has a lower rank, so that no cascade is infinite, whatever
the state of the machine and whatever waits. The processing of an event ends when nothing waits any
more, or at a fault. After a run from a fresh status, at most five occurrences are derived from a
reported event. -/
theorem process_drains :
    (∀ (machine : Machine) (now : Instant) (occurrence : Occurrence) (turn : Turn),
      (Turn.start machine).handle now occurrence = .ok turn →
        ∀ derived ∈ turn.derived, derived.rank < occurrence.rank) ∧
    (∀ now : Instant, WellFounded fun after before : Cascade => Cascade.Step now before after) ∧
    (∀ (now : Instant) (cascade : Cascade), ∃ last, Cascade.Reaches now cascade last ∧
      (last.waiting = [] ∨ ∃ fault, last.FailsWith now fault)) ∧
    (∀ (machine : Machine) (event : Event),
      Cascade.LeadsTo event.time (.start machine event) (machine.process event) []) ∧
    ∀ (name : String) (settings : BridgeSettings) (start : Instant) (machine : Machine),
      new name settings (initialStatus name settings start) = .ok machine →
      ∀ events : List Event, (∀ event ∈ events, event.occurrence.isReported = true) →
      ∀ event : Event, event.occurrence.isReported = true →
        ((machine.run events).machine.process event).derived.length ≤ 5 := by
  refine ⟨fun machine now occurrence turn handled => (Turn.handle_orderly handled).2,
    Cascade.wellFounded_step, Cascade.drains, process_leadsTo, ?_⟩
  intro name settings start machine built events reported event eventReported
  obtain ⟨-, elected⟩ := run_elected built events reported
  exact process_derived_length eventReported elected (run_named built events)

/-- Five occurrences are derived when the first interface comes up while there is no partner. -/
theorem process_drains_five :
    let start : Instant := ⟨0, 0⟩
    let settings := BridgeSettings.plain .standby
    let returned (sequence : UInt64) : Event :=
      ⟨start, .probeReturned "wg0" sequence .zero .zero .empty⟩
    ∃ machine, new "vpn" settings (initialStatus "vpn" settings start) = .ok machine ∧
      (∀ event ∈ [returned 1], event.occurrence.isReported = true) ∧
      (returned 2).occurrence.isReported = true ∧
      ((machine.run [returned 1]).machine.process (returned 2)).derived =
        [.interfaceWentUp "wg0", .bridgeWentUp, .interfaceActivated "wg0", .bridgeActivated,
          .connectivityRestored] ∧
      ((machine.run [returned 1]).machine.process (returned 2)).derived.length ≤ 5 := by
  intro start settings returned
  have built : new "vpn" settings (initialStatus "vpn" settings start) = .ok _ := rfl
  have reported : ∀ event ∈ [returned 1], event.occurrence.isReported = true := by decide
  obtain ⟨-, -, -, -, bounded⟩ := process_drains
  exact ⟨_, built, reported, rfl, by decide, bounded _ _ _ _ built _ reported _ rfl⟩

end Machine

end TunnelFailover
