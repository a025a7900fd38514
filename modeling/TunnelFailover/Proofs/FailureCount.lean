import TunnelFailover.Metrics.Registry
import TunnelFailover.Proofs.Effects
import TunnelFailover.Proofs.Logbook
/-!
This file follows the counter of failed probes. Every report of a failure raises it by one, and a
probe that could not be sent is reported again when it is given up.
-/

namespace TunnelFailover

namespace Family

variable {α : Type}

theorem lookup_cons (labels other : List String) (metric : α) (rest : Family α) :
    List.lookup other ((labels, metric) :: rest) =
      if other = labels then some metric else rest.lookup other := by
  rw [List.lookup_cons]
  by_cases same : other = labels
  · rw [if_pos same, beq_iff_eq.2 same]
  · rw [if_neg same, beq_eq_false_iff_ne.2 same]

/-- A change concerns the metric of its own labels, which is created if it is not there. -/
theorem lookup_change (create : α) (update : α → α) (labels other : List String)
    (family : Family α) :
    List.lookup other (family.change create update labels) =
      if other = labels then some (update ((family.lookup labels).getD create))
      else family.lookup other := by
  induction family with
  | nil =>
    rw [change, lookup_cons]
    rfl
  | cons entry rest inductionHypothesis =>
    obtain ⟨own, metric⟩ := entry
    rw [change, lookup_cons own labels]
    by_cases here : own = labels
    · subst here
      simp only [if_true, lookup_cons]
      split <;> rfl
    · simp only [here, Ne.symm here, if_false, lookup_cons, inductionHypothesis]
      by_cases same : other = own
      · simp [same, here]
      · simp [same]

end Family

namespace Registry

/-- The counter of the failed probes of an interface. -/
def failedProbes (registry : Registry) (bridge interface : String) : Nat :=
  (registry.probesFailed.lookup [bridge, interface]).getD 0

/-- A sample raises the counter if it tells of a failed probe of the interface. -/
theorem failedProbes_record (registry : Registry) (sample : Sample) (bridge interface : String) :
    (registry.record sample).failedProbes bridge interface =
      registry.failedProbes bridge interface + [sample].count (.probeFailed bridge interface) := by
  cases sample with
  | probeFailed otherBridge other =>
    rw [record, failedProbes, count, Family.lookup_change, List.count_singleton]
    by_cases same : [bridge, interface] = [otherBridge, other]
    · obtain ⟨rfl, rfl⟩ : bridge = otherBridge ∧ interface = other := by simpa using same
      simp [failedProbes]
    · have apart : ¬Sample.probeFailed otherBridge other = .probeFailed bridge interface := by
        simpa [eq_comm] using same
      simp [same, apart, failedProbes]
  | _ => rfl

theorem failedProbes_recordAll (registry : Registry) (samples : List Sample)
    (bridge interface : String) :
    (registry.recordAll samples).failedProbes bridge interface =
      registry.failedProbes bridge interface + samples.count (.probeFailed bridge interface) := by
  induction samples generalizing registry with
  | nil => rfl
  | cons first rest inductionHypothesis =>
    have first' := registry.failedProbes_record first bridge interface
    rw [recordAll, List.foldl_cons, ← recordAll, inductionHypothesis, first', Nat.add_assoc,
      ← List.count_append, List.singleton_append]

end Registry

/-- What became of a probe. -/
def Occurrence.isProbe : Occurrence → Bool
  | probeLost .. | probeReturned .. | probeUnsent .. | probeSent .. => true
  | _ => false

/-- The number of a probe of an interface that is reported as failed, because it could not be sent or
did not come back. -/
def Occurrence.failed? (interface : String) : Occurrence → Option UInt64
  | probeUnsent other sequence _ | probeLost other sequence =>
    if other = interface then some sequence else none
  | _ => none

/-- Only probes fail. -/
theorem Occurrence.filterMap_failed? (occurrences : List Occurrence) (interface : String) :
    (occurrences.filter (·.isProbe)).filterMap (failed? interface) =
      occurrences.filterMap (failed? interface) := by
  rw [List.filterMap_filter]
  refine List.filterMap_congr fun occurrence _ => ?_
  cases occurrence <;> rfl

/-- A failed probe leaves one sample that tells of it. -/
theorem Occurrence.count_samples (machine : Machine) (occurrence : Occurrence) (interface : String) :
    (samplesOf (occurrence.effects machine)).count (.probeFailed machine.name interface) =
      (occurrence.failed? interface).toList.length := by
  have stray (other : String) : (samplesOf (machine.strayEffects other)).count
      (.probeFailed machine.name interface) = 0 := by
    unfold Machine.strayEffects
    split <;> rfl
  cases occurrence with
  | probeUnsent other | probeLost other =>
    by_cases same : other = interface <;>
      simp [effects, failed?, same, samplesOf_sample, stray]
  | probeReturned | probeSent => exact stray _
  | bridgeReactivated | interfaceReactivated =>
    rw [effects]
    split <;> rfl
  | _ => rfl

/-- In a run every report of a failed probe of an interface raises its counter by one. -/
theorem Machine.run_failedProbes (machine : Machine) (registry : Registry) (events : List Event)
    (interface : String) :
    (registry.recordAll (samplesOf (machine.run events).effects)).failedProbes machine.name
        interface =
      registry.failedProbes machine.name interface +
        (events.filterMap (·.occurrence.failed? interface)).length := by
  rw [Registry.failedProbes_recordAll]
  congr 1
  induction events using List.reverseRecOn with
  | nil => rfl
  | append_singleton earlier last inductionHypothesis =>
    have sameName : (machine.run earlier).machine.name = machine.name :=
      congrArg (·.1) (machine.run_identity earlier)
    have added := last.occurrence.count_samples (machine.run earlier).machine interface
    rw [sameName] at added
    simp only [run_concat, Run.step, samplesOf_append, List.count_append, inductionHypothesis,
      process_samples, added, List.filterMap_append, List.length_append]
    cases failed : last.occurrence.failed? interface <;> simp [failed]

namespace Prober

namespace Logbook

/-- What has been reported of sendings and of probes, in some order. -/
def emitted (logbook : Logbook) : List Occurrence :=
  logbook.sendings.filterMap Sending.occurrence? ++ logbook.occurrences

/-- The numbers of the probes of an interface that are reported as not sent. -/
def unsent (logbook : Logbook) (interface : String) : List UInt64 :=
  (logbook.sendings.filterMap Sending.occurrence?).filterMap (Occurrence.failed? interface)

/-- The probes that could not be sent are among all that were to be sent, in the same order. -/
theorem unsent_sublist (logbook : Logbook) (interface : String) :
    (logbook.unsent interface).Sublist (logbook.ledger interface).sent := by
  have own {sending : Sending} {sequence : UInt64}
      (failed : sending.occurrence?.bind (Occurrence.failed? interface) = some sequence) :
      (if sending.interface = interface then some sending.probe.sequence else none) =
        some sequence := by
    obtain ⟨occurrence, reported, same⟩ := Option.bind_eq_some_iff.1 failed
    unfold Sending.occurrence? at reported
    split at reported <;> cases reported
    · cases same
    · exact same
  rw [unsent, List.filterMap_filterMap, ledger]
  induction logbook.sendings with
  | nil => exact .slnil
  | cons sending rest inductionHypothesis =>
    rw [List.filterMap_cons, List.filterMap_cons]
    cases failed : sending.occurrence?.bind (Occurrence.failed? interface) with
    | none =>
      dsimp only
      split
      · exact inductionHypothesis
      · exact inductionHypothesis.cons _
    | some sequence =>
      rw [own failed]
      exact inductionHypothesis.cons_cons sequence

end Logbook

theorem mem_lossesOf {interface : String} {missed : Option SequenceRange} {occurrence : Occurrence}
    (member : occurrence ∈ lossesOf interface missed) :
    ∃ sequence, occurrence = .probeLost interface sequence := by
  obtain ⟨sequence, -, rfl⟩ := List.mem_map.1 member
  exact ⟨sequence, rfl⟩

/-- Only tasks that send report what could not be sent. -/
theorem unsent_not_mem_occurrences (prober : Prober) (actions : List Action) (interface : String)
    (sequence : UInt64) (cause : String) :
    .probeUnsent interface sequence cause ∉ (prober.logbook actions).occurrences := by
  induction actions using List.reverseRecOn with
  | nil => exact List.not_mem_nil
  | append_singleton earlier last inductionHypothesis =>
    rw [logbook_concat]
    cases last with
    | send now answers => exact inductionHypothesis
    | sweep =>
      rw [Logbook.add, Prober.sweep, List.mem_append, not_or]
      refine ⟨inductionHypothesis, fun member => ?_⟩
      obtain ⟨entry, -, lost⟩ := List.mem_flatMap.1 member
      obtain ⟨_, same⟩ := mem_lossesOf lost
      cases same
    | receive now channel probe =>
      rcases (prober.logbook earlier).prober.receive_cases now channel probe with
        ⟨answer, samples, unchanged⟩ | ⟨tunnel, -, -, -, taken⟩
      · rw [Logbook.add_receive_of_unchanged unchanged]
        exact inductionHypothesis
      · rw [Logbook.add, taken, List.mem_append, List.mem_append, not_or, not_or]
        refine ⟨inductionHypothesis, fun lost => ?_, fun back => ?_⟩
        · obtain ⟨_, same⟩ := mem_lossesOf lost
          cases same
        · cases List.mem_singleton.1 back

/-- A prober reports the failures of its sendings, and besides them the losses. -/
theorem filterMap_emitted (prober : Prober) (actions : List Action) (interface : String) :
    (prober.logbook actions).emitted.filterMap (Occurrence.failed? interface) =
      (prober.logbook actions).unsent interface ++
        ((prober.logbook actions).ledger interface).lost := by
  have losses : (prober.logbook actions).occurrences.filterMap (Occurrence.failed? interface) =
      ((prober.logbook actions).occurrences.filterMap (Occurrence.report? interface)).filterMap
        Report.lost? := by
    rw [List.filterMap_filterMap]
    refine List.filterMap_congr fun occurrence member => ?_
    cases occurrence with
    | probeUnsent other sequence cause =>
      exact absurd member (prober.unsent_not_mem_occurrences actions other sequence cause)
    | probeLost other | probeReturned other =>
      by_cases same : other = interface <;>
        simp [Occurrence.failed?, Occurrence.report?, same, Report.lost?]
    | _ => rfl
  rw [Logbook.emitted, List.filterMap_append, losses]
  rfl

/-- Two lists of numbers have together at most as many as there are, and those that are in both. -/
theorem length_add_length_le {numbers first second : List UInt64} (firstNodup : first.Nodup)
    (secondNodup : second.Nodup) (firstWithin : first ⊆ numbers) (secondWithin : second ⊆ numbers) :
    first.length + second.length ≤
      numbers.length + (first.filter (· ∈ second)).length := by
  have apart : (first.filter (· ∉ second) ++ second).Subperm numbers := by
    refine List.subperm_of_subset ?_ ?_
    · refine (firstNodup.filter _).append secondNodup fun number inFirst inSecond => ?_
      exact of_decide_eq_true (List.mem_filter.1 inFirst).2 inSecond
    · refine List.append_subset.2 ⟨fun number inFirst => ?_, secondWithin⟩
      exact firstWithin (List.mem_filter.1 inFirst).1
  have parts := List.length_eq_length_filter_add (l := first) fun number => number ∈ second
  have bound := apart.length_le
  rw [List.length_append] at bound
  simp only [decide_not] at bound
  omega

/-- While a machine processes what a prober reports in any order, the counter of the failed probes of an
interface goes up with every probe that could not be sent and with every probe that is given up. Each
probe is reported once as the one and once as the other at most, so that it counts twice if both are
reported of it. Therefore the counter is not bounded by the number of probes, but by this number and
the number of those that could not be sent and are given up. -/
theorem failures_counted {prober : Prober} (fresh : prober.IsFresh) {actions : List Action}
    (room : actions.countP (·.isSend) < UInt64.size) {interface : String}
    (known : (prober.tunnels.get? interface).isSome) (machine : Machine) (registry : Registry)
    {events : List Event} (processed : ((events.map (·.occurrence)).filter (·.isProbe)).Subperm
      (prober.logbook actions).emitted) :
    let logbook := prober.logbook actions
    let ledger := logbook.ledger interface
    let failures := events.filterMap (·.occurrence.failed? interface)
    (registry.recordAll (samplesOf (machine.run events).effects)).failedProbes machine.name
          interface =
        registry.failedProbes machine.name interface + failures.length ∧
      failures.Subperm (logbook.unsent interface ++ ledger.lost) ∧
      (((events.map (·.occurrence)).filter (·.isProbe)).Perm logbook.emitted →
        failures.Perm (logbook.unsent interface ++ ledger.lost)) ∧
      (logbook.unsent interface).Nodup ∧ ledger.lost.Nodup ∧
      (∀ sequence ∈ logbook.unsent interface ++ ledger.lost, sequence ∈ ledger.sent) ∧
      failures.length ≤ ledger.sent.length +
        ((logbook.unsent interface).filter (· ∈ ledger.lost)).length := by
  intro logbook ledger failures
  obtain ⟨tunnel, -, -, balanced⟩ := logbook_balanced fresh known room
  have failuresSame : failures =
      ((events.map (·.occurrence)).filter (·.isProbe)).filterMap (Occurrence.failed? interface) := by
    rw [Occurrence.filterMap_failed?, List.filterMap_map]
    rfl
  have sentNodup : ledger.sent.Nodup :=
    List.Nodup.of_map UInt64.toNat (balanced.numbered ▸ List.nodup_range' ..)
  have unsentSent := logbook.unsent_sublist interface
  have unsentNodup : (logbook.unsent interface).Nodup := sentNodup.sublist unsentSent
  have lostNodup : ledger.lost.Nodup := (List.nodup_append.1 balanced.nodup_settled).1
  have lostSent : ∀ sequence ∈ ledger.lost, sequence ∈ ledger.sent := fun sequence lost =>
    balanced.sent_of_report (.inl (Ledger.mem_lost.1 lost))
  have within : failures.Subperm (logbook.unsent interface ++ ledger.lost) := by
    obtain ⟨part, same, sublist⟩ := processed
    rw [failuresSame, ← filterMap_emitted]
    exact ⟨_, same.filterMap _, sublist.filterMap _⟩
  refine ⟨machine.run_failedProbes registry events interface, within, fun whole => ?_, unsentNodup,
    lostNodup, List.forall_mem_append.2 ⟨unsentSent.subset, lostSent⟩, ?_⟩
  · rw [failuresSame, ← filterMap_emitted]
    exact whole.filterMap _
  · calc
      failures.length ≤ (logbook.unsent interface ++ ledger.lost).length := within.length_le
      _ = (logbook.unsent interface).length + ledger.lost.length := List.length_append
      _ ≤ _ := length_add_length_le unsentNodup lostNodup unsentSent.subset lostSent

/-- Nothing can be sent over a tunnel in two rounds, so that three failures are counted for its two
probes. -/
theorem failures_counted_twice :
    let start : Instant := ⟨0, 0⟩
    let address : SocketAddress := ⟨.v4 ⟨[127, 0, 0, 1], rfl⟩, 0, 9⟩
    let prober := (new "vpn-1" ⟨1⟩ .empty).addTunnel "wg0" ⟨2⟩ address
      ((Transponder.new address).connect true).1
    let round := [Action.send start fun _ => ⟨false, true, false⟩, .sweep]
    let actions := round ++ round
    let ledger := (prober.logbook actions).ledger "wg0"
    let events := (prober.logbook actions).emitted.map (Event.mk start)
    let settings := BridgeSettings.plain .active
    prober.IsFresh ∧ actions.countP (·.isSend) < UInt64.size ∧ (prober.tunnels.get? "wg0").isSome ∧
      ((events.map (·.occurrence)).filter (·.isProbe)).Subperm (prober.logbook actions).emitted ∧
      ledger.sent = [1, 2] ∧
      ∃ machine, Machine.new "vpn-1" settings (Machine.initialStatus "vpn-1" settings start) =
          .ok machine ∧
        ((Registry.empty []).recordAll (samplesOf (machine.run events).effects)).failedProbes
          machine.name "wg0" = 3 := by
  intro start address prober round actions ledger events settings
  have fresh : prober.IsFresh := .addTunnel (isFresh_new _ _ _) _ _ _ _
  have room : actions.countP (·.isSend) < UInt64.size := by decide
  have known : (prober.tunnels.get? "wg0").isSome := by decide
  have processed : ((events.map (·.occurrence)).filter (·.isProbe)).Subperm
      (prober.logbook actions).emitted := by
    have same : events.map (·.occurrence) = (prober.logbook actions).emitted := by
      simp [events, Function.comp_def]
    rw [same]
    exact List.filter_sublist.subperm
  have sent : ledger.sent = [1, 2] := by decide +kernel
  have failures : events.filterMap (·.occurrence.failed? "wg0") = [1, 2, 1] := by decide +kernel
  have built : Machine.new "vpn-1" settings (Machine.initialStatus "vpn-1" settings start) =
    .ok _ := rfl
  obtain ⟨counts, -⟩ := failures_counted fresh room known _ (.empty []) processed
  rw [failures] at counts
  exact ⟨fresh, room, known, processed, sent, _, built, counts⟩

/-- It is not so that a run counts at most one failure for each probe. -/
theorem not_counted_once : ¬∀ (prober : Prober) (actions : List Action) (interface name : String)
    (settings : BridgeSettings) (start : Instant) (machine : Machine) (events : List Event),
    prober.IsFresh → actions.countP (·.isSend) < UInt64.size →
      (prober.tunnels.get? interface).isSome →
      Machine.new name settings (Machine.initialStatus name settings start) = .ok machine →
      (events.map (·.occurrence)).Perm (prober.logbook actions).emitted →
      ((Registry.empty []).recordAll (samplesOf (machine.run events).effects)).failedProbes
        machine.name interface ≤ ((prober.logbook actions).ledger interface).sent.length := by
  intro once
  let start : Instant := ⟨0, 0⟩
  let address : SocketAddress := ⟨.v4 ⟨[127, 0, 0, 1], rfl⟩, 0, 9⟩
  let prober := (new "vpn-1" ⟨1⟩ .empty).addTunnel "wg0" ⟨2⟩ address
    ((Transponder.new address).connect true).1
  let round := [Action.send start fun _ => ⟨false, true, false⟩, .sweep]
  let actions := round ++ round
  let events := (prober.logbook actions).emitted.map (Event.mk start)
  have fresh : prober.IsFresh := .addTunnel (isFresh_new _ _ _) _ _ _ _
  have whole : events.map (·.occurrence) = (prober.logbook actions).emitted := by
    simp [events, Function.comp_def]
  have failures : events.filterMap (·.occurrence.failed? "wg0") = [1, 2, 1] := by decide +kernel
  have sent : ((prober.logbook actions).ledger "wg0").sent = [1, 2] := by decide +kernel
  have bound := once prober actions "wg0" "vpn-1" (.plain .active) start _ events fresh (by decide)
    (by decide) rfl (.of_eq whole)
  rw [Machine.run_failedProbes, failures, sent] at bound
  revert bound
  decide

end Prober

end TunnelFailover
