import TunnelFailover.Probe.Prober
import TunnelFailover.Proofs.Ledger
import TunnelFailover.Proofs.Lookup
import Mathlib.Data.List.Induction
/-!
This file lets a prober send, sweep and receive in any order, and shows that the ledger of each of its
tunnels stays balanced: no probe is lost from the accounts, and none is reported twice as lost.
-/

namespace TunnelFailover

/-- What is reported of the probes of an interface. -/
def Occurrence.report? (interface : String) : Occurrence → Option Report
  | .probeLost other sequence => if other = interface then some (.lost sequence) else none
  | .probeReturned other sequence _ _ _ =>
    if other = interface then some (.returned sequence) else none
  | _ => none

/-- Losses are reported of their own interface. -/
theorem filterMap_lossesOf (interface other : String) (missed : Option SequenceRange) :
    (lossesOf other missed).filterMap (Occurrence.report? interface) =
      if other = interface then (missedNumbers missed).map .lost else [] := by
  rw [lossesOf, missedNumbers, List.filterMap_map]
  split
  · rename_i same
    simp [Occurrence.report?, same]
  · rename_i apart
    simp [Function.comp_def, Occurrence.report?, apart]

namespace Prober

/-- Nothing has been sent over any tunnel. -/
def IsFresh (prober : Prober) : Prop := ∀ tunnel ∈ prober.tunnels.values, tunnel.peer = {}

/-- A prober without tunnels has sent nothing. -/
theorem isFresh_new (bridge : String) (identity : Uuid) (location : Location) :
    (new bridge identity location).IsFresh := nofun

/-- Nothing is sent over a tunnel while it is added. -/
theorem IsFresh.addTunnel {prober : Prober} (fresh : prober.IsFresh) (interface : String)
    (remote : Uuid) (target : SocketAddress) (transponder : Transponder) :
    (prober.addTunnel interface remote target transponder).IsFresh := by
  intro tunnel member
  obtain ⟨entry, inserted, rfl⟩ := List.mem_map.1 member
  rcases NameMap.fst_mem_insertEntry inserted with rfl | former
  · rfl
  · exact fresh entry.2 (List.mem_map_of_mem former)

/-- The watermark of an interface. -/
def watermark? (prober : Prober) (interface : String) : Option UInt64 :=
  (prober.tunnels.get? interface).map (·.peer.acknowledgement)

/-- In a round a prober sends its probes and then sweeps. A probe may arrive over any interface at any
time, also between these two. -/
inductive Action where
  | send (now : Instant) (answers : String → Transponder.Answers)
  | sweep
  | receive (now : Instant) (interface : String) (probe : Probe)

/-- The probes of a round are sent. -/
def Action.isSend : Action → Bool
  | send .. => true
  | _ => false

/-- A logbook has the sendings of a prober, what was reported of its probes, and which returns moved the
watermark of which interface. The outcomes of the sendings are kept with these, since tasks of their own
report them. -/
structure Logbook where
  prober : Prober
  sendings : List Sending
  occurrences : List Occurrence
  advances : List (String × UInt64)

namespace Logbook

/-- The logbook after one more action. -/
def add (logbook : Logbook) : Action → Logbook
  | .send now answers =>
    let (prober, sendings) := logbook.prober.send now answers
    { logbook with prober, sendings := logbook.sendings ++ sendings }
  | .sweep =>
    let (prober, losses) := logbook.prober.sweep
    { logbook with prober, occurrences := logbook.occurrences ++ losses }
  | .receive now interface probe =>
    let reception := logbook.prober.receive now interface probe
    let moved := reception.prober.watermark? interface ≠ logbook.prober.watermark? interface
    { logbook with
      prober := reception.prober
      occurrences := logbook.occurrences ++ reception.occurrences
      advances := logbook.advances ++ if moved then [(interface, probe.sequence)] else [] }

/-- The entries of one interface. -/
def ledger (logbook : Logbook) (interface : String) : Ledger where
  sent := logbook.sendings.filterMap fun sending =>
    if sending.interface = interface then some sending.probe.sequence else none
  reports := logbook.occurrences.filterMap (Occurrence.report? interface)
  advanced := logbook.advances.filterMap fun advance =>
    if advance.1 = interface then some advance.2 else none

end Logbook

/-- The logbook of a prober after some actions. -/
def logbook (prober : Prober) (actions : List Action) : Logbook :=
  actions.foldl Logbook.add ⟨prober, [], [], []⟩

theorem logbook_concat (prober : Prober) (actions : List Action) (action : Action) :
    prober.logbook (actions ++ [action]) = (prober.logbook actions).add action := by
  simp [logbook]

/-- A probe that is received changes nothing, or it returns over the interface that it was sent over. -/
theorem receive_cases (prober : Prober) (now : Instant) (interface : String) (probe : Probe) :
    (∃ answer samples, prober.receive now interface probe = ⟨prober, [], answer, samples⟩) ∨
      ∃ tunnel, prober.tunnels.get? interface = some tunnel ∧ probe.sequence ≠ 0 ∧
        probe.sequence ≤ tunnel.peer.sequence ∧
        prober.receive now interface probe =
          ⟨prober.withPeer interface fun _ => (tunnel.peer.acknowledge probe.sequence).1,
            lossesOf interface (tunnel.peer.acknowledge probe.sequence).2 ++
              [returned interface now probe], none, []⟩ := by
  unfold receive takeBack
  split
  · split
    · split
      · exact .inl ⟨_, _, rfl⟩
      · rename_i tunnel found
        split
        · rename_i accepted
          simp only [accepts, Bool.and_eq_true, decide_eq_true_eq] at accepted
          exact .inr ⟨tunnel, found, accepted.1.2, accepted.2, rfl⟩
        · exact .inl ⟨_, _, rfl⟩
    · exact .inl ⟨_, _, rfl⟩
  · exact .inl ⟨_, _, rfl⟩

namespace Logbook

variable {logbook : Logbook} {interface : String} {tunnel : Tunnel}

/-- In a round one probe is sent over every tunnel. -/
theorem ledger_send (known : logbook.prober.tunnels.get? interface = some tunnel) (now : Instant)
    (answers : String → Transponder.Answers) :
    (logbook.add (.send now answers)).ledger interface =
      logbook.ledger interface ++ ⟨[tunnel.peer.next.2], [], []⟩ := by
  have sendings : (logbook.prober.send now answers).2 = logbook.prober.tunnels.entries.map
      fun entry => (logbook.prober.sendOver now (answers entry.1) entry.1 entry.2).2 := by
    simp [Prober.send, NameMap.values, NameMap.mapWithName]
  have numbers : (logbook.prober.send now answers).2.filterMap (fun sending =>
      if sending.interface = interface then some sending.probe.sequence else none) =
      [tunnel.peer.next.2] := by
    rw [sendings, List.filterMap_map, List.filterMap_eq_flatMap_toList,
      NameMap.flatMap_entries _ interface, known]
    · simp [sendOver, Probe.fresh]
    · intro entry apart
      simp [sendOver, apart]
  ext1
  · rw [Ledger.sent_append, ← numbers]
    exact List.filterMap_append
  · exact (List.append_nil _).symm
  · exact (List.append_nil _).symm

/-- A sweep changes the account of every tunnel. -/
theorem get?_sweep (logbook : Logbook) (interface : String) :
    (logbook.add .sweep).prober.tunnels.get? interface =
      (logbook.prober.tunnels.get? interface).map fun tunnel =>
        { tunnel with peer := tunnel.peer.sweep.1 } := by
  simp [add, Prober.sweep, Function.comp_def]

/-- In a sweep the probes of every tunnel before the last one are given up. -/
theorem ledger_sweep (known : logbook.prober.tunnels.get? interface = some tunnel) :
    (logbook.add .sweep).ledger interface =
      logbook.ledger interface ++ .ofNumbers (missedNumbers tunnel.peer.sweep.2) [] [] := by
  have losses : logbook.prober.sweep.2 = logbook.prober.tunnels.entries.flatMap fun entry =>
      lossesOf entry.1 entry.2.peer.sweep.2 := by
    simp [Prober.sweep, NameMap.mapWithName, List.flatMap_map]
  have reports : logbook.prober.sweep.2.filterMap (Occurrence.report? interface) =
      (missedNumbers tunnel.peer.sweep.2).map .lost := by
    rw [losses, List.filterMap_flatMap, NameMap.flatMap_entries _ interface, known]
    · simp [filterMap_lossesOf]
    · intro entry apart
      rw [filterMap_lossesOf, if_neg apart]
  ext1
  · exact (List.append_nil _).symm
  · rw [Ledger.reports_append, Ledger.ofNumbers, List.map_nil, List.append_nil, ← reports]
    exact List.filterMap_append
  · exact (List.append_nil _).symm

/-- A probe that changes nothing leaves no trace. -/
theorem add_receive_of_unchanged {now : Instant} {channel : String} {probe : Probe}
    {answer : Option Probe} {samples : List Sample}
    (unchanged : logbook.prober.receive now channel probe = ⟨logbook.prober, [], answer, samples⟩) :
    logbook.add (.receive now channel probe) = logbook := by
  simp [add, unchanged]

/-- A probe that returns is reported after those that it shows to be lost, and it may move the
watermark. All of this concerns the interface that it returns over. -/
theorem ledger_receive {now : Instant} {channel : String} {probe : Probe}
    (known : logbook.prober.tunnels.get? channel = some tunnel)
    (taken : logbook.prober.receive now channel probe =
      ⟨logbook.prober.withPeer channel fun _ => (tunnel.peer.acknowledge probe.sequence).1,
        lossesOf channel (tunnel.peer.acknowledge probe.sequence).2 ++ [returned channel now probe],
        none, []⟩) :
    (logbook.add (.receive now channel probe)).ledger interface =
      logbook.ledger interface ++
        if channel = interface then
          .ofNumbers (missedNumbers (tunnel.peer.acknowledge probe.sequence).2) [probe.sequence]
            (if tunnel.peer.acknowledgement < probe.sequence then [probe.sequence] else [])
        else .empty := by
  have reports : (lossesOf channel (tunnel.peer.acknowledge probe.sequence).2 ++
      [returned channel now probe]).filterMap (Occurrence.report? interface) =
      if channel = interface then
        (missedNumbers (tunnel.peer.acknowledge probe.sequence).2).map .lost ++
          [.returned probe.sequence]
      else [] := by
    rw [List.filterMap_append, filterMap_lossesOf]
    split <;> rename_i same <;> simp [returned, Occurrence.report?, same]
  have watermark : (logbook.prober.withPeer channel fun _ =>
      (tunnel.peer.acknowledge probe.sequence).1).watermark? channel ≠
      logbook.prober.watermark? channel ↔ tunnel.peer.acknowledgement < probe.sequence := by
    simp only [watermark?, withPeer, NameMap.get?_modify, known, Peer.acknowledge, if_true,
      Option.map_some, ne_eq, Option.some.injEq, ← UInt64.toNat_inj, toNat_max,
      UInt64.lt_iff_toNat_lt]
    omega
  have advances : (logbook.add (.receive now channel probe)).advances = logbook.advances ++
      if tunnel.peer.acknowledgement < probe.sequence then [(channel, probe.sequence)] else [] := by
    simp only [add, taken, watermark]
  have occurrences : (logbook.add (.receive now channel probe)).occurrences = logbook.occurrences ++
      (lossesOf channel (tunnel.peer.acknowledge probe.sequence).2 ++ [returned channel now probe]) := by
    simp only [add, taken]
  ext1
  · split <;> exact (List.append_nil _).symm
  · rw [ledger, occurrences, List.filterMap_append, reports]
    split <;> rfl
  · rw [ledger, advances, List.filterMap_append]
    by_cases here : channel = interface <;>
      by_cases ahead : tunnel.peer.acknowledgement < probe.sequence <;>
      simp [here, ahead, ledger, Ledger.ofNumbers, Ledger.empty]

/-- Whatever a prober does is a step of the account of each tunnel. -/
theorem step (known : logbook.prober.tunnels.get? interface = some tunnel) (action : Action) :
    ∃ after entries, (logbook.add action).prober.tunnels.get? interface = some after ∧
      tunnel.peer.Step after.peer entries ∧
      (logbook.add action).ledger interface = logbook.ledger interface ++ entries ∧
      entries.sent.length = if action.isSend then 1 else 0 := by
  cases action with
  | send now answers =>
    refine ⟨(logbook.prober.sendOver now (answers interface) interface tunnel).1, _, ?_, .send,
      ledger_send known now answers, rfl⟩
    simp [add, Prober.send, known]
  | sweep =>
    exact ⟨_, _, by rw [get?_sweep, known]; rfl, .sweep, ledger_sweep known, rfl⟩
  | receive now channel probe =>
    obtain ⟨answer, samples, unchanged⟩ | ⟨other, found, numbered, sent, taken⟩ :=
      logbook.prober.receive_cases now channel probe
    · rw [add_receive_of_unchanged unchanged]
      exact ⟨tunnel, .empty, known, .idle, (Ledger.append_empty _).symm, rfl⟩
    · have prober : (logbook.add (.receive now channel probe)).prober =
          logbook.prober.withPeer channel fun _ => (other.peer.acknowledge probe.sequence).1 := by
        simp only [add, taken]
      rw [prober, ledger_receive found taken, withPeer, NameMap.get?_modify, known]
      by_cases here : channel = interface
      · obtain rfl : other = tunnel := Option.some.inj (found.symm.trans (here ▸ known))
        simp only [here, if_true]
        exact ⟨_, _, rfl, .acknowledge probe.sequence numbered sent, rfl, rfl⟩
      · simp only [Ne.symm here, here, if_false]
        exact ⟨tunnel, .empty, rfl, .idle, rfl, rfl⟩

end Logbook

/-- The watermark of a tunnel does not move back in a run. -/
theorem acknowledgement_le_logbook {prober : Prober} {interface : String} {earlier : List Action}
    {former : Tunnel}
    (known : (prober.logbook earlier).prober.tunnels.get? interface = some former)
    (later : List Action) :
    ∃ tunnel, (prober.logbook (earlier ++ later)).prober.tunnels.get? interface = some tunnel ∧
      former.peer.acknowledgement ≤ tunnel.peer.acknowledgement := by
  induction later using List.reverseRecOn with
  | nil =>
    rw [List.append_nil]
    exact ⟨former, known, UInt64.le_refl _⟩
  | append_singleton later action inductionHypothesis =>
    obtain ⟨tunnel, found, reached⟩ := inductionHypothesis
    obtain ⟨after, entries, foundAfter, step, -, -⟩ := Logbook.step found action
    rw [← List.append_assoc, logbook_concat]
    exact ⟨after, foundAfter, UInt64.le_trans reached step.acknowledgement_le⟩

section Run

variable {prober : Prober} (fresh : prober.IsFresh) {interface : String}

include fresh

/-- The ledger of each tunnel stays balanced as long as there are numbers left, and it has a number for
every round. -/
theorem logbook_balanced (known : (prober.tunnels.get? interface).isSome) {actions : List Action}
    (room : actions.countP (·.isSend) < UInt64.size) :
    ∃ tunnel, (prober.logbook actions).prober.tunnels.get? interface = some tunnel ∧
      ((prober.logbook actions).ledger interface).sent.length = actions.countP (·.isSend) ∧
      tunnel.peer.Balanced ((prober.logbook actions).ledger interface) := by
  -- The balance goes on to the next action only because the number of the next probe is not used up.
  induction actions using List.reverseRecOn with
  | nil =>
    obtain ⟨tunnel, found⟩ := Option.isSome_iff_exists.1 known
    have start : tunnel.peer = {} := fresh tunnel (NameMap.mem_values_of_get? found)
    exact ⟨tunnel, found, rfl, start ▸ Peer.balanced_empty⟩
  | append_singleton actions action inductionHypothesis =>
    rw [List.countP_append, List.countP_singleton] at room ⊢
    obtain ⟨tunnel, found, counts, balanced⟩ := inductionHypothesis (by omega)
    obtain ⟨after, entries, foundAfter, step, ledger, sent⟩ := Logbook.step found action
    have enough : tunnel.peer.sequence.toNat + entries.sent.length < UInt64.size := by
      rw [← balanced.length_sent, counts, sent]
      exact room
    rw [logbook_concat, ledger, Ledger.sent_append, List.length_append, counts, sent]
    exact ⟨after, foundAfter, rfl, balanced.step step enough⟩

/-- Neither the last number nor the watermark of a tunnel moves back. -/
theorem logbook_forward (known : (prober.tunnels.get? interface).isSome) {earlier later : List Action}
    (room : (earlier ++ later).countP (·.isSend) < UInt64.size) {former tunnel : Tunnel}
    (formerFound : (prober.logbook earlier).prober.tunnels.get? interface = some former)
    (found : (prober.logbook (earlier ++ later)).prober.tunnels.get? interface = some tunnel) :
    former.peer.sequence ≤ tunnel.peer.sequence ∧
      former.peer.acknowledgement ≤ tunnel.peer.acknowledgement := by
  have fewer : earlier.countP (·.isSend) ≤ (earlier ++ later).countP (·.isSend) := by
    rw [List.countP_append]
    exact Nat.le_add_right ..
  obtain ⟨_, sameFormer, formerCounts, formerBalanced⟩ :=
    logbook_balanced fresh known (Nat.lt_of_le_of_lt fewer room)
  obtain rfl := Option.some.inj (sameFormer.symm.trans formerFound)
  obtain ⟨_, same, counts, balanced⟩ := logbook_balanced fresh known room
  obtain rfl := Option.some.inj (same.symm.trans found)
  obtain ⟨_, last, reached⟩ := acknowledgement_le_logbook formerFound later
  obtain rfl := Option.some.inj (last.symm.trans found)
  refine ⟨?_, reached⟩
  rw [UInt64.le_iff_toNat_le, ← formerBalanced.length_sent, ← balanced.length_sent, formerCounts,
    counts]
  exact fewer

end Run

/-- After a sweep the watermark has reached the number before the last one. -/
theorem logbook_swept {prober : Prober} {actions : List Action}
    (last : actions.getLast? = some .sweep) {interface : String} {tunnel : Tunnel}
    (found : (prober.logbook actions).prober.tunnels.get? interface = some tunnel) :
    tunnel.peer.sequence.toNat - 1 ≤ tunnel.peer.acknowledgement.toNat := by
  obtain ⟨earlier, rfl⟩ := List.getLast?_eq_some_iff.1 last
  rw [logbook_concat, Logbook.get?_sweep] at found
  obtain ⟨former, -, rfl⟩ := Option.map_eq_some_iff.1 found
  rw [Peer.toNat_sweep]
  exact Nat.le_max_right _ _

/-- In any run of a prober that has sent nothing before, and as long as there are numbers left, the
probes of an interface are accounted for. They have the numbers from one up, and neither the last
number nor the watermark moves back. Each number up to the watermark is either reported as lost or has
moved the watermark by its return, and only once. A number is not lost after it has returned, nor as
long as it is the last one, and none is reported that was not sent. After a sweep all numbers before
the last one are settled. -/
theorem logbook_accounts {prober : Prober} (fresh : prober.IsFresh) {actions : List Action}
    (room : actions.countP (·.isSend) < UInt64.size) {interface : String}
    (known : (prober.tunnels.get? interface).isSome) :
    let ledger := (prober.logbook actions).ledger interface
    ∃ tunnel, (prober.logbook actions).prober.tunnels.get? interface = some tunnel ∧
      ledger.sent.map UInt64.toNat = List.range' 1 tunnel.peer.sequence.toNat ∧
      tunnel.peer.acknowledgement ≤ tunnel.peer.sequence ∧
      (∀ earlier former, earlier <+: actions →
        (prober.logbook earlier).prober.tunnels.get? interface = some former →
        former.peer.sequence ≤ tunnel.peer.sequence ∧
          former.peer.acknowledgement ≤ tunnel.peer.acknowledgement) ∧
      ((ledger.lost ++ ledger.advanced).map UInt64.toNat).Perm
        (List.range' 1 tunnel.peer.acknowledgement.toNat) ∧
      (ledger.lost ++ ledger.advanced).Nodup ∧
      (∀ sequence ∈ ledger.advanced, .returned sequence ∈ ledger.reports) ∧
      (ledger.reports.Pairwise fun first second =>
        ∀ sequence, first = .returned sequence → second ≠ .lost sequence) ∧
      (∀ sequence, .lost sequence ∈ ledger.reports ∨ .returned sequence ∈ ledger.reports →
        sequence ∈ ledger.sent) ∧
      tunnel.peer.sequence ∉ ledger.lost ∧
      (actions.getLast? = some .sweep → ∀ sequence ∈ ledger.sent,
        sequence < tunnel.peer.sequence → sequence ∈ ledger.lost ++ ledger.advanced) := by
  intro ledger
  obtain ⟨tunnel, found, -, balanced⟩ := logbook_balanced fresh known room
  refine ⟨tunnel, found, balanced.numbered, balanced.within, ?_, balanced.settled,
    balanced.nodup_settled, balanced.backed, balanced.lasting, fun _ => balanced.sent_of_report,
    fun lost => UInt64.lt_irrefl _ (balanced.latest _ lost), ?_⟩
  · rintro earlier former ⟨later, rfl⟩ formerFound
    exact logbook_forward fresh known room formerFound found
  · intro last sequence sent smaller
    refine balanced.mem_settled_iff.2 ⟨(balanced.mem_sent_iff.1 sent).1, ?_⟩
    have swept := logbook_swept last found
    rw [UInt64.lt_iff_toNat_lt] at smaller
    rw [UInt64.le_iff_toNat_le]
    omega

/-- The second probe returns before the first one, and twice. A number that was not sent is refused.
The third probe is given up in a sweep, and the first one returns later still. -/
theorem logbook_accounts_wg0 :
    let start : Instant := ⟨0, 0⟩
    let address : SocketAddress := ⟨.v4 ⟨[127, 0, 0, 1], rfl⟩, 0, 9⟩
    let prober := (new "vpn-1" ⟨1⟩ .empty).addTunnel "wg0" ⟨2⟩ address (.new address)
    let send := Action.send start fun _ => ⟨true, true, true⟩
    let back (sequence : UInt64) := Action.receive start "wg0"
      ((Probe.fresh sequence ⟨1⟩ .empty start ⟨2⟩).respond .empty start)
    let actions := [send, send, send, back 2, back 2, back 9, send, back 1, .sweep]
    let ledger := (prober.logbook actions).ledger "wg0"
    prober.IsFresh ∧ actions.countP (·.isSend) < UInt64.size ∧ (prober.tunnels.get? "wg0").isSome ∧
      ledger.reports = [.lost 1, .returned 2, .returned 2, .returned 1, .lost 3] ∧
      ∃ tunnel, (prober.logbook actions).prober.tunnels.get? "wg0" = some tunnel ∧
        tunnel.peer = ⟨4, 3⟩ ∧
        ((ledger.lost ++ ledger.advanced).map UInt64.toNat).Perm
          (List.range' 1 tunnel.peer.acknowledgement.toNat) := by
  intro start address prober send back actions ledger
  have fresh : prober.IsFresh := .addTunnel (isFresh_new _ _ _) _ _ _ _
  have room : actions.countP (·.isSend) < UInt64.size := by decide
  have known : (prober.tunnels.get? "wg0").isSome := by decide
  have counts : ((prober.logbook actions).prober.tunnels.get? "wg0").map (·.peer) =
      some ⟨4, 3⟩ := by decide +kernel
  have reports : ledger.reports =
      [.lost 1, .returned 2, .returned 2, .returned 1, .lost 3] := by decide +kernel
  obtain ⟨tunnel, found, -, -, -, settled, -⟩ := logbook_accounts fresh room known
  rw [found] at counts
  exact ⟨fresh, room, known, reports, tunnel, found, Option.some.inj counts, settled⟩

end Prober

end TunnelFailover
