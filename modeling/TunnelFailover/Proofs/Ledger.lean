import TunnelFailover.Probe.Peer
import Mathlib.Data.List.Nodup
import Mathlib.Data.List.Perm.Basic
/-!
This file keeps the ledger of the probes sent to one peer: which numbers were sent, what was reported of
them, and which returns moved the watermark. The ledger stays balanced whatever happens to the peer:
every number up to the watermark is either lost or has moved the watermark itself, and only once.
-/

namespace TunnelFailover

/-- What is reported of a probe that was sent. -/
inductive Report where
  | lost (sequence : UInt64)
  | returned (sequence : UInt64)
deriving DecidableEq

/-- The number of a probe that is reported as lost. -/
def Report.lost? : Report → Option UInt64
  | lost sequence => some sequence
  | returned _ => none

/-- The numbers of a range that may be missing. -/
def missedNumbers (missed : Option SequenceRange) : List UInt64 := missed.elim [] SequenceRange.toList

/-- Between two numbers lie those above the first one and below the second one. -/
theorem missedNumbers_between (previous upto : UInt64) :
    (missedNumbers (between previous upto)).map UInt64.toNat =
      List.range' (previous.toNat + 1) (upto.toNat - previous.toNat - 1) := by
  have small := upto.toNat_lt
  unfold missedNumbers between
  split
  · rename_i gap
    have first : (previous + 1).toNat = previous.toNat + 1 := by
      rw [UInt64.toNat_add, UInt64.toNat_one]
      omega
    have last : (upto - 1).toNat = upto.toNat - 1 :=
      UInt64.toNat_sub_of_le _ _ (by rw [UInt64.le_iff_toNat_le, UInt64.toNat_one]; omega)
    have length : (upto - 1).toNat - (previous + 1).toNat + 1 = upto.toNat - previous.toNat - 1 := by
      omega
    rw [Option.elim_some, SequenceRange.toList, List.map_map, length, List.range'_eq_map_range]
    refine List.map_congr_left fun offset member => ?_
    have inside := List.mem_range.1 member
    rw [Function.comp_apply, first, UInt64.toNat_ofNat_of_lt' (by change _ < 2 ^ 64; omega)]
  · rename_i gapless
    have nothing : upto.toNat - previous.toNat - 1 = 0 := by omega
    rw [nothing]
    rfl

/-- A missed number lies strictly between the two. -/
theorem mem_missedNumbers {previous upto sequence : UInt64}
    (member : sequence ∈ missedNumbers (between previous upto)) :
    previous < sequence ∧ sequence < upto := by
  have inside := List.mem_map_of_mem (f := UInt64.toNat) member
  rw [missedNumbers_between, List.mem_range'_1] at inside
  rw [UInt64.lt_iff_toNat_lt, UInt64.lt_iff_toNat_lt]
  omega

/-- The larger of two words is the larger number. -/
theorem toNat_max (first second : UInt64) :
    (max first second).toNat = max first.toNat second.toNat := by
  change (if first ≤ second then second else first).toNat = _
  simp only [UInt64.le_iff_toNat_le]
  split <;> omega

/-- The ledger of a peer has the numbers that were sent, the reports, and the numbers whose return moved
the watermark, each in the order of time. -/
@[ext]
structure Ledger where
  sent : List UInt64
  reports : List Report
  advanced : List UInt64

namespace Ledger

/-- The ledger before anything is sent. -/
def empty : Ledger := ⟨[], [], []⟩

instance : Append Ledger := ⟨fun first second =>
  ⟨first.sent ++ second.sent, first.reports ++ second.reports, first.advanced ++ second.advanced⟩⟩

variable (first second : Ledger)

@[simp]
theorem sent_append : (first ++ second).sent = first.sent ++ second.sent := rfl

@[simp]
theorem reports_append : (first ++ second).reports = first.reports ++ second.reports := rfl

@[simp]
theorem advanced_append : (first ++ second).advanced = first.advanced ++ second.advanced := rfl

/-- The numbers that are reported as lost. -/
def lost (ledger : Ledger) : List UInt64 := ledger.reports.filterMap Report.lost?

/-- The entries of one moment: some numbers are lost, then some return, and some move the watermark. -/
def ofNumbers (missed returns advanced : List UInt64) : Ledger :=
  ⟨[], missed.map .lost ++ returns.map .returned, advanced⟩

@[simp]
theorem append_empty (ledger : Ledger) : ledger ++ empty = ledger := by
  ext1 <;> exact List.append_nil _

/-- The lost numbers of further entries come last. -/
@[simp]
theorem lost_append : (first ++ second).lost = first.lost ++ second.lost := List.filterMap_append

theorem mem_lost {ledger : Ledger} {sequence : UInt64} :
    sequence ∈ ledger.lost ↔ .lost sequence ∈ ledger.reports := by
  simp only [lost, List.mem_filterMap]
  constructor
  · rintro ⟨report, member, same⟩
    cases report <;> cases same
    exact member
  · exact fun member => ⟨_, member, rfl⟩

section OfNumbers

variable (missed returns advanced : List UInt64)

@[simp]
theorem lost_ofNumbers : (ofNumbers missed returns advanced).lost = missed := by
  simp [lost, ofNumbers, List.filterMap_map, Function.comp_def, Report.lost?]

@[simp]
theorem returned_mem_ofNumbers {sequence : UInt64} :
    .returned sequence ∈ (ofNumbers missed returns advanced).reports ↔ sequence ∈ returns := by
  simp [ofNumbers]

/-- In one moment nothing is lost after a return. -/
theorem lasting_ofNumbers :
    (ofNumbers missed returns advanced).reports.Pairwise fun first second =>
      ∀ sequence, first = .returned sequence → second ≠ .lost sequence := by
  refine List.pairwise_append.2 ⟨?_, ?_, ?_⟩
  · exact List.pairwise_map.2 (List.pairwise_of_forall nofun)
  · exact List.pairwise_map.2 (List.pairwise_of_forall fun _ _ _ _ => nofun)
  · intro first lost second _ sequence same
    obtain ⟨other, -, rfl⟩ := List.mem_map.1 lost
    cases same

end OfNumbers

end Ledger

namespace Peer

/-- What may happen to the account of a peer, and what goes into its ledger. A probe may be sent or taken
back, if it was sent, and the probes before the last one may be given up. -/
inductive Step (peer : Peer) : Peer → Ledger → Prop
  | idle : Step peer peer .empty
  | send : Step peer peer.next.1 ⟨[peer.next.2], [], []⟩
  | sweep : Step peer peer.sweep.1 (.ofNumbers (missedNumbers peer.sweep.2) [] [])
  | acknowledge (sequence : UInt64) (numbered : sequence ≠ 0) (sent : sequence ≤ peer.sequence) :
      Step peer (peer.acknowledge sequence).1
        (.ofNumbers (missedNumbers (peer.acknowledge sequence).2) [sequence]
          (if peer.acknowledgement < sequence then [sequence] else []))

/-- The law of a ledger. The numbers are sent in their order, the watermark is among them, and all
numbers up to it are settled once. Only these are reported, and the last number is not lost. A number
that has returned is not lost later. -/
structure Balanced (peer : Peer) (ledger : Ledger) : Prop where
  numbered : ledger.sent.map UInt64.toNat = List.range' 1 peer.sequence.toNat
  within : peer.acknowledgement ≤ peer.sequence
  settled : ((ledger.lost ++ ledger.advanced).map UInt64.toNat).Perm
    (List.range' 1 peer.acknowledgement.toNat)
  returned : ∀ sequence, .returned sequence ∈ ledger.reports →
    1 ≤ sequence.toNat ∧ sequence ≤ peer.acknowledgement
  latest : ∀ sequence ∈ ledger.lost, sequence < peer.sequence
  lasting : ledger.reports.Pairwise fun first second =>
    ∀ sequence, first = .returned sequence → second ≠ .lost sequence
  backed : ∀ sequence ∈ ledger.advanced, .returned sequence ∈ ledger.reports

/-- Nothing is settled before anything is sent. -/
theorem balanced_empty : Balanced {} .empty where
  numbered := rfl
  within := UInt64.le_refl _
  settled := .refl _
  returned _ member := nomatch member
  latest _ member := nomatch member
  lasting := .nil
  backed _ member := nomatch member

variable {peer after : Peer} {ledger entries : Ledger}

/-- The last number counts the numbers that were sent. -/
theorem Balanced.length_sent (balanced : peer.Balanced ledger) :
    ledger.sent.length = peer.sequence.toNat := by
  rw [← List.length_map (f := UInt64.toNat), balanced.numbered, List.length_range']

/-- The numbers up to a last one are known by their bounds. -/
theorem mem_iff_of_perm {numbers : List UInt64} {last sequence : UInt64}
    (numbered : (numbers.map UInt64.toNat).Perm (List.range' 1 last.toNat)) :
    sequence ∈ numbers ↔ 1 ≤ sequence.toNat ∧ sequence ≤ last := by
  have injective : Function.Injective UInt64.toNat := fun _ _ => UInt64.toNat_inj.1
  rw [← List.mem_map_of_injective injective, numbered.mem_iff, List.mem_range'_1,
    UInt64.le_iff_toNat_le]
  omega

/-- The numbers up to the last one have been sent. -/
theorem Balanced.mem_sent_iff (balanced : peer.Balanced ledger) {sequence : UInt64} :
    sequence ∈ ledger.sent ↔ 1 ≤ sequence.toNat ∧ sequence ≤ peer.sequence :=
  mem_iff_of_perm (.of_eq balanced.numbered)

/-- The numbers up to the watermark are settled. -/
theorem Balanced.mem_settled_iff (balanced : peer.Balanced ledger) {sequence : UInt64} :
    sequence ∈ ledger.lost ++ ledger.advanced ↔
      1 ≤ sequence.toNat ∧ sequence ≤ peer.acknowledgement :=
  mem_iff_of_perm balanced.settled

/-- No number is settled twice. -/
theorem Balanced.nodup_settled (balanced : peer.Balanced ledger) :
    (ledger.lost ++ ledger.advanced).Nodup :=
  List.Nodup.of_map _ (balanced.settled.nodup_iff.2 (List.nodup_range' ..))

/-- Only numbers that have been sent are reported. -/
theorem Balanced.sent_of_report (balanced : peer.Balanced ledger) {sequence : UInt64}
    (reported : .lost sequence ∈ ledger.reports ∨ .returned sequence ∈ ledger.reports) :
    sequence ∈ ledger.sent := by
  have bounds : 1 ≤ sequence.toNat ∧ sequence ≤ peer.acknowledgement := by
    rcases reported with lost | returned
    · exact balanced.mem_settled_iff.1 (List.mem_append_left _ (Ledger.mem_lost.2 lost))
    · exact balanced.returned sequence returned
  exact balanced.mem_sent_iff.2 ⟨bounds.1, UInt64.le_trans bounds.2 balanced.within⟩

/-- The next number is larger by one, unless the numbers are used up. -/
theorem toNat_next (room : peer.sequence.toNat + 1 < UInt64.size) :
    peer.next.1.sequence.toNat = peer.sequence.toNat + 1 := by
  change (peer.sequence + 1).toNat = _
  rw [UInt64.toNat_add, UInt64.toNat_one, Nat.mod_eq_of_lt room]

/-- The watermark does not move back. -/
theorem Step.acknowledgement_le (step : peer.Step after entries) :
    peer.acknowledgement ≤ after.acknowledgement := by
  have up (watermark : UInt64) : peer.acknowledgement ≤ max peer.acknowledgement watermark := by
    rw [UInt64.le_iff_toNat_le, toNat_max]
    omega
  cases step with
  | idle => exact UInt64.le_refl _
  | send => exact UInt64.le_refl _
  | sweep => exact up _
  | acknowledge => exact up _

/-- A probe is sent under the next number, unless the numbers are used up. -/
theorem Balanced.send (balanced : peer.Balanced ledger) (room : peer.sequence.toNat + 1 < UInt64.size) :
    peer.next.1.Balanced (ledger ++ ⟨[peer.next.2], [], []⟩) := by
  have next : (peer.sequence + 1).toNat = peer.sequence.toNat + 1 := toNat_next room
  have above : peer.sequence < peer.sequence + 1 := by
    rw [UInt64.lt_iff_toNat_lt, next]
    omega
  have same : ledger ++ ⟨[peer.next.2], [], []⟩ =
      { ledger with sent := ledger.sent ++ [peer.sequence + 1] } := by
    ext1
    · rfl
    · exact List.append_nil _
    · exact List.append_nil _
  obtain ⟨numbered, within, settled, returned, latest, lasting, backed⟩ := balanced
  rw [same]
  refine ⟨?_, ?_, settled, returned, ?_, lasting, backed⟩
  · change (ledger.sent ++ [peer.sequence + 1]).map UInt64.toNat = List.range' 1 (peer.sequence + 1).toNat
    rw [List.map_append, numbered, next, List.range'_concat, List.map_singleton, next]
    congr 2
    omega
  · exact UInt64.le_trans within (UInt64.le_of_lt above)
  · exact fun sequence member => UInt64.lt_trans (latest sequence member) above

/-- The numbers from the watermark to another one may be lost, and what returns may move it further. -/
theorem Balanced.settle (balanced : peer.Balanced ledger) {upto watermark : UInt64}
    {returns advanced : List UInt64} {more : Nat}
    (next : advanced.map UInt64.toNat = List.range' (peer.acknowledgement.toNat + 1 +
      (upto.toNat - peer.acknowledgement.toNat - 1)) more)
    (reaches : watermark.toNat =
      peer.acknowledgement.toNat + (upto.toNat - peer.acknowledgement.toNat - 1) + more)
    (within : watermark ≤ peer.sequence) (spares : upto ≤ peer.sequence)
    (known : ∀ sequence ∈ returns, 1 ≤ sequence.toNat ∧ sequence ≤ watermark)
    (backed : ∀ sequence ∈ advanced, sequence ∈ returns) :
    Balanced ⟨peer.sequence, watermark⟩ (ledger ++
      .ofNumbers (missedNumbers (between peer.acknowledgement upto)) returns advanced) := by
  have gap := missedNumbers_between peer.acknowledgement upto
  have above : ∀ sequence ∈ missedNumbers (between peer.acknowledgement upto),
      peer.acknowledgement < sequence ∧ sequence < upto := fun _ => mem_missedNumbers
  generalize missedNumbers (between peer.acknowledgement upto) = missed at gap above ⊢
  have forward : peer.acknowledgement ≤ watermark := by
    rw [UInt64.le_iff_toNat_le]
    omega
  refine ⟨?_, within, ?_, ?_, ?_, ?_, ?_⟩
  · rw [Ledger.sent_append, Ledger.ofNumbers, List.append_nil]
    exact balanced.numbered
  · -- The new numbers continue those that were settled before.
    have continued : List.range' 1 watermark.toNat =
        List.range' 1 peer.acknowledgement.toNat ++ (missed ++ advanced).map UInt64.toNat := by
      rw [List.map_append, gap, next, List.range'_append_1, Nat.add_comm _ 1,
        List.range'_append_1, reaches, Nat.add_assoc]
    have regrouped : (ledger.lost ++ missed ++ (ledger.advanced ++ advanced)).Perm
        (ledger.lost ++ ledger.advanced ++ (missed ++ advanced)) := by
      rw [List.append_assoc, List.append_assoc]
      exact (List.perm_append_comm_assoc ..).append_left _
    rw [continued, Ledger.lost_append, Ledger.lost_ofNumbers]
    refine (regrouped.map UInt64.toNat).trans ?_
    rw [List.map_append]
    exact balanced.settled.append_right _
  · intro sequence member
    rw [Ledger.reports_append, List.mem_append, Ledger.returned_mem_ofNumbers] at member
    rcases member with earlier | now
    · obtain ⟨positive, reached⟩ := balanced.returned sequence earlier
      exact ⟨positive, UInt64.le_trans reached forward⟩
    · exact known sequence now
  · intro sequence member
    rw [Ledger.lost_append, Ledger.lost_ofNumbers] at member
    rcases List.mem_append.1 member with earlier | lost
    · exact balanced.latest sequence earlier
    · exact UInt64.lt_of_lt_of_le (above sequence lost).2 spares
  · -- What is lost now lies above the watermark, and what has returned does not.
    refine List.pairwise_append.2 ⟨balanced.lasting, Ledger.lasting_ofNumbers .., ?_⟩
    rintro first earlier second later sequence rfl rfl
    have reached := (balanced.returned sequence earlier).2
    have lost := Ledger.mem_lost.2 later
    rw [Ledger.lost_ofNumbers] at lost
    exact absurd (above sequence lost).1 (UInt64.not_lt.2 reached)
  · intro sequence member
    rw [Ledger.reports_append, List.mem_append, Ledger.returned_mem_ofNumbers]
    rcases List.mem_append.1 member with earlier | now
    · exact .inl (balanced.backed sequence earlier)
    · exact .inr (backed sequence now)

/-- A sweep moves the watermark to the number before the last one. -/
theorem toNat_sweep (peer : Peer) :
    peer.sweep.1.acknowledgement.toNat =
      max peer.acknowledgement.toNat (peer.sequence.toNat - 1) := by
  change (max peer.acknowledgement (if peer.sequence = 0 then 0 else peer.sequence - 1)).toNat = _
  rw [toNat_max]
  congr 1
  split
  · rename_i zero
    rw [zero]
    rfl
  · rename_i numbered
    have positive : peer.sequence.toNat ≠ 0 := fun zero => numbered (UInt64.toNat_inj.1 zero)
    exact UInt64.toNat_sub_of_le _ _ (by rw [UInt64.le_iff_toNat_le, UInt64.toNat_one]; omega)

/-- A sweep loses all numbers from the watermark to the last one. -/
theorem Balanced.sweep (balanced : peer.Balanced ledger) :
    peer.sweep.1.Balanced (ledger ++ .ofNumbers (missedNumbers peer.sweep.2) [] []) := by
  have within := UInt64.le_iff_toNat_le.1 balanced.within
  have reached := peer.toNat_sweep
  have nothing : ([] : List UInt64).map UInt64.toNat = List.range' (peer.acknowledgement.toNat + 1 +
    (peer.sequence.toNat - peer.acknowledgement.toNat - 1)) 0 := rfl
  refine balanced.settle nothing ?_ ?_ (UInt64.le_refl _) nofun nofun
  · change peer.sweep.1.acknowledgement.toNat = _
    omega
  · change peer.sweep.1.acknowledgement ≤ peer.sequence
    rw [UInt64.le_iff_toNat_le]
    omega

/-- The return of a number above the watermark loses those in between and settles the number itself.
Any other return settles nothing. -/
theorem Balanced.acknowledge (balanced : peer.Balanced ledger) {sequence : UInt64}
    (numbered : sequence ≠ 0) (sent : sequence ≤ peer.sequence) :
    (peer.acknowledge sequence).1.Balanced (ledger ++
      .ofNumbers (missedNumbers (peer.acknowledge sequence).2) [sequence]
        (if peer.acknowledgement < sequence then [sequence] else [])) := by
  have within := UInt64.le_iff_toNat_le.1 balanced.within
  have limit := UInt64.le_iff_toNat_le.1 sent
  have positive : sequence.toNat ≠ 0 := fun zero => numbered (UInt64.toNat_inj.1 zero)
  have reached := toNat_max peer.acknowledgement sequence
  have moved : (if peer.acknowledgement < sequence then [sequence] else []).map UInt64.toNat =
      List.range' (peer.acknowledgement.toNat + 1 +
        (sequence.toNat - peer.acknowledgement.toNat - 1))
        (if peer.acknowledgement < sequence then 1 else 0) := by
    split
    · rename_i ahead
      rw [UInt64.lt_iff_toNat_lt] at ahead
      rw [List.map_singleton, List.range'_one]
      congr 1
      omega
    · rfl
  refine balanced.settle moved ?_ ?_ sent ?_ ?_
  · simp only [UInt64.lt_iff_toNat_lt]
    split <;> omega
  · rw [UInt64.le_iff_toNat_le]
    omega
  · intro other member
    rw [List.mem_singleton.1 member, UInt64.le_iff_toNat_le]
    omega
  · intro other member
    split at member
    · exact member
    · cases member

/-- The ledger stays balanced as long as there are numbers left. -/
theorem Balanced.step (balanced : peer.Balanced ledger) (step : peer.Step after entries)
    (room : peer.sequence.toNat + entries.sent.length < UInt64.size) :
    after.Balanced (ledger ++ entries) := by
  cases step with
  | idle =>
    rw [Ledger.append_empty]
    exact balanced
  | send => exact balanced.send room
  | sweep => exact balanced.sweep
  | acknowledge sequence numbered sent => exact balanced.acknowledge numbered sent

end Peer

end TunnelFailover
