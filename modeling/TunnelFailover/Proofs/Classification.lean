import TunnelFailover.Proofs.Registrations
/-!
This file says which verdict the window of a monitor supports, by counting its newest entries.
-/

namespace TunnelFailover.Monitor

/-- The very newest entry counts towards success if it is unknown. -/
def credit (history : List Liveness) : Nat := if history.head? = some .pending then 1 else 0

/-- Enough newest entries have a failure and no success. -/
def HasFailed (monitor : Monitor) : Prop :=
  ∃ count, monitor.thresholds.down ≤ count ∧
    count ≤ max monitor.thresholds.down monitor.thresholds.up ∧
    .up ∉ monitor.history.take count ∧ .down ∈ monitor.history.take count

/-- Some newest entries have no failure and enough successes. -/
def HasSucceeded (monitor : Monitor) : Prop :=
  ∃ count ≤ max monitor.thresholds.down monitor.thresholds.up,
    .down ∉ monitor.history.take count ∧
      monitor.thresholds.up ≤ (monitor.history.take count).count .up + credit monitor.history

/-- A window that is full has as many newest entries as a verdict looks at. -/
theorem length_take_of_sized {monitor : Monitor}
    (sized : monitor.history.length = monitor.thresholds.window) {count : Nat}
    (bounded : count ≤ monitor.thresholds.larger) : (monitor.history.take count).length = count := by
  rw [List.length_take, sized]
  exact Nat.min_eq_left (Nat.le_succ_of_le bounded)

/-- The credit is that of the whole window, since no entries at all are never enough. -/
theorem succeedsOn_take_iff (thresholds : Thresholds) (history : List Liveness) (count : Nat) :
    SucceedsOn thresholds (history.take count) ↔
      .down ∉ history.take count ∧
        thresholds.up ≤ (history.take count).count .up + credit history := by
  have atLeast := thresholds.up_mem.1
  unfold SucceedsOn successes credit
  rw [and_comm]
  refine and_congr_right fun _ => ?_
  cases count with
  | zero =>
    rw [List.take_zero, List.count_nil, List.head?_nil, if_neg (by simp)]
    split <;> omega
  | succ count => rw [List.head?_take, if_neg (Nat.succ_ne_zero count)]

theorem verdict_eq_down_iff_hasFailed {monitor : Monitor}
    (sized : monitor.history.length = monitor.thresholds.window) :
    monitor.verdict = .down ↔ monitor.HasFailed := by
  rw [verdict_eq_down_iff]
  refine exists_congr fun count => ?_
  constructor
  · rintro ⟨bounded, enough, noSuccess, failure⟩
    rw [length_take_of_sized sized bounded] at enough
    exact ⟨enough, bounded, noSuccess, failure⟩
  · rintro ⟨enough, bounded, noSuccess, failure⟩
    refine ⟨bounded, ?_, noSuccess, failure⟩
    rwa [length_take_of_sized sized bounded]

theorem verdict_eq_up_iff_hasSucceeded (monitor : Monitor) :
    monitor.verdict = .up ↔ monitor.HasSucceeded := by
  rw [verdict_eq_up_iff]
  exact exists_congr fun count => and_congr_right fun _ => succeedsOn_take_iff ..

/-- After any registrations, the verdict is failure exactly if enough newest entries have a failure and
no success. It is success exactly if some newest entries have no failure and enough successes, to which
an unknown entry adds only if it is the very newest. Never do both hold, and without either nothing is
decided, least of all by unknown entries alone. -/
theorem registerAll_classifies (thresholds : Thresholds) (registrations : List Registration) :
    let monitor := (new thresholds).registerAll registrations
    let most := max thresholds.down thresholds.up
    monitor.thresholds = thresholds ∧ monitor.history.length = most + 1 ∧
      (monitor.verdict = .down ↔ monitor.HasFailed) ∧
      (monitor.verdict = .up ↔ monitor.HasSucceeded) ∧
      ¬(monitor.HasFailed ∧ monitor.HasSucceeded) ∧
      (monitor.verdict = .pending ↔ ¬monitor.HasFailed ∧ ¬monitor.HasSucceeded) ∧
      ((∀ entry ∈ monitor.history.take most, entry = .pending) → monitor.verdict = .pending) ∧
      (monitor.verdict = .up →
        thresholds.up ≤ (monitor.history.take most).count .up + credit monitor.history) := by
  intro monitor most
  obtain ⟨shows, same⟩ : monitor.Shows registrations ∧ monitor.thresholds = thresholds :=
    shows_registerAll thresholds registrations
  have down := verdict_eq_down_iff_hasFailed shows.sized
  have up := monitor.verdict_eq_up_iff_hasSucceeded
  have undecided : monitor.verdict = .pending ↔ ¬monitor.HasFailed ∧ ¬monitor.HasSucceeded := by
    rw [← down, ← up]
    cases monitor.verdict <;> simp
  have larger : max monitor.thresholds.down monitor.thresholds.up = most := by rw [same]
  refine ⟨same, ?_, down, up, ?_, undecided, fun silent => undecided.2 ⟨?_, ?_⟩, fun succeeds => ?_⟩
  · rw [shows.sized, same]
    rfl
  · rintro ⟨failed, succeeded⟩
    have failedVerdict := down.2 failed
    rw [up.2 succeeded] at failedVerdict
    cases failedVerdict
  · rintro ⟨count, -, bounded, -, failure⟩
    cases silent .down (List.take_subset_take_left _ (larger ▸ bounded) failure)
  · rintro ⟨count, bounded, calm, enough⟩
    have succeeds := (succeedsOn_take_iff ..).2 ⟨calm, enough⟩
    cases silent .up (List.take_subset_take_left _ (larger ▸ bounded)
      (up_mem_of_succeedsOn succeeds))
  · obtain ⟨count, bounded, -, enough⟩ := up.1 succeeds
    rw [larger] at bounded
    rw [same] at enough
    have fewer : (monitor.history.take count).count .up ≤ (monitor.history.take most).count .up :=
      (List.take_sublist_take_left bounded).count_le _
    omega

end TunnelFailover.Monitor
