import TunnelFailover.Proofs.Verdict
/-!
This file says how a newer sequence number moves the window, and what the newest entries mean for the
verdict.
-/

namespace TunnelFailover

/-- Counts that are accepted are the thresholds themselves. -/
theorem Thresholds.ofCounts_eq_ok_iff {down up : UInt64} {thresholds : Thresholds} :
    ofCounts down up = .ok thresholds ↔
      thresholds.down = down.toNat ∧ thresholds.up = up.toNat := by
  unfold ofCounts
  constructor
  · intro counted
    split at counted
    · split at counted
      · cases counted
        exact ⟨rfl, rfl⟩
      · cases counted
    · cases counted
  · obtain ⟨downCount, upCount, downRange, upRange⟩ := thresholds
    rintro ⟨rfl, rfl⟩
    rw [dif_pos downRange, dif_pos upRange]

theorem Thresholds.down_le_window (thresholds : Thresholds) : thresholds.down ≤ thresholds.window :=
  Nat.le_trans (Nat.le_max_left ..) (Nat.le_succ _)

theorem Thresholds.up_le_window (thresholds : Thresholds) : thresholds.up ≤ thresholds.window :=
  Nat.le_trans (Nat.le_max_right ..) (Nat.le_succ _)

namespace Monitor

/-- A newer sequence number goes in front of the window, behind those passed over. -/
theorem register_of_newer {monitor : Monitor} {sequence : UInt64}
    (newer : monitor.sequence < sequence) (liveness : Liveness) :
    monitor.register sequence liveness =
      { monitor with
        sequence
        history := (liveness ::
          (List.replicate (sequence.toNat - monitor.sequence.toNat - 1) Liveness.pending ++
            monitor.history)).take monitor.thresholds.window } := by
  have positive : monitor.sequence.toNat < sequence.toNat := UInt64.lt_iff_toNat_lt.1 newer
  unfold register
  rw [if_pos newer]
  unfold advance
  simp only [Nat.sub_self, Monitor.mk.injEq, true_and]
  generalize gapEqual : sequence.toNat - monitor.sequence.toNat = gap
  obtain ⟨passed, rfl⟩ : ∃ passed, gap = passed + 1 := ⟨gap - 1, by omega⟩
  obtain ⟨older, windowEqual⟩ : ∃ older, monitor.thresholds.window = older + 1 := ⟨_, rfl⟩
  rw [windowEqual, Nat.add_sub_cancel]
  rcases Nat.le_total (passed + 1) (older + 1) with within | beyond
  · rw [Nat.min_eq_left within, List.replicate_succ, List.cons_append, List.take_succ_cons,
      List.take_succ_cons, List.set_cons_zero]
  · have enough : older ≤ passed := by omega
    rw [Nat.min_eq_right beyond, List.replicate_succ, List.cons_append, List.take_succ_cons,
      List.take_succ_cons, List.set_cons_zero, List.take_append_of_le_length (by simp),
      List.take_append_of_le_length (by simpa using enough), List.take_replicate,
      List.take_replicate, Nat.min_self, Nat.min_eq_left enough]

/-- Enough failures in a row are a failure. -/
theorem verdict_of_failures {monitor : Monitor} {failures : Nat} {older : List Liveness}
    (history : monitor.history = List.replicate failures .down ++ older)
    (enough : monitor.thresholds.down ≤ failures) : monitor.verdict = .down := by
  have atLeast := monitor.thresholds.down_mem.1
  have newest : monitor.history.take monitor.thresholds.down =
      List.replicate monitor.thresholds.down .down := by
    rw [history, List.take_append_of_le_length (by simpa using enough), List.take_replicate,
      Nat.min_eq_left enough]
  refine monitor.verdict_eq_down_iff.2 ⟨monitor.thresholds.down, Nat.le_max_left .., ?_⟩
  rw [newest]
  refine ⟨by simp, ?_, ?_⟩
  · simp
  · rw [List.mem_replicate]
    exact ⟨by omega, rfl⟩

/-- Enough successes in a row are a success. -/
theorem verdict_of_successes {monitor : Monitor} {successes : Nat} {older : List Liveness}
    (history : monitor.history = List.replicate successes .up ++ older)
    (enough : monitor.thresholds.up ≤ successes) : monitor.verdict = .up := by
  have newest : monitor.history.take monitor.thresholds.up =
      List.replicate monitor.thresholds.up .up := by
    rw [history, List.take_append_of_le_length (by simpa using enough), List.take_replicate,
      Nat.min_eq_left enough]
  refine monitor.verdict_eq_up_iff.2 ⟨monitor.thresholds.up, Nat.le_max_right .., ?_⟩
  rw [newest]
  refine ⟨?_, by simp⟩
  unfold Monitor.successes
  rw [List.count_replicate_self]
  exact Nat.le_add_right ..

/-- The verdict is no success while the newest entry is a failure. -/
theorem verdict_ne_up {monitor : Monitor} {older : List Liveness}
    (history : monitor.history = .down :: older) : monitor.verdict ≠ .up := by
  intro up
  obtain ⟨count, -, succeeds⟩ := monitor.verdict_eq_up_iff.1 up
  have succeeded := up_mem_of_succeedsOn succeeds
  rw [history] at succeeded succeeds
  cases count with
  | zero => cases succeeded
  | succ count => exact succeeds.2 (by simp)

end Monitor

end TunnelFailover
