import TunnelFailover.Monitor
/-!
This file says which windows support which verdict. The scan keeps streaks of what it has seen, and
its answer depends only on the prefixes of the window.
-/

namespace TunnelFailover.Monitor

/-- The number of successes among the newest entries, of which an unknown one counts if it is the
very newest. -/
def successes (seen : List Liveness) : Nat :=
  seen.count .up + if seen.head? = some .pending then 1 else 0

/-- The newest entries support failure: there are enough of them, with a failure and no success. -/
def FailsOn (thresholds : Thresholds) (seen : List Liveness) : Prop :=
  thresholds.down ≤ seen.length ∧ .up ∉ seen ∧ .down ∈ seen

/-- The newest entries support success: they have enough successes and no failure. -/
def SucceedsOn (thresholds : Thresholds) (seen : List Liveness) : Prop :=
  thresholds.up ≤ successes seen ∧ .down ∉ seen

/-- The streaks after the newest entries of a window. -/
def Streaks.of (seen : List Liveness) : Streaks where
  down := if .up ∈ seen then none else some seen.length
  pending := if ∀ entry ∈ seen, entry = .pending then some seen.length else none
  up := if .down ∈ seen then none else some (successes seen)

theorem successes_concat (seen : List Liveness) (entry : Liveness) :
    successes (seen ++ [entry]) =
      successes seen + if entry = .up ∨ entry = .pending ∧ seen = [] then 1 else 0 := by
  cases seen with
  | nil => cases entry <;> rfl
  | cons first rest =>
    unfold successes
    rw [List.count_append, List.cons_append, List.head?_cons, List.head?_cons]
    cases entry with
    | up =>
      simp
      omega
    | down => simp
    | pending => simp

/-- One more entry extends the streaks of the newer ones. -/
theorem extend_of (seen : List Liveness) (entry : Liveness) :
    (Streaks.of seen).extend seen.isEmpty entry = Streaks.of (seen ++ [entry]) := by
  unfold Streaks.of
  rw [successes_concat, List.length_append]
  cases entry with
  | up => by_cases failed : Liveness.down ∈ seen <;> simp [Streaks.extend, failed]
  | down => by_cases succeeded : Liveness.up ∈ seen <;> simp [Streaks.extend, succeeded]
  | pending =>
    have succeeded : Liveness.up ∈ seen ++ [.pending] ↔ Liveness.up ∈ seen := by simp
    have failed : Liveness.down ∈ seen ++ [.pending] ↔ Liveness.down ∈ seen := by simp
    have silent : (∀ entry ∈ seen ++ [Liveness.pending], entry = .pending) ↔
        ∀ entry ∈ seen, entry = .pending := by
      simp [or_imp]
    simp only [Streaks.extend, succeeded, failed, silent]
    cases seen with
    | nil => rfl
    | cons first rest =>
      have notNewest : (first :: rest).isEmpty = false := rfl
      rw [notNewest]
      split <;> split <;> simp

/-- A streak of failures decides exactly if the entries support failure. -/
theorem decides_down_iff (thresholds : Thresholds) (seen : List Liveness) :
    (Streaks.of seen).decides (Streaks.of seen).down thresholds.down = true ↔
      FailsOn thresholds seen := by
  unfold Streaks.decides Streaks.of FailsOn
  by_cases succeeded : Liveness.up ∈ seen
  · simp [succeeded]
  · -- Without a success, entries that are not all unknown have a failure among them.
    have silent : (∀ entry ∈ seen, entry = Liveness.pending) ↔ Liveness.down ∉ seen := by
      constructor
      · intro unknown failed
        cases unknown .down failed
      · intro calm entry member
        cases entry with
        | up => exact absurd member succeeded
        | down => exact absurd member calm
        | pending => rfl
    by_cases failed : Liveness.down ∈ seen <;> simp [succeeded, silent, failed]

/-- A streak of successes decides exactly if the entries support success. -/
theorem decides_up_iff (thresholds : Thresholds) (seen : List Liveness) :
    (Streaks.of seen).decides (Streaks.of seen).up thresholds.up = true ↔
      SucceedsOn thresholds seen := by
  have atLeast := thresholds.up_mem.1
  unfold Streaks.decides Streaks.of SucceedsOn
  by_cases failed : Liveness.down ∈ seen
  · simp [failed]
  · by_cases silent : ∀ entry ∈ seen, entry = Liveness.pending
    · -- Unknown entries alone count once, which is not enough.
      have none : seen.count .up = 0 := by
        rw [List.count_eq_zero]
        intro succeeded
        cases silent .up succeeded
      have tooFew : ¬thresholds.up ≤ successes seen := by
        unfold successes
        rw [none]
        split <;> omega
      simp [failed, tooFew]
    · simp only [failed, silent, ↓reduceIte]
      simp

/-- Success needs two entries that count, and thus a success. -/
theorem up_mem_of_succeedsOn {thresholds : Thresholds} {seen : List Liveness}
    (succeeds : SucceedsOn thresholds seen) : .up ∈ seen := by
  have enough := succeeds.1
  have atLeast := thresholds.up_mem.1
  unfold successes at enough
  rw [← List.count_pos_iff]
  split at enough <;> omega

/-- No window has both a prefix that supports failure and one that supports success. -/
theorem not_both {thresholds : Thresholds} {entries : List Liveness} {first second : Nat}
    (fails : FailsOn thresholds (entries.take first))
    (succeeds : SucceedsOn thresholds (entries.take second)) : False := by
  rcases Nat.le_total first second with shorter | longer
  · exact succeeds.2 ((List.take_subset_take_left entries shorter) fails.2.2)
  · exact fails.2.1 ((List.take_subset_take_left entries longer) (up_mem_of_succeedsOn succeeds))

/-- The scan of what is older than some undecided entries finds a prefix that decides, if any. -/
theorem scan_finds (thresholds : Thresholds) (seen older : List Liveness)
    (notFailed : ¬FailsOn thresholds seen) (notSucceeded : ¬SucceedsOn thresholds seen) :
    match scan thresholds (.of seen) seen.isEmpty older with
    | .down => ∃ count, FailsOn thresholds (seen ++ older.take count)
    | .up => ∃ count, SucceedsOn thresholds (seen ++ older.take count)
    | .pending => ∀ count, ¬FailsOn thresholds (seen ++ older.take count) ∧
        ¬SucceedsOn thresholds (seen ++ older.take count) := by
  induction older generalizing seen with
  | nil => simpa [scan] using ⟨notFailed, notSucceeded⟩
  | cons entry rest inductionHypothesis =>
    rw [scan, extend_of]
    by_cases fails : FailsOn thresholds (seen ++ [entry])
    · rw [if_pos ((decides_down_iff ..).2 fails)]
      exact ⟨1, fails⟩
    · rw [if_neg (mt (decides_down_iff ..).1 fails)]
      by_cases succeeds : SucceedsOn thresholds (seen ++ [entry])
      · rw [if_pos ((decides_up_iff ..).2 succeeds)]
        exact ⟨1, succeeds⟩
      · rw [if_neg (mt (decides_up_iff ..).1 succeeds)]
        have found := inductionHypothesis (seen ++ [entry]) fails succeeds
        have later : (seen ++ [entry]).isEmpty = false := by simp
        rw [later] at found
        have shifted (count : Nat) : seen ++ [entry] ++ rest.take count =
            seen ++ (entry :: rest).take (count + 1) := by simp
        simp only [shifted] at found
        split at found
        · obtain ⟨count, prefixFails⟩ := found
          exact ⟨count + 1, prefixFails⟩
        · obtain ⟨count, prefixSucceeds⟩ := found
          exact ⟨count + 1, prefixSucceeds⟩
        · intro count
          cases count with
          | zero => simpa using ⟨notFailed, notSucceeded⟩
          | succ count => exact found count

/-- The verdict finds a prefix of the latest entries that decides, if any. -/
theorem verdict_finds (monitor : Monitor) :
    match monitor.verdict with
    | .down => ∃ count ≤ monitor.thresholds.larger,
        FailsOn monitor.thresholds (monitor.history.take count)
    | .up => ∃ count ≤ monitor.thresholds.larger,
        SucceedsOn monitor.thresholds (monitor.history.take count)
    | .pending => ∀ count ≤ monitor.thresholds.larger,
        ¬FailsOn monitor.thresholds (monitor.history.take count) ∧
          ¬SucceedsOn monitor.thresholds (monitor.history.take count) := by
  have notFailed : ¬FailsOn monitor.thresholds [] := fun fails => by simp [FailsOn] at fails
  have notSucceeded : ¬SucceedsOn monitor.thresholds [] := fun succeeds => by
    cases up_mem_of_succeedsOn succeeds
  have found := scan_finds monitor.thresholds []
    (monitor.history.take monitor.thresholds.larger) notFailed notSucceeded
  change match monitor.verdict with
    | .down => _
    | .up => _
    | .pending => _ at found
  simp only [List.nil_append, List.take_take] at found
  split at found
  · obtain ⟨count, fails⟩ := found
    exact ⟨_, Nat.min_le_right .., fails⟩
  · obtain ⟨count, succeeds⟩ := found
    exact ⟨_, Nat.min_le_right .., succeeds⟩
  · intro count bounded
    have undecided := found count
    rwa [Nat.min_eq_left bounded] at undecided

/-- The verdict is failure exactly if some of the latest entries support it. -/
theorem verdict_eq_down_iff (monitor : Monitor) :
    monitor.verdict = .down ↔ ∃ count ≤ monitor.thresholds.larger,
      FailsOn monitor.thresholds (monitor.history.take count) := by
  have found := monitor.verdict_finds
  constructor
  · intro down
    simpa only [down] using found
  · rintro ⟨count, bounded, fails⟩
    split at found
    · assumption
    · obtain ⟨other, -, succeeds⟩ := found
      exact (not_both fails succeeds).elim
    · exact absurd fails (found count bounded).1

/-- The verdict is success exactly if some of the latest entries support it. -/
theorem verdict_eq_up_iff (monitor : Monitor) :
    monitor.verdict = .up ↔ ∃ count ≤ monitor.thresholds.larger,
      SucceedsOn monitor.thresholds (monitor.history.take count) := by
  have found := monitor.verdict_finds
  constructor
  · intro up
    simpa only [up] using found
  · rintro ⟨count, bounded, succeeds⟩
    split at found
    · obtain ⟨other, -, fails⟩ := found
      exact (not_both fails succeeds).elim
    · assumption
    · exact absurd succeeds (found count bounded).2

/-- Nothing is decided before the first registration. -/
theorem verdict_new (thresholds : Thresholds) : (new thresholds).verdict = .pending := by
  have unknown (entry : Liveness) {count : Nat} (member : entry ∈ (new thresholds).history.take count) :
      entry = .pending := List.eq_of_mem_replicate (List.mem_of_mem_take member)
  cases verdict : (new thresholds).verdict with
  | pending => rfl
  | down =>
    obtain ⟨count, -, fails⟩ := (verdict_eq_down_iff _).1 verdict
    cases unknown .down fails.2.2
  | up =>
    obtain ⟨count, -, succeeds⟩ := (verdict_eq_up_iff _).1 verdict
    cases unknown .up (up_mem_of_succeedsOn succeeds)

end TunnelFailover.Monitor
