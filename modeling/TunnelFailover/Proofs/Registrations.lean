import Mathlib.Data.List.Induction
import TunnelFailover.Proofs.Window
/-!
This file shows that a monitor keeps of all registrations the last one of every sequence number in its
window, whatever the order in which they arrive.
-/

namespace TunnelFailover

/-- A registration says what is known of a sequence number. -/
structure Registration where
  sequence : UInt64
  liveness : Liveness
deriving DecidableEq

/-- What was last registered for a number. Without a registration it is unknown, as is every number
below zero. -/
def lastRegistered (registrations : List Registration) (number : Int) : Liveness :=
  ((registrations.filter fun other => (other.sequence.toNat : Int) = number).getLast?.map
    (·.liveness)).getD .pending

theorem lastRegistered_concat (registrations : List Registration) (last : Registration)
    (number : Int) :
    lastRegistered (registrations ++ [last]) number =
      if (last.sequence.toNat : Int) = number then last.liveness
      else lastRegistered registrations number := by
  unfold lastRegistered
  rw [List.filter_append]
  by_cases same : (last.sequence.toNat : Int) = number <;> simp [same]

/-- A number above all registered ones is unknown. -/
theorem lastRegistered_of_above {registrations : List Registration} {number : Int}
    (above : ∀ other ∈ registrations, (other.sequence.toNat : Int) < number) :
    lastRegistered registrations number = .pending := by
  have none : registrations.filter (fun other => (other.sequence.toNat : Int) = number) = [] := by
    rw [List.filter_eq_nil_iff]
    intro other member
    have := above other member
    simp only [decide_eq_true_eq]
    omega
  unfold lastRegistered
  rw [none]
  rfl

/-- Registrations that agree for every sequence number leave the same for every number. -/
theorem lastRegistered_congr {registrations others : List Registration}
    (agree : ∀ sequence, others.filter (·.sequence = sequence) =
      registrations.filter (·.sequence = sequence)) :
    lastRegistered others = lastRegistered registrations := by
  funext number
  unfold lastRegistered
  by_cases word : ∃ sequence : UInt64, (sequence.toNat : Int) = number
  · obtain ⟨sequence, rfl⟩ := word
    have same (other : Registration) :
        decide ((other.sequence.toNat : Int) = sequence.toNat) =
          decide (other.sequence = sequence) := by
      simp only [Int.ofNat_inj, UInt64.toNat_inj]
    simp only [same, agree]
  · have none (some : List Registration) :
        some.filter (fun other => (other.sequence.toNat : Int) = number) = [] := by
      rw [List.filter_eq_nil_iff]
      intro other _ equal
      exact word ⟨other.sequence, by simpa using equal⟩
    rw [none, none]

namespace Monitor

/-- The monitor after some registrations, in the order in which they arrive. -/
def registerAll (monitor : Monitor) (registrations : List Registration) : Monitor :=
  registrations.foldl (fun monitor next => monitor.register next.sequence next.liveness) monitor

/-- The entries of the window from the oldest sequence number to the newest. -/
def slots (monitor : Monitor) : List Liveness := monitor.history.reverse

section Checked

/-- A difference of words must not be below zero. -/
def difference? (first second : UInt64) : Option UInt64 :=
  if second ≤ first then some (first - second) else none

/-- Only a slot that exists can be overwritten. -/
def overwrite? (slots : List Liveness) (index : UInt64) (liveness : Liveness) :
    Option (List Liveness) :=
  if index.toNat < slots.length then some (slots.set index.toNat liveness) else none

/-- The slots move to the front in a circle, and those that passed the front are unknown. -/
def moveUp? (slots : List Liveness) (jump : UInt64) : Option (List Liveness) :=
  let length := UInt64.ofNat slots.length
  if length ≤ jump then some (List.replicate slots.length .pending)
  else do
    let kept ← difference? length jump
    some ((slots.drop jump.toNat ++ slots.take jump.toNat).take kept.toNat ++
      List.replicate (slots.length - kept.toNat) .pending)

/-- The window moves up to a newer sequence number. -/
def advanceChecked? (monitor : Monitor) (sequence : UInt64) : Option Monitor := do
  let jump ← difference? sequence monitor.sequence
  let slots ← moveUp? monitor.slots jump
  some { monitor with sequence, history := slots.reverse }

/-- The entry of a number within the window is overwritten, and one behind it is left alone. -/
def recordChecked? (monitor : Monitor) (sequence : UInt64) (liveness : Liveness) :
    Option Monitor := do
  let length := UInt64.ofNat monitor.slots.length
  let offset ← difference? monitor.sequence sequence
  if length ≤ offset then some monitor
  else do
    let newest ← difference? length 1
    let index ← difference? newest offset
    let slots ← overwrite? monitor.slots index liveness
    some { monitor with history := slots.reverse }

/-- A registration in words. It fails on a difference below zero and on a slot that does not exist. -/
def registerChecked? (monitor : Monitor) (sequence : UInt64) (liveness : Liveness) :
    Option Monitor :=
  if monitor.sequence < sequence then do
    (← monitor.advanceChecked? sequence).recordChecked? sequence liveness
  else monitor.recordChecked? sequence liveness

theorem difference?_of_le {first second : UInt64} (below : second ≤ first) :
    difference? first second = some (first - second) := if_pos below

theorem toNat_ofNat_length {history : List Liveness} (short : history.length ≤ 11) :
    (UInt64.ofNat history.length).toNat = history.length :=
  UInt64.toNat_ofNat_of_lt' (Nat.lt_of_le_of_lt short (by decide))

/-- In a window of words, a jump within it moves the entries up and leaves unknown ones behind. -/
theorem moveUp?_eq {history : List Liveness} (short : history.length ≤ 11) (jump : UInt64) :
    moveUp? history.reverse jump =
      some ((List.replicate (min jump.toNat history.length) Liveness.pending ++ history).take
        history.length).reverse := by
  have length := toNat_ofNat_length short
  unfold moveUp?
  simp only [List.length_reverse]
  by_cases far : UInt64.ofNat history.length ≤ jump
  · have enough : history.length ≤ jump.toNat := by
      rw [← length]
      exact UInt64.le_iff_toNat_le.1 far
    rw [if_pos far, Nat.min_eq_right enough, List.take_left' (by simp), List.reverse_replicate]
  · have near : jump < UInt64.ofNat history.length := UInt64.not_le.1 far
    have within : jump.toNat < history.length := by
      rw [← length]
      exact UInt64.lt_iff_toNat_lt.1 near
    have kept : (UInt64.ofNat history.length - jump).toNat = history.length - jump.toNat := by
      rw [UInt64.toNat_sub_of_le _ _ (UInt64.le_of_lt near), length]
    rw [if_neg far, difference?_of_le (UInt64.le_of_lt near)]
    have moved : (history.reverse.drop jump.toNat ++ history.reverse.take jump.toNat).take
        (history.length - jump.toNat) = (history.take (history.length - jump.toNat)).reverse := by
      rw [List.take_left' (by simp), List.drop_reverse]
    have passed : (List.replicate jump.toNat Liveness.pending ++ history).take history.length =
        List.replicate jump.toNat .pending ++ history.take (history.length - jump.toNat) := by
      rw [List.take_append, List.length_replicate, List.take_of_length_le (by simp; omega)]
    have cleared : history.length - (history.length - jump.toNat) = jump.toNat := by omega
    simp only [Option.bind_eq_bind, Option.bind_some, kept, moved, cleared,
      Nat.min_eq_left (Nat.le_of_lt within), passed, List.reverse_append, List.reverse_replicate]

/-- A window is never longer than eleven entries. -/
theorem window_le (thresholds : Thresholds) : thresholds.window ≤ 11 := by
  have := thresholds.down_mem
  have := thresholds.up_mem
  unfold Thresholds.window Thresholds.larger
  omega

/-- An entry of the window has its slot, counted from the other end. -/
theorem overwrite?_eq {history : List Liveness} {age : Nat} (young : age < history.length)
    {index : UInt64} (counted : index.toNat = history.length - 1 - age) (liveness : Liveness) :
    overwrite? history.reverse index liveness = some (history.set age liveness).reverse := by
  have within : index.toNat < history.reverse.length := by
    rw [List.length_reverse]
    omega
  unfold overwrite?
  rw [if_pos within]
  congr 1
  apply List.ext_getElem (by simp)
  intro place placeLt otherLt
  rw [List.length_set, List.length_reverse] at placeLt
  have swap : history.length - 1 - age = place ↔ age = history.length - 1 - place := by omega
  simp only [List.getElem_set, List.getElem_reverse, List.length_set, counted, swap]

theorem advanceChecked?_eq {monitor : Monitor}
    (sized : monitor.history.length = monitor.thresholds.window) {sequence : UInt64}
    (newer : monitor.sequence < sequence) :
    monitor.advanceChecked? sequence = some (monitor.advance sequence) := by
  have short : monitor.history.length ≤ 11 := sized ▸ window_le monitor.thresholds
  have jump : (sequence - monitor.sequence).toNat =
      sequence.toNat - monitor.sequence.toNat :=
    UInt64.toNat_sub_of_le _ _ (UInt64.le_of_lt newer)
  unfold advanceChecked? slots advance
  rw [difference?_of_le (UInt64.le_of_lt newer)]
  simp only [Option.bind_eq_bind, Option.bind_some, moveUp?_eq short, List.reverse_reverse, jump,
    sized]

theorem recordChecked?_eq {monitor : Monitor} (short : monitor.history.length ≤ 11)
    (positive : 0 < monitor.history.length) {sequence : UInt64}
    (reached : sequence ≤ monitor.sequence) (liveness : Liveness) :
    monitor.recordChecked? sequence liveness =
      some { monitor with
        history := monitor.history.set (monitor.sequence.toNat - sequence.toNat) liveness } := by
  have word := toNat_ofNat_length short
  have offset : (monitor.sequence - sequence).toNat = monitor.sequence.toNat - sequence.toNat :=
    UInt64.toNat_sub_of_le _ _ reached
  unfold recordChecked? slots
  rw [difference?_of_le reached]
  simp only [List.length_reverse, Option.bind_eq_bind, Option.bind_some]
  by_cases behind : UInt64.ofNat monitor.history.length ≤ monitor.sequence - sequence
  · have outside : monitor.history.length ≤ monitor.sequence.toNat - sequence.toNat := by
      rw [← word, ← offset]
      exact UInt64.le_iff_toNat_le.1 behind
    rw [if_pos behind, List.set_eq_of_length_le outside]
  · have inside : monitor.sequence - sequence < UInt64.ofNat monitor.history.length :=
      UInt64.not_le.1 behind
    have young : monitor.sequence.toNat - sequence.toNat < monitor.history.length := by
      rw [← word, ← offset]
      exact UInt64.lt_iff_toNat_lt.1 inside
    have one : (1 : UInt64) ≤ UInt64.ofNat monitor.history.length := by
      rw [UInt64.le_iff_toNat_le, word]
      exact positive
    have newest : (UInt64.ofNat monitor.history.length - 1).toNat = monitor.history.length - 1 := by
      rw [UInt64.toNat_sub_of_le _ _ one, word]
      rfl
    have notBelow : monitor.sequence - sequence ≤ UInt64.ofNat monitor.history.length - 1 := by
      rw [UInt64.le_iff_toNat_le, newest, offset]
      omega
    have index : (UInt64.ofNat monitor.history.length - 1 - (monitor.sequence - sequence)).toNat =
        monitor.history.length - 1 - (monitor.sequence.toNat - sequence.toNat) := by
      rw [UInt64.toNat_sub_of_le _ _ notBelow, newest, offset]
    rw [if_neg behind, difference?_of_le one]
    simp only [Option.bind_some, difference?_of_le notBelow, overwrite?_eq young index,
      List.reverse_reverse]

/-- Every registration in a window of the right length meets only differences and slots that exist. -/
theorem registerChecked?_eq {monitor : Monitor}
    (sized : monitor.history.length = monitor.thresholds.window) (sequence : UInt64)
    (liveness : Liveness) :
    monitor.registerChecked? sequence liveness = some (monitor.register sequence liveness) := by
  have bound := window_le monitor.thresholds
  have positive : 0 < monitor.thresholds.window := Nat.succ_pos _
  unfold registerChecked? register
  by_cases newer : monitor.sequence < sequence
  · have length : (monitor.advance sequence).history.length = monitor.thresholds.window := by
      simp [advance, sized]
    rw [if_pos newer, if_pos newer, advanceChecked?_eq sized newer]
    exact recordChecked?_eq (length ▸ bound) (length ▸ positive) (UInt64.le_refl _) liveness
  · rw [if_neg newer, if_neg newer]
    exact recordChecked?_eq (sized ▸ bound) (sized ▸ positive) (UInt64.not_lt.1 newer) liveness

end Checked

/-- The monitor shows of some registrations the last one of every number in its window. -/
structure Shows (monitor : Monitor) (registrations : List Registration) : Prop where
  sized : monitor.history.length = monitor.thresholds.window
  newest : ∀ other ∈ registrations, other.sequence ≤ monitor.sequence
  reached : (registrations = [] ∧ monitor.sequence = 0) ∨
    ∃ other ∈ registrations, other.sequence = monitor.sequence
  entry : ∀ age (young : age < monitor.history.length),
    monitor.history[age] = lastRegistered registrations (monitor.sequence.toNat - age)

theorem shows_new (thresholds : Thresholds) : (new thresholds).Shows [] where
  sized := List.length_replicate
  newest := by simp
  reached := .inl ⟨rfl, rfl⟩
  entry age young := List.getElem_replicate ..

/-- One more registration shows in the window. -/
theorem Shows.register {monitor : Monitor} {registrations : List Registration}
    (shows : monitor.Shows registrations) (last : Registration) :
    (monitor.register last.sequence last.liveness).Shows (registrations ++ [last]) := by
  obtain ⟨sized, newest, reached, entry⟩ := shows
  by_cases newer : monitor.sequence < last.sequence
  · have higher : monitor.sequence.toNat < last.sequence.toNat := UInt64.lt_iff_toNat_lt.1 newer
    rw [register_of_newer newer]
    refine ⟨?_, ?_, .inr ⟨last, by simp, rfl⟩, fun age young => ?_⟩
    · simp [sized]
      omega
    · intro other member
      rcases List.mem_append.1 member with earlier | same
      · exact UInt64.le_of_lt (UInt64.lt_of_le_of_lt (newest other earlier) newer)
      · rw [List.mem_singleton.1 same]
        exact UInt64.le_refl _
    · dsimp only
      rw [lastRegistered_concat, List.getElem_take]
      cases age with
      | zero => simp
      | succ age =>
        have later : ¬(last.sequence.toNat : Int) = last.sequence.toNat - (age + 1 : Nat) := by
          omega
        rw [if_neg later, List.getElem_cons_succ, List.getElem_append]
        split
        · -- The numbers that were passed over have never been registered.
          rename_i passed
          rw [List.length_replicate] at passed
          rw [List.getElem_replicate, lastRegistered_of_above]
          intro other member
          have := UInt64.le_iff_toNat_le.1 (newest other member)
          omega
        · rename_i old
          rw [List.length_replicate] at old
          rw [entry]
          congr 1
          rw [List.length_replicate]
          omega
  · have notNewer : last.sequence ≤ monitor.sequence := UInt64.not_lt.1 newer
    have notHigher : last.sequence.toNat ≤ monitor.sequence.toNat := UInt64.le_iff_toNat_le.1 notNewer
    unfold Monitor.register
    simp only [if_neg newer]
    refine ⟨by simpa using sized, ?_, ?_, fun age young => ?_⟩
    · intro other member
      rcases List.mem_append.1 member with earlier | same
      · exact newest other earlier
      · rw [List.mem_singleton.1 same]
        exact notNewer
    · right
      rcases reached with ⟨-, zero⟩ | ⟨other, member, same⟩
      · refine ⟨last, by simp, ?_⟩
        rw [zero] at notNewer ⊢
        exact UInt64.le_antisymm notNewer (UInt64.zero_le)
      · exact ⟨other, List.mem_append_left _ member, same⟩
    · rw [List.length_set] at young
      rw [lastRegistered_concat, List.getElem_set, entry age young]
      have same : (monitor.sequence.toNat - last.sequence.toNat = age) ↔
          (last.sequence.toNat : Int) = monitor.sequence.toNat - age := by omega
      simp only [same]

theorem registerAll_concat (monitor : Monitor) (registrations : List Registration)
    (last : Registration) :
    monitor.registerAll (registrations ++ [last]) =
      (monitor.registerAll registrations).register last.sequence last.liveness := by
  simp [registerAll]

theorem thresholds_register (monitor : Monitor) (sequence : UInt64) (liveness : Liveness) :
    (monitor.register sequence liveness).thresholds = monitor.thresholds := by
  unfold register
  dsimp only
  split <;> rfl

theorem sequence_register (monitor : Monitor) (sequence : UInt64) (liveness : Liveness) :
    (monitor.register sequence liveness).sequence =
      if monitor.sequence < sequence then sequence else monitor.sequence := by
  unfold register
  dsimp only
  split <;> rfl

/-- A monitor shows all registrations that it has met. -/
theorem shows_registerAll (thresholds : Thresholds) (registrations : List Registration) :
    ((new thresholds).registerAll registrations).Shows registrations ∧
      ((new thresholds).registerAll registrations).thresholds = thresholds := by
  induction registrations using List.reverseRecOn with
  | nil => exact ⟨shows_new thresholds, rfl⟩
  | append_singleton earlier last inductionHypothesis =>
    obtain ⟨shows, same⟩ := inductionHypothesis
    rw [registerAll_concat, thresholds_register]
    exact ⟨shows.register last, same⟩

/-- No registration meets a difference below zero or a slot that does not exist. -/
theorem foldlM_registerChecked? (thresholds : Thresholds) (registrations : List Registration) :
    registrations.foldlM (fun monitor next => monitor.registerChecked? next.sequence next.liveness)
      (new thresholds) = some ((new thresholds).registerAll registrations) := by
  induction registrations using List.reverseRecOn with
  | nil => rfl
  | append_singleton earlier last inductionHypothesis =>
    have sized := (shows_registerAll thresholds earlier).1.sized
    rw [List.foldlM_append, inductionHypothesis, registerAll_concat]
    simp [registerChecked?_eq sized]

/-- The newest number of a monitor is not below that of another one with fewer numbers. -/
theorem Shows.sequence_le {monitor other : Monitor} {registrations others : List Registration}
    (shows : monitor.Shows registrations) (otherShows : other.Shows others)
    (fewer : ∀ next ∈ others, ∃ same ∈ registrations, same.sequence = next.sequence) :
    other.sequence ≤ monitor.sequence := by
  rcases otherShows.reached with ⟨-, zero⟩ | ⟨next, member, newest⟩
  · rw [zero]
    exact UInt64.zero_le
  · obtain ⟨same, sameMember, equal⟩ := fewer next member
    rw [← newest, ← equal]
    exact shows.newest same sameMember

/-- Monitors that have come to one number and show the same of every number are the same. -/
theorem Shows.eq_of_lastRegistered {monitor other : Monitor}
    {registrations others : List Registration} (shows : monitor.Shows registrations)
    (otherShows : other.Shows others) (thresholds : other.thresholds = monitor.thresholds)
    (sequence : other.sequence = monitor.sequence)
    (same : lastRegistered others = lastRegistered registrations) : other = monitor := by
  have length : other.history.length = monitor.history.length := by
    rw [otherShows.sized, shows.sized, thresholds]
  have history : other.history = monitor.history := by
    refine List.ext_getElem length fun age young otherYoung => ?_
    rw [otherShows.entry, shows.entry, sequence, same]
  cases monitor
  cases other
  simp_all

/-- Monitors that show registrations with the same order for every sequence number are the same. -/
theorem Shows.unique {monitor other : Monitor} {registrations others : List Registration}
    (shows : monitor.Shows registrations) (otherShows : other.Shows others)
    (thresholds : other.thresholds = monitor.thresholds)
    (agree : ∀ sequence, others.filter (·.sequence = sequence) =
      registrations.filter (·.sequence = sequence)) : other = monitor := by
  have shared (next : Registration) : next ∈ others ↔ next ∈ registrations := by
    have filtered (list : List Registration) :
        next ∈ list.filter (·.sequence = next.sequence) ↔ next ∈ list := by
      simp [List.mem_filter]
    rw [← filtered others, ← filtered registrations, agree]
  have sequence : other.sequence = monitor.sequence := UInt64.le_antisymm
    (shows.sequence_le otherShows fun next member => ⟨next, (shared next).1 member, rfl⟩)
    (otherShows.sequence_le shows fun next member => ⟨next, (shared next).2 member, rfl⟩)
  exact shows.eq_of_lastRegistered otherShows thresholds sequence (lastRegistered_congr agree)

/-- After any registrations, a monitor has the largest of their sequence numbers, no difference was
below zero and no slot was missing. Every slot has what was last registered for its number, so that
registrations with the same order for every number leave the same monitor. -/
theorem registerAll_refines {down up : UInt64} {thresholds : Thresholds}
    (accepted : Thresholds.ofCounts down up = .ok thresholds)
    (registrations : List Registration) :
    let last := (new thresholds).registerAll registrations
    (∀ next ∈ registrations, next.sequence ≤ last.sequence) ∧
      ((registrations = [] ∧ last.sequence = 0) ∨
        ∃ next ∈ registrations, next.sequence = last.sequence) ∧
      last.slots.length = max down.toNat up.toNat + 1 ∧
      registrations.foldlM
        (fun monitor next => monitor.registerChecked? next.sequence next.liveness)
        (new thresholds) = some last ∧
      (∀ index (within : index < last.slots.length), last.slots[index] =
        lastRegistered registrations (last.sequence.toNat - last.slots.length + 1 + index)) ∧
      ∀ others : List Registration, (∀ sequence, others.filter (·.sequence = sequence) =
          registrations.filter (·.sequence = sequence)) →
        (new thresholds).registerAll others = last := by
  intro last
  obtain ⟨shows, same⟩ : last.Shows registrations ∧ last.thresholds = thresholds :=
    shows_registerAll thresholds registrations
  have window : thresholds.window = max down.toNat up.toNat + 1 := by
    unfold Thresholds.ofCounts at accepted
    split at accepted
    · split at accepted
      · cases accepted
        rfl
      · cases accepted
    · cases accepted
  refine ⟨shows.newest, shows.reached, ?_, foldlM_registerChecked? thresholds registrations, ?_, ?_⟩
  · rw [slots, List.length_reverse, shows.sized, same, window]
  · intro index within
    have length : last.slots.length = last.history.length := List.length_reverse
    have number : (last.sequence.toNat - last.slots.length + 1 + index : Int) =
        last.sequence.toNat - (last.history.length - 1 - index : Nat) := by omega
    rw [number]
    exact (List.getElem_reverse _).trans (shows.entry _ (by omega))
  · intro others agree
    obtain ⟨otherShows, otherSame⟩ := shows_registerAll thresholds others
    exact shows.unique otherShows (otherSame.trans same.symm) agree

/-- A jump to the largest number empties the window, and the number before it may arrive late. -/
theorem registerAll_refines_late :
    let registrations : List Registration :=
      [⟨1, .up⟩, ⟨18446744073709551615, .down⟩, ⟨18446744073709551614, .up⟩]
    let others : List Registration :=
      [⟨18446744073709551614, .up⟩, ⟨1, .up⟩, ⟨18446744073709551615, .down⟩]
    ∃ thresholds, Thresholds.ofCounts 2 3 = .ok thresholds ∧
      (∀ sequence, others.filter (·.sequence = sequence) =
        registrations.filter (·.sequence = sequence)) ∧
      let last := (new thresholds).registerAll registrations
      last.sequence = 18446744073709551615 ∧ last.slots = [.pending, .pending, .up, .down] ∧
        (new thresholds).registerAll others = last := by
  intro registrations others
  have accepted : Thresholds.ofCounts 2 3 = .ok _ := rfl
  have agree (sequence : UInt64) : others.filter (·.sequence = sequence) =
      registrations.filter (·.sequence = sequence) := by
    by_cases late : sequence = 18446744073709551614
    · rw [late]
      decide
    · have neither : ¬18446744073709551614 = sequence := fun same => late same.symm
      simp [registrations, others, List.filter_cons, neither]
  obtain ⟨-, -, -, -, -, same⟩ := registerAll_refines accepted registrations
  exact ⟨_, accepted, agree, by decide, by decide, same others agree⟩

end Monitor

end TunnelFailover
