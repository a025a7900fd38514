import Mathlib.Data.List.Forall2
import Mathlib.Data.List.Induction
import Mathlib.Data.List.Nodup
import TunnelFailover.Job
/-!
This file compares the replacement of placeholders one after the other with the replacement of all of
them at once.
-/

namespace TunnelFailover.Script

/-- All placeholders are replaced at once: a marker gives way to its value, and what begins no marker is
kept. A value is not read again. -/
inductive Replaced (placeholders : List Placeholder) : List Char → List Char → Prop
  | nil : Replaced placeholders [] []
  | hole {placeholder : Placeholder} {text result : List Char}
      (listed : placeholder ∈ placeholders) (rest : Replaced placeholders text result) :
      Replaced placeholders (marker placeholder.name ++ text) (placeholder.value.toList ++ result)
  | keep {char : Char} {text result : List Char}
      (unmarked : ∀ placeholder ∈ placeholders, ¬marker placeholder.name <+: char :: text)
      (rest : Replaced placeholders text result) :
      Replaced placeholders (char :: text) (char :: result)

/-- The placeholders are replaced one after the other, each in what the earlier ones have left. -/
inductive Successively : List Placeholder → List Char → List Char → Prop
  | nil {text : List Char} : Successively [] text text
  | cons {placeholder : Placeholder} {placeholders : List Placeholder}
      {text between result : List Char} (first : Replaced [placeholder] text between)
      (rest : Successively placeholders between result) :
      Successively (placeholder :: placeholders) text result

/-- No marker of a list can overlap with another one or with itself, and every name is listed once. -/
structure Separate (placeholders : List Placeholder) : Prop where
  distinct : (placeholders.map (·.name)).Nodup
  apart : ∀ first ∈ placeholders, ∀ second ∈ placeholders, ∀ tail, tail ≠ [] →
    tail <:+ marker first.name → tail <+: marker second.name ∨ marker second.name <+: tail →
      tail = marker first.name ∧ first.name = second.name

/-- None of the markers occurs in a text. -/
def Unmarked (placeholders : List Placeholder) (text : List Char) : Prop :=
  ∀ placeholder ∈ placeholders, ¬marker placeholder.name <:+: text

instance (placeholders : List Placeholder) (text : List Char) :
    Decidable (Unmarked placeholders text) :=
  inferInstanceAs (Decidable (∀ placeholder ∈ placeholders, ¬marker placeholder.name <:+: text))

/-- Once the placeholders before it have been replaced, the marker of a placeholder stands only where
the text has it: with some value for it, none is left when it is replaced at once with those before. -/
def Settled (placeholders : List Placeholder) (text : List Char) : Prop :=
  ∀ before placeholder, before ++ [placeholder] <+: placeholders →
    ∃ value result, Replaced (before ++ [{ placeholder with value }]) text result ∧
      ¬marker placeholder.name <:+: result

/-- A pattern starts nowhere in a part of a text. -/
def Clear (pattern part rest : List Char) : Prop :=
  ∀ tail, tail ≠ [] → tail <:+ part → ¬pattern <+: tail ++ rest

/-- No marker begins with another one. -/
def PrefixFree (placeholders : List Placeholder) : Prop :=
  ∀ first ∈ placeholders, ∀ second ∈ placeholders,
    marker first.name <+: marker second.name → first = second

variable {placeholders former latter : List Placeholder} {placeholder : Placeholder}
variable {char : Char} {pattern part text between result : List Char}

theorem marker_ne_nil (name : String) : marker name ≠ [] := List.cons_ne_nil _ _

theorem Clear.of_cons (clear : Clear pattern (char :: part) text) : Clear pattern part text :=
  fun tail nonempty ends => clear tail nonempty (ends.trans (List.suffix_cons char part))

/-- What occurs in a text but starts nowhere in its first part occurs in the rest. -/
theorem Clear.occurs_later (clear : Clear pattern part text) (occurs : pattern <:+: part ++ text) :
    pattern <:+: text := by
  induction part with
  | nil => exact occurs
  | cons char part inductionHypothesis =>
    rcases List.infix_cons_iff.1 occurs with starts | later
    · exact absurd starts (clear (char :: part) (List.cons_ne_nil _ _) List.suffix_rfl)
    · exact inductionHypothesis clear.of_cons later

namespace Replaced

theorem of_keep (unmarked : ∀ placeholder ∈ placeholders, ¬marker placeholder.name <+: char :: text)
    (replaced : Replaced placeholders (char :: text) result) :
    ∃ left, result = char :: left ∧ Replaced placeholders text left := by
  generalize whole : char :: text = source at replaced
  cases replaced with
  | nil => cases whole
  | hole listed rest => exact absurd ⟨_, whole.symm⟩ (unmarked _ listed)
  | keep _ rest =>
    cases whole
    exact ⟨_, rfl, rest⟩

theorem of_hole (free : PrefixFree placeholders) (listed : placeholder ∈ placeholders)
    (replaced : Replaced placeholders (marker placeholder.name ++ text) result) :
    ∃ left, result = placeholder.value.toList ++ left ∧ Replaced placeholders text left := by
  generalize whole : marker placeholder.name ++ text = source at replaced
  cases replaced with
  | nil => exact absurd (List.append_eq_nil_iff.1 whole).1 (marker_ne_nil _)
  | @hole other after left otherListed rest =>
    have same : placeholder = other := by
      rcases List.prefix_or_prefix_of_prefix ⟨text, whole⟩ ⟨after, rfl⟩ with shorter | longer
      · exact free _ listed _ otherListed shorter
      · exact (free _ otherListed _ listed longer).symm
    subst same
    rw [List.append_cancel_left whole]
    exact ⟨left, rfl, rest⟩
  | keep unmarked _ => exact absurd ⟨text, whole⟩ (unmarked _ listed)

/-- A part without the start of a marker is kept. -/
theorem of_clear
    (clear : ∀ placeholder ∈ placeholders, Clear (marker placeholder.name) part text)
    (replaced : Replaced placeholders (part ++ text) result) :
    ∃ left, result = part ++ left ∧ Replaced placeholders text left := by
  induction part generalizing result with
  | nil => exact ⟨result, rfl, replaced⟩
  | cons char part inductionHypothesis =>
    obtain ⟨between, rfl, kept⟩ := of_keep (fun placeholder listed =>
      clear placeholder listed (char :: part) (List.cons_ne_nil _ _) List.suffix_rfl) replaced
    obtain ⟨left, rfl, rest⟩ :=
      inductionHypothesis (fun placeholder listed => (clear placeholder listed).of_cons) kept
    exact ⟨left, rfl, rest⟩

/-- There is one way only to replace placeholders at once. -/
theorem unique (free : PrefixFree placeholders) (one : Replaced placeholders text between)
    (other : Replaced placeholders text result) : result = between := by
  induction one generalizing result with
  | nil =>
    generalize whole : ([] : List Char) = source at other
    cases other with
    | nil => rfl
    | hole => exact absurd (List.append_eq_nil_iff.1 whole.symm).1 (marker_ne_nil _)
    | keep => cases whole
  | hole listed _ inductionHypothesis =>
    obtain ⟨left, rfl, rest⟩ := other.of_hole free listed
    rw [inductionHypothesis rest]
  | keep unmarked _ inductionHypothesis =>
    obtain ⟨left, rfl, rest⟩ := other.of_keep unmarked
    rw [inductionHypothesis rest]

theorem congr (same : ∀ placeholder, placeholder ∈ former ↔ placeholder ∈ latter)
    (replaced : Replaced former text result) : Replaced latter text result := by
  induction replaced with
  | nil => exact .nil
  | hole listed _ inductionHypothesis => exact .hole ((same _).1 listed) inductionHypothesis
  | keep unmarked _ inductionHypothesis =>
    exact .keep (fun placeholder listed => unmarked placeholder ((same _).2 listed))
      inductionHypothesis

end Replaced

/-- Every text has a result. -/
theorem exists_replaced (placeholders : List Placeholder) (text : List Char) :
    ∃ result, Replaced placeholders text result := by
  induction size : text.length using Nat.strongRecOn generalizing text with
  | ind size inductionHypothesis =>
    subst size
    cases text with
    | nil => exact ⟨[], .nil⟩
    | cons char text =>
      by_cases marked : ∃ placeholder ∈ placeholders, marker placeholder.name <+: char :: text
      · obtain ⟨placeholder, listed, after, whole⟩ := marked
        have shorter : after.length < (char :: text).length := by
          rw [← whole, List.length_append]
          have := List.length_pos_of_ne_nil (marker_ne_nil placeholder.name)
          omega
        obtain ⟨result, rest⟩ := inductionHypothesis _ shorter after rfl
        rw [← whole]
        exact ⟨_, .hole listed rest⟩
      · push Not at marked
        obtain ⟨result, rest⟩ := inductionHypothesis _ (Nat.lt_succ_self _) text rfl
        exact ⟨_, .keep marked rest⟩

theorem afterStart?_eq_some {start after : List Char} :
    afterStart? start text = some after ↔ text = start ++ after := by
  induction start generalizing text with
  | nil => simp [afterStart?, eq_comm]
  | cons char start inductionHypothesis =>
    cases text with
    | nil => simp [afterStart?]
    | cons head text =>
      by_cases same : char = head
      · simp [afterStart?, same, inductionHypothesis]
      · simp [afterStart?, same, Ne.symm same]

/-- With enough fuel every occurrence of a marker is replaced. -/
theorem replaced_replaceAll (placeholder : Placeholder) {fuel : Nat} (enough : text.length ≤ fuel) :
    Replaced [placeholder] text
      (replaceAll (marker placeholder.name) placeholder.value.toList fuel text) := by
  induction fuel generalizing text with
  | zero =>
    rw [List.length_eq_zero_iff.1 (Nat.le_zero.1 enough)]
    exact .nil
  | succ fuel inductionHypothesis =>
    cases text with
    | nil => exact .nil
    | cons char text =>
      rw [List.length_cons] at enough
      rw [replaceAll]
      cases starts : afterStart? (marker placeholder.name) (char :: text) with
      | some after =>
        have whole := afterStart?_eq_some.1 starts
        have length := congrArg List.length whole
        have := List.length_pos_of_ne_nil (marker_ne_nil placeholder.name)
        simp only [List.length_cons, List.length_append] at length
        rw [whole]
        exact .hole (List.mem_singleton_self _) (inductionHypothesis (by omega))
      | none =>
        refine .keep (fun other listed => ?_) (inductionHypothesis (by omega))
        rw [List.mem_singleton.1 listed]
        rintro ⟨after, whole⟩
        rw [afterStart?_eq_some.2 whole.symm] at starts
        cases starts

theorem prefixFree_singleton (placeholder : Placeholder) : PrefixFree [placeholder] := by
  intro first listed second otherListed _
  rw [List.mem_singleton.1 listed, List.mem_singleton.1 otherListed]

/-- The replacement of one placeholder is that of all its occurrences. -/
theorem replaced_singleton_iff :
    Replaced [placeholder] text result ↔ result = substitute text placeholder := by
  have replaced : Replaced [placeholder] text (substitute text placeholder) :=
    replaced_replaceAll placeholder (Nat.le_refl _)
  exact ⟨fun other => replaced.unique (prefixFree_singleton placeholder) other,
    fun same => same ▸ replaced⟩

/-- What is rendered has gone through one replacement after the other. -/
theorem successively_iff :
    Successively placeholders text result ↔ result = placeholders.foldl substitute text := by
  induction placeholders generalizing text with
  | nil => exact ⟨fun | .nil => rfl, fun same => same ▸ .nil⟩
  | cons placeholder placeholders inductionHypothesis =>
    constructor
    · rintro (_ | ⟨first, rest⟩)
      rw [replaced_singleton_iff] at first
      rw [inductionHypothesis.1 rest, first, List.foldl_cons]
    · intro same
      exact .cons (replaced_singleton_iff.2 rfl) (inductionHypothesis.2 same)

theorem exists_of_names (same : latter.map (·.name) = former.map (·.name))
    (listed : placeholder ∈ latter) : ∃ other ∈ former, other.name = placeholder.name :=
  List.mem_map.1 (same ▸ List.mem_map_of_mem listed)

namespace Separate

theorem perm {order : List Placeholder} (separate : Separate placeholders)
    (permuted : order.Perm placeholders) : Separate order where
  distinct := (permuted.map _).nodup_iff.2 separate.distinct
  apart first listed second otherListed :=
    separate.apart first (permuted.mem_iff.1 listed) second (permuted.mem_iff.1 otherListed)

theorem sublist (separate : Separate placeholders) (among : former.Sublist placeholders) :
    Separate former where
  distinct := separate.distinct.sublist (among.map _)
  apart first listed second otherListed :=
    separate.apart first (among.subset listed) second (among.subset otherListed)

theorem congr (separate : Separate former)
    (same : latter.map (·.name) = former.map (·.name)) : Separate latter where
  distinct := same ▸ separate.distinct
  apart first listed second otherListed := by
    obtain ⟨_, known, firstName⟩ := exists_of_names same listed
    obtain ⟨_, otherKnown, secondName⟩ := exists_of_names same otherListed
    rw [← firstName, ← secondName]
    exact separate.apart _ known _ otherKnown

theorem eq_of_name (separate : Separate placeholders) {first second : Placeholder}
    (listed : first ∈ placeholders) (otherListed : second ∈ placeholders)
    (same : first.name = second.name) : first = second :=
  List.inj_on_of_nodup_map separate.distinct listed otherListed same

theorem prefixFree (separate : Separate placeholders) : PrefixFree placeholders :=
  fun first listed second otherListed begins =>
    separate.eq_of_name listed otherListed
      (separate.apart first listed second otherListed _ (marker_ne_nil _) List.suffix_rfl
        (.inl begins)).2

/-- No marker starts in another one or in the rest of itself. -/
theorem clear (separate : Separate placeholders) {first second : Placeholder}
    (listed : first ∈ placeholders) (otherListed : second ∈ placeholders)
    (ends : part <:+ marker first.name) (differs : part ≠ marker first.name ∨ first ≠ second) :
    Clear (marker second.name) part text := by
  intro tail nonempty tailEnds starts
  obtain ⟨whole, same⟩ := separate.apart first listed second otherListed tail nonempty
    (tailEnds.trans ends) (List.prefix_or_prefix_of_prefix ⟨text, rfl⟩ starts)
  rcases differs with shorter | distinct
  · exact shorter (ends.eq_of_length_le (whole ▸ tailEnds.length_le))
  · exact distinct (separate.eq_of_name listed otherListed same)

/-- A marker of one part of the list is none of the other part. -/
theorem ne_of_append (separate : Separate (former ++ latter)) {first second : Placeholder}
    (listed : first ∈ former) (otherListed : second ∈ latter) : first ≠ second := by
  rintro rfl
  exact List.disjoint_of_nodup_append separate.distinct.of_map listed otherListed

end Separate

/-- A pattern at the start of two parts is within the first one or goes on in the second one. -/
theorem prefix_append_cases (starts : pattern <+: part ++ text) :
    pattern <+: part ∨ ∃ tail, pattern = part ++ tail ∧ tail <+: text := by
  rcases List.prefix_or_prefix_of_prefix starts (List.prefix_append part text) with
    within | ⟨tail, rfl⟩
  · exact .inl within
  · exact .inr ⟨tail, rfl, (List.prefix_append_right_inj part).1 starts⟩

/-- A marker that starts before a text still does so when the text has been replaced. -/
theorem Separate.still_starts (separate : Separate placeholders) (listed : placeholder ∈ placeholders)
    (among : latter ⊆ placeholders) (replaced : Replaced latter text result) (nonempty : part ≠ [])
    (starts : marker placeholder.name <+: part ++ text) :
    marker placeholder.name <+: part ++ result := by
  rcases prefix_append_cases starts with within | ⟨tail, whole, after, rfl⟩
  · exact within.trans (List.prefix_append _ _)
  · -- No marker starts in the rest of this one, which is kept therefore.
    have shorter : tail ≠ marker placeholder.name := by
      rw [whole]
      exact fun same => nonempty (List.self_eq_append_left.1 same)
    obtain ⟨left, rfl, -⟩ := replaced.of_clear fun other otherListed =>
      separate.clear listed (among otherListed) ⟨part, whole.symm⟩ (.inl shorter)
    rw [whole]
    exact (List.prefix_append_right_inj part).2 (List.prefix_append tail left)

theorem Unmarked.of_append (unmarked : Unmarked placeholders (part ++ text)) :
    Unmarked placeholders text := fun placeholder listed occurs =>
  unmarked placeholder listed (occurs.trans (List.suffix_append part text).isInfix)

/-- No marker starts in a part before a text if none is left once the text has been replaced. -/
theorem Separate.clear_of_unmarked (separate : Separate placeholders)
    (replaced : Replaced placeholders text result)
    (unmarked : Unmarked placeholders (part ++ result)) (listed : placeholder ∈ placeholders) :
    Clear (marker placeholder.name) part text := by
  rintro tail nonempty ⟨front, rfl⟩ starts
  have still : marker placeholder.name <+: tail ++ result :=
    separate.still_starts listed (List.Subset.refl _) replaced nonempty starts
  rw [List.append_assoc] at unmarked
  exact unmarked.of_append placeholder listed still.isInfix

/-- A part in which no marker starts is kept before any text. -/
theorem Replaced.append_left (replaced : Replaced placeholders text result)
    (clear : ∀ placeholder ∈ placeholders, Clear (marker placeholder.name) part text) :
    Replaced placeholders (part ++ text) (part ++ result) := by
  induction part with
  | nil => exact replaced
  | cons char part inductionHypothesis =>
    exact .keep (fun placeholder listed =>
        clear placeholder listed (char :: part) (List.cons_ne_nil _ _) List.suffix_rfl)
      (inductionHypothesis fun placeholder listed => (clear placeholder listed).of_cons)

/-- A part that both results have before the rest is kept for one list as it is for the other. -/
theorem Replaced.append_both {others : List Placeholder} {rest : List Char}
    (separate : Separate others) (same : others.map (·.name) = placeholders.map (·.name))
    (both : Replaced placeholders text result ∧ Replaced others text rest)
    (unmarked : Unmarked others (part ++ rest)) :
    Replaced placeholders (part ++ text) (part ++ result) ∧
      Replaced others (part ++ text) (part ++ rest) := by
  have clear {other : Placeholder} (listed : other ∈ others) :
      Clear (marker other.name) part text := separate.clear_of_unmarked both.2 unmarked listed
  refine ⟨both.1.append_left fun placeholder listed => ?_,
    both.2.append_left fun other listed => clear listed⟩
  obtain ⟨other, otherListed, sameName⟩ := exists_of_names same.symm listed
  exact sameName ▸ clear otherListed

/-- If for some values no marker of the latter placeholders is left at the end, then these can be
replaced after the former ones, whatever their values are. -/
theorem Replaced.split {others : List Placeholder} {rest : List Char}
    (separate : Separate (former ++ latter)) (replaced : Replaced (former ++ latter) text result)
    (first : Replaced former text between) (other : Replaced (former ++ others) text rest)
    (unmarked : Unmarked others rest) (same : others.map (·.name) = latter.map (·.name)) :
    Replaced latter between result ∧ Replaced others between rest := by
  have formerSeparate : Separate former := separate.sublist (List.sublist_append_left _ _)
  have sameNames : (former ++ others).map (·.name) = (former ++ latter).map (·.name) := by
    rw [List.map_append, List.map_append, same]
  have separateOthers : Separate (former ++ others) := separate.congr sameNames
  have othersSeparate : Separate others := separateOthers.sublist (List.sublist_append_right _ _)
  induction replaced generalizing between rest with
  | nil =>
    rw [Replaced.nil.unique formerSeparate.prefixFree first,
      Replaced.nil.unique separateOthers.prefixFree other]
    exact ⟨.nil, .nil⟩
  | @hole placeholder text result listed _ inductionHypothesis =>
    rcases List.mem_append.1 listed with early | late
    · obtain ⟨between, rfl, firstRest⟩ := first.of_hole formerSeparate.prefixFree early
      obtain ⟨rest, rfl, otherRest⟩ :=
        other.of_hole separateOthers.prefixFree (List.mem_append_left _ early)
      exact append_both othersSeparate same
        (inductionHypothesis firstRest otherRest unmarked.of_append) unmarked
    · -- None of the former markers starts in the latter one, which is left to be replaced.
      obtain ⟨between, rfl, firstRest⟩ := first.of_clear fun other otherListed =>
        separate.clear listed (List.mem_append_left _ otherListed) List.suffix_rfl
          (.inr (separate.ne_of_append otherListed late).symm)
      obtain ⟨counterpart, otherListed, sameName⟩ := exists_of_names same.symm late
      rw [← sameName] at other ⊢
      obtain ⟨rest, rfl, otherRest⟩ :=
        other.of_hole separateOthers.prefixFree (List.mem_append_right _ otherListed)
      obtain ⟨one, two⟩ := inductionHypothesis firstRest otherRest unmarked.of_append
      exact ⟨sameName ▸ .hole late one, .hole otherListed two⟩
  | @keep char text result none _ inductionHypothesis =>
    obtain ⟨between, rfl, firstRest⟩ := first.of_keep fun other otherListed =>
      none other (List.mem_append_left _ otherListed)
    obtain ⟨rest, rfl, otherRest⟩ := other.of_keep fun other otherListed => by
      obtain ⟨counterpart, known, sameName⟩ := exists_of_names sameNames otherListed
      exact sameName ▸ none counterpart known
    have whole : Unmarked others ([char] ++ rest) := unmarked
    exact append_both othersSeparate same
      (inductionHypothesis firstRest otherRest whole.of_append) whole

/-- A marker that has come up stays when other placeholders are replaced. -/
theorem Replaced.survives (separate : Separate (former ++ latter))
    (replaced : Replaced latter between result) (listed : placeholder ∈ former)
    (occurs : marker placeholder.name <:+: between) : marker placeholder.name <:+: result := by
  have known : placeholder ∈ former ++ latter := List.mem_append_left _ listed
  induction replaced with
  | nil => exact occurs
  | @hole other text result otherListed _ inductionHypothesis =>
    have clear : Clear (marker placeholder.name) (marker other.name) text :=
      separate.clear (List.mem_append_right _ otherListed) known List.suffix_rfl
        (.inr (separate.ne_of_append listed otherListed).symm)
    exact (inductionHypothesis (clear.occurs_later occurs)).trans (List.suffix_append _ _).isInfix
  | @keep char text result _ rest inductionHypothesis =>
    rcases List.infix_cons_iff.1 occurs with starts | later
    · exact (separate.still_starts known (List.subset_append_right _ _) rest
        (List.cons_ne_nil char []) starts).isInfix
    · exact List.infix_cons (inductionHypothesis later)

/-- If no marker is left in the end, none is left on the way, whatever the order. -/
theorem Separate.settled (separate : Separate placeholders)
    (replaced : Replaced placeholders text result) (unmarked : Unmarked placeholders result)
    {order : List Placeholder} (permuted : order.Perm placeholders) : Settled order text := by
  rintro before placeholder ⟨after, rfl⟩
  obtain ⟨between, first⟩ := exists_replaced (before ++ [placeholder]) text
  refine ⟨placeholder.value, between, first, fun occurs => ?_⟩
  have ordered : Separate ((before ++ [placeholder]) ++ after) := separate.perm permuted
  have whole : Replaced ((before ++ [placeholder]) ++ after) text result :=
    replaced.congr fun _ => permuted.mem_iff.symm
  have last : Replaced after between result :=
    (whole.split ordered first whole (fun other otherListed =>
      unmarked other (permuted.mem_iff.1 (List.mem_append_right _ otherListed))) rfl).1
  have known : placeholder ∈ before ++ [placeholder] := List.mem_concat_self
  exact unmarked placeholder (permuted.mem_iff.1 (List.mem_append_left _ known))
    (last.survives ordered known occurs)

theorem replaced_nil (text : List Char) : Replaced [] text text := by
  induction text with
  | nil => exact .nil
  | cons char text inductionHypothesis =>
    exact .keep (List.forall_mem_nil _) inductionHypothesis

/-- Placeholders that do not come again are replaced one after the other as if at once. -/
theorem Separate.replaced_foldl (separate : Separate placeholders)
    (settled : Settled placeholders text) :
    Replaced placeholders text (placeholders.foldl substitute text) := by
  induction placeholders using List.reverseRecOn with
  | nil => exact replaced_nil text
  | append_singleton before placeholder inductionHypothesis =>
    have begins : before <+: before ++ [placeholder] := List.prefix_append _ _
    have first : Replaced before text (before.foldl substitute text) :=
      inductionHypothesis (separate.sublist begins.sublist) fun earlier other among =>
        settled earlier other (among.trans begins)
    obtain ⟨result, replaced⟩ := exists_replaced (before ++ [placeholder]) text
    obtain ⟨value, rest, other, unmarked⟩ := settled before placeholder List.prefix_rfl
    have last : Replaced [placeholder] (before.foldl substitute text) result :=
      (replaced.split separate first other (List.forall_mem_singleton.2 unmarked) rfl).1
    rw [List.foldl_concat, ← replaced_singleton_iff.1 last]
    exact replaced

theorem eq_of_prefix_concat {first second : List Char} (absent : char ∉ second)
    (begins : first ++ [char] <+: second ++ [char]) : first = second := by
  rcases List.prefix_concat_iff.1 begins with same | within
  · exact List.append_cancel_right same
  · exact absurd (within.subset List.mem_concat_self) absent

/-- Names without the signs that begin and end a marker cannot overlap. -/
theorem separate_of_plain (distinct : (placeholders.map (·.name)).Nodup)
    (plain : ∀ placeholder ∈ placeholders,
      '$' ∉ placeholder.name.toList ∧ '\x7d' ∉ placeholder.name.toList) :
    Separate placeholders where
  distinct
  apart first listed second otherListed tail nonempty ends overlap := by
    obtain ⟨noDollar, noBrace⟩ := plain first listed
    have noOtherBrace := (plain second otherListed).2
    -- Whatever overlaps begins with the sign that stands at the front of a marker only.
    have begins : tail.head? = some '$' := by
      rcases overlap with ⟨after, whole⟩ | ⟨after, rfl⟩
      · have front := congrArg List.head? whole
        rwa [List.head?_append_of_ne_nil tail nonempty] at front
      · rfl
    have whole : tail = marker first.name := by
      rcases List.suffix_cons_iff.1 ends with whole | inside
      · exact whole
      · have member := inside.subset (List.mem_of_head? begins)
        simp [noDollar] at member
    refine ⟨whole, String.toList_inj.1 ?_⟩
    rw [whole] at overlap
    simp only [marker, List.cons_append, List.cons_prefix_cons, true_and] at overlap
    rcases overlap with shorter | longer
    · exact eq_of_prefix_concat noOtherBrace shorter
    · exact (eq_of_prefix_concat noBrace longer).symm

/-- The names that can have a value, in the order in which they are listed. -/
def placeholderNames : List String :=
  ["bridge_interface", "tunnel_interface", "bridge_peer_cidr", "proto", "bridge_interface_ip",
    "tunnel_interface_ip", "bridge_extra_peer_cidrs"]

/-- A value that may be missing is listed under its name or not at all. -/
theorem sublist_of_option {α : Type} (name : String) (text : α → String) (value : Option α) :
    ((value.map fun given => Placeholder.mk name (text given)).toList.map (·.name)).Sublist
      [name] := by
  cases value with
  | none => exact List.nil_sublist _
  | some => exact List.Sublist.refl _

/-- A request gives values to some of the names. -/
theorem sublist_placeholderNames {lookup : Lookup} {request : Request}
    (known : request.placeholders lookup = .ok placeholders) :
    (placeholders.map (·.name)).Sublist placeholderNames := by
  have interfaces : (request.namePlaceholders.map (·.name)).Sublist
      ["bridge_interface", "tunnel_interface"] :=
    (sublist_of_option "tunnel_interface" id request.interface).cons_cons _
  unfold Request.placeholders at known
  split at known
  · cases known
    exact interfaces.trans (List.sublist_append_left _ _)
  · next primary extra _ =>
    have extras : ((Request.extraPlaceholders extra).map (·.name)).Sublist
        ["bridge_extra_peer_cidrs"] := by
      cases extra with
      | nil => exact List.nil_sublist _
      | cons => exact List.Sublist.refl _
    dsimp only at known
    cases bridgeFound : lookup request.bridgeInterface primary.address.version with
    | error fault =>
      rw [bridgeFound] at known
      cases known
    | ok bridgeAddress =>
      cases tunnelFound : request.interface.mapM fun interface =>
          lookup interface primary.address.version with
      | error fault =>
        rw [bridgeFound, tunnelFound] at known
        cases known
      | ok tunnelAddress =>
        rw [bridgeFound, tunnelFound] at known
        cases known
        simp only [List.map_append]
        exact ((interfaces.append (List.Sublist.refl _)).append
          (sublist_of_option "tunnel_interface_ip" Address.text tunnelAddress)).append extras

/-- The placeholders of a request do not overlap. -/
theorem separate_of_request {lookup : Lookup} {request : Request}
    (known : request.placeholders lookup = .ok placeholders) : Separate placeholders := by
  have among := sublist_placeholderNames known
  refine separate_of_plain (among.nodup (by decide +kernel)) fun placeholder listed => ?_
  have plain : ∀ name ∈ placeholderNames, '$' ∉ name.toList ∧ '\x7d' ∉ name.toList := by decide +kernel
  exact plain _ (among.subset (List.mem_map_of_mem listed))

/-- The only result of the replacement at once is rendered if no placeholder comes up again. -/
theorem Separate.renders (separate : Separate placeholders) {order : List Placeholder}
    (permuted : order.Perm placeholders) (argument : String) :
    ∃ result, (∀ other, Replaced placeholders argument.toList other ↔ other = result) ∧
      (Settled order argument.toList → (renderArgument order argument).toList = result) ∧
      (Unmarked placeholders result → (renderArgument order argument).toList = result) := by
  obtain ⟨result, replaced⟩ := exists_replaced placeholders argument.toList
  have only (other : List Char) : Replaced placeholders argument.toList other ↔ other = result :=
    ⟨replaced.unique separate.prefixFree, fun same => same ▸ replaced⟩
  have renders (settled : Settled order argument.toList) :
      (renderArgument order argument).toList = result := by
    rw [renderArgument, String.toList_ofList]
    exact (only _).1 (((separate.perm permuted).replaced_foldl settled).congr fun _ =>
      permuted.mem_iff)
  exact ⟨result, only, renders, fun unmarked => renders (separate.settled replaced unmarked permuted)⟩

/-- In every argument of every command the placeholders are replaced one after the other. The result is
that of their replacement at once if no marker comes up again, and if none is left in it at all, this
holds for every order of the list. The placeholders of a request never overlap. -/
theorem render_replaces (placeholders : List Placeholder) (script : Script) :
    List.Forall₂ (List.Forall₂ fun argument rendered => ∀ result,
        Successively placeholders argument.toList result ↔ result = rendered.toList)
      script (render placeholders script) ∧
    (Separate placeholders → ∀ order : List Placeholder, order.Perm placeholders →
      List.Forall₂ (List.Forall₂ fun argument rendered => ∃ result,
          (∀ other, Replaced placeholders argument.toList other ↔ other = result) ∧
          (Settled order argument.toList → rendered.toList = result) ∧
          (Unmarked placeholders result → rendered.toList = result))
        script (render order script)) ∧
    ∀ (lookup : Lookup) (request : Request), request.placeholders lookup = .ok placeholders →
      Separate placeholders := by
  have each {rendered : String → String → Prop} {order : List Placeholder}
      (argument : ∀ argument, rendered argument (renderArgument order argument)) :
      List.Forall₂ (List.Forall₂ rendered) script (render order script) := by
    rw [render, List.forall₂_map_right_iff, List.forall₂_same]
    intro command _
    rw [List.forall₂_map_right_iff, List.forall₂_same]
    exact fun text _ => argument text
  refine ⟨each fun argument result => ?_, fun separate order permuted => each fun argument =>
    separate.renders permuted argument, fun lookup request known => separate_of_request known⟩
  rw [successively_iff, renderArgument, String.toList_ofList]

/-- The names of both interfaces are filled in as if at once, although the list is reversed. -/
theorem render_replaces_interfaces :
    let request : Request := ⟨.interfaceActivate, "br0", [], some "wg0", 0⟩
    let lookup : Lookup := fun interface _ => .error (.unknown interface)
    let placeholders := request.namePlaceholders
    let argument := "$\x7bbridge_interface\x7d=$\x7btunnel_interface\x7d"
    request.placeholders lookup = .ok placeholders ∧
      Replaced placeholders argument.toList "br0=wg0".toList ∧
      render placeholders.reverse [[argument]] = [["br0=wg0"]] := by
  intro request lookup placeholders argument
  let bridge : Placeholder := ⟨"bridge_interface", "br0"⟩
  let tunnel : Placeholder := ⟨"tunnel_interface", "wg0"⟩
  have known : request.placeholders lookup = .ok placeholders := rfl
  have listed : tunnel ∈ [bridge, tunnel] := List.mem_cons_of_mem _ List.mem_cons_self
  have whole : argument.toList = marker bridge.name ++ '=' :: (marker tunnel.name ++ []) := by
    decide +kernel
  have filled : "br0=wg0".toList =
      bridge.value.toList ++ '=' :: (tunnel.value.toList ++ []) := by decide +kernel
  have replaced : Replaced placeholders argument.toList "br0=wg0".toList := by
    have last : Replaced placeholders ('=' :: (marker tunnel.name ++ []))
        ('=' :: (tunnel.value.toList ++ [])) := .keep (by decide) (.hole listed .nil)
    rw [whole, filled]
    exact .hole List.mem_cons_self last
  have unmarked : Unmarked placeholders "br0=wg0".toList := by decide +kernel
  obtain ⟨-, atOnce, separate⟩ := render_replaces placeholders [[argument]]
  have rendered := atOnce (separate lookup request known) _ (List.reverse_perm placeholders)
  change List.Forall₂ _ [[argument]] [[renderArgument placeholders.reverse argument]] at rendered
  simp only [List.forall₂_cons] at rendered
  obtain ⟨⟨⟨result, only, -, renders⟩, -⟩, -⟩ := rendered
  have is : "br0=wg0".toList = result := (only _).1 replaced
  refine ⟨known, replaced, ?_⟩
  change [[renderArgument placeholders.reverse argument]] = _
  rw [String.toList_inj.1 ((renders (is ▸ unmarked)).trans is.symm)]

/-- The value of one placeholder can hold the marker of the next one, so that the result is not that of
a replacement at once and depends on the order. Names that overlap have no such result at all. -/
theorem not_replaced_at_once :
    (¬∀ (lookup : Lookup) (request : Request) (placeholders : List Placeholder) (script : Script),
      request.placeholders lookup = .ok placeholders →
        List.Forall₂ (List.Forall₂ fun argument rendered =>
            Replaced placeholders argument.toList rendered.toList)
          script (render placeholders script)) ∧
    (¬∀ (lookup : Lookup) (request : Request) (placeholders order : List Placeholder)
        (script : Script),
      request.placeholders lookup = .ok placeholders → order.Perm placeholders →
        render order script = render placeholders script) ∧
    ¬∀ (placeholders : List Placeholder) (text : List Char), (placeholders.map (·.name)).Nodup →
      ∃! result, Replaced placeholders text result := by
  let request : Request := ⟨.interfaceActivate, "$\x7btunnel_interface\x7d", [], some "wg0", 0⟩
  let lookup : Lookup := fun interface _ => .error (.unknown interface)
  have known : request.placeholders lookup = .ok request.namePlaceholders := rfl
  let argument := "$\x7bbridge_interface\x7d"
  refine ⟨fun always => ?_, fun always => ?_, fun always => ?_⟩
  · let bridge : Placeholder := ⟨"bridge_interface", request.bridgeInterface⟩
    have listed : bridge ∈ request.namePlaceholders := List.mem_cons_self
    have atOnce := Replaced.hole listed .nil
    have rendered := always lookup request _ [[argument]] known
    rw [show render request.namePlaceholders [[argument]] = [["wg0"]] by decide +kernel,
      List.forall₂_cons, List.forall₂_cons,
      show argument.toList = marker bridge.name ++ [] by decide +kernel] at rendered
    have same := atOnce.unique (separate_of_request known).prefixFree rendered.1.1
    exact absurd same (by decide +kernel)
  · have same := always lookup request _ _ [[argument]] known (List.reverse_perm _)
    exact absurd same (by decide +kernel)
  · let short : Placeholder := ⟨"a", "1"⟩
    let long : Placeholder := ⟨"a\x7db", "2"⟩
    have shortListed : short ∈ [short, long] := List.mem_cons_self
    have longListed : long ∈ [short, long] := List.mem_cons_of_mem _ List.mem_cons_self
    have kept : Replaced [short, long] ['b', '\x7d'] ['b', '\x7d'] :=
      .keep (by decide) (.keep (by decide) .nil)
    have inShort := Replaced.hole shortListed kept
    have inLong := Replaced.hole longListed .nil
    rw [show marker short.name ++ ['b', '\x7d'] = marker long.name ++ [] by decide +kernel] at inShort
    obtain ⟨result, -, only⟩ := always [short, long] (marker long.name ++ []) (by decide)
    exact absurd ((only _ inShort).trans (only _ inLong).symm) (by decide +kernel)

end TunnelFailover.Script
