import TunnelFailover.NameMap
import Mathlib.Data.List.Basic
/-!
This file says what the operations on maps do to the value under a name. A map is known by its
values, so that later files do not look at its entries.
-/

namespace TunnelFailover.NameMap

variable {α β ε : Type}

/-- A map is known by its entries. -/
theorem eq_of_entries {first second : NameMap α} (same : first.entries = second.entries) :
    first = second := by
  cases first
  cases same
  rfl

/-- Two entries of a map with one name are the same entry. -/
theorem entry_unique (map : NameMap α) {first second : String × α}
    (firstMember : first ∈ map.entries) (secondMember : second ∈ map.entries)
    (same : first.1 = second.1) : first = second := by
  obtain ⟨entries, sorted⟩ := map
  induction entries with
  | nil => simp at firstMember
  | cons head rest inductionHypothesis =>
    have ⟨above, restSorted⟩ := List.pairwise_cons.1 sorted
    have apart (entry : String × α) (member : entry ∈ rest) : head.1 ≠ entry.1 := by
      intro equal
      have smaller := above entry member
      rw [equal] at smaller
      exact String.lt_irrefl _ smaller
    rcases List.mem_cons.1 firstMember with firstHead | firstRest <;>
      rcases List.mem_cons.1 secondMember with secondHead | secondRest
    · rw [firstHead, secondHead]
    · exact absurd (firstHead ▸ same) (apart second secondRest)
    · exact absurd (secondHead ▸ same).symm (apart first firstRest)
    · exact inductionHypothesis restSorted firstRest secondRest

theorem nodup_entries (map : NameMap α) : map.entries.Nodup := by
  refine map.sorted.imp fun {first second} before same => ?_
  rw [same] at before
  exact String.lt_irrefl _ before

/-- The values under names are the entries. -/
theorem get?_eq_some_iff (map : NameMap α) (name : String) (value : α) :
    map.get? name = some value ↔ (name, value) ∈ map.entries := by
  unfold get?
  constructor
  · intro found
    obtain ⟨entry, entryFound, valueEqual⟩ := Option.map_eq_some_iff.1 found
    have nameEqual := List.find?_some entryFound
    have member := List.mem_of_find?_eq_some entryFound
    have entryEqual : entry = (name, value) := Prod.ext (by simpa using nameEqual) valueEqual
    exact entryEqual ▸ member
  · intro member
    have present : (map.entries.find? (·.1 == name)).isSome := by
      rw [List.find?_isSome]
      exact ⟨(name, value), member, by simp⟩
    obtain ⟨entry, entryFound⟩ := Option.isSome_iff_exists.1 present
    have nameEqual := List.find?_some entryFound
    have entryMember := List.mem_of_find?_eq_some entryFound
    rw [entryFound, map.entry_unique entryMember member (by simpa using nameEqual)]
    rfl

/-- A function of name and value acts on every value. -/
@[simp] theorem get?_mapWithName (change : String → α → β) (map : NameMap α) (name : String) :
    (map.mapWithName change).get? name = (map.get? name).map (change name) := by
  ext value
  simp only [get?_eq_some_iff, mapWithName, List.mem_map, Option.map_eq_some_iff, Prod.mk.injEq,
    Prod.exists]
  constructor
  · rintro ⟨other, former, member, rfl, rfl⟩
    exact ⟨former, member, rfl⟩
  · rintro ⟨former, member, rfl⟩
    exact ⟨name, former, member, rfl, rfl⟩

/-- A modification acts on the value of its name. -/
theorem get?_modify (map : NameMap α) (name other : String) (change : α → α) :
    (map.modify name change).get? other =
      if other = name then (map.get? other).map change else map.get? other := by
  unfold modify
  rw [get?_mapWithName]
  split <;> simp

/-- A modification that keeps the value of its name changes nothing. -/
theorem modify_eq_self {map : NameMap α} {name : String} {change : α → α}
    (same : ∀ value, map.get? name = some value → change value = value) :
    map.modify name change = map := by
  refine eq_of_entries ((List.map_congr_left fun entry member => ?_).trans (List.map_id _))
  obtain ⟨other, value⟩ := entry
  have known := (map.get?_eq_some_iff other value).2 member
  by_cases own : other = name
  · simp [own, same value (own ▸ known)]
  · simp [own]

/-- Some value meets a condition if the value under some name does. -/
theorem anyValue_iff (map : NameMap α) (condition : α → Bool) :
    map.anyValue condition = true ↔
      ∃ name, (map.get? name).any condition = true := by
  simp only [anyValue, values, List.any_eq_true, List.mem_map, Option.any_eq_true,
    get?_eq_some_iff, Prod.exists]
  constructor
  · rintro ⟨value, ⟨name, same, member, rfl⟩, holds⟩
    exact ⟨name, same, member, holds⟩
  · rintro ⟨name, value, member, holds⟩
    exact ⟨value, ⟨name, value, member, rfl⟩, holds⟩

/-- An entry that is found is in the map and meets the condition. -/
theorem get?_of_find? {map : NameMap α} {condition : String → α → Bool} {name : String} {value : α}
    (found : map.find? condition = some (name, value)) :
    map.get? name = some value ∧ condition name value = true := by
  unfold find? at found
  exact ⟨(map.get?_eq_some_iff name value).2 (List.mem_of_find?_eq_some found),
    List.find?_some (p := fun entry : String × α => condition entry.1 entry.2) found⟩

/-- No entry is found if the value under every name fails the condition. -/
theorem find?_eq_none_iff (map : NameMap α) (condition : String → α → Bool) :
    map.find? condition = none ↔
      ∀ name value, map.get? name = some value → condition name value = false := by
  simp only [find?, List.find?_eq_none, get?_eq_some_iff, Prod.forall, Bool.not_eq_true]

/-- An entry behind all others goes to the end. -/
theorem insertEntry_of_above {name : String} {value : α} {entries : List (String × α)}
    (above : ∀ entry ∈ entries, entry.1 < name) :
    insertEntry name value entries = entries ++ [(name, value)] := by
  induction entries with
  | nil => rfl
  | cons head rest inductionHypothesis =>
    have headBelow := above head List.mem_cons_self
    have notBelow : ¬name < head.1 := fun below =>
      String.lt_irrefl _ (String.lt_trans below headBelow)
    rw [insertEntry, if_neg notBelow, if_pos headBelow,
      inductionHypothesis fun entry member => above entry (List.mem_cons_of_mem _ member)]
    rfl

/-- Insertions in increasing order of the names append the entries. -/
theorem entries_foldl_insert (entries : List (String × α)) (map : NameMap α)
    (sorted : (map.entries ++ entries).Pairwise (·.1 < ·.1)) :
    (entries.foldl (fun map entry => map.insert entry.1 entry.2) map).entries =
      map.entries ++ entries := by
  induction entries generalizing map with
  | nil => simp
  | cons head rest inductionHypothesis =>
    have above : ∀ entry ∈ map.entries, entry.1 < head.1 := fun entry member =>
      (List.pairwise_append.1 sorted).2.2 entry member head List.mem_cons_self
    have inserted : (map.insert head.1 head.2).entries = map.entries ++ [head] :=
      insertEntry_of_above above
    rw [List.foldl_cons, inductionHypothesis]
    · rw [inserted, List.append_assoc]
      rfl
    · rw [inserted, List.append_assoc]
      exact sorted

/-- A list with increasing names gives the map of its entries. -/
theorem entries_ofList {entries : List (String × α)} (sorted : entries.Pairwise (·.1 < ·.1)) :
    (ofList entries).entries = entries :=
  entries_foldl_insert entries empty sorted

theorem ofList_entries (map : NameMap α) : ofList map.entries = map :=
  eq_of_entries (entries_ofList map.sorted)

/-- A change of entries that succeeds keeps the names in their order. -/
theorem forall₂_of_mapM {change : String → α → Except ε β} {entries : List (String × α)}
    {changed : List (String × β)}
    (succeeded : entries.mapM (fun entry => do pure (entry.1, ← change entry.1 entry.2)) =
      Except.ok changed) :
    List.Forall₂ (fun entry image => image.1 = entry.1 ∧ change entry.1 entry.2 = .ok image.2)
      entries changed := by
  induction entries generalizing changed with
  | nil =>
    cases succeeded
    exact .nil
  | cons head rest inductionHypothesis =>
    rw [List.mapM_cons] at succeeded
    cases headChanged : change head.1 head.2 with
    | error fault =>
      rw [headChanged] at succeeded
      cases succeeded
    | ok image =>
      cases restChanged :
          rest.mapM (fun entry => do pure (entry.1, ← change entry.1 entry.2)) with
      | error fault =>
        rw [headChanged, restChanged] at succeeded
        cases succeeded
      | ok images =>
        rw [headChanged, restChanged] at succeeded
        cases succeeded
        exact .cons ⟨rfl, headChanged⟩ (inductionHypothesis restChanged)

/-- Lists that agree entry by entry have the same names. -/
theorem names_of_forall₂ (agree : String → α → β → Prop) {entries : List (String × α)}
    {images : List (String × β)}
    (agreement : List.Forall₂ (fun entry image =>
      image.1 = entry.1 ∧ agree entry.1 entry.2 image.2) entries images) :
    images.map (·.1) = entries.map (·.1) := by
  induction agreement with
  | nil => rfl
  | cons headAgrees _ inductionHypothesis =>
    rw [List.map_cons, List.map_cons, headAgrees.1, inductionHypothesis]

/-- Lists that agree entry by entry agree under every name. -/
theorem rel_find?_of_forall₂ (agree : String → α → β → Prop) {entries : List (String × α)}
    {images : List (String × β)}
    (agreement : List.Forall₂ (fun entry image =>
      image.1 = entry.1 ∧ agree entry.1 entry.2 image.2) entries images) (name : String) :
    Option.Rel (agree name) ((entries.find? (·.1 == name)).map (·.2))
      ((images.find? (·.1 == name)).map (·.2)) := by
  induction agreement with
  | nil => exact .none
  | @cons entry image rest restImages headAgrees _ inductionHypothesis =>
    obtain ⟨sameName, agrees⟩ := headAgrees
    by_cases here : entry.1 = name
    · simpa [List.find?_cons, sameName, here] using Option.Rel.some (here ▸ agrees)
    · simpa [List.find?_cons, sameName, here] using inductionHypothesis

/-- A change of entries succeeds if it does for each of them. -/
theorem exists_mapM {change : String → α → Except ε β} {entries : List (String × α)}
    (succeeds : ∀ entry ∈ entries, ∃ image, change entry.1 entry.2 = .ok image) :
    ∃ changed, entries.mapM (fun entry => do pure (entry.1, ← change entry.1 entry.2)) =
      Except.ok changed := by
  induction entries with
  | nil => exact ⟨[], rfl⟩
  | cons head rest inductionHypothesis =>
    obtain ⟨image, headChanged⟩ := succeeds head List.mem_cons_self
    obtain ⟨images, restChanged⟩ := inductionHypothesis fun entry member =>
      succeeds entry (List.mem_cons_of_mem _ member)
    refine ⟨(head.1, image) :: images, ?_⟩
    rw [List.mapM_cons, headChanged, restChanged]
    rfl

/-- A change of the whole map succeeds if it does under every name. -/
theorem exists_traverse {change : String → α → Except ε β} {map : NameMap α}
    (succeeds : ∀ name value, map.get? name = some value → ∃ image, change name value = .ok image) :
    ∃ result, map.traverse change = .ok result := by
  have each : ∀ entry ∈ map.entries, ∃ image, change entry.1 entry.2 = .ok image :=
    fun entry present => succeeds entry.1 entry.2 ((map.get?_eq_some_iff ..).2 present)
  obtain ⟨changed, succeeded⟩ := exists_mapM each
  refine ⟨ofList changed, ?_⟩
  rw [traverse, succeeded]
  rfl

/-- A change of the whole map that succeeds is one of every entry in its place. -/
theorem forall₂_traverse {change : String → α → Except ε β} {map : NameMap α}
    {result : NameMap β} (succeeded : map.traverse change = .ok result) :
    List.Forall₂ (fun entry image => image.1 = entry.1 ∧ change entry.1 entry.2 = .ok image.2)
      map.entries result.entries := by
  unfold traverse at succeeded
  cases changed : map.entries.mapM (fun entry => do pure (entry.1, ← change entry.1 entry.2)) with
  | error fault =>
    rw [changed] at succeeded
    cases succeeded
  | ok images =>
    rw [changed] at succeeded
    cases succeeded
    have agreement := forall₂_of_mapM changed
    have sorted : images.Pairwise (·.1 < ·.1) := by
      rw [← List.pairwise_map (f := Prod.fst) (R := (· < ·)),
        names_of_forall₂ (fun name value image => change name value = .ok image) agreement,
        List.pairwise_map]
      exact map.sorted
    rwa [entries_ofList sorted]

/-- A change of the whole map that succeeds gives the change of the value under every name. -/
theorem rel_get?_traverse {change : String → α → Except ε β} {map : NameMap α}
    {result : NameMap β} (succeeded : map.traverse change = .ok result) (name : String) :
    Option.Rel (fun value image => change name value = .ok image) (map.get? name)
      (result.get? name) :=
  rel_find?_of_forall₂ (fun name value image => change name value = .ok image)
    (forall₂_traverse succeeded) name

theorem names_traverse {change : String → α → Except ε β} {map : NameMap α} {result : NameMap β}
    (succeeded : map.traverse change = .ok result) : result.names = map.names :=
  names_of_forall₂ (fun name value image => change name value = .ok image)
    (forall₂_traverse succeeded)

@[simp] theorem names_mapWithName (change : String → α → β) (map : NameMap α) :
    (map.mapWithName change).names = map.names := by
  simp [names, mapWithName]

@[simp] theorem names_modify (map : NameMap α) (name : String) (change : α → α) :
    (map.modify name change).names = map.names := names_mapWithName ..

/-- A map has a value under its names and under no others. -/
theorem get?_eq_none_iff (map : NameMap α) (name : String) :
    map.get? name = none ↔ name ∉ map.names := by
  rw [← Option.not_isSome_iff_eq_none, Option.isSome_iff_exists, not_iff_not, names, List.mem_map]
  simp [get?_eq_some_iff]

/-- What is made of the entries of a map is made of one value, if the other entries give nothing. -/
theorem flatMap_entries (map : NameMap α) (name : String)
    {part : String × α → List β} (others : ∀ entry, entry.1 ≠ name → part entry = []) :
    map.entries.flatMap part = (map.get? name).elim [] fun value => part (name, value) := by
  obtain ⟨entries, sorted⟩ := map
  unfold get?
  induction entries with
  | nil => rfl
  | cons head rest inductionHypothesis =>
    have ⟨above, restSorted⟩ := List.pairwise_cons.1 sorted
    rw [List.flatMap_cons]
    by_cases here : head.1 = name
    · have behind : rest.flatMap part = [] := by
        refine List.flatMap_eq_nil_iff.2 fun entry member => others entry fun same => ?_
        have smaller := above entry member
        rw [here, same] at smaller
        exact String.lt_irrefl _ smaller
      subst here
      simp [behind]
    · rw [others head here, List.nil_append, inductionHypothesis restSorted]
      simp [here]

/-- The value under a name is among the values. -/
theorem mem_values_of_get? {map : NameMap α} {name : String} {value : α}
    (found : map.get? name = some value) : value ∈ map.values :=
  List.mem_map_of_mem (f := Prod.snd) ((map.get?_eq_some_iff name value).1 found)

end TunnelFailover.NameMap
