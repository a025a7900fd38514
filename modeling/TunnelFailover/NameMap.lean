/-!
This file defines finite maps from names to values. The entries are kept in the order of their
names, which is the order of the UTF-8 bytes, so that equal maps have equal entries.
-/

namespace TunnelFailover

/-- A map holds each name at most once, in increasing order. -/
structure NameMap (α : Type) where
  entries : List (String × α)
  sorted : entries.Pairwise (·.1 < ·.1)

namespace NameMap

variable {α β : Type}

instance [DecidableEq α] : DecidableEq (NameMap α) := fun first second =>
  if equal : first.entries = second.entries then
    .isTrue (by cases first; cases second; simp_all)
  else .isFalse fun same => equal (same ▸ rfl)

/-- The empty map has no entry. -/
def empty : NameMap α := ⟨[], .nil⟩

instance : Inhabited (NameMap α) := ⟨empty⟩

/-- An insertion keeps the order and replaces the entry of the same name. -/
def insertEntry (name : String) (value : α) : List (String × α) → List (String × α)
  | [] => [(name, value)]
  | entry :: rest =>
    if name < entry.1 then (name, value) :: entry :: rest
    else if entry.1 < name then entry :: insertEntry name value rest
    else (name, value) :: rest

theorem fst_mem_insertEntry {name : String} {value : α} {entries : List (String × α)}
    {entry : String × α} (member : entry ∈ insertEntry name value entries) :
    entry = (name, value) ∨ entry ∈ entries := by
  induction entries with
  | nil => simpa [insertEntry] using member
  | cons head rest inductionHypothesis =>
    unfold insertEntry at member
    split at member
    · simpa using member
    · split at member
      · rcases List.mem_cons.1 member with same | later
        · exact .inr (same ▸ List.mem_cons_self)
        · exact (inductionHypothesis later).imp id (List.mem_cons_of_mem _)
      · rcases List.mem_cons.1 member with same | later
        · exact .inl same
        · exact .inr (List.mem_cons_of_mem _ later)

theorem pairwise_insertEntry (name : String) (value : α) {entries : List (String × α)}
    (sorted : entries.Pairwise (·.1 < ·.1)) :
    (insertEntry name value entries).Pairwise (·.1 < ·.1) := by
  induction entries with
  | nil => simp [insertEntry]
  | cons head rest inductionHypothesis =>
    have ⟨above, restSorted⟩ := List.pairwise_cons.1 sorted
    unfold insertEntry
    split
    · rename_i before
      refine List.pairwise_cons.2 ⟨fun entry member => ?_, sorted⟩
      rcases List.mem_cons.1 member with same | later
      · exact same ▸ before
      · exact String.lt_trans before (above entry later)
    · split
      · rename_i _ after
        refine List.pairwise_cons.2 ⟨fun entry member => ?_, inductionHypothesis restSorted⟩
        rcases fst_mem_insertEntry member with same | later
        · exact same ▸ after
        · exact above entry later
      · rename_i notBefore notAfter
        have equal : name = head.1 := String.le_antisymm notAfter notBefore
        refine List.pairwise_cons.2 ⟨fun entry member => ?_, restSorted⟩
        exact equal ▸ above entry member

/-- The map with one more entry, or with the entry of this name replaced. -/
def insert (map : NameMap α) (name : String) (value : α) : NameMap α :=
  ⟨insertEntry name value map.entries, pairwise_insertEntry name value map.sorted⟩

/-- A list of entries gives a map in which the last entry of a name wins. -/
def ofList (entries : List (String × α)) : NameMap α :=
  entries.foldl (fun map entry => map.insert entry.1 entry.2) empty

/-- The value under a name. -/
def get? (map : NameMap α) (name : String) : Option α :=
  (map.entries.find? (·.1 == name)).map (·.2)

/-- The names in increasing order. -/
def names (map : NameMap α) : List String := map.entries.map (·.1)

/-- The values in the order of their names. -/
def values (map : NameMap α) : List α := map.entries.map (·.2)

/-- A function of name and value changes every value and no name. -/
def mapWithName (change : String → α → β) (map : NameMap α) : NameMap β where
  entries := map.entries.map fun entry => (entry.1, change entry.1 entry.2)
  sorted := List.pairwise_map.2 (map.sorted.imp id)

/-- A function changes the value of one name, if the map has it. -/
def modify (map : NameMap α) (name : String) (change : α → α) : NameMap α :=
  map.mapWithName fun other value => if other = name then change value else value

/-- The first entry, in the order of names, that meets a condition. -/
def find? (map : NameMap α) (condition : String → α → Bool) : Option (String × α) :=
  map.entries.find? fun entry => condition entry.1 entry.2

/-- A condition that some value meets. -/
def anyValue (map : NameMap α) (condition : α → Bool) : Bool := map.values.any condition

/-- The map changed by a partial function of the values; it fails if the function fails once. -/
def traverse {monad : Type → Type} [Monad monad] (change : String → α → monad β)
    (map : NameMap α) : monad (NameMap β) := do
  let entries ← map.entries.mapM fun entry => do pure (entry.1, ← change entry.1 entry.2)
  pure (ofList entries)

end NameMap

end TunnelFailover
