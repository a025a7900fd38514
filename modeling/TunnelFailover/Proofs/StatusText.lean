import TunnelFailover.Status
import TunnelFailover.Proofs.InstantText
import TunnelFailover.Proofs.JsonText
import TunnelFailover.Proofs.Lookup
/-!
This file shows that the status of a bridge is read from its form on the wire.
-/

namespace TunnelFailover

/-- A record whose fields are all given once, in their order, has these fields. -/
theorem Json.fields?_object {names : List String} {entries : List (String × Json)}
    (named : entries.map (·.1) = names) (distinct : names.Nodup) :
    fields? names (object entries) = some ⟨entries, false⟩ := by
  have all : entries.filter (fun entry => names.contains entry.1) = entries := by
    refine List.filter_eq_self.2 fun entry member => ?_
    rw [List.contains_iff_mem, ← named]
    exact List.mem_map_of_mem member
  unfold fields? known?
  dsimp only
  rw [all, named, if_pos distinct, Option.map_some]

namespace Json

@[simp] theorem flag?_boolean (value : Bool) : Source.flag? (boolean value) = some value := rfl

@[simp] theorem text?_text (value : String) : Source.text? (text value) = some value := rfl

@[simp] theorem variant?_text (value : String) : Source.variant? (text value) = some value := rfl

@[simp] theorem entries?_object (entries : List (String × Json)) :
    Source.entries? (object entries) = some entries := rfl

end Json

/-- A role is read from its name. -/
theorem Role.ofName?_name (role : Role) : ofName? role.name = some role := by
  cases role <;> rfl

/-- An instant is read from the form of its text. -/
theorem Instant.IsPlain.decode?_text {time : Instant} (plain : time.IsPlain) :
    decode? (Json.text time.text) = some time := by
  rw [decode?, Json.text?_text, Option.bind_eq_bind, Option.bind_some, plain.parse?_text]

namespace InterfaceStatus

/-- The times of an interface have texts with four digits for the year. -/
structure IsPlain (status : InterfaceStatus) : Prop where
  activeSince : status.activeSince.IsPlain
  upSince : status.upSince.IsPlain

theorem numberless_toJson (status : InterfaceStatus) : status.toJson.Numberless := by
  refine .object ?_
  simp only [List.forall_mem_cons, List.not_mem_nil, false_imp_iff, implies_true, and_true]
  exact ⟨.boolean _, .text _, .boolean _, .text _⟩

/-- An interface is read from its form on the wire. -/
theorem IsPlain.decode?_toJson {status : InterfaceStatus} (plain : status.IsPlain) :
    decode? status.toJson = some status := by
  unfold decode? toJson
  change ((Json.fields? fieldNames (.object _)).bind _) = _
  rw [Json.fields?_object, Option.bind_some]
  · simp [Fields.required, Fields.get?, plain.activeSince.decode?_text, plain.upSince.decode?_text]
  · rfl
  · decide

end InterfaceStatus

namespace BridgeStatus

/-- All times of a bridge and its interfaces have texts with four digits for the year. -/
structure IsPlain (status : BridgeStatus) : Prop where
  activeSince : status.activeSince.IsPlain
  upSince : status.upSince.IsPlain
  interfaces : ∀ entry ∈ status.interfaces.entries, entry.2.IsPlain

theorem numberless_toJson (status : BridgeStatus) : status.toJson.Numberless := by
  have interfaces : ∀ entry ∈ status.interfaces.entries.map fun entry => (entry.1, entry.2.toJson),
      entry.2.Numberless := by
    intro entry member
    obtain ⟨former, -, rfl⟩ := List.mem_map.1 member
    exact former.2.numberless_toJson
  refine .object ?_
  simp only [List.forall_mem_cons, List.not_mem_nil, false_imp_iff, implies_true, and_true]
  exact ⟨.text _, .text _, .boolean _, .text _, .boolean _, .text _, .object interfaces⟩

/-- The interfaces are read from their forms in the order of their names. -/
theorem decodeInterfaces?_toJson {map : NameMap InterfaceStatus}
    (plain : ∀ entry ∈ map.entries, entry.2.IsPlain) :
    decodeInterfaces? (Json.object (map.entries.map fun entry => (entry.1, entry.2.toJson))) =
      some map := by
  have each (entries : List (String × InterfaceStatus))
      (all : ∀ entry ∈ entries, entry.2.IsPlain) :
      (entries.map fun entry => (entry.1, entry.2.toJson)).mapM
        (fun entry => do pure (entry.1, ← InterfaceStatus.decode? entry.2)) = some entries := by
    induction entries with
    | nil => rfl
    | cons entry others inductionHypothesis =>
      obtain ⟨first, later⟩ := List.forall_mem_cons.1 all
      rw [List.map_cons, List.mapM_cons, first.decode?_toJson, inductionHypothesis later]
      rfl
  rw [decodeInterfaces?, Json.entries?_object, Option.bind_eq_bind, Option.bind_some, each _ plain]
  exact congrArg some map.ofList_entries

/-- A status is read from its form on the wire. -/
theorem IsPlain.decode?_toJson {status : BridgeStatus} (plain : status.IsPlain) :
    decode? status.toJson = some status := by
  unfold decode? toJson
  change ((Json.fields? fieldNames (.object _)).bind _) = _
  rw [Json.fields?_object, Option.bind_some]
  · simp [Fields.required, Fields.get?, plain.activeSince.decode?_text, plain.upSince.decode?_text,
      Role.decode?, Role.ofName?_name, decodeInterfaces?_toJson plain.interfaces]
  · rfl
  · decide

/-- A status is read from its text. -/
theorem IsPlain.parse?_render {status : BridgeStatus} (plain : status.IsPlain) :
    parse? status.toJson.render = some status := by
  rw [parse?, status.numberless_toJson.parse?_render]
  exact plain.decode?_toJson

end BridgeStatus

end TunnelFailover
