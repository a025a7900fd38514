/-!
This file defines what a reader of structured data offers to the decoders: each kind of value that
data of some notation can be taken for. The decoders are written once for all notations.
-/

namespace TunnelFailover

/-- The known fields of a record. Those of a record that is written as a list go by position. -/
structure Fields (ν : Type) where
  values : List (String × ν)
  positional : Bool

/-- A notation tells for each of its values what it can be taken for. A field or a text that is not
of the expected kind is no value at all. -/
class Source (ν : Type) where
  text? : ν → Option String
  flag? : ν → Option Bool
  word? : ν → Option UInt64
  float? : ν → Option Float
  variant? : ν → Option String
  items? : ν → Option (List ν)
  entries? : ν → Option (List (String × ν))
  fields? : List String → ν → Option (Fields ν)
  presence? : ν → Option (Option ν)

namespace Fields

variable {ν α : Type}

/-- The value of a field, if it is given. -/
def get? (fields : Fields ν) (name : String) : Option ν :=
  (fields.values.find? (·.1 == name)).map (·.2)

/-- A field that has to be given. -/
def required (fields : Fields ν) (name : String) (decode : ν → Option α) : Option α :=
  (fields.get? name).bind decode

/-- A field with a value that stands for one that is not given. -/
def defaulted (fields : Fields ν) (name : String) (default : α) (decode : ν → Option α) :
    Option α :=
  match fields.get? name with
  | some value => decode value
  | none => some default

end Fields

/-- A value that may be absent. -/
def optionally {ν α : Type} [Source ν] (decode : ν → Option α) (value : ν) : Option (Option α) := do
  match ← Source.presence? value with
  | none => pure none
  | some value => pure (some (← decode value))

/-- A list whose items are all of one kind. -/
def listOf {ν α : Type} [Source ν] (decode : ν → Option α) (value : ν) : Option (List α) := do
  (← Source.items? value).mapM decode

end TunnelFailover
