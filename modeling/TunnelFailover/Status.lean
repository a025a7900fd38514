import TunnelFailover.Json.Source
import TunnelFailover.NameMap
import TunnelFailover.Time.Instant
/-!
This file defines the status of a bridge, which its partner sees, and its form on the wire.
-/

namespace TunnelFailover

/-- The role decides who is preferred in an election: the active side claims activity whenever it is
up, and the standby side fills a gap. -/
inductive Role where
  | active
  | standby
deriving DecidableEq, Repr, Inhabited

namespace Role

/-- The name of a role. -/
def name : Role → String
  | active => "active"
  | standby => "standby"

/-- The role of a name. -/
def ofName? (name : String) : Option Role :=
  if name = "active" then some active else if name = "standby" then some standby else none

/-- A role is written as a variant. -/
def decode? {ν : Type} [Source ν] (value : ν) : Option Role := do
  ofName? (← Source.variant? value)

end Role

/-- The status of one tunnel interface: two flags and the times of their last changes. -/
structure InterfaceStatus where
  active : Bool
  activeSince : Instant
  up : Bool
  upSince : Instant
deriving DecidableEq, Repr

namespace InterfaceStatus

/-- Nothing is up or active at first. -/
def fresh (now : Instant) : InterfaceStatus := ⟨false, now, false, now⟩

/-- The interface with another activity from a given time on. -/
def setActive (status : InterfaceStatus) (active : Bool) (now : Instant) : InterfaceStatus :=
  { status with active, activeSince := now }

/-- The interface with another liveness from a given time on. -/
def setUp (status : InterfaceStatus) (up : Bool) (now : Instant) : InterfaceStatus :=
  { status with up, upSince := now }

end InterfaceStatus

/-- The status of a bridge and of its tunnel interfaces. -/
structure BridgeStatus where
  name : String
  role : Role
  active : Bool
  activeSince : Instant
  up : Bool
  upSince : Instant
  interfaces : NameMap InterfaceStatus
deriving DecidableEq

namespace BridgeStatus

/-- A new bridge is neither up nor active, nor is any of its interfaces. -/
def fresh (name : String) (role : Role) (interfaces : List String) (now : Instant) : BridgeStatus :=
  ⟨name, role, false, now, false, now,
    .ofList (interfaces.map fun interface => (interface, .fresh now))⟩

/-- The bridge with another activity from a given time on. -/
def setActive (status : BridgeStatus) (active : Bool) (now : Instant) : BridgeStatus :=
  { status with active, activeSince := now }

/-- The bridge with another liveness from a given time on. -/
def setUp (status : BridgeStatus) (up : Bool) (now : Instant) : BridgeStatus :=
  { status with up, upSince := now }

/-- The status with one interface changed. -/
def modifyInterface (status : BridgeStatus) (interface : String)
    (change : InterfaceStatus → InterfaceStatus) : BridgeStatus :=
  { status with interfaces := status.interfaces.modify interface change }

/-- The first active interface in the order of names. -/
def activeInterface? (status : BridgeStatus) : Option String :=
  (status.interfaces.find? fun _ interface => interface.active).map (·.1)

end BridgeStatus

/-- A time is written as a text. -/
def Instant.decode? {ν : Type} [Source ν] (value : ν) : Option Instant := do
  Instant.parse? (← Source.text? value)

namespace InterfaceStatus

/-- The names of the fields in their order. -/
def fieldNames : List String := ["active", "active_since", "up", "up_since"]

/-- All fields have to be given. -/
def decode? {ν : Type} [Source ν] (value : ν) : Option InterfaceStatus := do
  let fields ← Source.fields? fieldNames value
  pure
    { active := ← fields.required "active" Source.flag?
      activeSince := ← fields.required "active_since" Instant.decode?
      up := ← fields.required "up" Source.flag?
      upSince := ← fields.required "up_since" Instant.decode? }

/-- The fields are written in their order. -/
def toJson (status : InterfaceStatus) : Json :=
  .object
    [("active", .boolean status.active), ("active_since", .text status.activeSince.text),
      ("up", .boolean status.up), ("up_since", .text status.upSince.text)]

end InterfaceStatus

namespace BridgeStatus

/-- The names of the fields in their order. -/
def fieldNames : List String :=
  ["name", "role", "active", "active_since", "up", "up_since", "interfaces"]

/-- The last of several interfaces of one name counts, but all of them have to be well-formed. -/
def decodeInterfaces? {ν : Type} [Source ν] (value : ν) : Option (NameMap InterfaceStatus) := do
  let entries ← Source.entries? value
  let decoded ← entries.mapM fun entry => do pure (entry.1, ← InterfaceStatus.decode? entry.2)
  pure (NameMap.ofList decoded)

/-- All fields have to be given. -/
def decode? {ν : Type} [Source ν] (value : ν) : Option BridgeStatus := do
  let fields ← Source.fields? fieldNames value
  pure
    { name := ← fields.required "name" Source.text?
      role := ← fields.required "role" Role.decode?
      active := ← fields.required "active" Source.flag?
      activeSince := ← fields.required "active_since" Instant.decode?
      up := ← fields.required "up" Source.flag?
      upSince := ← fields.required "up_since" Instant.decode?
      interfaces := ← fields.required "interfaces" decodeInterfaces? }

/-- The fields are written in their order, and the interfaces in the order of their names. -/
def toJson (status : BridgeStatus) : Json :=
  .object
    [("name", .text status.name), ("role", .text status.role.name),
      ("active", .boolean status.active), ("active_since", .text status.activeSince.text),
      ("up", .boolean status.up), ("up_since", .text status.upSince.text),
      ("interfaces",
        .object (status.interfaces.entries.map fun entry => (entry.1, entry.2.toJson)))]

/-- The status that a text denotes. -/
def parse? (text : String) : Option BridgeStatus := do decode? (← Json.parse? text)

/-- The status that some bytes denote. -/
def parseBytes? (bytes : ByteArray) : Option BridgeStatus := do decode? (← Json.parseBytes? bytes)

end BridgeStatus

end TunnelFailover
