import TunnelFailover.Config.Settings
import TunnelFailover.Machine.Effect
import TunnelFailover.Net.Interface
/-!
This file says how a request becomes a job, which is a script with all its values in place, and what
counts as a failure when the job runs.
-/

namespace TunnelFailover

/-- The scripts of a bridge, one for each kind of request. -/
structure Scripts where
  bridgeActivate : Script
  interfaceActivate : Script
  interfaceDeactivate : Script
deriving DecidableEq, Repr

namespace Scripts

/-- The scripts in the settings of a bridge. -/
def ofSettings (settings : ReconcileSettings) : Scripts :=
  ⟨settings.bridgeActivate.script, settings.interfaceActivate.script,
    settings.interfaceDeactivate⟩

/-- The script for a kind of request. -/
def forKind (scripts : Scripts) : RequestKind → Script
  | .bridgeActivate => scripts.bridgeActivate
  | .interfaceActivate => scripts.interfaceActivate
  | .interfaceDeactivate => scripts.interfaceDeactivate

end Scripts

namespace Request

/-- The names of the interfaces are known without a lookup. -/
def namePlaceholders (request : Request) : List Placeholder :=
  ⟨"bridge_interface", request.bridgeInterface⟩ ::
    (request.interface.map (Placeholder.mk "tunnel_interface")).toList

/-- The blocks after the primary one are written with commas between them. -/
def extraPlaceholders (extra : List Cidr) : List Placeholder :=
  if extra.isEmpty then []
  else [⟨"bridge_extra_peer_cidrs", ",".intercalate (extra.map Cidr.text)⟩]

/-- The primary block decides the version, in which the addresses of the interfaces are looked up,
the one of the bridge first. Without a block the names are all that is known. -/
def placeholders (lookup : Lookup) (request : Request) : Except LookupFault (List Placeholder) :=
  match request.peerCidrs with
  | [] => .ok request.namePlaceholders
  | primary :: extra => do
    let version := primary.address.version
    let bridgeAddress ← lookup request.bridgeInterface version
    let tunnelAddress ← request.interface.mapM fun interface => lookup interface version
    pure (request.namePlaceholders ++
      [⟨"bridge_peer_cidr", primary.text⟩, ⟨"proto", version.text⟩,
        ⟨"bridge_interface_ip", bridgeAddress.text⟩] ++
      (tunnelAddress.map fun address => ⟨"tunnel_interface_ip", address.text⟩).toList ++
      extraPlaceholders extra)

end Request

/-- A job is a script that is ready to run, under the name of its kind. -/
structure Job where
  name : String
  script : Script
deriving DecidableEq, Repr

/-- A request without a script needs no job, and one with a failed lookup gets none. -/
def Scripts.job (scripts : Scripts) (lookup : Lookup) (request : Request) :
    Except LookupFault (Option Job) :=
  let script := scripts.forKind request.kind
  if script.isEmpty then .ok none
  else do
    let placeholders ← request.placeholders lookup
    pure (some ⟨request.kind.name, Script.render placeholders script⟩)

/-- A request that is dropped for a failed lookup counts as an error of the system. -/
def LookupFault.samples (bridge : String) : List Sample := [.error bridge Scope.system]

/-- The course of a command that could be started: how long it runs if it is let, and whether it
ends well. -/
structure Course where
  length : Duration
  succeeds : Bool
deriving DecidableEq, Repr

namespace Job

/-- The commands of a job, without the empty ones. -/
def commands (job : Job) : Script := job.script.filter (!·.isEmpty)

/-- A command can be started only if none of its words has a NUL character. -/
def isStartable (command : List String) : Bool :=
  command.all fun argument => !argument.toList.contains (Char.ofNat 0)

/-- A command ends well if it can be started and ends by itself within its time. -/
def endsWell (timeout : Duration) (course : Option Course) : Bool :=
  course.any fun course => course.succeeds && course.length < timeout

/-- All commands are run in order, also after one that has failed, and the failures are counted. -/
def failures (timeout : Duration) (course : List String → Option Course) (job : Job) : Nat :=
  job.commands.countP fun command =>
    !(isStartable command && endsWell timeout (course command))

/-- Every failure counts as an error of the job. -/
def samples (bridge : String) (failures : Nat) (job : Job) : List Sample :=
  List.replicate failures (.error bridge (Scope.job job.name))

end Job

end TunnelFailover
