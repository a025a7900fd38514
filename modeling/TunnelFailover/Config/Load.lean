import TunnelFailover.Config.Outline
import TunnelFailover.Config.Validation
import TunnelFailover.Yaml.Allowance
import TunnelFailover.Yaml.Source
/-!
This file loads the settings from the text of a file, and finds the file.
-/

namespace TunnelFailover

/-- What lies at a path. -/
inductive FileState where
  | absent
  | directory
  | file (content : ByteArray)

/-- A file cannot be read because it is missing, a directory, or not a text. -/
inductive ReadFault where
  | notFound
  | isDirectory
  | invalidData
deriving DecidableEq, Repr

/-- The settings cannot be loaded if there is no file, if it cannot be read, if it holds no
settings, or if these have issues. -/
inductive ConfigFault where
  | fileNotFound
  | read (fault : ReadFault)
  | unreadable
  | invalid (config : Config)

namespace FileState

/-- The text of a file. -/
def text : FileState → Except ReadFault String
  | absent => .error .notFound
  | directory => .error .isDirectory
  | file content =>
    match String.fromUTF8? content with
    | some text => .ok text
    | none => .error .invalidData

/-- Only files are found by a search. -/
def isFile : FileState → Bool
  | file _ => true
  | _ => false

end FileState

namespace ConfigFault

/-- The message of a search without a result. -/
def searchMessage : String := "Configuration file not found in search paths"

/-- The message of a fault, without what its cause has to say. -/
def message : ConfigFault → String
  | fileNotFound => searchMessage
  | read _ => "Failed to read configuration file"
  | unreadable => "Failed to parse YAML"
  | invalid _ => "Invalid configuration"

end ConfigFault

namespace Config

/-- The settings that a text holds, if reading them takes no more than is allowed. -/
def read? (text : String) : Option Config := do
  let place ← Yaml.place? text
  if place.document.Affords outline then decode? place else none

/-- The settings that a text holds, if they are valid. -/
def ofText (text : String) : Except ConfigFault Config :=
  match read? text with
  | none => .error .unreadable
  | some config => if config.isValid then .ok config else .error (.invalid config)

/-- The settings in the file at a given path, or in the first file of the search paths. -/
def load (explicit : Option FileState) (searched : List FileState) : Except ConfigFault Config :=
  match explicit <|> searched.find? FileState.isFile with
  | none => .error .fileNotFound
  | some state =>
    match state.text with
    | .error fault => .error (.read fault)
    | .ok text => ofText text

end Config

end TunnelFailover
