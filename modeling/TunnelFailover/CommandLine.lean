import TunnelFailover.Config.Load
/-!
This file reads the arguments of the program and says what they change in the settings.
-/

namespace TunnelFailover

/-- An option of the program takes one value. -/
inductive CommandOption where
  | config
  | logLevel
  | logFormat
deriving DecidableEq, Repr

/-- The long name of an option. -/
def CommandOption.name : CommandOption → String
  | config => "--config"
  | logLevel => "--log-level"
  | logFormat => "--log-format"

/-- The options that are given, each at most once. -/
structure Arguments where
  config : Option String
  logLevel : Option String
  logFormat : Option LogFormat
deriving DecidableEq, Repr

/-- The program runs with its arguments, or it tells how it is called. -/
inductive Invocation where
  | run (arguments : Arguments)
  | help
deriving DecidableEq, Repr

/-- The arguments cannot be read because one is unknown, an option has no value, an option is
given twice, or a value is not accepted. -/
inductive ArgumentFault where
  | unexpected (argument : String)
  | valueless (option : CommandOption)
  | repeated (option : CommandOption)
  | rejected (option : CommandOption) (value reason : String)
deriving DecidableEq, Repr

/-- The message names the option. -/
def ArgumentFault.message : ArgumentFault → String
  | unexpected argument => s!"error: unexpected argument '{argument}' found"
  | valueless option => s!"error: a value is required for '{option.name}' but none was supplied"
  | repeated option => s!"error: the argument '{option.name}' cannot be used multiple times"
  | rejected option value reason =>
    s!"error: invalid value '{value}' for '{option.name}': {reason}"

namespace Arguments

/-- No option is given. -/
def none : Arguments := ⟨.none, .none, .none⟩

/-- The text that tells how the program is called. -/
def usage : String :=
  "Usage: bridge-server [--config <CONFIG>] [--log-level <LEVEL>] [--log-format <FORMAT>]"

/-- The arguments with the value of one more option. -/
def add (arguments : Arguments) (option : CommandOption) (value : String) :
    Except ArgumentFault Arguments :=
  match option with
  | .config =>
    if arguments.config.isSome then .error (.repeated option)
    else .ok { arguments with config := some value }
  | .logLevel =>
    if arguments.logLevel.isSome then .error (.repeated option)
    else .ok { arguments with logLevel := some value }
  | .logFormat =>
    if arguments.logFormat.isSome then .error (.repeated option)
    else
      match LogFormat.parse value with
      | .ok format => .ok { arguments with logFormat := some format }
      | .error fault => .error (.rejected option value fault.message)

/-- The option with a name, which is short only for the file of the settings. -/
def option? (name : String) : Option CommandOption :=
  if name = "--config" ∨ name = "-c" then some .config
  else if name = "--log-level" then some .logLevel
  else if name = "--log-format" then some .logFormat
  else Option.none

/-- An argument is cut at its first equals sign. -/
def cut (argument : String) : String × Option String :=
  match argument.toList.span (· ≠ '=') with
  | (name, []) => (String.ofList name, Option.none)
  | (name, _ :: value) => (String.ofList name, some (String.ofList value))

/-- The arguments are read from left to right. The value of an option follows it, or stands after an
equals sign. -/
def read (arguments : Arguments) : List String → Except ArgumentFault Invocation
  | [] => .ok (.run arguments)
  | word :: rest =>
    if word = "--help" ∨ word = "-h" then .ok .help
    else
      let (name, value) := cut word
      match option? name, value, rest with
      | Option.none, _, _ => .error (.unexpected word)
      | some option, some value, rest => do read (← arguments.add option value) rest
      | some option, Option.none, [] => .error (.valueless option)
      | some option, Option.none, value :: rest =>
        if value.startsWith "-" then .error (.valueless option)
        else do read (← arguments.add option value) rest
termination_by words => words.length

/-- What an invocation with these words asks for. -/
def parse (words : List String) : Except ArgumentFault Invocation := read none words

/-- The level and the format of the log are those of the arguments, then those of the settings. The
level is informative and the format is text where neither says anything. -/
def override (arguments : Arguments) (config : Config) : Config :=
  let level := (arguments.logLevel <|> config.logging.level).getD "info"
  let format := (arguments.logFormat <|> config.logging.format).getD .text
  { config with logging := ⟨some level, some format⟩ }

/-- The paths at which the settings are searched, in this order. The second one lies in the home
directory, if there is one. -/
def searchPaths (home : Option String) : List String :=
  ["/etc/tunnel-ha/bridge-server.yaml"] ++
    (home.map (· ++ "/.config/tunnel-ha/bridge-server.yaml")).toList ++ ["./bridge-server.yaml"]

end Arguments

end TunnelFailover
