/-!
# Arguments of the command line

The first argument names a command, and options follow it. The configuration of a run may
come from the environment instead.
-/
namespace ActionBridge

/-- What the command line asks for. -/
inductive Command where
  /-- follow the agent; simulated actions need no action server -/
  | run (config : String) (simulate : Bool)
  /-- check a configuration -/
  | validate (config : String)
  | version
  | help
  deriving Repr, DecidableEq

namespace Command

/-! ## Options -/

/-- The options given so far. -/
structure Options where
  config : Option String := none
  simulate : Bool := false
  deriving Repr, DecidableEq

/-- What options say. -/
inductive Reading where
  | options (o : Options)
  | help
  deriving Repr, DecidableEq

/-- Whether an argument can be the value of the option before it. -/
def isValue (arg : String) : Bool := !("-".toList.isPrefixOf arg.toList) || arg == "-"

/-- Whether an argument asks for help. -/
def asksHelp (arg : String) : Bool := arg == "--help" || "-h".toList.isPrefixOf arg.toList

/-- The value of an argument `--config=value`. -/
def joinedConfig? (arg : String) : Option String :=
  if "--config=".toList.isPrefixOf arg.toList then
    some (String.ofList (arg.toList.drop "--config=".length))
  else none

/-- The options with a configuration, which is given once at most and never empty. -/
def Options.withConfig (o : Options) (config : String) : Option Options :=
  if o.config.isSome || config == "" then none else some { o with config := some config }

/-- Reads options; `--simulate` is only for runs. -/
def readOptions (ofRun : Bool) (o : Options) : List String → Option Reading
  | [] => some (.options o)
  | ["--"] => some (.options o)
  | arg :: rest =>
    if asksHelp arg then some .help
    else if arg = "--simulate" then
      if ofRun && !o.simulate then readOptions ofRun { o with simulate := true } rest else none
    else if arg = "--config" then
      match rest with
      | [] => none
      | value :: rest =>
        if isValue value then (o.withConfig value).bind fun o => readOptions ofRun o rest
        else none
    else
      match joinedConfig? arg with
      | some value => (o.withConfig value).bind fun o => readOptions ofRun o rest
      | none => none

/-! ## Commands -/

/-- The configuration of a run from the environment. -/
def fromEnvironment (environment : Option String) : Option String :=
  environment.bind fun config => if config == "" then none else some config

/-- The command of a command line; nothing if it is ill-formed. -/
def ofArguments (environment : Option String) : List String → Option Command
  | "run" :: args =>
    match readOptions true {} args with
    | none => none
    | some .help => some .help
    | some (.options o) =>
      (o.config.or (fromEnvironment environment)).map fun config => .run config o.simulate
  | "validate" :: args =>
    match readOptions false {} args with
    | none => none
    | some .help => some .help
    | some (.options o) => o.config.map .validate
  | ["help"] | ["help", "run"] | ["help", "validate"] | ["help", "help"] => some .help
  | arg :: _ =>
    if asksHelp arg then some .help
    else if arg == "--version" || "-V".toList.isPrefixOf arg.toList then some .version
    else none
  | [] => none

end Command
end ActionBridge
