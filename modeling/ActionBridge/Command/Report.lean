import ActionBridge.Command.Arguments
import ActionBridge.Command.Run

/-!
# What a command reports

A command ends with an exit code, and with a line on standard output or standard error.
-/
namespace ActionBridge

/-- The exit codes. -/
inductive ExitCode where
  | success
  /-- the command line is ill-formed -/
  | usage
  /-- the configuration is refused -/
  | invalidConfig
  /-- the agent cannot be reached or followed -/
  | transport
  | internal
  /-- a call panicked, or never ends -/
  | crashed
  /-- the memory does not suffice -/
  | aborted
  deriving Repr, DecidableEq

def ExitCode.toNat : ExitCode → Nat
  | .success => 0
  | .usage => 2
  | .invalidConfig => 10
  | .transport => 11
  | .internal => 20
  | .crashed => 101
  | .aborted => 134

/-- The exit code of an error. -/
def CommandFault.exitCode : CommandFault → ExitCode
  | .bridge (.invalidConfig ..) => .invalidConfig
  | .bridge (.transport _) => .transport
  | .bridge _ | .adapterStart _ => .internal

/-- What a command leaves behind. -/
structure Report where
  code : ExitCode
  output : String := ""
  errors : String := ""
  deriving Repr, DecidableEq

/-- The report of an error. -/
def Report.ofError (e : CommandFault) : Report :=
  { code := e.exitCode, errors := "error: " ++ e.message ++ "\n" }

/-- The report of an outcome whose value does not matter. -/
def Report.ofOutcome {α : Type} : Outcome CommandFault α → Report
  | .ok _ => { code := .success }
  | .error e => .ofError e
  | .crash (.panic message) => { code := .crashed, errors := message ++ "\n" }
  | .crash .endless => { code := .crashed }
  | .crash (.abort bytes) =>
    { code := .aborted, errors := s!"memory allocation of {bytes} bytes failed\n" }

namespace Command

def versionText : String := "mtconnect-bridge 0.3.2\n"

def helpText : String :=
  "Run remote actions requested through an MTConnect agent\n\n"
    ++ "Usage: mtconnect-bridge <COMMAND>\n\n"
    ++ "Commands:\n"
    ++ "  run       Follow the agent stream and dispatch requested actions\n"
    ++ "  validate  Check a bridge TOML file and exit\n"
    ++ "  help      Print this message or the help of the given subcommand(s)\n\n"
    ++ "Options:\n"
    ++ "  -h, --help     Print help\n"
    ++ "  -V, --version  Print version\n"

/-- What is said of a configuration that is accepted. -/
def acceptance (path : String) (c : Config) : String :=
  path ++ ": ok (" ++ toString c.actions.size ++ " action(s), agent " ++ c.agent.rootUrl ++ ")\n"

/-- Executes a command line. Files are read by `files`, and servers are reached in `w`. -/
def execute (computer : Computer) (files : String → Except ReadFault (List UInt8)) (w : Http.Network) :
    Option Command → Report × Http.Network
  | none => ({ code := .usage }, w)
  | some .version => ({ code := .success, output := versionText }, w)
  | some .help => ({ code := .success, output := helpText }, w)
  | some (.validate path) =>
    match Config.load path (files path) with
    | .error e => (.ofError (.bridge e), w)
    | .ok c => ({ code := .success, output := acceptance path c }, w)
  | some (.run path simulate) =>
    match Config.load path (files path) with
    | .error e => (.ofError (.bridge e), w)
    | .ok c =>
      let session := c.run computer simulate w
      (.ofOutcome session.outcome, session.world)

end Command
end ActionBridge
