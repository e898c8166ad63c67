import ActionBridge.Command.Report

/-!
# The program

The command line of the bridge. The program reads files and has no network, so the agent of
a run refuses the connection.
-/
namespace ActionBridge.Command

/-- The fault that a code of the system stands for. Codes may be negated. -/
def faultOfCode (code : UInt32) (reason : String) : ReadFault :=
  match (if code < 0x80000000 then code else 0 - code).toNat with
  | 2 => .absent
  | 13 => .denied
  | 20 => .notFolder
  | 21 => .folder
  | 36 => .nameTooLong
  | _ => .other reason

/-- The fault of an error. -/
def faultOfError (e : IO.Error) : ReadFault :=
  match e with
  | .noFileOrDirectory _ code reason => faultOfCode code reason
  | .permissionDenied _ code reason => faultOfCode code reason
  | .inappropriateType _ code reason => faultOfCode code reason
  | .invalidArgument _ code reason => faultOfCode code reason
  | e => .other (toString e)

/-- Reads a file. -/
def readFile (path : String) : IO (Except ReadFault (List UInt8)) := do
  if path.toList.contains '\x00' then pure (.error .zeroInName)
  else
    try
      let bytes ← IO.FS.readBinFile path
      pure (.ok bytes.toList)
    catch e => pure (.error (faultOfError e))

/-- The path of the configuration that a command needs. -/
def configPath? : Option Command → Option String
  | some (.run path _) | some (.validate path) => some path
  | _ => none

end ActionBridge.Command

open ActionBridge in
/-- Executes the command line and exits with its code. -/
def main (args : List String) : IO UInt32 := do
  let environment ← IO.getEnv "MTCONNECT_BRIDGE_CONFIG"
  let command := Command.ofArguments environment args
  let content ← match Command.configPath? command with
    | some path => Command.readFile path
    | none => pure (.error .absent)
  let (report, _) := Command.execute {} (fun _ => content) {} command
  IO.print report.output
  IO.eprint report.errors
  pure (UInt32.ofNat report.code.toNat)
