import ActionBridge.Decimal.Notation
import ActionBridge.Multipart.Splitter
import ActionBridge.Text.Blank

/-!
# The computer

What the program finds where it runs, besides files and servers: the system, which may refuse to
listen somewhere, and the memory, which holds no more than it holds.
-/
namespace ActionBridge

/-- The computer of a run. -/
structure Computer where
  /-- why the system refuses to listen at a port of a host, if it does: the host has no address here,
      the port is taken, ... -/
  refusal : (host : String) → (port : Nat) → Option String := fun _ _ => none
  /-- bodies of this length and of greater ones cannot be allocated -/
  memory : Nat := Multipart.addressable

/-- Starts to listen at an address, which is a host and a port. -/
def Computer.listen (computer : Computer) (address : String) : Except AdapterFault Unit :=
  match Text.splitLast ':' address.toList with
  | none => .error (.address address)
  | some (host, port) =>
    match Decimal.unsigned? 16 (String.ofList port) with
    | none => .error (.port address)
    | some number =>
      match computer.refusal (String.ofList host) number with
      | none => .ok ()
      | some reason => .error (.refused address reason)

end ActionBridge
