/-!
# Outcomes

How a call ends: with a value, with an error that the caller goes on from, or with a crash,
after which the caller itself does not go on.
-/
namespace ActionBridge

/-- Why a call does not return. -/
inductive Crash where
  /-- it panics with this message -/
  | panic (message : String)
  /-- it waits for something that never comes -/
  | endless
  /-- the program ends, since as many bytes cannot be allocated -/
  | abort (bytes : Nat)
  deriving Repr, DecidableEq

/-- Whether the caller can catch the crash and go on. -/
def Crash.isPanic : Crash → Bool
  | .panic _ => true
  | .endless | .abort _ => false

/-- How a call ends. -/
inductive Outcome (ε α : Type) where
  | ok (a : α)
  | error (e : ε)
  | crash (c : Crash)
  deriving Repr, DecidableEq

namespace Outcome

variable {ε α β : Type}

/-- The outcome with its value changed. -/
def map (f : α → β) : Outcome ε α → Outcome ε β
  | .ok a => .ok (f a)
  | .error e => .error e
  | .crash c => .crash c

/-- An outcome without crashes. -/
def ofExcept : Except ε α → Outcome ε α
  | .ok a => .ok a
  | .error e => .error e

end Outcome
end ActionBridge
