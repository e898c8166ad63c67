/-!
# The outbound sink

Data items are set inside transactions. What is told to a sink is a list of calls, since a
sink answers nothing.
-/
namespace ActionBridge

/-- A call on the outbound sink. -/
inductive SinkCall where
  | begin
  /-- gives a data item a value -/
  | set (item value : String)
  | complete
  deriving Repr, DecidableEq

/-- Sets one data item in a transaction of its own. -/
def transaction (item value : String) : List SinkCall := [.begin, .set item value, .complete]

end ActionBridge
