import ActionBridge.Multipart.Boundary
import ActionBridge.Multipart.Splitter

/-!
# The agent

The agent answers with its current document, and streams the documents that follow it from a
sequence number on.
-/
namespace ActionBridge

/-- Where the agent is, and how its stream is asked for. -/
structure Agent where
  url : String
  /-- the one device to follow -/
  device : Option String
  /-- the namespace of the agent's documents -/
  space : String
  /-- milliseconds between documents of the stream -/
  interval : Nat
  /-- the most observations in a document -/
  count : Nat
  deriving Repr, DecidableEq

namespace Agent

/-- The URL in front of all paths. -/
def rootUrl (a : Agent) : String :=
  let url := Text.trimEnd '/' a.url
  match a.device with
  | some device => url ++ "/" ++ Text.trimBoth '/' device
  | none => url

/-- The path of the stream from a sequence number on. -/
def streamPath (a : Agent) (sequence : String) : String :=
  "/sample?interval=" ++ toString a.interval ++ "&count=" ++ toString a.count
    ++ "&from=" ++ sequence

/-- Asks for a path; any answer but one of status 200 is an error. -/
def fetch (a : Agent) (path : String) (s : Http.Network) :
    Except BridgeFault Http.Response × Http.Network :=
  let url := a.rootUrl ++ path
  match s.call "GET" url "" with
  | (.error fault, s) => (.error (.transport (.fetch url fault)), s)
  | (.ok r, s) =>
    if r.status = 200 then (.ok r, s)
    else (.error (.transport (.fetch url (.status url r.status r.reason))), s)

/-- The document in a response. -/
def documentOf (r : Http.Response) : Except BridgeFault String :=
  r.text.mapError fun reason => .transport (.document reason)

/-- The current document. -/
def current (a : Agent) (s : Http.Network) : Except BridgeFault String × Http.Network :=
  let (answer, s) := a.fetch "/current" s
  (answer.bind documentOf, s)

/-- How the body of a response is cut into parts, with the given memory for these. -/
def framing (memory : Nat) (r : Http.Response) : Multipart.Framing :=
  ⟨(r.contentType.bind Multipart.boundary?).map Multipart.delimiterOf, r.broken, memory⟩

/-- The stream from a sequence number on. -/
def stream (a : Agent) (memory : Nat) (sequence : String) (s : Http.Network) :
    Except BridgeFault Multipart.Split × Http.Network :=
  let (answer, s) := a.fetch (a.streamPath sequence) s
  (answer.map fun r => Multipart.split (framing memory r) r.body, s)

end Agent
end ActionBridge
