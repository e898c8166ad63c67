import ActionBridge.Assoc
import ActionBridge.Http.Response
import ActionBridge.Http.Url

/-!
# Scripted servers

A network has any number of servers. A server answers each kind of request from a script: the
first such request gets the first response of the script, the next one the next, and the last
response is given again and again. The network keeps a list of the requests that reached a
server. Where none listens the connection is refused.
-/
namespace ActionBridge.Http

/-! ## Requests -/

/-- Where a server is. -/
structure Address where
  host : Host
  port : Nat
  deriving Repr, DecidableEq

/-- What a request is for: path and query at a server. -/
structure Target where
  address : Address
  path : String
  deriving Repr, DecidableEq

/-- What is below a folder of a server. -/
instance : HAppend Target String Target := ⟨fun folder path => { folder with path := folder.path ++ path }⟩

/-- What a server is asked. -/
structure Request where
  method : String
  target : Target
  body : String
  deriving Repr, DecidableEq

/-- The kind of a request: the server, and method and path. Scripts are told apart by it. -/
structure Line where
  address : Address
  text : String
  deriving Repr, DecidableEq

def Request.line (r : Request) : Line := ⟨r.target.address, r.method ++ " " ++ r.target.path⟩

/-- Where the server of a URL is, if the scheme has a usual port or the URL names one. -/
def Url.address? (u : Url) : Option Address :=
  (u.port.or (usualPort? u.scheme)).map fun port => ⟨u.host, port⟩

/-! ## Servers -/

/-- Servers with their scripts, and the requests that they got so far. -/
structure Network where
  /-- where a server listens -/
  listening : List Address := []
  scripts : List (Line × List Response) := []
  requests : List Request := []
  deriving Repr, DecidableEq

/-- The answer to what no script is for. -/
def notFound : Response :=
  { status := 404, reason := "Not Found", body := Utf8.bytesOf "not found" }

/-- The answer of the server that a request is for, and the network afterwards. -/
def Network.respond (s : Network) (r : Request) : Response × Network :=
  let s := { s with requests := s.requests ++ [r] }
  match Assoc.get? r.line s.scripts with
  | none | some [] => (notFound, s)
  | some [last] => (last, s)
  | some (next :: rest) => (next, { s with scripts := Assoc.put r.line rest s.scripts })

/-- The number of different answers that are left for a kind of request. -/
def Network.remaining (s : Network) (line : Line) : Nat :=
  match Assoc.get? line s.scripts with
  | none => 0
  | some responses => responses.length

/-- What a URL asks for, if a server listens where it leads. -/
def Network.leads? (s : Network) (u : Url) : Option Target :=
  if u.scheme = "http" then
    (u.address?.filter s.listening.contains).map fun address => ⟨address, u.target⟩
  else none

/-! ## Calls -/

/-- Why a call has no response to go on with. -/
inductive CallFault where
  /-- what is called is no URL -/
  | badUrl (fault : UrlFault)
  /-- nothing can be called by the scheme of `url` -/
  | unknownScheme (url scheme : String)
  /-- no connection is made -/
  | refused (url : String)
  /-- the answer to a request for `url` does not begin as answers do -/
  | badStatus (url : String) (fault : StatusFault)
  /-- the answer to a request for `url` has a status of 400 or above -/
  | status (url : String) (code : Nat) (reason : String)
  deriving Repr, DecidableEq

/-- The wording of a fault. -/
def CallFault.message : CallFault → String
  | .badUrl fault => s!"Bad URL: failed to parse URL: {fault.message}"
  | .unknownScheme url scheme => s!"{url}: Unknown Scheme: unknown scheme '{scheme}'"
  | .refused url =>
    s!"{url}: Connection Failed: Connect error: Connection refused (os error 111)"
  | .badStatus url fault => s!"{url}: Bad Status: {fault.message}"
  | .status url code _ => s!"{url}: status code {code}"

/-- The answer of a server, as far as the client can go on with it. -/
def Response.accepted (url : String) (r : Response) : Except CallFault Response :=
  match r.received with
  | .error fault => .error (.badStatus url fault)
  | .ok r => if 400 ≤ r.status then .error (.status url r.status r.reason) else .ok r

/-- Sends a request for a URL and waits for the answer. -/
def Network.call (s : Network) (method url body : String) :
    Except CallFault Response × Network :=
  match Url.ofText url with
  | .error fault => (.error (.badUrl fault), s)
  | .ok u =>
    if u.scheme ≠ "http" ∧ u.scheme ≠ "https" then
      (.error (.unknownScheme u.text u.scheme), s)
    else
      match s.leads? u with
      | none => (.error (.refused u.text), s)
      | some target =>
        let (r, s) := s.respond ⟨method, target, body⟩
        (r.accepted u.text, s)

/-- How many requests of a kind tell all that the server will ever answer to it: from then on
    the answer stays the same. -/
def Network.patience (s : Network) (method url : String) : Nat :=
  match (Url.ofText url).toOption.bind s.leads? with
  | none => 1
  | some target => s.remaining (Request.line ⟨method, target, ""⟩) + 1

end ActionBridge.Http
