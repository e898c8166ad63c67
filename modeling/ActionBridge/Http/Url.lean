import ActionBridge.Http.Host
import ActionBridge.Http.Path

/-!
# Addresses of requests

A URL names a server by scheme, host and port, and what is asked of it by path and query. The
schemes of the web have rules of their own: backslashes count as slashes, any number of them may
stand in front of the host, and the usual port is left out.
-/
namespace ActionBridge.Http
open Text

/-- A URL with a host, in parts. -/
structure Url where
  scheme : String
  /-- name and password of a user, with the mark behind them -/
  user : String
  host : Host
  /-- the port, unless it is the usual one of the scheme -/
  port : Option Nat
  path : String
  query : Option String
  /-- what only the client looks at -/
  fragment : Option String
  deriving Repr, DecidableEq

/-- A part with its mark in front, or nothing. -/
def marked (mark : String) : Option String → String
  | some part => mark ++ part
  | none => ""

/-- The URL as text. -/
def Url.text (u : Url) : String :=
  u.scheme ++ "://" ++ u.user ++ u.host.text ++ marked ":" (u.port.map toString) ++ u.path
    ++ marked "?" u.query ++ marked "#" u.fragment

/-- What is asked of the server. An empty query is not. -/
def Url.target (u : Url) : String :=
  u.path ++ marked "?" (u.query.bind nonEmpty?)

/-! ## Schemes -/

/-- The usual port of a scheme. -/
def usualPort? : String → Option Nat
  | "http" | "ws" => some 80
  | "https" | "wss" => some 443
  | "ftp" => some 21
  | _ => none

/-- The scheme of a URL, and what follows its colon. -/
def splitScheme? (cs : List Char) : Option (String × List Char) :=
  match splitFirst ':' cs with
  | some (first :: more, rest) =>
    if first.isAlpha && more.all fun c => c.isAlphanum || "+-.".toList.contains c then
      some (lower (String.ofList (first :: more)), rest)
    else none
  | _ => none

/-! ## Users -/

/-- Characters that end what comes before the path. -/
def endsAuthority (c : Char) : Bool := c == '/' || c == '?' || c == '#'

/-- The name and the password of a user, with the mark behind them. -/
def userText (cs : List Char) : List Char :=
  let (name, password) := (splitFirst ':' cs).getD (cs, [])
  let name := percentEncode unsafeInUser name
  let password := percentEncode unsafeInUser password
  if name.isEmpty && password.isEmpty then []
  else name ++ (if password.isEmpty then [] else ':' :: password) ++ ['@']

/-- The user, and what follows. -/
def splitUser (cs : List Char) : List Char × List Char :=
  match splitLast '@' (cs.takeWhile (!endsAuthority ·)) with
  | some (user, rest) => (userText user, rest ++ cs.dropWhile (!endsAuthority ·))
  | none => ([], cs)

/-! ## Hosts and ports -/

/-- The host and what follows. Colons between brackets belong to the host. -/
def splitHost (inBrackets : Bool) : List Char → List Char × List Char
  | [] => ([], [])
  | c :: cs =>
    if endsAuthority c || (c == ':' && !inBrackets) then ([], c :: cs)
    else
      let inside := c == '[' || (inBrackets && c != ']')
      let (host, rest) := splitHost inside cs
      (c :: host, rest)

/-- The port and what follows. -/
def splitPort (cs : List Char) : Except UrlFault (Option Nat × List Char) :=
  match cs with
  | ':' :: cs =>
    let ds := cs.takeWhile Decimal.isDigit
    let rest := cs.dropWhile Decimal.isDigit
    if 65535 < Decimal.ofDigits ds then .error .invalidPort
    else if rest.head?.all fun c => endsAuthority c || c == '\\' then
      .ok (if ds.isEmpty then none else some (Decimal.ofDigits ds), rest)
    else .error .invalidPort
  | cs => .ok (none, cs)

/-! ## Rules of schemes -/

/-- How the URLs of a scheme are read. -/
structure Rules where
  readHost : List Char → Except UrlFault Host
  /-- the port that is left out -/
  usualPort : Option Nat
  /-- a path in normal form -/
  pathOf : List Char → List Char
  /-- the characters that may not stand in a query -/
  unsafeInQuery : Char → Bool

/-- The rules of a scheme of the web. -/
def Rules.web (usualPort : Option Nat) : Rules where
  readHost := Host.read
  usualPort := usualPort
  pathOf := normalPath
  unsafeInQuery := fun c => Http.unsafeInQuery c || c == '\''

/-- Cuts off the slashes in front of a text. -/
def withoutSlashes (cs : List Char) : List Char := cs.dropWhile (· == '/')

/-- The rules of files. Their paths begin with one slash. -/
def Rules.file : Rules :=
  { Rules.web none with pathOf := fun path => '/' :: withoutSlashes (normalPath path) }

/-- The rules of any other scheme. -/
def Rules.plain : Rules where
  readHost := Host.readPlain
  usualPort := none
  pathOf := fun path => if path.isEmpty then [] else normalPath path
  unsafeInQuery := Http.unsafeInQuery

/-! ## Reading -/

/-- Puts together a URL from the parts in front of the path, and the text behind them. -/
def Rules.url (r : Rules) (scheme : String) (user : List Char) (host : Host) (port : Option Nat)
    (cs : List Char) : Url :=
  let (beforeFragment, fragment) := cs.span (· != '#')
  let (path, query) := beforeFragment.span (· != '?')
  { scheme := scheme
    user := String.ofList user
    host := host
    port := if port = r.usualPort then none else port
    path := String.ofList (r.pathOf path)
    query := query.tail?.map fun q => String.ofList (percentEncode r.unsafeInQuery q)
    fragment := fragment.tail?.map fun f => String.ofList (percentEncode unsafeInFragment f) }

/-- The URL that a text writes behind the scheme and the slashes. -/
def Rules.read (r : Rules) (scheme : String) (cs : List Char) : Except UrlFault Url := do
  let (user, cs) := splitUser cs
  let (host, cs) := splitHost false cs
  if host.isEmpty then .error .emptyHost
  else
    let host ← r.readHost host
    let (port, cs) ← splitPort cs
    pure (r.url scheme user host port cs)

/-- The URL of a file behind two slashes. Drives, and files of the own machine, are on no
    host. -/
def readFileUrl (cs : List Char) : Except UrlFault Url := do
  let (host, cs) := cs.span (!endsAuthority ·)
  let path := cs.takeWhile fun c => c != '?' && c != '#'
  if host.isEmpty || isDrive host then .error .emptyHost
  else
    let host ← Host.read host
    if host = .name "localhost" ∨ (segmentsOf path).head?.any isDrive then .error .emptyHost
    else pure (Rules.file.url "file" [] host none cs)

/-- A text without space around it, and without line breaks and tabs. -/
def tidy (cs : List Char) : List Char :=
  (stripWhile (fun c => c.toNat ≤ 0x20) cs).filter fun c => c != '\t' && c != '\n' && c != '\r'

/-- A text in which backslashes are slashes, but for those of the query and the fragment. -/
def withSlashes (cs : List Char) : List Char :=
  let (front, rest) := cs.span fun c => c != '?' && c != '#'
  front.map (fun c => if c == '\\' then '/' else c) ++ rest

/-- The URL that a text writes. Without a host it is none. -/
def Url.ofText (s : String) : Except UrlFault Url :=
  match splitScheme? (tidy s.toList) with
  | none => .error .relative
  | some (scheme, rest) =>
    match usualPort? scheme with
    | some port => (Rules.web port).read scheme (withoutSlashes (withSlashes rest))
    | none =>
      let isFile := scheme = "file"
      match if isFile then withSlashes rest else rest with
      | '/' :: '/' :: rest => if isFile then readFileUrl rest else Rules.plain.read scheme rest
      | _ => .error .emptyHost

end ActionBridge.Http
