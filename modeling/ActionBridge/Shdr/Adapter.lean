import ActionBridge.Assoc
import ActionBridge.Shdr.Message
import ActionBridge.Sink
import ActionBridge.Text.Blank
import ActionBridge.Text.Utf8

/-!
# The SHDR adapter

The adapter holds the values of its data items and has any number of clients. A client gets
all values when it connects, and from then on the values that change. What changes while a
transaction gathers is sent at its end. The adapter answers the pings of its clients.

Every client has a number of its own, by which it is found again. Connections are numbered too,
in the order in which they are accepted. Two things are left out: writing to a client never fails,
and the numbers never run out.
-/
namespace ActionBridge.Shdr

/-! ## States -/

/-- What the adapter holds for a data item. -/
structure Slot where
  /-- the value, if one was ever set -/
  value : Option String := none
  /-- whether the clients have yet to hear of the value -/
  changed : Bool := false
  deriving Repr, DecidableEq

/-- The value that clients see in place of one that was never set. -/
def unavailable : String := "UNAVAILABLE"

/-- The value of a slot as clients see it. -/
def Slot.shown (s : Slot) : String := s.value.getD unavailable

/-- The slot after a value is set. -/
def Slot.assign (s : Slot) (value : String) : Slot :=
  if s.value = some value then s else ⟨some value, true⟩

/-- A client that is connected. -/
structure Client where
  /-- the number by which the client is found again -/
  id : Nat
  /-- where the client is -/
  peer : String
  /-- the connection on which the client is written to -/
  connection : Nat
  deriving Repr, DecidableEq

/-- An adapter with its clients. -/
structure Adapter where
  items : List (String × Slot)
  /-- the interval of heartbeats in milliseconds -/
  heartbeat : Nat
  /-- whether changes wait for the end of a transaction -/
  gathering : Bool := false
  clients : List Client := []
  /-- the number for the next client -/
  nextClient : Nat := 0
  /-- for each connection that was accepted the number of the client whose lines are read on it, until
      they are read no more -/
  readers : List (Option Nat) := []
  deriving Repr, DecidableEq

namespace Adapter

/-- The adapter at its start. -/
def start (items : List String) (heartbeat : Nat) : Adapter where
  items := Assoc.ofPairs (items.map fun item => (item, {}))
  heartbeat := heartbeat

/-- The value of a data item, if one was set. -/
def value? (a : Adapter) (item : String) : Option String :=
  (Assoc.get? item a.items).bind (·.value)

/-! ## What clients are sent -/

/-- A message on its way, with the connection on which it is sent. -/
structure Delivery where
  connection : Nat
  message : Message
  deriving Repr, DecidableEq

/-- All data items with their values. -/
def fullRecord (a : Adapter) : Record :=
  a.items.map fun (item, slot) => (item, slot.shown)

/-- The data items whose values the clients have yet to hear of. -/
def changes (a : Adapter) : Record :=
  a.items.filterMap fun (item, slot) => if slot.changed then some (item, slot.shown) else none

/-- The adapter once the clients have heard of all changes. -/
def settled (a : Adapter) : Adapter :=
  { a with items := a.items.map fun (item, slot) => (item, { slot with changed := false }) }

/-- Sends the changes, if there are any, to all clients. -/
def sendChanges (a : Adapter) : Adapter × List Delivery :=
  (a.settled,
    if a.changes.isEmpty then []
    else a.clients.map fun client => ⟨client.connection, .record a.changes⟩)

/-! ## Calls on the sink -/

/-- Sets a data item; unknown ones are ignored. Outside of transactions the change is sent at
    once. -/
def set (a : Adapter) (item value : String) : Adapter × List Delivery :=
  match Assoc.get? item a.items with
  | none => (a, [])
  | some slot =>
    let a := { a with items := Assoc.put item (slot.assign value) a.items }
    if a.gathering then (a, []) else a.sendChanges

/-- Does what a call on the sink asks for. -/
def call (a : Adapter) : SinkCall → Adapter × List Delivery
  | .begin => ({ a with gathering := true }, [])
  | .set item value => a.set item value
  | .complete => { a with gathering := false }.sendChanges

/-! ## Clients -/

/-- Accepts a connection: its client is sent all values, if there are data items at all, and gets a
    number under which its lines are read from then on. -/
def connect (a : Adapter) (peer : String) : Adapter × List Delivery :=
  let connection := a.readers.length
  ({ a with
      clients := a.clients ++ [⟨a.nextClient, peer, connection⟩]
      nextClient := a.nextClient + 1
      readers := a.readers ++ [some a.nextClient] },
    if a.items.isEmpty then [] else [⟨connection, .record a.fullRecord⟩])

/-- The number of the client whose lines are read on a connection, if any are. -/
def reader? (a : Adapter) (connection : Nat) : Option Nat := (a.readers[connection]?).join

/-- Stops reading on a connection, and lets the client of that number go. -/
def leave (a : Adapter) (connection id : Nat) : Adapter :=
  { a with
    clients := a.clients.filter (·.id != id)
    readers := a.readers.set connection none }

/-- Whether a line asks for a sign of life. -/
def isPing (line : String) : Bool :=
  "* PING".toList.isPrefixOf (line.toList.dropWhile Text.isBlank)

/-- Takes a line that was read under a number. A ping is answered to the client of that number, another
    text is ignored. Where there is no such client, and at a line that is no text, the reading ends. -/
def readLine (a : Adapter) (connection id : Nat) (line : List UInt8) : Adapter × List Delivery :=
  match Utf8.decode line with
  | .error _ => (a.leave connection id, [])
  | .ok text =>
    if isPing text then
      match a.clients.find? (·.id == id) with
      | some client => (a, [⟨client.connection, .pong a.heartbeat⟩])
      | none => (a.leave connection id, [])
    else (a, [])

/-- Takes a line from a connection, if lines are read on it. -/
def receive (a : Adapter) (connection : Nat) (line : List UInt8) : Adapter × List Delivery :=
  match a.reader? connection with
  | some id => a.readLine connection id line
  | none => (a, [])

/-- Takes note of the end of a connection. -/
def disconnect (a : Adapter) (connection : Nat) : Adapter :=
  match a.reader? connection with
  | some id => a.leave connection id
  | none => a

/-! ## Runs -/

/-- What can happen to an adapter. Connections are told apart by the number of those that were accepted
    before. -/
inductive Event where
  | told (call : SinkCall)
  | connected (peer : String)
  /-- a line from a connection, without its line break -/
  | received (connection : Nat) (line : List UInt8)
  | disconnected (connection : Nat)
  deriving Repr, DecidableEq

/-- What an event does. -/
def step (a : Adapter) : Event → Adapter × List Delivery
  | .told call => a.call call
  | .connected peer => a.connect peer
  | .received connection line => a.receive connection line
  | .disconnected connection => (a.disconnect connection, [])

/-- What events do, one after the other. -/
def run (a : Adapter) : List Event → Adapter × List Delivery
  | [] => (a, [])
  | e :: es =>
    let (a, first) := a.step e
    let (a, later) := a.run es
    (a, first ++ later)

/-- The messages for the client of one connection. -/
def inbox (connection : Nat) (sent : List Delivery) : List Message :=
  sent.filterMap fun d => if d.connection = connection then some d.message else none

end Adapter

/-- The lines of what a client sends. -/
def linesOf (bytes : List UInt8) : List (List UInt8) := Text.splitAll 10 bytes

end ActionBridge.Shdr
