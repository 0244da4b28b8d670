import CallbackGate.Cipher.Frame
import CallbackGate.Dispatch.Payload
import CallbackGate.KeyRing
import CallbackGate.Message.Reply

/-!
# Dispatch tables

A table registers handlers for routes, one after the other.  The handler of a
route is the one registered for it last.  A further handler answers envelopes
without a route and routes without a handler; unless one is given it answers
with the empty reply.
-/

namespace CallbackGate

/-- What is known about a secure delivery that was opened. -/
structure SecurityContext where
  /-- The random bytes of the frame. -/
  salt : Salt
  /-- Which key of the ring opened it. -/
  generation : Generation
  timestamp : String
  nonce : String
  /-- The key that opened it, under which the reply is sealed. -/
  key : Key
  deriving DecidableEq

/-- What a handler sees. -/
structure Context where
  envelope : Envelope
  /-- Absent when the envelope has no route. -/
  route : Option Route
  /-- Absent when the envelope has no route. -/
  payload : Option Payload
  /-- Present for secure deliveries. -/
  security : Option SecurityContext
  deriving DecidableEq

/-- Answers a message. -/
abbrev Handler := Context → Reply

/-- A handler that was registered for a route, with its number in the order of
registration. -/
structure Registration where
  number : Nat
  route : Route
  handler : Handler

/-- Handlers by route. -/
structure Table where
  /-- The registrations, the last one first. -/
  registrations : List Registration := []
  /-- The handler for everything else. -/
  unknown : Handler := fun _ => .empty

namespace Table

/-- Register a handler for a route. -/
def register (table : Table) (route : Route) (handler : Handler) : Table :=
  { table with
    registrations :=
      ⟨table.registrations.length, route, handler⟩ :: table.registrations }

/-- The table with the given registrations, made in their order, and perhaps a
handler for everything else. -/
def ofList (registrations : List (Route × Handler))
    (unknown : Option Handler) : Table :=
  registrations.foldl (fun table entry => table.register entry.1 entry.2)
    { unknown := unknown.getD fun _ => .empty }

/-- The registration that holds for a route. -/
def find? (table : Table) (route : Route) : Option Registration :=
  table.registrations.find? (·.route == route)

/-- A handler is registered for a route. -/
def contains (table : Table) (route : Route) : Bool :=
  (table.find? route).isSome

/-- The routes with a handler, each once. -/
def routes (table : Table) : List Route :=
  Route.all.filter table.contains

/-- The number of routes with a handler. -/
def size (table : Table) : Nat := table.routes.length

/-- No route has a handler. -/
def isEmpty (table : Table) : Bool := table.routes.isEmpty

/-- The text shown for a table, with the routes sorted by their texts. -/
def shown (table : Table) : String :=
  let names := (table.routes.map Route.shown).mergeSort fun a b => decide (a ≤ b)
  "DispatchTable \x7b routes: [" ++ String.intercalate ", " names ++ "] \x7d"

end Table

end CallbackGate
