import CallbackGate.Dispatch.Table

/-!
# Dispatch

Dispatching an envelope classifies it, builds its payload and runs one handler.
On the way it advances from stage to stage, and `Progress` records that.  The
result says which handler ran in what context, how dispatch ended, which stages
it went through and whether it was permitted to.
-/

namespace CallbackGate

/-- The stages of dispatch. -/
inductive Stage
  | received
  | classified
  | dispatched
  | responded
  | unknown
  deriving DecidableEq, Repr

namespace Stage

/-- Dispatch ends here. -/
def isTerminal : Stage → Bool
  | .responded | .unknown => true
  | _ => false

/-- Dispatch may go from one stage to the other. -/
def canAdvance : Stage → Stage → Bool
  | .received, .classified
  | .classified, .dispatched
  | .dispatched, .responded
  | .dispatched, .unknown => true
  | _, _ => false

/-- The name under which a stage is shown. -/
def name : Stage → String
  | .received => "Received"
  | .classified => "Classified"
  | .dispatched => "Dispatched"
  | .responded => "Responded"
  | .unknown => "Unknown"

end Stage

/-- How dispatch ended. -/
inductive Terminal
  /-- The handler of the route answered. -/
  | responded (route : Route)
  /-- No handler is registered for the route. -/
  | unhandled (route : Route)
  /-- The envelope has no route. -/
  | unclassified (miss : Miss)
  deriving DecidableEq, Repr

namespace Terminal

/-- The stage in which dispatch ended. -/
def stage : Terminal → Stage
  | .responded _ => .responded
  | .unhandled _ | .unclassified _ => .unknown

/-- The route of the envelope, if it has one. -/
def route? : Terminal → Option Route
  | .responded route | .unhandled route => some route
  | .unclassified _ => none

end Terminal

/-- A handler that ran. -/
structure Call where
  /-- The number of its registration; absent for the handler of everything
  else. -/
  registration : Option Nat
  context : Context
  deriving DecidableEq

/-- The outcome of dispatch. -/
structure Dispatched where
  terminal : Terminal
  reply : Reply
  /-- The handlers that ran, in order. -/
  calls : List Call
  /-- The stages that dispatch went through, in order. -/
  stages : List Stage
  /-- Dispatch went to no stage that it may not go to. -/
  permitted : Bool
  deriving DecidableEq

/-- Dispatch under way. -/
structure Progress where
  /-- The stage that dispatch is in. -/
  stage : Stage
  /-- The stages that dispatch was in so far, in order, and this one. -/
  stages : List Stage
  /-- Dispatch went to no stage that it may not go to. -/
  permitted : Bool
  /-- The handlers that ran so far, in order. -/
  calls : List Call
  deriving DecidableEq

namespace Progress

/-- An envelope was received. -/
def start : Progress :=
  ⟨.received, [.received], true, []⟩

/-- Go on to a stage.  Whether dispatch may go there is an assertion: it is noted
if it fails, and dispatch goes there all the same. -/
def advance (progress : Progress) (next : Stage) : Progress :=
  { progress with
    stage := next
    stages := progress.stages ++ [next]
    permitted := progress.permitted && progress.stage.canAdvance next }

/-- Run a handler. -/
def run (progress : Progress) (number : Option Nat) (handler : Handler)
    (context : Context) : Reply × Progress :=
  (handler context,
    { progress with calls := progress.calls ++ [⟨number, context⟩] })

/-- End with a reply. -/
def finish (progress : Progress) (terminal : Terminal) (reply : Reply) :
    Dispatched :=
  ⟨terminal, reply, progress.calls, progress.stages, progress.permitted⟩

end Progress

/-- Run the handler that a table has for an envelope. -/
def dispatch (table : Table) (envelope : Envelope)
    (security : Option SecurityContext) : Dispatched :=
  let progress := Progress.start
  let classified := classify envelope
  let progress := progress.advance .classified
  let (route, entry) := match classified with
    | .ok route => (some route, table.find? route)
    | .error _ => (none, none)
  let context : Context :=
    ⟨envelope, route, route.map (Payload.ofRoute · envelope), security⟩
  let progress := progress.advance .dispatched
  match classified, entry with
  | .ok route, some entry =>
    let (reply, progress) :=
      progress.run (some entry.number) entry.handler context
    (progress.advance .responded).finish (.responded route) reply
  | .ok route, none =>
    let (reply, progress) := progress.run none table.unknown context
    (progress.advance .unknown).finish (.unhandled route) reply
  | .error miss, _ =>
    let (reply, progress) := progress.run none table.unknown context
    (progress.advance .unknown).finish (.unclassified miss) reply

end CallbackGate
