import CallbackGate.Dispatch.Table
import CallbackGate.Service.Settings

/-!
# Automatic replies

What a service answers when no one writes handlers for it: a welcome to new
subscribers, their own text to those who write, and nothing to anyone else.
-/

namespace CallbackGate

/-- Which automatic replies are given. -/
structure AutoReply where
  /-- The welcome to new subscribers. -/
  welcomeText : Option String := none
  /-- Text messages are answered with their own text. -/
  echoText : Bool := false
  deriving DecidableEq, Repr

namespace AutoReply

/-- The automatic replies that settings ask for. -/
def ofSettings (settings : Settings) : AutoReply :=
  ⟨settings.welcomeText, settings.echoText⟩

/-- Answer with a welcome. -/
def welcome (text : String) : Handler := fun _ => .text text

/-- Answer a text message with its own text, unless that is empty. -/
def echo : Handler := fun context =>
  match context.payload with
  | some (.text _ content) =>
    if content.isEmpty then .empty else .text content
  | _ => .empty

/-- The handlers of automatic replies. -/
def registrations (replies : AutoReply) : List (Route × Handler) :=
  let welcomes := match replies.welcomeText with
    | some text =>
      [(.event .subscribe, welcome text), (.event .qrSubscribe, welcome text)]
    | none => []
  welcomes ++ if replies.echoText then [(.message .text, echo)] else []

/-- The table of automatic replies. -/
def table (replies : AutoReply) : Table :=
  .ofList replies.registrations none

end AutoReply

end CallbackGate
