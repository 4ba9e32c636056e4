import FramedLink.CommandLine
import FramedLink.Text.Json

set_option autoImplicit false
set_option relaxedAutoImplicit false

/-!
# Log lines

An event is logged when it is at least as important as the chosen level asks for. A line shows
the level, the message and the named values; from the level `debug` on, where events of all
parts of the program mix, it also shows the part that the event comes from.

## Main definitions

* `FramedLink.Event.textLine`, `FramedLink.Event.jsonLine` — the two layouts.
* `FramedLink.logLines` — the lines of a list of events.
-/

namespace FramedLink

/-- The text of a value. -/
def FieldValue.describe : FieldValue → String
  | number n => toString n
  | boolean b => toString b
  | text s => s

/-- A value in JSON. -/
def FieldValue.toJson : FieldValue → Text.Json
  | number n => .nat n
  | boolean b => .boolean b
  | text s => .text s

namespace Event

/-- The message of an event, followed by its named values. -/
def sentence (e : Event) : String :=
  e.fields.foldl (fun line (name, value) => line ++ " " ++ name ++ "=" ++ value.describe) e.message

/-- A line of text. The level is set flush right in five columns. -/
def textLine (showSource : Bool) (e : Event) : String :=
  let label := e.level.label
  let padding := String.ofList (List.replicate (6 - label.length) ' ')
  padding ++ label ++ " " ++ (if showSource then e.source ++ ": " else "") ++ e.sentence

/-- A line of JSON. -/
def jsonLine (showSource : Bool) (e : Event) : String :=
  let values := e.fields.map fun (name, value) => (name, value.toJson)
  let source := if showSource then [("target", Text.Json.text e.source)] else []
  (Text.Json.object ([("level", .text e.level.label), ("message", .text e.message)] ++ values ++
    source)).render

end Event

/-- The lines of the events that are important enough. -/
def logLines (format : LogFormat) (level : Level) (events : List Event) : List String :=
  let shown := events.filter (·.level.rank ≤ level.rank)
  let showSource := decide (Level.debug.rank ≤ level.rank)
  shown.map fun e =>
    match format with
    | .text => e.textLine showSource
    | .json => e.jsonLine showSource

end FramedLink
