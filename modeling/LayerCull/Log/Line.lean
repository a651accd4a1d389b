import LayerCull.Log.Event
import LayerCull.Text.Quoted

/-!
This module contains how an event is written into the log: as a line of text, or as an object of JSON.
-/

namespace LayerCull.Log

inductive Format where
  | compact
  | json
  deriving DecidableEq, Repr

/-- When an event was noted, and how many milliseconds the cleanup has taken. -/
structure Clock where
  timestamp : String
  elapsed : String

namespace Line

/-- Controls that could steer a terminal are written as escapes. -/
def escape (c : Char) : List Char :=
  let code := c.toNat
  if code = 0x1B ∨ code = 0x07 ∨ code = 0x08 ∨ code = 0x0C ∨ code = 0x7F then
    ['\\', 'x'] ++ Text.Digits.twoHex code
  else if 0x80 ≤ code ∧ code ≤ 0x9F then
    ['\\', 'u', '\x7b'] ++ Text.Digits.hex code ++ ['\x7d']
  else
    [c]

/-- The name of a level, in five columns. -/
def levelColumn (level : Level) : String :=
  String.ofList (List.replicate (5 - level.name.length) ' ') ++ level.name

def compact (clock : Clock) (event : Event) : String :=
  clock.timestamp ++ " " ++ levelColumn event.level ++ " " ++
    String.ofList ((event.message clock.elapsed).toList.flatMap escape)

def json (clock : Clock) (event : Event) : String :=
  "\x7b\"timestamp\":" ++ Text.jsonQuoted clock.timestamp ++
    ",\"level\":" ++ Text.jsonQuoted event.level.name ++
    ",\"fields\":\x7b\"message\":" ++ Text.jsonQuoted (event.message clock.elapsed) ++ "\x7d\x7d"

end Line

def Event.line (event : Event) (format : Format) (clock : Clock) : String :=
  match format with
  | .compact => Line.compact clock event
  | .json => Line.json clock event

end LayerCull.Log
