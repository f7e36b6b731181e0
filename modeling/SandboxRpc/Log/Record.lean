import SandboxRpc.Log.Detail
import SandboxRpc.Log.Level

/-!
# Records of a log

A record says in words what happened, how much it matters, and in which part of the program it
happened, but not when. `LogRecord.written` is its text for a terminal, where the level has a colour,
the part is dim, and the names of the details are in italics.
-/

namespace SandboxRpc

/-- Something that happened, in words. -/
structure LogRecord where
  level : LogLevel
  /-- The part of the program where it happened. -/
  part : String
  message : String
  /-- The details by name. -/
  details : List (String × Detail) := []
deriving DecidableEq, Repr

/-- A text with a style, which a terminal knows by its number. -/
def styled (style text : String) : String :=
  s!"\x1b[{style}m{text}\x1b[0m"

namespace LogLevel

/-- The name of a level, filled up to five letters. -/
def label : LogLevel → String
  | off => "  OFF"
  | error => "ERROR"
  | warn => " WARN"
  | info => " INFO"
  | debug => "DEBUG"
  | trace => "TRACE"

/-- The style of a level: its colour. -/
def style : LogLevel → String
  | off => "0"
  | error => "31"
  | warn => "33"
  | info => "32"
  | debug => "34"
  | trace => "35"

end LogLevel

namespace LogRecord

def dim : String := "2"

def italic : String := "3"

/-- A detail behind its name. -/
def detailText (detail : String × Detail) : String :=
  " " ++ styled italic detail.1 ++ styled dim "=" ++ detail.2.written

/-- The names of what a record holds. The message is the first of them. -/
def names (record : LogRecord) : List String :=
  "message" :: record.details.map Prod.fst

/-- The text of a record, without a line end after it. -/
def written (record : LogRecord) : String :=
  styled record.level.style record.level.label ++ " " ++ styled dim record.part ++ styled dim ":" ++
    " " ++ record.message ++ String.join (record.details.map detailText)

end LogRecord

end SandboxRpc
