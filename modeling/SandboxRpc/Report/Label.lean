/-!
# Labels in DOT files

A label is written between double quotes. `Label.encode` puts a backslash before quotes and
backslashes and writes a line end as `\n`, so that a label stays on its line and ends where it
should.
-/

namespace SandboxRpc.Label

/-- A character of a label. -/
def encodeChar (c : Char) : List Char :=
  if c = '\\' then ['\\', '\\']
  else if c = '"' then ['\\', '"']
  else if c = '\n' then ['\\', 'n']
  else [c]

/-- The characters of a label between its quotes. -/
def encode (cs : List Char) : List Char :=
  cs.flatMap encodeChar

/-- A label between its quotes. -/
def quoted (label : String) : String :=
  String.ofList ('"' :: encode label.toList ++ ['"'])

end SandboxRpc.Label
