import SandboxRpc.Toml.Syntax

/-!
# The meaning of TOML

`Entries.ofStatements?` carries out the statements of a document. No key is given a value twice, and
no table is opened twice: how a table came about (`Origin`) decides what may still be done to it.

- Headers may open a table that so far only lies on the way to others.
- Dotted keys may add to tables that dotted keys or headers of inner tables made, but may put values
  only into those that dotted keys made.
- Within a list of tables, the last one is meant.
-/

namespace SandboxRpc.Toml

/-- How a table came about. -/
inductive Origin where
  /-- It was opened by a header. -/
  | header
  /-- It lies on the way to a table that was opened by a header. -/
  | implied
  /-- It lies on the way of a dotted key. -/
  | dotted
deriving DecidableEq, Repr

/-- A value in a document. -/
inductive Node where
  | scalar (value : Scalar)
  | array (items : List Node)
  | inlineTable (entries : List (String × Node))
  | table (origin : Origin) (entries : List (String × Node))
  | tables (elements : List (List (String × Node)))
deriving Repr, Inhabited

/-- The keys of a table with their values; no key comes twice. -/
abbrev Entries := List (String × Node)

namespace Entries

/-- Gives a value to a key that has one. -/
def replace (entries : Entries) (key : String) (node : Node) : Entries :=
  entries.map fun entry => if entry.1 = key then (key, node) else entry

/-- Gives a value to a new key. -/
def add? (entries : Entries) (key : String) (node : Node) : Option Entries :=
  match entries.lookup key with
  | some _ => none
  | none => some (entries ++ [(key, node)])

/-- Changes the last table of a list. -/
def changeLast? (change : Entries → Option Entries) (elements : List Entries) :
    Option (List Entries) := do
  let last ← elements.getLast?
  let changed ← change last
  return elements.dropLast ++ [changed]

/-! ## Assignments -/

/-- Whether a dotted key may pass through a table when `remaining` parts of it are left. -/
def mayPass (origin : Origin) (remaining : List String) : Bool :=
  match origin, remaining with
  | .header, _ => false
  -- The last part would put a value into a table that only headers know of.
  | .implied, [_] => false
  | _, _ => true

/-- Gives a value to a dotted key. -/
def assign? (entries : Entries) (node : Node) : List String → Option Entries
  | [] => none
  | [key] => entries.add? key node
  | key :: next :: others =>
    match entries.lookup key with
    | none => do
      let inner ← assign? [] node (next :: others)
      entries.add? key (.table .dotted inner)
    | some (.table origin inner) =>
      if mayPass origin (next :: others) then do
        let inner ← assign? inner node (next :: others)
        return entries.replace key (.table origin inner)
      else none
    | some (.tables elements) =>
      if others.isEmpty then none else do
        let elements ← changeLast? (assign? · node (next :: others)) elements
        return entries.replace key (.tables elements)
    | some _ => none

/-! ## Headers -/

/-- Changes the table that a header's key leads to. Tables on the way are made if need be. -/
def change? (change : Entries → Option Entries) : List String → Entries → Option Entries
  | [], entries => change entries
  | key :: others, entries =>
    match entries.lookup key with
    | none => do
      let inner ← change? change others []
      entries.add? key (.table .implied inner)
    | some (.table origin inner) => do
      let inner ← change? change others inner
      return entries.replace key (.table origin inner)
    | some (.tables elements) => do
      let elements ← changeLast? (change? change others) elements
      return entries.replace key (.tables elements)
    | some _ => none

/-- Opens a table, which must be new or have been implied only. -/
def openTable? (key : String) (entries : Entries) : Option Entries :=
  match entries.lookup key with
  | none => entries.add? key (.table .header [])
  | some (.table .implied inner) => some (entries.replace key (.table .header inner))
  | some _ => none

/-- Opens a new table at the end of a list of tables. -/
def openElement? (key : String) (entries : Entries) : Option Entries :=
  match entries.lookup key with
  | none => entries.add? key (.tables [[]])
  | some (.tables elements) => some (entries.replace key (.tables (elements ++ [[]])))
  | some _ => none

end Entries

/-! ## Values -/

mutual

/-- The value that an expression stands for. -/
def Node.ofExpression? : Expression → Option Node
  | .scalar value => some (.scalar value)
  | .array items => .array <$> Node.ofItems? items
  | .inlineTable entries => .inlineTable <$> Node.ofEntries? [] entries

/-- The values of an array. -/
def Node.ofItems? : List Expression → Option (List Node)
  | [] => some []
  | item :: items => do
    let node ← Node.ofExpression? item
    return node :: (← Node.ofItems? items)

/-- The entries of an inline table, added to those before them. -/
def Node.ofEntries? (known : Entries) : List (List String × Expression) → Option Entries
  | [] => some known
  | (key, value) :: entries => do
    let node ← Node.ofExpression? value
    Node.ofEntries? (← known.assign? node key) entries

end

/-! ## Documents -/

/-- A document so far: its entries, and the key of the table that is open. -/
structure OpenDocument where
  entries : Entries := []
  key : List String := []
deriving Repr

/-- Carries out a statement. -/
def OpenDocument.step? (document : OpenDocument) : Statement → Option OpenDocument
  | .assignment key value => do
    let node ← Node.ofExpression? value
    let entries ← Entries.change? (·.assign? node key) document.key document.entries
    return { document with entries }
  | .table key => do
    let last ← key.getLast?
    let entries ← Entries.change? (Entries.openTable? last) key.dropLast document.entries
    return { entries, key }
  | .element key => do
    let last ← key.getLast?
    let entries ← Entries.change? (Entries.openElement? last) key.dropLast document.entries
    return { entries, key }

/-- The entries of a document made of these statements. -/
def Entries.ofStatements? (statements : List Statement) : Option Entries :=
  (statements.foldlM OpenDocument.step? {}).map OpenDocument.entries

/-- The entries of a document's text. -/
def Entries.parse? (text : String) : Option Entries :=
  (Toml.parse? text).bind Entries.ofStatements?

end SandboxRpc.Toml
