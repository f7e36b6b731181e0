import SandboxRpc.Json.Basic

/-!
# Reading data from JSON values

Decoders for typed data, each of which gives `none` for a value of another shape.

- `fields?` reads a record. It may be written as an object, where fields come in any order but only
  once, or as an array of the fields in their declared order, where the last ones may be missing.
- `variant?` reads a choice: a bare name, or an object whose one member is the name with its data.
-/

namespace SandboxRpc.Json

def asText? : Json → Option String
  | .string literal => literal.text?
  | _ => none

/-- An integer between two bounds, both included. -/
def asInteger? (least greatest : Int) : Json → Option Int
  | .number (.integer value) => if least ≤ value ∧ value ≤ greatest then some value else none
  | _ => none

/-- A natural number below a bound. -/
def asNatBelow? (bound : Nat) (json : Json) : Option Nat :=
  (json.asInteger? 0 (bound - 1)).map Int.toNat

def asList? {α : Type} (item? : Json → Option α) : Json → Option (List α)
  | .array items => items.mapM item?
  | _ => none

/-- A value that may be null. -/
def asNullable? {α : Type} (value? : Json → Option α) : Json → Option (Option α)
  | .null => some none
  | json => (value? json).map some

/-- The names and values of an object's members; of a repeated name, all of them. -/
def members? : Json → Option (List (String × Json))
  | .object members => members.mapM fun entry => (entry.1.text?).map (·, entry.2)
  | _ => none

/-! ## Records -/

/-- Whether a record may have members that are not among its fields; if so, they do not count. -/
inductive Extras where
  | ignored
  | refused
deriving DecidableEq, Repr

/-- The values under a name. -/
def valuesNamed (members : List (String × Json)) (name : String) : List Json :=
  (members.filter (·.1 = name)).map Prod.snd

/-- The value under a name, which must not be repeated. -/
def single? (members : List (String × Json)) (name : String) : Option (Option Json) :=
  match valuesNamed members name with
  | [] => some none
  | [value] => some (some value)
  | _ => none

/-- The fields of a record, by position in `names`; a field that is missing is `none`. -/
def fields? (names : List String) (extras : Extras) : Json → Option (List (Option Json))
  | .array items =>
    if items.length ≤ names.length then
      some (items.map some ++ List.replicate (names.length - items.length) none)
    else none
  | json => do
    let members ← json.members?
    if extras = .refused ∧ members.any (·.1 ∉ names) then none
    else names.mapM (single? members)

/-- A field that has to be there. -/
def required? {α : Type} (value? : Json → Option α) (field : Option Json) : Option α :=
  field.bind value?

/-- A field that may be missing. -/
def defaulted? {α : Type} (value? : Json → Option α) (default : α) : Option Json → Option α
  | none => some default
  | some json => value? json

/-! ## Choices -/

/-- The name of a choice, with its data unless the name is all there is. -/
def variant? : Json → Option (String × Option Json)
  | .string name => (name.text?).map (·, none)
  | .object [(name, data)] => (name.text?).map (·, some data)
  | _ => none

/-- The absence of data, which may also be written as null. -/
def noData? : Option Json → Option Unit
  | none => some ()
  | some .null => some ()
  | _ => none

end SandboxRpc.Json
