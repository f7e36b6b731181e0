import SandboxRpc.Json.Printer
import SandboxRpc.Json.Reader
import SandboxRpc.Proofs.Json.Literals

/-!
# What is written is read back

`parse?_pretty` says that reading what `pretty` writes gives back the value, where all there is in
the value is text, in arrays and records.

Scanning and reading are two passes over a text, but nothing is lost by looking at them as one:
`Reader.read?` goes on reading the characters that follow. `Takes` says what a reader makes of a
piece of a text whatever comes after it, so that pieces can be put together (`Takes.append`).
-/

namespace SandboxRpc.Json

/-! ## Reading on -/

namespace Token

theorem scanFrom?_of_blanks {cs : List Char} (found : List Token)
    (blanks : cs.dropWhile isBlank = []) : scanFrom? found cs = some found.reverse := by
  rw [scanFrom?]
  split
  · rfl
  · next other => rw [blanks] at other; cases other

theorem scanFrom?_of_cons {cs after : List Char} {c : Char} (found : List Token)
    (begins : cs.dropWhile isBlank = c :: after) :
    scanFrom? found cs =
      (next? (c :: after)).bind fun next => scanFrom? (next.1 :: found) next.2 := by
  rw [scanFrom?]
  split
  · next blanks => rw [begins] at blanks; cases blanks
  · next c' after' begins' =>
    rw [begins] at begins'
    cases begins'
    split
    · next first => simp only [first, Option.bind_some]
    · next first => simp only [first, Option.bind_none]

/-- The tokens found earlier have no part in the rest of a scan. -/
theorem scanFrom?_append (found earlier : List Token) (cs : List Char) :
    scanFrom? (found ++ earlier) cs = (scanFrom? found cs).map (earlier.reverse ++ ·) := by
  fun_induction scanFrom? found cs with
  | case1 found cs blanks =>
    rw [scanFrom?_of_blanks _ blanks, Option.map_some, List.reverse_append]
  | case2 found cs c after begins token rest first _ ih =>
    rw [scanFrom?_of_cons _ begins, first, Option.bind_some, ← ih, List.cons_append]
  | case3 found cs c after begins first =>
    rw [scanFrom?_of_cons _ begins, first, Option.bind_none, Option.map_none]

end Token

namespace Reader

/-- Goes on with the characters that follow, which have to be whole tokens. -/
def read? (reader : Reader) (cs : List Char) : Option Reader :=
  (Token.scanFrom? [] cs).bind fun tokens => tokens.foldlM step? reader

theorem read?_of_blanks {cs : List Char} (reader : Reader)
    (blanks : cs.dropWhile isBlank = []) : reader.read? cs = some reader := by
  rw [read?, Token.scanFrom?_of_blanks [] blanks]
  rfl

theorem read?_of_cons {cs after : List Char} {c : Char} (reader : Reader)
    (begins : cs.dropWhile isBlank = c :: after) :
    reader.read? cs = (Token.next? (c :: after)).bind fun next =>
      (reader.step? next.1).bind fun reached => reached.read? next.2 := by
  rw [read?, Token.scanFrom?_of_cons [] begins]
  cases Token.next? (c :: after) with
  | none => rfl
  | some next =>
    -- The scan has its first token already, but what it makes of the rest is the same.
    have later := Token.scanFrom?_append [] [next.1] next.2
    rw [List.nil_append] at later
    rw [Option.bind_some, Option.bind_some, later, Option.bind_map]
    show (Token.scanFrom? [] next.2).bind (fun tokens =>
      (reader.step? next.1).bind fun reached => tokens.foldlM step? reached) = _
    cases reader.step? next.1 with
    | none => simp
    | some reached => rfl

/-- What a reader has become after some characters, whatever follows them. -/
def Takes (cs : List Char) (before after : Reader) : Prop :=
  ∀ rest, before.read? (cs ++ rest) = after.read? rest

namespace Takes

variable {first second cs : List Char} {before between after : Reader}

theorem append (earlier : Takes first before between) (later : Takes second between after) :
    Takes (first ++ second) before after := by
  intro rest
  rw [List.append_assoc, earlier, later]

theorem of_blanks (blanks : ∀ c ∈ cs, isBlank c = true) (reader : Reader) :
    Takes cs reader reader := by
  intro rest
  have skipped : (cs ++ rest).dropWhile isBlank = rest.dropWhile isBlank :=
    List.dropWhile_append_of_pos blanks
  cases begins : rest.dropWhile isBlank with
  | nil => rw [read?_of_blanks reader begins, read?_of_blanks reader (skipped.trans begins)]
  | cons c left => rw [read?_of_cons reader begins, read?_of_cons reader (skipped.trans begins)]

theorem newline (depth : Nat) (reader : Reader) : Takes (newline depth) reader reader := by
  refine of_blanks (fun c member => ?_) reader
  obtain rfl | inside := List.mem_cons.mp member
  · rfl
  · rw [List.eq_of_mem_replicate inside]
    rfl

/-- A piece that is one token whatever comes after it, as a number would not be. -/
theorem of_next {c : Char} {token : Token} (solid : isBlank c = false)
    (next : ∀ rest, Token.next? (c :: cs ++ rest) = some (token, rest))
    (taken : before.step? token = some after) : Takes (c :: cs) before after := by
  intro rest
  have begins : (c :: cs ++ rest).dropWhile isBlank = c :: (cs ++ rest) := by
    simp [solid]
  rw [read?_of_cons before begins]
  have cut : Token.next? (c :: (cs ++ rest)) = some (token, rest) := next rest
  rw [cut, Option.bind_some, taken, Option.bind_some]

theorem quoted (text : String) (taken : before.step? (.string (.ofString text)) = some after) :
    Takes (Literal.ofString text).quoted before after := by
  refine of_next rfl (fun rest => ?_) taken
  show (literal? (text.toList.flatMap Literal.escape ++ ['"'] ++ rest)).map _ = _
  rw [List.append_assoc]
  show (literal? (text.toList.flatMap Literal.escape ++ '"' :: rest)).map _ = _
  rw [Literal.literal?_flatMap_escape]
  rfl

end Takes

/-- The reader awaits a value within the frames that are open, if not the end of an array. The first
item of an array comes like any other value, since it does not begin with a bracket that closes. -/
def AwaitsValue (reader : Reader) (frames : List Frame) : Prop :=
  ∀ token, token ≠ .closeBracket → reader.step? token = begin? frames token

theorem awaitsValue_awaitingValue (frames : List Frame) :
    AwaitsValue (.awaitingValue frames) frames :=
  fun _ _ => rfl

theorem awaitsValue_awaitingFirstItem (frames : List Frame) :
    AwaitsValue (.awaitingFirstItem frames) (.array [] :: frames) := by
  intro token other
  cases token with
  | closeBracket => exact absurd rfl other
  | _ => rfl

end Reader

/-! ## Values of text -/

/-- All there is in the value is text, in arrays and records. -/
inductive IsTextual : Json → Prop where
  | text (value : String) : IsTextual (.text value)
  | array {items : List Json} (each : ∀ item ∈ items, IsTextual item) : IsTextual (.array items)
  | record {members : List (String × Json)} (each : ∀ entry ∈ members, IsTextual entry.2) :
      IsTextual (.record members)

open Reader

/-- The value at any depth is read as it was, wherever a value is awaited. -/
def ReadsBack (json : Json) : Prop :=
  ∀ depth reader frames, reader.AwaitsValue frames →
    Takes (prettyAt depth json) reader (.complete json frames)

/-- The items after the one that is complete, with the end of the array. -/
theorem takes_prettyItems {items : List Json} (each : ∀ item ∈ items, ReadsBack item)
    (depth : Nat) (earlier : List Json) (last : Json) (frames : List Frame) :
    Takes (prettyItems (depth + 1) items ++ newline depth ++ [']'])
      (.complete last (.array earlier :: frames))
      (.complete (.array ((last :: earlier).reverse ++ items)) frames) := by
  induction items generalizing earlier last with
  | nil =>
    rw [List.append_nil]
    exact (Takes.newline depth _).append (.of_next rfl (fun _ => rfl) rfl)
  | cons item items ih =>
    have comma : Takes [','] (.complete last (.array earlier :: frames))
        (.awaitingValue (.array (last :: earlier) :: frames)) := .of_next rfl (fun _ => rfl) rfl
    -- After the comma the next item is read, and it is then the one that is complete.
    have here := each item List.mem_cons_self (depth + 1) _ _
      (awaitsValue_awaitingValue (.array (last :: earlier) :: frames))
    have rest := ih (fun other member => each other (List.mem_cons_of_mem _ member))
      (last :: earlier) item
    have all := comma.append ((Takes.newline (depth + 1) _).append (here.append rest))
    simpa [prettyItems] using all

theorem readsBack_array {items : List Json} (each : ∀ item ∈ items, ReadsBack item) :
    ReadsBack (.array items) := by
  intro depth reader frames awaits
  have opening : Takes ['['] reader (.awaitingFirstItem frames) :=
    .of_next rfl (fun _ => rfl) (awaits _ Token.noConfusion)
  cases items with
  | nil =>
    have closing : Takes [']'] (.awaitingFirstItem frames) (.complete (.array []) frames) :=
      .of_next rfl (fun _ => rfl) rfl
    exact opening.append closing
  | cons item items =>
    have first := each item List.mem_cons_self (depth + 1) _ _
      (awaitsValue_awaitingFirstItem frames)
    have rest := takes_prettyItems (fun other member => each other (List.mem_cons_of_mem _ member))
      depth [] item frames
    have all := opening.append ((Takes.newline (depth + 1) _).append (first.append rest))
    simpa [prettyAt] using all

theorem takes_member {value : Json} (valueReadsBack : ReadsBack value) (name : String) (depth : Nat)
    {reader : Reader} {earlier : List (Literal × Json)} {frames : List Frame}
    (named : reader.step? (.string (.ofString name)) =
      some (.awaitingColon earlier (.ofString name) frames)) :
    Takes ((Literal.ofString name).quoted ++ [':', ' '] ++ prettyAt depth value) reader
      (.complete value (.object earlier (.ofString name) :: frames)) := by
  have colon : Takes [':'] (.awaitingColon earlier (.ofString name) frames)
      (.awaitingValue (.object earlier (.ofString name) :: frames)) :=
    .of_next rfl (fun _ => rfl) rfl
  have blank : Takes [' '] (.awaitingValue (.object earlier (.ofString name) :: frames)) _ :=
    .of_blanks (List.forall_mem_singleton.mpr rfl) _
  have all := ((Takes.quoted name named).append (colon.append blank)).append
    (valueReadsBack depth _ _ (awaitsValue_awaitingValue _))
  simpa using all

/-- The members after the one that is complete, with the end of the object. -/
theorem takes_prettyMembers {members : List (String × Json)}
    (each : ∀ entry ∈ members, ReadsBack entry.2) (depth : Nat)
    (earlier : List (Literal × Json)) (name : Literal) (last : Json) (frames : List Frame) :
    Takes (prettyMembers (depth + 1)
        (members.map fun entry => (Literal.ofString entry.1, entry.2)) ++ newline depth ++ ['\x7d'])
      (.complete last (.object earlier name :: frames))
      (.complete (.object (((name, last) :: earlier).reverse ++
        members.map fun entry => (Literal.ofString entry.1, entry.2))) frames) := by
  induction members generalizing earlier name last with
  | nil =>
    simp only [List.map_nil, List.append_nil]
    exact (Takes.newline depth _).append (.of_next rfl (fun _ => rfl) rfl)
  | cons entry members ih =>
    have comma : Takes [','] (.complete last (.object earlier name :: frames))
        (.awaitingName ((name, last) :: earlier) frames) := .of_next rfl (fun _ => rfl) rfl
    have here : Takes _ (.awaitingName ((name, last) :: earlier) frames) _ :=
      takes_member (each entry List.mem_cons_self) entry.1 (depth + 1) rfl
    have rest := ih (fun other member => each other (List.mem_cons_of_mem _ member))
      ((name, last) :: earlier) (.ofString entry.1) entry.2
    have all := comma.append ((Takes.newline (depth + 1) _).append (here.append rest))
    simpa [prettyMembers] using all

theorem readsBack_record {members : List (String × Json)}
    (each : ∀ entry ∈ members, ReadsBack entry.2) : ReadsBack (.record members) := by
  intro depth reader frames awaits
  have opening : Takes ['\x7b'] reader (.awaitingFirstName frames) :=
    .of_next rfl (fun _ => rfl) (awaits _ Token.noConfusion)
  cases members with
  | nil =>
    have closing : Takes ['\x7d'] (.awaitingFirstName frames) (.complete (.object []) frames) :=
      .of_next rfl (fun _ => rfl) rfl
    exact opening.append closing
  | cons entry members =>
    have first : Takes _ (.awaitingFirstName frames) _ :=
      takes_member (each entry List.mem_cons_self) entry.1 (depth + 1) rfl
    have rest := takes_prettyMembers
      (fun other member => each other (List.mem_cons_of_mem _ member))
      depth [] (.ofString entry.1) entry.2 frames
    have all := opening.append ((Takes.newline (depth + 1) _).append (first.append rest))
    simpa [record, prettyAt] using all

theorem readsBack_text (value : String) : ReadsBack (.text value) := by
  intro depth reader frames awaits
  have taken := Takes.quoted value (awaits (.string (.ofString value)) Token.noConfusion)
  simpa [text, prettyAt] using taken

theorem IsTextual.readsBack {json : Json} (textual : IsTextual json) : ReadsBack json := by
  -- On the value, all depths and all readers that await it at once.
  induction textual with
  | text value => exact readsBack_text value
  | array _ ih => exact readsBack_array ih
  | record _ ih => exact readsBack_record ih

theorem parse?_eq (text : String) :
    parse? text = (Reader.start.read? text.toList).bind Reader.result? := by
  rw [parse?, Token.scan?, Reader.read?, Option.bind_assoc]
  rfl

theorem parse?_pretty {json : Json} (textual : IsTextual json) :
    parse? json.pretty = some json := by
  have taken : Takes (prettyAt 0 json) .start (.complete json []) :=
    textual.readsBack 0 .start [] (awaitsValue_awaitingValue [])
  -- Nothing comes after the value, so the reader stays as it is.
  have whole := taken []
  rw [List.append_nil] at whole
  rw [parse?_eq, pretty, String.toList_ofList, whole, read?_of_blanks _ rfl]
  rfl

end SandboxRpc.Json
