import Mathlib.Algebra.Ring.Parity
import Mathlib.Data.List.DropRight
import SandboxRpc.Proofs.Report.Lines
import SandboxRpc.Proofs.Report.Rendering

/-!
# Labels can be read

A label may be any text. It is encoded so that it stays on its line and that it ends at the quote
behind it, and reading it from left to right (`Label.read?`) gives the text back. A drawing then has
the lines that were drawn, whatever the names in it, and shows these names and no others:
`render_legible`.
-/

namespace SandboxRpc

namespace Label

variable {c : Char} {cs : List Char}

/-! ## Encoding -/

/-- Puts a text in the place of each occurrence of a character. -/
def substitute (old : Char) (new cs : List Char) : List Char :=
  cs.flatMap fun c => if c = old then new else [c]

/-- A label can be encoded in three passes. Backslashes have to come first, since the later passes
put in backslashes of their own. -/
theorem encode_eq_substitute (cs : List Char) :
    encode cs = substitute '\n' ['\\', 'n'] (substitute '"' ['\\', '"']
      (substitute '\\' ['\\', '\\'] cs)) := by
  simp only [substitute, List.flatMap_assoc]
  refine List.flatMap_congr fun c _ => ?_
  rw [encodeChar]
  split
  · rfl
  · split
    · rename_i quote
      subst quote
      rfl
    · rename_i quote
      simp [quote]

theorem encode_append (first second : List Char) :
    encode (first ++ second) = encode first ++ encode second :=
  List.flatMap_append

theorem encode_cons : encode (c :: cs) = encodeChar c ++ encode cs :=
  rfl

/-- The four ways in which a character is encoded. -/
theorem encodeChar_cases (c : Char) :
    c = '\\' ∧ encodeChar c = ['\\', '\\'] ∨ c = '"' ∧ encodeChar c = ['\\', '"'] ∨
      c = '\n' ∧ encodeChar c = ['\\', 'n'] ∨
      (c ≠ '\\' ∧ c ≠ '"' ∧ c ≠ '\n') ∧ encodeChar c = [c] := by
  rw [encodeChar]
  split
  · exact .inl ⟨‹_›, rfl⟩
  · split
    · exact .inr (.inl ⟨‹_›, rfl⟩)
    · split
      · exact .inr (.inr (.inl ⟨‹_›, rfl⟩))
      · exact .inr (.inr (.inr ⟨⟨‹_›, ‹_›, ‹_›⟩, rfl⟩))

theorem newline_not_mem_encode : '\n' ∉ encode cs := by
  intro member
  obtain ⟨c, _, broken⟩ := List.mem_flatMap.mp member
  obtain ⟨rfl, written⟩ | ⟨rfl, written⟩ | ⟨rfl, written⟩ | ⟨⟨_, _, other⟩, written⟩ :=
    encodeChar_cases c
  · simp [written] at broken
  · simp [written] at broken
  · simp [written] at broken
  · exact other (by simpa [written, eq_comm] using broken)

/-! ## Backslashes -/

/-- The number of backslashes that a text ends in. -/
def backslashes (cs : List Char) : Nat :=
  (cs.rtakeWhile (· = '\\')).length

theorem backslashes_concat_backslash : backslashes (cs ++ ['\\']) = backslashes cs + 1 := by
  rw [backslashes, List.rtakeWhile_concat_pos _ _ _ rfl, List.length_append]
  rfl

theorem backslashes_concat_of_ne (other : c ≠ '\\') : backslashes (cs ++ [c]) = 0 := by
  rw [backslashes, List.rtakeWhile_concat_neg _ _ _ (by simpa using other)]
  rfl

/-- No backslash at the end of an encoded label is left to escape what follows. -/
theorem even_backslashes_encode (cs : List Char) : Even (backslashes (encode cs)) := by
  induction cs using List.reverseRecOn with
  | nil => exact Even.zero
  | append_singleton cs c ih =>
    have last : encode (cs ++ [c]) = encode cs ++ encodeChar c := by
      rw [encode_append, encode_cons]
      simp [encode]
    rw [last]
    obtain ⟨rfl, written⟩ | ⟨rfl, written⟩ | ⟨rfl, written⟩ | ⟨⟨backslash, _⟩, written⟩ :=
      encodeChar_cases c
    · rw [written, List.append_cons, backslashes_concat_backslash, backslashes_concat_backslash]
      exact ih.add even_two
    · rw [written, List.append_cons, backslashes_concat_of_ne (by decide)]
      exact Even.zero
    · rw [written, List.append_cons, backslashes_concat_of_ne (by decide)]
      exact Even.zero
    · rw [written, backslashes_concat_of_ne backslash]
      exact Even.zero

theorem eq_of_encodeChar_eq_append {before after : List Char}
    (split : encodeChar c = before ++ '"' :: after) :
    c = '"' ∧ before = ['\\'] ∧ after = [] := by
  obtain ⟨rfl, written⟩ | ⟨rfl, written⟩ | ⟨rfl, written⟩ | ⟨⟨_, quote, _⟩, written⟩ :=
    encodeChar_cases c
  · simp [written, List.cons_eq_append_iff] at split
  · simpa [written, List.cons_eq_append_iff] using split
  · simp [written, List.cons_eq_append_iff] at split
  · have member : '"' ∈ [c] := by simp [← written, split]
    exact absurd (List.mem_singleton.mp member).symm quote

/-- A quote in an encoded label stands for one in the label. -/
theorem eq_append_of_encode_eq_append {before after : List Char}
    (split : encode cs = before ++ '"' :: after) :
    ∃ earlier later, cs = earlier ++ '"' :: later ∧ before = encode earlier ++ ['\\'] ∧
      after = encode later := by
  induction cs generalizing before with
  | nil => simp [encode] at split
  | cons c cs ih =>
    have further {rest : List Char} (rest_split : encode cs = rest ++ '"' :: after) :
        ∃ earlier later, c :: cs = earlier ++ '"' :: later ∧
          encodeChar c ++ rest = encode earlier ++ ['\\'] ∧ after = encode later := by
      obtain ⟨earlier, later, rfl, rfl, rfl⟩ := ih rest_split
      exact ⟨c :: earlier, later, rfl, by rw [encode_cons, List.append_assoc], rfl⟩
    -- The quote stands behind what the first character has become, or in it.
    rw [encode_cons, List.append_eq_append_iff] at split
    obtain ⟨rest, rfl, rest_split⟩ | ⟨rest, here, rest_split⟩ := split
    · exact further rest_split
    · cases rest with
      | nil =>
        rw [List.append_nil] at here
        have found := @further [] rest_split.symm
        rwa [List.append_nil, here] at found
      | cons d rest =>
        obtain ⟨rfl, rfl⟩ := List.cons.inj rest_split
        obtain ⟨rfl, rfl, rfl⟩ := eq_of_encodeChar_eq_append here
        exact ⟨[], cs, rfl, rfl, rfl⟩

theorem odd_backslashes_of_encode_eq {before after : List Char}
    (split : encode cs = before ++ '"' :: after) : Odd (backslashes before) := by
  obtain ⟨earlier, _, _, rfl, _⟩ := eq_append_of_encode_eq_append split
  rw [backslashes_concat_backslash]
  exact (even_backslashes_encode earlier).add_one

/-! ## Reading -/

/-- The character that is written with a backslash in front of this one. -/
def unescape? : Char → Option Char
  | '\\' => some '\\'
  | '"' => some '"'
  | 'n' => some '\n'
  | _ => none

/-- Reads a label from left to right, up to a quote that is not escaped or to the end, and gives
what is left from there. -/
def read? : List Char → Option (List Char × List Char)
  | [] => some ([], [])
  | '"' :: rest => some ([], '"' :: rest)
  | ['\\'] => none
  | '\\' :: escaped :: rest =>
    (unescape? escaped).bind fun c => (read? rest).map fun read => (c :: read.1, read.2)
  | c :: rest => (read? rest).map fun read => (c :: read.1, read.2)

theorem read?_encodeChar_append (c : Char) (rest : List Char) :
    read? (encodeChar c ++ rest) = (read? rest).map fun read => (c :: read.1, read.2) := by
  obtain ⟨rfl, written⟩ | ⟨rfl, written⟩ | ⟨rfl, written⟩ | ⟨⟨backslash, quote, _⟩, written⟩ :=
    encodeChar_cases c
  · simp [written, read?, unescape?]
  · simp [written, read?, unescape?]
  · simp [written, read?, unescape?]
  · simp [written, read?, backslash]

/-- What follows a label may be nothing or its closing quote. -/
theorem read?_encode_append (cs : List Char) {rest : List Char}
    (ends : ∀ c ∈ rest.head?, c = '"') : read? (encode cs ++ rest) = some (cs, rest) := by
  induction cs with
  | nil =>
    cases rest with
    | nil => rfl
    | cons c rest =>
      obtain rfl := ends c rfl
      rw [encode, List.flatMap_nil, List.nil_append, read?]
  | cons c cs ih =>
    rw [encode_cons, List.append_assoc, read?_encodeChar_append, ih, Option.map_some]

/-! ## Lines with labels -/

/-- What a line shows between its first quote and the quote that ends the label there. -/
def on? (line : String) : Option String :=
  match read? (line.toList.dropWhile (· ≠ '"')).tail with
  | some (label, '"' :: _) => some (String.ofList label)
  | _ => none

/-- Text that neither ends a line nor begins a label. -/
def Plain (text : String) : Prop :=
  '\n' ∉ text.toList ∧ '"' ∉ text.toList

instance (text : String) : Decidable (Plain text) :=
  inferInstanceAs (Decidable (_ ∧ _))

theorem Plain.append {first second : String} (plain : Plain first) (plain' : Plain second) :
    Plain (first ++ second) := by
  simp [Plain, plain.1, plain.2, plain'.1, plain'.2]

theorem Plain.between {before text after : String} (plain : Plain text) (opens : Plain before)
    (closes : Plain after) : Plain (before ++ text ++ after) :=
  (opens.append plain).append closes

theorem plain_toString (number : Nat) : Plain (toString number) := by
  have digits : ∀ c ∈ (toString number).toList, c.isDigit = true := by
    rw [Nat.toString_eq_repr, Nat.toList_repr]
    exact fun c => Nat.isDigit_of_mem_toDigits (by decide) (by decide)
  exact ⟨fun broken => absurd (digits _ broken) (by decide),
    fun quote => absurd (digits _ quote) (by decide)⟩

theorem on?_of_plain {line : String} (plain : Plain line) : on? line = none := by
  have all : line.toList.dropWhile (· ≠ '"') = [] := by
    refine List.dropWhile_eq_nil_iff.mpr fun c member => ?_
    exact decide_eq_true fun quote => plain.2 (quote ▸ member)
  rw [on?, all]
  rfl

theorem on?_quoted {start : String} (plain : Plain start) (label rest : String) :
    on? (start ++ quoted label ++ rest) = some label := by
  have begins : (start ++ quoted label ++ rest).toList.dropWhile (· ≠ '"') =
      '"' :: (encode label.toList ++ '"' :: rest.toList) := by
    have characters : (start ++ quoted label ++ rest).toList =
        start.toList ++ '"' :: (encode label.toList ++ '"' :: rest.toList) := by
      simp [quoted]
    rw [characters, List.dropWhile_append_of_pos]
    · rfl
    · exact fun c member => decide_eq_true fun quote => plain.2 (quote ▸ member)
  rw [on?, begins, List.tail_cons, read?_encode_append _ (by simp)]
  simp

theorem newline_not_mem_quoted (label : String) : '\n' ∉ (quoted label).toList := by
  simp [quoted, newline_not_mem_encode]

/-- Lines that are not broken, and the labels on them. -/
structure Legible (lines labels : List String) : Prop where
  unbroken : ∀ line ∈ lines, '\n' ∉ line.toList
  labels : lines.filterMap on? = labels

namespace Legible

theorem of_plain {lines : List String} (plain : ∀ line ∈ lines, Plain line) :
    Legible lines [] where
  unbroken line member := (plain line member).1
  labels := List.filterMap_eq_nil_iff.mpr fun line member => on?_of_plain (plain line member)

theorem quoted {start rest : String} (plain : Plain start) (unbroken : '\n' ∉ rest.toList)
    (label : String) : Legible [start ++ Label.quoted label ++ rest] [label] where
  unbroken := by simp [plain.1, unbroken, newline_not_mem_quoted]
  labels := by simp [on?_quoted plain]

theorem map_of_plain {α : Type} {line : α → String} (plain : ∀ item, Plain (line item))
    (items : List α) : Legible (items.map line) [] :=
  of_plain (List.forall_mem_map.mpr fun item _ => plain item)

theorem append {lines lines' labels labels' : List String} (legible : Legible lines labels)
    (legible' : Legible lines' labels') : Legible (lines ++ lines') (labels ++ labels') where
  unbroken line member := (List.mem_append.mp member).elim (legible.unbroken line)
    (legible'.unbroken line)
  labels := by rw [List.filterMap_append, legible.labels, legible'.labels]

theorem flatMap {α : Type} {lines labels : α → List String}
    (legible : ∀ item, Legible (lines item) (labels item)) (items : List α) :
    Legible (items.flatMap lines) (items.flatMap labels) := by
  induction items with
  | nil => exact of_plain fun _ => nofun
  | cons item items ih => exact (legible item).append ih

theorem map {α : Type} {line label : α → String}
    (legible : ∀ item, Legible [line item] [label item]) (items : List α) :
    Legible (items.map line) (items.map label) := by
  rw [List.map_eq_flatMap, List.map_eq_flatMap]
  exact flatMap legible items

end Legible

end Label

/-! ## Drawings -/

namespace Drawing

open Label

theorem plain_edge (pair : Nat × Nat) : Plain (edge pair) :=
  ((plain_toString _).between (by decide) (by decide)).append (plain_toString _)

theorem Node.legible (program : Program) (node : Node) :
    Legible [node.line program] [program.nameOf node.procedure] := by
  have start : Plain s!"\t\tn{node.number} [label=" :=
    (plain_toString _).between (by decide) (by decide)
  have style : '\n' ∉ ((if node.isBold then ",style=\"bold\"" else "") ++ "];").toList := by
    split
    · decide
    · decide
  have shown := Legible.quoted start style (program.nameOf node.procedure)
  rwa [← String.append_assoc] at shown

theorem Block.legible (subject : Subject) (block : Block) :
    Legible (block.lines subject) (subject.partition.nameOf block.context ::
      block.nodes.map fun node => subject.program.nameOf node.procedure) := by
  have begins : Plain s!"\tsubgraph cluster_{block.number} \x7b" :=
    (plain_toString _).between (by decide) (by decide)
  have opened : Legible [s!"\tsubgraph cluster_{block.number} \x7b", "\t\trankdir=TB"] [] :=
    .of_plain (List.forall_mem_cons.mpr ⟨begins, by decide⟩)
  have named : Legible ["\t\tlabel = " ++ Label.quoted (subject.partition.nameOf block.context)]
      [subject.partition.nameOf block.context] := by
    have shown := @Legible.quoted "\t\tlabel = " "" (by decide) (by decide)
      (subject.partition.nameOf block.context)
    rwa [String.append_empty] at shown
  have nodes := Legible.map (Node.legible subject.program) block.nodes
  have column : Legible (block.column.map fun pair => s!"\t\t{edge pair} [style=invis];") [] :=
    .map_of_plain (fun pair => (plain_edge pair).between (by decide) (by decide)) _
  have closed : Legible ["\t\x7d"] [] := .of_plain (by decide)
  have reaching :
      Legible (block.reaching.map fun pair => s!"\t{edge pair} [constraint=false];") [] :=
    .map_of_plain (fun pair => (plain_edge pair).between (by decide) (by decide)) _
  simpa [Block.lines] using
    ((((opened.append named).append nodes).append column).append closed).append reaching

theorem Arrow.legible (arrow : Arrow) : Legible [arrow.line] [arrow.messageType] := by
  have start : Plain s!"\t{edge (arrow.source, arrow.target)} [label=" :=
    (plain_edge _).between (by decide) (by decide)
  exact Legible.quoted start (by decide) arrow.messageType

variable {partition : Partition} {graph : MessageGraph} {reaches : Reachability}

theorem map_blocksOf :
    (blocksOf partition graph reaches).map
        (fun block => (block.context, block.nodes.map Node.procedure)) =
      graph.participants := by
  rw [← Cluster.map_numbered 0 0 graph.participants, blocksOf, List.map_map]
  refine List.map_congr_left fun cluster _ => ?_
  simp only [Function.comp_apply, Block.ofCluster, List.map_map]
  rfl

theorem map_messageType {blocks : List Block} {messages : List Message} {arrows : List Arrow}
    (carried : List.Forall₂ (Carries blocks) messages arrows) :
    arrows.map Arrow.messageType = messages.map Message.messageType := by
  induction carried with
  | nil => rfl
  | cons carries _ ih => rw [List.map_cons, List.map_cons, ih, carries.label]

end Drawing

namespace Dot

open Inquiry Label

variable (subject : Subject) (resolver : Resolver)

theorem legible_lines (graph : MessageGraph) :
    Legible (answer resolver (lines subject graph))
      ((graph.participants.flatMap fun (context, procedures) =>
          subject.partition.nameOf context :: procedures.map subject.program.nameOf) ++
        (graph.messages.filter fun message => message.delivery.handler?.isSome).map
          Message.messageType) := by
  obtain ⟨arrows, carried, written⟩ := Drawing.exists_arrows subject.partition
    (resolver.reaches subject) (List.Subset.refl graph.messages)
  rw [answer_lines subject resolver written, ← Drawing.map_messageType carried,
    ← Drawing.map_blocksOf, List.flatMap_map]
  have opened : Legible ["digraph G \x7b"] [] := .of_plain (by decide)
  have blocks := Legible.flatMap (Drawing.Block.legible subject)
    (Drawing.blocksOf subject.partition graph (resolver.reaches subject))
  have blank : Legible [""] [] := .of_plain (by decide)
  have closed : Legible ["\x7d"] [] := .of_plain (by decide)
  simpa [Function.comp_def] using
    (((opened.append blocks).append blank).append
      (Legible.map Drawing.Arrow.legible arrows)).append closed

/-- An encoded label is a single line, each quote in it is escaped and nothing behind it is, and it
can be read back. So a rendering has the lines that were drawn, and their labels are the names of
the contexts and of those who take part there, and then the types of the handled messages. -/
theorem render_legible (graph : MessageGraph) :
    (∀ label : List Char,
      encode label = substitute '\n' ['\\', 'n'] (substitute '"' ['\\', '"']
        (substitute '\\' ['\\', '\\'] label)) ∧
      '\n' ∉ encode label ∧
      (∀ before after, encode label = before ++ '"' :: after → Odd (backslashes before)) ∧
      Even (backslashes (encode label)) ∧
      read? (encode label) = some (label, []) ∧
      ∀ rest, read? (encode label ++ '"' :: rest) = some (label, '"' :: rest)) ∧
    let drawn := answer resolver (lines subject graph)
    linesOf (answer resolver (render subject graph)) = drawn ++ [""] ∧
    drawn.filterMap on? =
      (graph.participants.flatMap fun (context, procedures) =>
        subject.partition.nameOf context :: procedures.map subject.program.nameOf) ++
      (graph.messages.filter fun message => message.delivery.handler?.isSome).map
        Message.messageType := by
  refine ⟨fun label => ⟨encode_eq_substitute label, newline_not_mem_encode,
    fun before after => odd_backslashes_of_encode_eq, even_backslashes_encode label, ?_,
    fun rest => read?_encode_append label (by simp)⟩, ?_, ?_⟩
  · simpa using @read?_encode_append label [] (by simp)
  · refine linesOf_unlines ?_ (legible_lines subject resolver graph).unbroken
    exact List.cons_ne_nil _ _
  · exact (legible_lines subject resolver graph).labels

/-- Names may hold quotes, line ends and what looks like lines of a drawing. -/
theorem render_legible_hostile :
    let name := "main\"];\n\t\x7d\n\tn0 -> n1;"
    let messageType := "\\\"\n\\n\\"
    let program : Program := { procedures := #[{ name, arity := none }] }
    let subject : Subject := { program, partition := {} }
    let delivery : Delivery := .handled .privileged ⟨0⟩
    let message : Message := { origin := .privileged, site := ⟨⟨0⟩, 0⟩, messageType, delivery }
    let file := answer {} (render subject { messages := [message] })
    encode "\"".toList = ['\\'] ++ ['"'] ∧ Odd (backslashes ['\\']) ∧
      (linesOf file).filterMap on? = ["<privileged>", name, messageType] := by
  intro name messageType program subject delivery message file
  obtain ⟨labels, whole, shown⟩ := render_legible subject {} { messages := [message] }
  obtain ⟨_, _, escaped, _⟩ := labels "\"".toList
  refine ⟨by decide, escaped ['\\'] [] (by decide), ?_⟩
  rw [whole, List.filterMap_append, shown]
  decide +kernel

end Dot

end SandboxRpc
