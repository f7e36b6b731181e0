import Mathlib.Algebra.GroupWithZero.Nat
import SandboxRpc.Report.Text

/-!
# Texts of lines

What is rendered line by line can be cut into the same lines again, as long as no line holds a line
end of its own. A line that does is cut further, so the text has `lineEnds` more lines than were
rendered (`lineEnds_unlines`).
-/

namespace SandboxRpc

/-- The pieces of a text between line ends. -/
def linesOf (text : String) : List String :=
  (text.toList.splitOn '\n').map String.ofList

theorem unlines_eq_intercalate {lines : List String} (nonempty : lines ≠ []) :
    unlines lines = String.intercalate "\n" (lines ++ [""]) := by
  rw [String.intercalate_append_of_ne_nil nonempty (List.cons_ne_nil _ _),
    String.intercalate_singleton, String.append_empty, unlines]

/-- The last piece is the empty rest after the final line end. -/
theorem linesOf_unlines {lines : List String} (nonempty : lines ≠ [])
    (unbroken : ∀ line ∈ lines, '\n' ∉ line.toList) :
    linesOf (unlines lines) = lines ++ [""] := by
  have pieces : ∀ piece ∈ (lines ++ [""]).map String.toList, '\n' ∉ piece := by
    simpa [or_imp, forall_and] using unbroken
  rw [linesOf, unlines_eq_intercalate nonempty, String.toList_intercalate]
  show ((['\n'].intercalate _).splitOn '\n').map String.ofList = _
  rw [List.splitOn_intercalate '\n' pieces (by simp), List.map_map]
  exact List.map_id'' (fun line => String.ofList_toList) _

/-! ## Lines that are broken -/

/-- The number of line ends in a text. -/
def lineEnds (text : String) : Nat :=
  text.toList.count '\n'

@[simp] theorem lineEnds_append (first second : String) :
    lineEnds (first ++ second) = lineEnds first + lineEnds second := by
  rw [lineEnds, String.toList_append, List.count_append, lineEnds, lineEnds]

@[simp] theorem lineEnds_toString (text : String) : lineEnds (toString text) = lineEnds text := rfl

theorem lineEnds_eq_zero_iff {text : String} : lineEnds text = 0 ↔ '\n' ∉ text.toList :=
  List.count_eq_zero

theorem sum_lineEnds_eq_zero_iff {texts : List String} :
    (texts.map lineEnds).sum = 0 ↔ ∀ text ∈ texts, '\n' ∉ text.toList := by
  simp [List.sum_eq_zero_iff_forall_eq_nat, lineEnds_eq_zero_iff]

theorem sum_lineEnds_flatMap {α : Type} {first second : α → List String}
    (same : ∀ item, ((first item).map lineEnds).sum = ((second item).map lineEnds).sum)
    (items : List α) :
    ((items.flatMap first).map lineEnds).sum = ((items.flatMap second).map lineEnds).sum := by
  induction items with
  | nil => rfl
  | cons item items ih =>
    simp only [List.flatMap_cons, List.map_append, List.sum_append, same item, ih]

theorem unlines_cons {line : String} {lines : List String} (nonempty : lines ≠ []) :
    unlines (line :: lines) = line ++ "\n" ++ unlines lines := by
  rw [unlines, String.intercalate_cons_of_ne_nil nonempty, String.append_assoc, unlines]

theorem lineEnds_unlines {lines : List String} (nonempty : lines ≠ []) :
    lineEnds (unlines lines) = lines.length + (lines.map lineEnds).sum := by
  have newline : lineEnds "\n" = 1 := rfl
  induction lines with
  | nil => exact absurd rfl nonempty
  | cons line lines ih =>
    by_cases last : lines = []
    · subst last
      simp [unlines, newline, Nat.add_comm]
    · rw [unlines_cons last, lineEnds_append, lineEnds_append, newline, ih last, List.length_cons,
        List.map_cons, List.sum_cons]
      omega

theorem linesOf_append (first second : String) :
    linesOf (first ++ "\n" ++ second) = linesOf first ++ linesOf second := by
  have characters : (first ++ "\n" ++ second).toList = first.toList ++ '\n' :: second.toList := by
    simp
  rw [linesOf, characters, List.splitOn_append_cons_self, List.map_append, linesOf, linesOf]

/-- Lines that are broken are cut where they are. -/
theorem linesOf_unlines_eq_flatMap {lines : List String} (nonempty : lines ≠ []) :
    linesOf (unlines lines) = lines.flatMap linesOf ++ [""] := by
  induction lines with
  | nil => exact absurd rfl nonempty
  | cons line lines ih =>
    by_cases last : lines = []
    · subst last
      have text : unlines [line] = line ++ "\n" ++ "" := by simp [unlines]
      rw [text, linesOf_append, List.flatMap_cons, List.flatMap_nil, List.append_nil]
      rfl
    · rw [unlines_cons last, linesOf_append, ih last, List.flatMap_cons, List.append_assoc]

theorem length_linesOf (text : String) : (linesOf text).length = lineEnds text + 1 := by
  rw [linesOf, List.length_map, lineEnds]
  induction text.toList with
  | nil => rfl
  | cons c rest ih =>
    rw [List.splitOn_cons_eq_if_modifyHead, List.count_cons]
    split
    · rw [List.length_cons, ih]
    · rw [List.length_modifyHead, ih, Nat.add_zero]

/-- A text has the lines that were rendered exactly if none of them holds a line end. -/
theorem linesOf_unlines_eq_iff {lines : List String} (nonempty : lines ≠ []) :
    linesOf (unlines lines) = lines ++ [""] ↔ (lines.map lineEnds).sum = 0 := by
  constructor
  · intro same
    have length := length_linesOf (unlines lines)
    rw [same, lineEnds_unlines nonempty, List.length_append, List.length_singleton] at length
    omega
  · exact fun unbroken => linesOf_unlines nonempty (sum_lineEnds_eq_zero_iff.mp unbroken)

end SandboxRpc
