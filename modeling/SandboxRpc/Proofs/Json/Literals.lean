import SandboxRpc.Json.Token

/-!
# String literals read back

A text written as a literal is cut off again where it ends (`literal?_ofString`), and the literal
denotes that text (`text?_ofString`). Both readings go through a literal escape by escape, so both
follow from what they make of a single one (`literal?_escape`, `characters?_escape`), and escapes
come in three kinds (`escape_cases`).
-/

namespace SandboxRpc.Json

namespace Literal

theorem value?_hexDigits : ∀ {number : Nat}, number < 0x20 →
    Numeral.value? 16 ['0', '0', hexDigit (number / 16), hexDigit (number % 16)] = some number := by
  decide

theorem unescape?_of_mem {c letter : Char} (listed : (c, letter) ∈ shortEscapes) :
    unescape? letter = some c ∧ letter ≠ 'u' := by
  have each : ∀ entry ∈ shortEscapes, unescape? entry.2 = some entry.1 ∧ entry.2 ≠ 'u' := by decide
  exact each (c, letter) listed

theorem escape_cases (c : Char) :
    (∃ letter, escape c = ['\\', letter] ∧ unescape? letter = some c ∧ letter ≠ 'u') ∨
    (∃ high low, escape c = ['\\', 'u', '0', '0', high, low] ∧
      Numeral.value? 16 ['0', '0', high, low] = some c.toNat ∧ c.toNat < 0x20) ∨
    (escape c = [c] ∧ c ≠ '"' ∧ c ≠ '\\' ∧ ¬ c.toNat < 0x20) := by
  -- By the cases of `escape` itself: short escapes, controls, and what stands for itself.
  unfold escape
  split
  · next first letter found =>
    have listed := List.mem_of_find?_eq_some found
    have same : first = c := by simpa using List.find?_some found
    obtain ⟨read, other⟩ := unescape?_of_mem listed
    exact .inl ⟨letter, rfl, same ▸ read, other⟩
  · next unlisted =>
    split
    · next control => exact .inr (.inl ⟨_, _, rfl, value?_hexDigits control, control⟩)
    · next printable =>
      rw [List.find?_eq_none] at unlisted
      refine .inr (.inr ⟨rfl, ?_, ?_, printable⟩)
      · rintro rfl
        exact unlisted ('"', '"') (by decide) (by decide)
      · rintro rfl
        exact unlisted ('\\', '\\') (by decide) (by decide)

/-! ## Where a literal ends -/

theorem literal?_escape (c : Char) (rest : List Char) :
    literal? (escape c ++ rest) =
      (literal? rest).map fun found => (escape c ++ found.1, found.2) := by
  obtain ⟨letter, short, read, other⟩ | ⟨high, low, long, value, -⟩ |
    ⟨plain, unquoted, unescaped, printable⟩ := escape_cases c
  · rw [short]
    show literal? ('\\' :: letter :: rest) = _
    rw [literal?]
    · simp only [read, Option.bind_eq_bind, Option.bind_some]
      cases literal? rest <;> rfl
    · grind
  · rw [long]
    show literal? ('\\' :: 'u' :: '0' :: '0' :: high :: low :: rest) = _
    rw [literal?, value]
    cases literal? rest <;> rfl
  · rw [plain]
    show literal? (c :: rest) = _
    rw [literal?, if_neg (not_or.mpr ⟨unescaped, printable⟩)]
    · cases literal? rest <;> rfl
    all_goals grind

theorem literal?_flatMap_escape (text rest : List Char) :
    literal? (text.flatMap escape ++ '"' :: rest) = some (text.flatMap escape, rest) := by
  induction text with
  | nil => rfl
  | cons c text ih => rw [List.flatMap_cons, List.append_assoc, literal?_escape, ih]; rfl

/-! ## What a literal denotes -/

/-- Digits that write no number make the escape that they belong to denote nothing. -/
theorem characters?_of_value?_eq_none {a b c d : Char} (rest : List Char)
    (broken : Numeral.value? 16 [a, b, c, d] = none) :
    characters? ('\\' :: 'u' :: a :: b :: c :: d :: rest) = none := by
  unfold characters?
  split <;> grind

theorem characters?_escape (c : Char) (rest : List Char) :
    characters? (escape c ++ rest) = (c :: ·) <$> characters? rest := by
  obtain ⟨letter, short, read, other⟩ | ⟨high, low, long, value, control⟩ |
    ⟨plain, -, unescaped, -⟩ := escape_cases c
  · rw [short]
    show characters? ('\\' :: letter :: rest) = _
    rw [characters?]
    · simp only [read, Option.bind_eq_bind, Option.bind_some]
    all_goals grind
  · rw [long]
    show characters? ('\\' :: 'u' :: '0' :: '0' :: high :: low :: rest) = _
    have single : ¬ IsLeading c.toNat ∧ ¬ IsTrailing c.toNat := by
      unfold IsLeading IsTrailing
      omega
    by_cases pair : ∃ e f g h after, rest = '\\' :: 'u' :: e :: f :: g :: h :: after
    · -- Two such escapes in a row are read together, in case they are a surrogate pair.
      obtain ⟨e, f, g, h, after, rfl⟩ := pair
      rw [characters?, value]
      cases next : Numeral.value? 16 [e, f, g, h] with
      | none =>
        rw [characters?_of_value?_eq_none after next]
        rfl
      | some unit =>
        simp only [Option.bind_eq_bind, Option.bind_some, if_neg single.1, if_neg single.2,
          Char.ofNat_toNat]
    · rw [characters?, value]
      · simp only [Option.bind_eq_bind, Option.bind_some, if_neg (not_or.mpr single),
          Char.ofNat_toNat]
      · grind
  · rw [plain]
    show characters? (c :: rest) = _
    rw [characters?, if_neg unescaped]
    all_goals grind

theorem characters?_flatMap_escape (text : List Char) :
    characters? (text.flatMap escape) = some text := by
  induction text with
  | nil => rfl
  | cons c text ih => rw [List.flatMap_cons, characters?_escape, ih]; rfl

theorem text?_ofString (text : String) : (ofString text).text? = some text := by
  rw [text?, ofString, characters?_flatMap_escape, Option.map_some, String.ofList_toList]

end Literal

end SandboxRpc.Json
