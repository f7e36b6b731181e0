/-!
# Computations that succeed

What is known of the steps of a computation that may fail, once it has succeeded as a whole.
-/

namespace SandboxRpc

namespace Success

variable {ε α β γ : Type}

theorem bind_eq_ok_iff {first : Except ε α} {next : α → Except ε β} {result : β} :
    first >>= next = .ok result ↔ ∃ value, first = .ok value ∧ next value = .ok result := by
  cases first with
  | error defect => simp [bind, Except.bind]
  | ok value => simp [bind, Except.bind]

theorem toOption_eq_some_iff {outcome : Except ε α} {value : α} :
    outcome.toOption = some value ↔ outcome = .ok value := by
  cases outcome with
  | error defect => simp [Except.toOption]
  | ok result => simp [Except.toOption]

/-- A check of the result, if there is one, says that there is one. -/
theorem exists_of_any {outcome : Except ε α} {p : α → Bool}
    (checked : outcome.toOption.any p = true) : ∃ value, outcome = .ok value ∧ p value := by
  cases outcome with
  | error defect => cases checked
  | ok value => exact ⟨value, rfl, checked⟩

/-- A list is gone through if every item is. -/
theorem mapM_eq_ok_iff {step : α → Except ε β} {items : List α} {results : List β} :
    items.mapM step = .ok results ↔ items.map step = results.map .ok := by
  induction items generalizing results with
  | nil => cases results <;> simp [pure, Except.pure]
  | cons item items ih =>
    rw [List.mapM_cons, bind_eq_ok_iff]
    cases results with
    | nil =>
      constructor
      · rintro ⟨value, _, rest⟩
        obtain ⟨values, _, impossible⟩ := bind_eq_ok_iff.mp rest
        cases impossible
      · intro impossible
        cases impossible
    | cons result results =>
      rw [List.map_cons, List.map_cons, List.cons.injEq, ← ih]
      constructor
      · rintro ⟨value, first, rest⟩
        obtain ⟨values, later, same⟩ := bind_eq_ok_iff.mp rest
        cases same
        exact ⟨first, later⟩
      · rintro ⟨first, later⟩
        exact ⟨result, first, bind_eq_ok_iff.mpr ⟨results, later, rfl⟩⟩

theorem getElem?_of_mapM_eq_ok {step : α → Except ε β} {items : List α} {results : List β}
    (gone : items.mapM step = .ok results) (index : Nat) :
    results[index]?.map .ok = items[index]?.map step := by
  rw [← List.getElem?_map, ← List.getElem?_map, mapM_eq_ok_iff.mp gone]

/-- What a step says of its result holds all along the list. -/
theorem map_eq_of_mapM_eq_ok {step : α → Except ε β} {items : List α} {results : List β}
    (gone : items.mapM step = .ok results) {actual : β → γ} {expected : α → γ}
    (fits : ∀ item result, step item = .ok result → actual result = expected item) :
    results.map actual = items.map expected := by
  refine List.ext_getElem? fun index => ?_
  have position := getElem?_of_mapM_eq_ok gone index
  rw [List.getElem?_map, List.getElem?_map]
  cases found : results[index]? with
  | none =>
    rw [found] at position
    rw [Option.map_eq_none_iff.mp position.symm]
    rfl
  | some result =>
    rw [found] at position
    obtain ⟨item, listed, stepped⟩ := Option.map_eq_some_iff.mp position.symm
    rw [listed, Option.map_some, Option.map_some, fits item result stepped]

theorem mem_iff_of_mapM_eq_ok {step : α → Except ε β} {items : List α} {results : List β}
    (gone : items.mapM step = .ok results) {result : β} :
    result ∈ results ↔ ∃ item ∈ items, step item = .ok result := by
  have same := mapM_eq_ok_iff.mp gone
  have member : Except.ok result ∈ items.map step ↔ result ∈ results := by
    rw [same]
    simp
  rw [← member, List.mem_map]

theorem exists_of_mapM_eq_ok {step : α → Except ε β} {items : List α} {results : List β}
    (gone : items.mapM step = .ok results) {item : α} (member : item ∈ items) :
    ∃ result ∈ results, step item = .ok result := by
  have stepped : step item ∈ items.map step := List.mem_map_of_mem member
  rw [mapM_eq_ok_iff.mp gone] at stepped
  obtain ⟨result, found, same⟩ := List.mem_map.mp stepped
  exact ⟨result, found, same.symm⟩

/-- What holds at first, and is kept by each step, holds of all items at the end. -/
theorem foldlM_induct {step : β → α → Except ε β} (Holds : List α → β → Prop) {items : List α}
    {start result : β} (gone : items.foldlM step start = .ok result) (first : Holds [] start)
    (kept : ∀ done item state next, Holds done state → step state item = .ok next →
      Holds (done ++ [item]) next) : Holds items result := by
  suffices general : ∀ (rest done : List α) (state : β), Holds done state →
      rest.foldlM step state = .ok result → Holds (done ++ rest) result by
    simpa using general items [] start first gone
  intro rest
  induction rest with
  | nil =>
    intro done state holds same
    cases same
    simpa using holds
  | cons item rest ih =>
    intro done state holds stepped
    rw [List.foldlM_cons, bind_eq_ok_iff] at stepped
    obtain ⟨next, now, later⟩ := stepped
    have after := ih (done ++ [item]) next (kept done item state next holds now) later
    rwa [List.append_assoc, List.singleton_append] at after

theorem length_of_mapM_eq_some {query : α → Option β} {items : List α} {results : List β}
    (gone : items.mapM query = some results) : items.length = results.length := by
  induction items generalizing results with
  | nil =>
    cases gone
    rfl
  | cons item items ih =>
    rw [List.mapM_cons] at gone
    obtain ⟨result, _, gone⟩ := Option.bind_eq_some_iff.mp gone
    obtain ⟨rest, later, same⟩ := Option.bind_eq_some_iff.mp gone
    cases same
    rw [List.length_cons, List.length_cons, ih later]

end Success

end SandboxRpc
