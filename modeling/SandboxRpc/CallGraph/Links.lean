import Std.Data.ExtTreeMap
import Std.Data.ExtTreeSet

/-!
# Links

A finite relation that is looked up by its left side: `Links α β` keeps the set of targets of every
source. `targets` is the view of it, and each operation has one lemma that says what becomes of the
targets of every source:

- `mem_targets_insert`, `mem_targets_erase` and `mem_targets_clear` for the operations;
- `mem_toList` and `nodup_toList` for the list of all links.
-/

namespace SandboxRpc

/-- A finite relation by source. -/
structure Links (α β : Type) [Ord α] [Ord β] where
  bySource : Std.ExtTreeMap α (Std.ExtTreeSet β) := ∅

namespace Links

variable {α β : Type} [Ord α] [Ord β]

instance : EmptyCollection (Links α β) := ⟨{}⟩

variable [Std.TransOrd α]

/-- What a source is linked to. -/
def targets (links : Links α β) (source : α) : Std.ExtTreeSet β :=
  links.bySource.getD source ∅

/-- Takes all links of a source away, and its entry with them. That there is no entry, rather than
one for no targets, does not show: `targets` is the same. -/
def clear (links : Links α β) (source : α) : Links α β where
  bySource := links.bySource.erase source

@[simp] theorem targets_empty (source : α) : (∅ : Links α β).targets source = ∅ :=
  Std.ExtTreeMap.getD_empty

variable [Std.TransOrd β]

/-- All links, by source and then by target. -/
def toList (links : Links α β) : List (α × β) :=
  links.bySource.toList.flatMap fun entry => entry.2.toList.map (entry.1, ·)

/-- Links a source to a target. -/
def insert (links : Links α β) (source : α) (target : β) : Links α β where
  bySource := links.bySource.alter source fun known => some ((known.getD ∅).insert target)

/-- Takes one link away. -/
def erase (links : Links α β) (source : α) (target : β) : Links α β where
  bySource := links.bySource.modify source (·.erase target)

/-! ## The view after each operation -/

variable [Std.LawfulEqOrd α]

omit [Std.TransOrd β] in
theorem mem_bySource_clear {links : Links α β} {source other : α} :
    other ∈ (links.clear source).bySource ↔ source ≠ other ∧ other ∈ links.bySource := by
  simp [clear]

theorem mem_bySource_insert {links : Links α β} {source other : α} {target : β} :
    other ∈ (links.insert source target).bySource ↔ source = other ∨ other ∈ links.bySource := by
  by_cases same : source = other
  · simp [insert, same]
  · simp [insert, Std.ExtTreeMap.mem_alter, same]

omit [Std.LawfulEqOrd α] in
@[simp] theorem mem_bySource_erase {links : Links α β} {source other : α} {target : β} :
    other ∈ (links.erase source target).bySource ↔ other ∈ links.bySource :=
  Std.ExtTreeMap.mem_modify

theorem mem_targets_clear {links : Links α β} {source other : α} {id : β} :
    id ∈ (links.clear source).targets other ↔ id ∈ links.targets other ∧ source ≠ other := by
  by_cases same : source = other
  · simp [clear, targets, Std.ExtTreeMap.getD_eq_getD_getElem?, same]
  · simp [clear, targets, Std.ExtTreeMap.getD_eq_getD_getElem?, Std.ExtTreeMap.getElem?_erase, same]

variable [Std.LawfulEqOrd β]

theorem mem_toList {links : Links α β} {source : α} {target : β} :
    (source, target) ∈ links.toList ↔ target ∈ links.targets source := by
  simp only [toList, targets, List.mem_flatMap, List.mem_map, Prod.exists,
    Std.ExtTreeMap.mem_toList_iff_getElem?_eq_some, Std.ExtTreeMap.getD_eq_getD_getElem?]
  constructor
  · rintro ⟨found, set, known, id, member, equal⟩
    obtain ⟨rfl, rfl⟩ := Prod.mk.inj equal
    simpa [known] using member
  · intro member
    cases known : links.bySource[source]? with
    | none => simp [known] at member
    | some set => exact ⟨source, set, known, target, by simpa [known] using member, rfl⟩

theorem mem_targets_insert {links : Links α β} {source other : α} {target id : β} :
    id ∈ (links.insert source target).targets other ↔
      source = other ∧ target = id ∨ id ∈ links.targets other := by
  by_cases same : source = other
  · subst same
    simp [insert, targets, Std.ExtTreeMap.getD_eq_getD_getElem?]
  · simp [insert, targets, Std.ExtTreeMap.getD_eq_getD_getElem?, Std.ExtTreeMap.getElem?_alter,
      same]

theorem mem_targets_erase {links : Links α β} {source other : α} {target id : β} :
    id ∈ (links.erase source target).targets other ↔
      id ∈ links.targets other ∧ ¬ (source = other ∧ target = id) := by
  by_cases same : source = other
  · subst same
    cases known : links.bySource[source]? with
    | none => simp [erase, targets, Std.ExtTreeMap.getD_eq_getD_getElem?, known]
    | some set => simp [erase, targets, Std.ExtTreeMap.getD_eq_getD_getElem?, known, and_comm]
  · simp [erase, targets, Std.ExtTreeMap.getD_eq_getD_getElem?, Std.ExtTreeMap.getElem?_modify,
      same]

theorem mem_targets_foldl_erase {links : Links α β} {sources : List α} {other : α}
    {target id : β} :
    id ∈ (sources.foldl (fun links source => links.erase source target) links).targets other ↔
      id ∈ links.targets other ∧ ¬ (other ∈ sources ∧ target = id) := by
  induction sources generalizing links with
  | nil => simp
  | cons source sources ih =>
    rw [List.foldl_cons, ih, mem_targets_erase, List.mem_cons]
    grind

theorem nodup_toList (links : Links α β) : links.toList.Nodup := by
  rw [toList, List.Nodup, List.pairwise_flatMap]
  constructor
  · intro entry _
    refine List.Pairwise.map _ ?_ (Std.ExtTreeSet.distinct_toList (t := entry.2))
    intro a b different same
    obtain ⟨_, rfl⟩ := Prod.mk.inj same
    exact different Std.ReflCmp.compare_self
  · refine (Std.ExtTreeMap.distinct_keys_toList (t := links.bySource)).imp ?_
    intro a b different left leftMember right rightMember same
    obtain ⟨_, _, rfl⟩ := List.mem_map.mp leftMember
    obtain ⟨_, _, rfl⟩ := List.mem_map.mp rightMember
    obtain ⟨sources, _⟩ := Prod.mk.inj same
    exact different (sources ▸ Std.ReflCmp.compare_self)

end Links

end SandboxRpc
