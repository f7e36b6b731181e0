import Mathlib.Data.List.Induction
import Mathlib.Logic.Equiv.Basic
import SandboxRpc.Messages.Conventions

/-!
# The longest beginning decides

`Conventions.classify` walks over the table and keeps the best entry so far. What comes of the walk
is said here without it: an operation decides a name if its beginning fits and no other one that
fits is longer, or as long and later in the table (`Conventions.Decides`). Lengths are in bytes.

The beginnings of one name begin each other, so those that are equally long are equal. Where no
beginning stands for two operations, the longest one is therefore the only one, and
`classify_longest` can be read off it.
-/

namespace SandboxRpc

/-- The position of an operation in the table. -/
def Operation.rank : Operation → Nat
  | send => 0
  | receive => 1
  | receiveSync => 2

theorem Operation.rank_inj {operation other : Operation} :
    operation.rank = other.rank ↔ operation = other := by
  cases operation <;> cases other <;> decide

namespace Conventions

variable {conventions : Conventions} {name start start' : String} {operation other : Operation}

/-- The beginning that stands for an operation. -/
def startOf (conventions : Conventions) : Operation → String
  | .send => conventions.sendPrefix
  | .receive => conventions.receivePrefix
  | .receiveSync => conventions.receiveSyncPrefix

theorem mem_table {entry : String × Operation} :
    entry ∈ conventions.table ↔ entry.1 = conventions.startOf entry.2 := by
  obtain ⟨start, operation⟩ := entry
  cases operation <;> simp [table, startOf]

theorem table_ordered (conventions : Conventions) :
    conventions.table.Pairwise (·.2.rank < ·.2.rank) := by
  simp [table, Operation.rank]

/-! ## Beginnings of one name -/

theorem fits_append {rest : String} (fits : Fits start name) : Fits start (name ++ rest) := by
  refine ⟨fits.1, fits.2.trans ?_⟩
  rw [String.toList_append]
  exact List.prefix_append _ _

theorem exists_eq_append_of_isPrefix (begins : start.toList <+: name.toList) :
    ∃ rest, name = start ++ rest := by
  obtain ⟨rest, whole⟩ := begins
  exact ⟨String.ofList rest, String.toList_injective (by simpa using whole.symm)⟩

/-- Of two beginnings of one name, the one that takes fewer bytes begins the other. -/
theorem Fits.isPrefix_of_size_le (fits : Fits start name) (fits' : Fits start' name)
    (size : start.utf8ByteSize ≤ start'.utf8ByteSize) : start.toList <+: start'.toList := by
  rcases List.prefix_or_prefix_of_prefix fits.2 fits'.2 with begins | begins
  · exact begins
  · obtain ⟨rest, rfl⟩ := exists_eq_append_of_isPrefix begins
    -- What the text has on top takes no bytes.
    rw [String.utf8ByteSize_append] at size
    have nothing : rest = "" := String.utf8ByteSize_eq_zero_iff.mp (by omega)
    simp [nothing]

theorem Fits.eq_of_size_eq (fits : Fits start name) (fits' : Fits start' name)
    (size : start.utf8ByteSize = start'.utf8ByteSize) : start = start' :=
  String.toList_injective ((fits.isPrefix_of_size_le fits' (Nat.le_of_eq size)).eq_of_length_le
    (fits'.isPrefix_of_size_le fits (Nat.le_of_eq size.symm)).length_le)

/-- It makes no difference whether beginnings of one name are compared by characters or by bytes. -/
theorem Fits.length_le_iff (fits : Fits start name) (fits' : Fits start' name) :
    start.length ≤ start'.length ↔ start.utf8ByteSize ≤ start'.utf8ByteSize := by
  constructor
  · intro length
    have begins : start.toList <+: start'.toList :=
      List.prefix_of_prefix_length_le fits.2 fits'.2
        (by rwa [String.length_toList, String.length_toList])
    obtain ⟨rest, rfl⟩ := exists_eq_append_of_isPrefix begins
    rw [String.utf8ByteSize_append]
    exact Nat.le_add_right _ _
  · intro size
    rw [← String.length_toList, ← String.length_toList]
    exact (fits.isPrefix_of_size_le fits' size).length_le

/-! ## The walk over the table -/

/-- The last of the longest entries: those before it are not longer, those behind it are shorter. -/
def IsLastLongest (entries : List (String × Operation)) (best : String × Operation) : Prop :=
  ∃ before after, entries = before ++ best :: after ∧
    (∀ entry ∈ before, entry.1.length ≤ best.1.length) ∧
    ∀ entry ∈ after, entry.1.length < best.1.length

theorem foldl_longer_eq_none_iff {entries : List (String × Operation)} :
    entries.foldl longer none = none ↔ entries = [] := by
  induction entries using List.reverseRecOn with
  | nil => simp
  | append_singleton entries last =>
    rw [List.foldl_append, List.foldl_cons, List.foldl_nil, longer.eq_def]
    split
    · split <;> simp
    · simp

theorem isLastLongest_foldl_longer {entries : List (String × Operation)}
    {best : String × Operation} (kept : entries.foldl longer none = some best) :
    IsLastLongest entries best := by
  induction entries using List.reverseRecOn generalizing best with
  | nil => cases kept
  | append_singleton entries last ih =>
    rw [List.foldl_append, List.foldl_cons, List.foldl_nil, longer.eq_def] at kept
    split at kept
    · rename_i earlier found
      obtain ⟨before, after, rfl, longest, shorter⟩ := ih found
      split at kept
      · rename_i behind
        cases kept
        refine ⟨before, after ++ [last], by simp, longest, ?_⟩
        intro entry member
        rcases List.mem_append.mp member with member | member
        · exact shorter entry member
        · rwa [List.mem_singleton.mp member]
      · rename_i ahead
        cases kept
        refine ⟨_, [], rfl, fun entry member => ?_, by simp⟩
        have bound : entry.1.length ≤ earlier.1.length := by
          rcases List.mem_append.mp member with member | member
          · exact longest entry member
          · rcases List.mem_cons.mp member with rfl | member
            · exact Nat.le_refl _
            · exact Nat.le_of_lt (shorter entry member)
        omega
    · rename_i none
      cases kept
      rw [foldl_longer_eq_none_iff.mp none]
      exact ⟨[], [], rfl, by simp, by simp⟩

/-! ## Decisions -/

/-- The beginning of an operation fits a name, and those of the others do not, are shorter, or are
the same and earlier in the table. -/
structure Decides (conventions : Conventions) (name : String) (operation : Operation) : Prop where
  fits : Fits (conventions.startOf operation) name
  others : ∀ other, Fits (conventions.startOf other) name →
    (conventions.startOf other).utf8ByteSize < (conventions.startOf operation).utf8ByteSize ∨
      conventions.startOf other = conventions.startOf operation ∧ other.rank ≤ operation.rank

theorem Decides.unique (decides : conventions.Decides name operation)
    (decides' : conventions.Decides name other) : operation = other := by
  refine Operation.rank_inj.mp ?_
  rcases decides.others other decides'.fits with shorter | ⟨same, later⟩
  · rcases decides'.others operation decides.fits with shorter' | ⟨same, _⟩
    · omega
    · rw [same] at shorter
      exact absurd shorter (Nat.lt_irrefl _)
  · rcases decides'.others operation decides.fits with shorter | ⟨_, later'⟩
    · rw [same] at shorter
      exact absurd shorter (Nat.lt_irrefl _)
    · omega

theorem decides_of_isLastLongest {best : String × Operation}
    (longest : IsLastLongest (conventions.table.filter fun entry => Fits entry.1 name) best) :
    conventions.Decides name best.2 := by
  obtain ⟨before, after, split, upTo, beyond⟩ := longest
  have fitting {entry : String × Operation} :
      entry ∈ before ++ best :: after ↔
        entry.1 = conventions.startOf entry.2 ∧ Fits entry.1 name := by
    rw [← split, List.mem_filter, mem_table, decide_eq_true_iff]
  obtain ⟨stands, fits⟩ := fitting.mp (List.mem_append_right before List.mem_cons_self)
  have ordered : (before ++ best :: after).Pairwise (·.2.rank < ·.2.rank) :=
    split ▸ (table_ordered conventions).filter _
  refine ⟨stands ▸ fits, fun other fits' => ?_⟩
  rw [← stands]
  have listed : (conventions.startOf other, other) ∈ before ++ best :: after :=
    fitting.mpr ⟨rfl, fits'⟩
  rcases List.mem_append.mp listed with earlier | rest
  · have size := (fits'.length_le_iff fits).mp (upTo _ earlier)
    have position := (List.pairwise_append.mp ordered).2.2 _ earlier best List.mem_cons_self
    rcases Nat.lt_or_eq_of_le size with shorter | equal
    · exact .inl shorter
    · exact .inr ⟨fits'.eq_of_size_eq fits equal, Nat.le_of_lt position⟩
  · rcases List.mem_cons.mp rest with rfl | later
    · exact .inr ⟨rfl, Nat.le_refl _⟩
    · refine .inl (Nat.lt_of_not_le fun size => ?_)
      exact Nat.not_lt.mpr ((fits.length_le_iff fits').mpr size) (beyond _ later)

theorem classify_eq_none_iff :
    conventions.classify name = none ↔
      ∀ operation, ¬ Fits (conventions.startOf operation) name := by
  rw [classify, Option.map_eq_none_iff, foldl_longer_eq_none_iff, List.filter_eq_nil_iff]
  constructor
  · intro none operation fits
    exact none (conventions.startOf operation, operation) (mem_table.mpr rfl) (decide_eq_true fits)
  · intro none entry member fits
    exact none entry.2 (mem_table.mp member ▸ of_decide_eq_true fits)

theorem decides_of_classify (classified : conventions.classify name = some operation) :
    conventions.Decides name operation := by
  obtain ⟨best, kept, rfl⟩ := Option.map_eq_some_iff.mp classified
  exact decides_of_isLastLongest (isLastLongest_foldl_longer kept)

theorem classify_eq_some_iff :
    conventions.classify name = some operation ↔ conventions.Decides name operation := by
  refine ⟨decides_of_classify, fun decides => ?_⟩
  cases classified : conventions.classify name with
  | none => exact absurd decides.fits (classify_eq_none_iff.mp classified operation)
  | some other => rw [(decides_of_classify classified).unique decides]

/-! ## Beginnings that are told apart -/

/-- No beginning stands for two operations, unless it is empty and so stands for nothing. -/
def Distinct (conventions : Conventions) : Prop :=
  ∀ operation other, conventions.startOf operation ≠ "" →
    conventions.startOf operation = conventions.startOf other → operation = other

/-- An operation has the longest of the beginnings that fit, maybe along with others. -/
structure IsLongest (conventions : Conventions) (name : String) (operation : Operation) :
    Prop where
  fits : Fits (conventions.startOf operation) name
  others : ∀ other, Fits (conventions.startOf other) name →
    (conventions.startOf other).utf8ByteSize ≤ (conventions.startOf operation).utf8ByteSize

theorem Decides.isLongest (decides : conventions.Decides name operation) :
    conventions.IsLongest name operation where
  fits := decides.fits
  others other fits := by
    rcases decides.others other fits with shorter | ⟨same, _⟩
    · exact Nat.le_of_lt shorter
    · exact Nat.le_of_eq (congrArg String.utf8ByteSize same)

theorem IsLongest.unique (distinct : conventions.Distinct)
    (longest : conventions.IsLongest name operation)
    (longest' : conventions.IsLongest name other) : operation = other := by
  refine distinct operation other longest.fits.1 (longest.fits.eq_of_size_eq longest'.fits ?_)
  exact Nat.le_antisymm
    (longest'.others operation longest.fits) (longest.others other longest'.fits)

theorem classify_eq_some_iff_isLongest (distinct : conventions.Distinct) :
    conventions.classify name = some operation ↔ conventions.IsLongest name operation := by
  refine ⟨fun classified => (decides_of_classify classified).isLongest, fun longest => ?_⟩
  cases classified : conventions.classify name with
  | none => exact absurd longest.fits (classify_eq_none_iff.mp classified operation)
  | some other => rw [(decides_of_classify classified).isLongest.unique distinct longest]

/-- Every operation takes the beginning of another one. -/
def reassign (conventions : Conventions) (roles : Operation → Operation) : Conventions where
  sendPrefix := conventions.startOf (roles .send)
  receivePrefix := conventions.startOf (roles .receive)
  receiveSyncPrefix := conventions.startOf (roles .receiveSync)

@[simp] theorem startOf_reassign (roles : Operation → Operation) :
    (conventions.reassign roles).startOf operation = conventions.startOf (roles operation) := by
  cases operation <;> rfl

theorem Distinct.reassign (distinct : conventions.Distinct) (roles : Equiv.Perm Operation) :
    (conventions.reassign roles).Distinct := by
  intro operation other nonempty same
  rw [startOf_reassign] at nonempty same
  rw [startOf_reassign] at same
  exact roles.injective (distinct _ _ nonempty same)

theorem isLongest_reassign (roles : Equiv.Perm Operation) :
    (conventions.reassign roles).IsLongest name operation ↔
      conventions.IsLongest name (roles operation) := by
  constructor
  · intro longest
    refine ⟨startOf_reassign roles ▸ longest.fits, fun other fits => ?_⟩
    have bound := longest.others (roles.symm other)
    simp only [startOf_reassign, Equiv.apply_symm_apply] at bound
    exact bound fits
  · intro longest
    refine ⟨startOf_reassign roles ▸ longest.fits, fun other fits => ?_⟩
    rw [startOf_reassign] at fits ⊢
    rw [startOf_reassign]
    exact longest.others _ fits

theorem classify_reassign (distinct : conventions.Distinct) (roles : Equiv.Perm Operation)
    (name : String) :
    (conventions.reassign roles).classify name = (conventions.classify name).map roles.symm := by
  refine Option.ext fun operation => ?_
  rw [classify_eq_some_iff_isLongest (distinct.reassign roles), isLongest_reassign,
    ← classify_eq_some_iff_isLongest distinct, Option.map_eq_some_iff]
  simp [Equiv.symm_apply_eq]

/-! ## Longer names -/

/-- A name that goes on is classified as before, unless a beginning fits that goes on with it. -/
theorem classify_append {rest : String}
    (within : ∀ operation, Fits (conventions.startOf operation) (name ++ rest) →
      (conventions.startOf operation).utf8ByteSize ≤ name.utf8ByteSize) :
    conventions.classify (name ++ rest) = conventions.classify name := by
  have same (operation : Operation) : Fits (conventions.startOf operation) (name ++ rest) ↔
      Fits (conventions.startOf operation) name := by
    refine ⟨fun fits => ⟨fits.1, ?_⟩, fits_append⟩
    by_cases empty : name = ""
    · subst empty
      have nothing := String.utf8ByteSize_eq_zero_iff.mp (Nat.le_zero.mp (within operation fits))
      exact absurd nothing fits.1
    · have whole : Fits name (name ++ rest) := fits_append ⟨empty, List.prefix_refl _⟩
      exact fits.isPrefix_of_size_le whole (within operation fits)
  refine Option.ext fun operation => ?_
  rw [classify_eq_some_iff, classify_eq_some_iff]
  constructor
  · exact fun decides => ⟨(same _).mp decides.fits, fun other fits =>
      decides.others other ((same _).mpr fits)⟩
  · exact fun decides => ⟨(same _).mpr decides.fits, fun other fits =>
      decides.others other ((same _).mp fits)⟩

/-- The longest beginning that fits decides what a name stands for, and the later one of two that
are the same. Where no two are the same, only one is the longest, and operations that exchange their
beginnings exchange the names that stand for them. A name that goes on stands for something else
only if a beginning fits that is longer than the name was. -/
theorem classify_longest (conventions : Conventions) :
    (∀ name, conventions.classify name = none ↔
      ∀ operation, ¬ Fits (conventions.startOf operation) name) ∧
    (∀ name operation, conventions.classify name = some operation ↔
      conventions.Decides name operation) ∧
    (conventions.Distinct →
      (∀ name operation, conventions.classify name = some operation →
        ∀ other, conventions.IsLongest name other ↔ other = operation) ∧
      ∀ first second name,
        (conventions.reassign (Equiv.swap first second)).classify name =
          (conventions.classify name).map (Equiv.swap first second)) ∧
    ∀ name rest, conventions.classify (name ++ rest) ≠ conventions.classify name →
      ∃ operation, Fits (conventions.startOf operation) (name ++ rest) ∧
        name.utf8ByteSize < (conventions.startOf operation).utf8ByteSize := by
  refine ⟨fun _ => classify_eq_none_iff, fun _ _ => classify_eq_some_iff, ?_, ?_⟩
  · intro distinct
    refine ⟨fun name operation classified other => ?_, fun first second name => ?_⟩
    · rw [← classify_eq_some_iff_isLongest distinct, classified, Option.some_inj, eq_comm]
    · rw [classify_reassign distinct, Equiv.symm_swap]
  · intro name rest different
    by_contra none
    refine different (classify_append fun operation fits => Nat.le_of_not_lt fun longer => ?_)
    exact none ⟨operation, fits, longer⟩

/-- One beginning goes on where another one ends. -/
theorem classify_longest_overlapping :
    let conventions : Conventions := {
      sendPrefix := "ipc_send"
      receivePrefix := "ipc_recv"
      receiveSyncPrefix := "ipc_recv_sync" }
    conventions.Distinct ∧
    conventions.classify "ipc_recv_sync_v2" = some .receiveSync ∧
    (∀ other, conventions.IsLongest "ipc_recv_sync_v2" other ↔ other = .receiveSync) ∧
    (conventions.reassign (Equiv.swap .receive .receiveSync)).classify "ipc_recv_sync_v2" =
      some .receive ∧
    conventions.classify ("ipc_recv" ++ "_sync") ≠ conventions.classify "ipc_recv" ∧
    ∃ operation, Fits (conventions.startOf operation) ("ipc_recv" ++ "_sync") ∧
      "ipc_recv".utf8ByteSize < (conventions.startOf operation).utf8ByteSize := by
  intro conventions
  have distinct : conventions.Distinct := by
    intro operation other
    cases operation <;> cases other <;> decide
  have classified : conventions.classify "ipc_recv_sync_v2" = some .receiveSync := by
    decide +kernel
  have changes : conventions.classify ("ipc_recv" ++ "_sync") ≠
      conventions.classify "ipc_recv" := by
    decide +kernel
  obtain ⟨_, _, separate, longer⟩ := classify_longest conventions
  obtain ⟨only, exchanged⟩ := separate distinct
  refine ⟨distinct, classified, only _ _ classified, ?_, changes, longer _ _ changes⟩
  rw [exchanged, classified]
  decide

end Conventions

end SandboxRpc
