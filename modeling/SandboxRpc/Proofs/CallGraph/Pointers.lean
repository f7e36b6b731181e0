import Mathlib.Data.List.Perm.Subperm
import SandboxRpc.Proofs.CallGraph.Chains

/-!
# Pointers along calls

A search that goes up from a procedure may keep a pointer for each caller that it finds: a call site
in the caller, and the procedure that the call leads to. Pointers that are set only where there was
none, and to where a pointer or the procedure at the start is already, never go round in circles
(`Pointers.AllLeadTo.insert`).

- From each procedure that has one they lead to the one at the start (`Pointers.AllLeadTo`).
- There is just one chain along them (`Pointers.leads_unique`), so it is a shortest one. It passes
  no procedure twice (`Pointers.nodup`), and is no longer than there are pointers
  (`Pointers.length_le_size`).
-/

namespace SandboxRpc

/-- For a procedure, a call site in it and the procedure that the call leads to. -/
abbrev Pointers := Std.ExtTreeMap ProcedureId (CallSite × ProcedureId)

namespace Pointers

/-- The pointer from the caller of a call site is over that call site to a procedure. -/
def Points (toward : Pointers) (site : CallSite) (id : ProcedureId) : Prop :=
  toward[site.caller]? = some (site, id)

variable {toward : Pointers} {id target : ProcedureId} {chain : List CallSite}

theorem Points.mem {site : CallSite} (points : toward.Points site id) : site.caller ∈ toward := by
  rw [Std.ExtTreeMap.mem_iff_isSome_getElem?, points]
  rfl

/-! ## Chains along pointers -/

/-- Pointers that end somewhere can be followed there in one way only. -/
theorem leads_unique (ends : target ∉ toward) (leads : Leads toward.Points id chain target)
    {other : List CallSite} (leads' : Leads toward.Points id other target) : chain = other := by
  induction leads generalizing other with
  | here id =>
    cases other with
    | nil => rfl
    | cons site other =>
      obtain ⟨rfl, _, points, _⟩ := leads_cons.mp leads'
      exact absurd points.mem ends
  | @call site next target chain now later ih =>
    cases other with
    | nil =>
      obtain rfl := leads_nil.mp leads'
      exact absurd now.mem ends
    | cons site' other =>
      obtain ⟨same, _, points, rest⟩ := leads_cons.mp leads'
      rw [Points, same] at points
      obtain ⟨rfl, rfl⟩ := Prod.mk.inj (Option.some.inj (points.symm.trans now))
      rw [ih ends rest]

theorem isShortest (ends : target ∉ toward) (leads : Leads toward.Points id chain target) :
    IsShortest toward.Points id chain target where
  leads := leads
  least _ other := Nat.le_of_eq (congrArg List.length (leads_unique ends leads other))

/-- No procedure is passed twice, the last one included. -/
theorem nodup (ends : target ∉ toward) (leads : Leads toward.Points id chain target) :
    (chain.map CallSite.caller ++ [target]).Nodup := by
  have shortest := isShortest ends leads
  rw [← List.concat_eq_append]
  refine shortest.nodup.concat fun again => ?_
  obtain ⟨site, member, same⟩ := List.mem_map.mp again
  exact shortest.caller_ne_target member same

/-- No more pointers are followed than there are. -/
theorem length_le_size (ends : target ∉ toward) (leads : Leads toward.Points id chain target) :
    chain.length ≤ toward.size := by
  have followed : chain.map CallSite.caller ⊆ toward.keys := by
    intro caller member
    obtain ⟨site, passed, rfl⟩ := List.mem_map.mp member
    obtain ⟨before, after, rfl⟩ := List.append_of_mem passed
    obtain ⟨_, _, points, _⟩ := leads_cons.mp leads.cut.2
    exact Std.ExtTreeMap.mem_keys.mpr points.mem
  rw [← Std.ExtTreeMap.length_keys, ← List.length_map (f := CallSite.caller)]
  exact (List.subperm_of_subset (isShortest ends leads).nodup followed).length_le

/-! ## New pointers -/

/-- A pointer from a procedure that had none leaves alone where the others lead. -/
theorem leads_insert {site : CallSite} {next : ProcedureId} {new : ProcedureId}
    (unknown : new ∉ toward) (leads : Leads toward.Points id chain target) :
    Leads (Points (toward.insert new (site, next))) id chain target := by
  refine leads.mono fun site' next' points => ?_
  have other : new ≠ site'.caller := by
    rintro rfl
    exact unknown points.mem
  rw [Points, Std.ExtTreeMap.getElem?_insert, if_neg (by simpa using other)]
  exact points

theorem leads_insert_caller {site : CallSite} (unknown : site.caller ∉ toward)
    (leads : Leads toward.Points id chain target) :
    Leads (Points (toward.insert site.caller (site, id))) site.caller (site :: chain) target :=
  .call Std.ExtTreeMap.getElem?_insert_self (leads_insert unknown leads)

/-- What was seen is the target and whatever has a pointer; the target has none, and from anywhere
else pointers lead to it. -/
structure AllLeadTo (target : ProcedureId) (seen : ProcedureSet) (toward : Pointers) : Prop where
  mem_seen : ∀ id, id ∈ seen ↔ id = target ∨ id ∈ toward
  ends : target ∉ toward
  leads : ∀ id ∈ seen, ∃ chain, Leads toward.Points id chain target

theorem allLeadTo_empty : AllLeadTo target {target} ∅ where
  mem_seen id := by simpa using eq_comm
  ends := Std.ExtTreeMap.not_mem_empty
  leads id member := by
    obtain rfl : target = id := by simpa using member
    exact ⟨[], .here _⟩

namespace AllLeadTo

variable {seen : ProcedureSet} (lead : AllLeadTo target seen toward)
include lead

theorem not_mem_toward (new : id ∉ seen) : id ∉ toward :=
  fun known => new ((lead.mem_seen id).mpr (.inr known))

theorem mem_seen_of_leads (leads : Leads toward.Points id chain target) : id ∈ seen := by
  rw [lead.mem_seen]
  cases leads with
  | here => exact .inl rfl
  | call now later => exact .inr now.mem

/-- Where a pointer leads to was seen. -/
theorem mem_seen_of_pointer {site : CallSite} {next : ProcedureId}
    (pointer : toward[id]? = some (site, next)) : next ∈ seen := by
  have known : id ∈ toward := by
    rw [Std.ExtTreeMap.mem_iff_isSome_getElem?, pointer]
    rfl
  obtain ⟨chain, leads⟩ := lead.leads id ((lead.mem_seen id).mpr (.inr known))
  cases leads with
  | here => exact absurd known lead.ends
  | call now later =>
    obtain ⟨-, rfl⟩ := Prod.mk.inj (Option.some.inj (now.symm.trans pointer))
    exact lead.mem_seen_of_leads later

/-- The new pointer leads to where something was seen, and from there the old ones go on. -/
theorem insert {site : CallSite} (new : site.caller ∉ seen) (old : id ∈ seen) :
    AllLeadTo target (seen.insert site.caller) (toward.insert site.caller (site, id)) where
  mem_seen other := by
    rw [Std.ExtTreeSet.mem_insert, Std.ExtTreeMap.mem_insert, lead.mem_seen]
    exact or_left_comm
  ends := by
    rw [Std.ExtTreeMap.mem_insert]
    rintro (same | known)
    · obtain rfl := Std.LawfulEqOrd.eq_of_compare same
      exact new ((lead.mem_seen _).mpr (.inl rfl))
    · exact lead.ends known
  leads other member := by
    have unknown := lead.not_mem_toward new
    rcases Std.ExtTreeSet.mem_insert.mp member with same | member
    · obtain rfl := Std.LawfulEqOrd.eq_of_compare same
      obtain ⟨chain, leads⟩ := lead.leads id old
      exact ⟨site :: chain, leads_insert_caller unknown leads⟩
    · obtain ⟨chain, leads⟩ := lead.leads other member
      exact ⟨chain, leads_insert unknown leads⟩

end AllLeadTo

end Pointers

end SandboxRpc
