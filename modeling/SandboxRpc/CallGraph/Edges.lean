import SandboxRpc.CallGraph.Links
import SandboxRpc.Program.Basic

/-!
# Call edges in both directions

`CallEdges` records which procedures a call site may invoke, and, for the way back, which call sites
may invoke a procedure. Both directions are kept so that either question is one look-up:
`calleesOf` and `callersOf` are the two views, and `insert` and `replace` change both together.
-/

namespace SandboxRpc

/-- A call site and a procedure that it may invoke. -/
abbrev CallEdge := CallSite × ProcedureId

/-- A relation between call sites and procedures, indexed both ways. -/
structure CallEdges where
  callees : Links CallSite ProcedureId := ∅
  callers : Links ProcedureId CallSite := ∅

namespace CallEdges

instance : EmptyCollection CallEdges := ⟨{}⟩

/-! ## Views -/

/-- The procedures that a call site may invoke. -/
def calleesOf (edges : CallEdges) (site : CallSite) : ProcedureSet :=
  edges.callees.targets site

/-- The call sites that may invoke a procedure. -/
def callersOf (edges : CallEdges) (id : ProcedureId) : CallSiteSet :=
  edges.callers.targets id

/-- The number of edges. -/
def size (edges : CallEdges) : Nat :=
  edges.callees.toList.length

/-- Every procedure that some call site may invoke. -/
def allCallees (edges : CallEdges) : ProcedureSet :=
  .ofList (edges.callees.toList.map Prod.snd)

/-- Every procedure with a call site that may invoke something. -/
def allCallers (edges : CallEdges) : ProcedureSet :=
  .ofList (edges.callers.toList.map fun link => link.2.caller)

/-! ## Changes -/

def insert (edges : CallEdges) (edge : CallEdge) : CallEdges where
  callees := edges.callees.insert edge.1 edge.2
  callers := edges.callers.insert edge.2 edge.1

def insertAll (edges : CallEdges) (new : List CallEdge) : CallEdges :=
  new.foldl insert edges

/-- Takes away every edge from a call site. The other direction keeps its entries, also those that
are empty now; it does not show in either whether there are such entries. -/
def eraseSite (edges : CallEdges) (site : CallSite) : CallEdges where
  callees := edges.callees.clear site
  callers := (edges.calleesOf site).toList.foldl
    (fun callers callee => callers.erase callee site) edges.callers

/-- Makes `targets` the callees of a call site, whatever they were before. -/
def replace (edges : CallEdges) (site : CallSite) (targets : ProcedureSet) : CallEdges :=
  (edges.eraseSite site).insertAll (targets.toList.map (site, ·))

/-! ## The views after a change -/

variable {edges : CallEdges} {site : CallSite} {id : ProcedureId}

@[simp] theorem calleesOf_empty : (∅ : CallEdges).calleesOf site = ∅ := Links.targets_empty site

@[simp] theorem callersOf_empty : (∅ : CallEdges).callersOf id = ∅ := Links.targets_empty id

theorem mem_calleesOf_insert {edge : CallEdge} :
    id ∈ (edges.insert edge).calleesOf site ↔ edge = (site, id) ∨ id ∈ edges.calleesOf site := by
  simp [insert, calleesOf, Links.mem_targets_insert, Prod.ext_iff]

theorem mem_callersOf_insert {edge : CallEdge} :
    site ∈ (edges.insert edge).callersOf id ↔ edge = (site, id) ∨ site ∈ edges.callersOf id := by
  simp [insert, callersOf, Links.mem_targets_insert, Prod.ext_iff, and_comm]

theorem mem_calleesOf_insertAll {new : List CallEdge} :
    id ∈ (edges.insertAll new).calleesOf site ↔ (site, id) ∈ new ∨ id ∈ edges.calleesOf site := by
  induction new generalizing edges with
  | nil => simp [insertAll]
  | cons edge new ih =>
    have rest := @ih (edges.insert edge)
    simp only [insertAll, List.foldl_cons, List.mem_cons] at rest ⊢
    rw [rest, mem_calleesOf_insert]
    grind

theorem mem_callersOf_insertAll {new : List CallEdge} :
    site ∈ (edges.insertAll new).callersOf id ↔ (site, id) ∈ new ∨ site ∈ edges.callersOf id := by
  induction new generalizing edges with
  | nil => simp [insertAll]
  | cons edge new ih =>
    have rest := @ih (edges.insert edge)
    simp only [insertAll, List.foldl_cons, List.mem_cons] at rest ⊢
    rw [rest, mem_callersOf_insert]
    grind

theorem mem_calleesOf_eraseSite {other : CallSite} :
    id ∈ (edges.eraseSite site).calleesOf other ↔ id ∈ edges.calleesOf other ∧ site ≠ other :=
  Links.mem_targets_clear

/-- On the way back, only what the forward direction knows of a call site is taken away. -/
theorem mem_callersOf_eraseSite {other : CallSite} :
    other ∈ (edges.eraseSite site).callersOf id ↔
      other ∈ edges.callersOf id ∧ ¬ (id ∈ edges.calleesOf site ∧ site = other) := by
  simp [eraseSite, callersOf, Links.mem_targets_foldl_erase]

/-- Replacing the callees of one call site leaves those of all others alone. -/
theorem mem_calleesOf_replace {other : CallSite} {targets : ProcedureSet} :
    id ∈ (edges.replace site targets).calleesOf other ↔
      if site = other then id ∈ targets else id ∈ edges.calleesOf other := by
  rw [replace, mem_calleesOf_insertAll]
  by_cases same : site = other
  · simp [same, eraseSite, calleesOf, Links.mem_targets_clear]
  · simp [same, eraseSite, calleesOf, Links.mem_targets_clear]

end CallEdges

end SandboxRpc
