import Mathlib.Data.List.Basic
import Mathlib.Data.List.Induction
import SandboxRpc.Diagnostic.Logged

/-!
# Items in turn

A walk over a list often gives something for each item that depends on the items before it.
`inTurn` collects what is given. Whatever starts empty and gains that much with each item at the end
is such a collection (`eq_inTurn`); the events of a logged walk are one (`Logged.events_foldlM`).
-/

namespace SandboxRpc

variable {α β γ : Type}

/-- What the items of a list give, each in view of those before it. -/
def inTurn (give : List α → α → List β) (items : List α) : List β :=
  items.zipIdx.flatMap fun turn => give (items.take turn.2) turn.1

variable {give : List α → α → List β}

theorem inTurn_concat (items : List α) (last : α) :
    inTurn give (items ++ [last]) = inTurn give items ++ give items last := by
  have earlier : items.zipIdx.flatMap (fun turn => give ((items ++ [last]).take turn.2) turn.1) =
      inTurn give items := by
    refine List.flatMap_congr fun turn member => ?_
    have bound : turn.2 ≤ items.length := by
      have inside := (List.mem_zipIdx member).2.1
      omega
    rw [List.take_append_of_le_length bound]
  rw [inTurn, List.zipIdx_append, List.flatMap_append, earlier]
  simp

theorem eq_inTurn (collected : List α → List β) (nil : collected [] = [])
    (concat : ∀ items last, collected (items ++ [last]) = collected items ++ give items last)
    (items : List α) : collected items = inTurn give items := by
  induction items using List.reverseRecOn with
  | nil => exact nil
  | append_singleton items last ih => rw [concat, ih, inTurn_concat]

theorem filterMap_inTurn (select : β → Option γ) (items : List α) :
    (inTurn give items).filterMap select =
      inTurn (fun earlier item => (give earlier item).filterMap select) items :=
  List.filterMap_flatMap

/-- What does not depend on earlier items is collected item by item. -/
theorem inTurn_const (give : α → List β) (items : List α) :
    inTurn (fun _ => give) items = items.flatMap give := by
  refine (eq_inTurn (List.flatMap give) rfl ?_ items).symm
  intro items last
  simp

namespace Logged

theorem events_mapM (step : α → Logged β) (items : List α) :
    (items.mapM step).events = items.flatMap fun item => (step item).events := by
  induction items with
  | nil => rfl
  | cons item rest ih =>
    rw [List.mapM_cons, events_bind, events_bind, ih, List.flatMap_cons, events_pure,
      List.append_nil]

/-- A step of a walk happens in the state that the steps before it leave. -/
theorem events_foldlM (step : β → α → Logged β) (start : β) (items : List α) :
    (items.foldlM step start).events =
      inTurn (fun earlier item => (step (earlier.foldlM step start).value item).events) items := by
  refine eq_inTurn (fun items => (items.foldlM step start).events) rfl ?_ items
  intro items last
  rw [List.foldlM_append, events_bind]
  simp

end Logged

end SandboxRpc
