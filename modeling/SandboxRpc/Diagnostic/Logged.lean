import SandboxRpc.Diagnostic.Event

/-!
# Results with events

`Logged α` is a result together with the events on the way to it, in order. It is a lawful monad:
running one step after another appends their events. `Logged.warnings` are those events that are
warnings.
-/

namespace SandboxRpc

/-- A result and the events that led up to it. -/
structure Logged (α : Type) where
  value : α
  events : List Event := []
deriving Repr

namespace Logged

variable {α β : Type}

@[ext] theorem ext {x y : Logged α} (value : x.value = y.value) (events : x.events = y.events) :
    x = y := by
  cases x
  cases y
  simp_all

/-- The warnings that led up to a result, in order. -/
def warnings (logged : Logged α) : List Warning :=
  logged.events.filterMap Event.warning?

theorem mem_warnings {x : Logged α} {warning : Warning} :
    warning ∈ x.warnings ↔ .warning warning ∈ x.events := by
  simp only [warnings, List.mem_filterMap]
  constructor
  · rintro ⟨event, found, same⟩
    cases event with
    | warning given => cases same; exact found
    | note taken => cases same
  · exact fun found => ⟨_, found, rfl⟩

instance : Monad Logged where
  pure value := { value }
  bind x f := { value := (f x.value).value, events := x.events ++ (f x.value).events }

@[simp] theorem value_pure (a : α) : (pure a : Logged α).value = a := rfl

@[simp] theorem events_pure (a : α) : (pure a : Logged α).events = [] := rfl

@[simp] theorem warnings_pure (a : α) : (pure a : Logged α).warnings = [] := rfl

@[simp] theorem value_bind (x : Logged α) (f : α → Logged β) :
    (x >>= f).value = (f x.value).value := rfl

@[simp] theorem events_bind (x : Logged α) (f : α → Logged β) :
    (x >>= f).events = x.events ++ (f x.value).events := rfl

@[simp] theorem warnings_bind (x : Logged α) (f : α → Logged β) :
    (x >>= f).warnings = x.warnings ++ (f x.value).warnings :=
  List.filterMap_append

@[simp] theorem value_map (f : α → β) (x : Logged α) : (f <$> x).value = f x.value := rfl

@[simp] theorem events_map (f : α → β) (x : Logged α) : (f <$> x).events = x.events :=
  List.append_nil _

@[simp] theorem warnings_map (f : α → β) (x : Logged α) : (f <$> x).warnings = x.warnings :=
  congrArg (List.filterMap Event.warning?) (events_map f x)

instance : LawfulMonad Logged :=
  LawfulMonad.mk' Logged (fun _ => ext rfl (List.append_nil _)) (fun _ _ => rfl)
    (fun _ _ _ => ext rfl (List.append_assoc _ _ _))

/-! ## Runs over a list -/

theorem value_foldlM (f : β → α → Logged β) (init : β) (items : List α) :
    (items.foldlM f init).value = items.foldl (fun state item => (f state item).value) init := by
  induction items generalizing init with
  | nil => rfl
  | cons item rest ih => rw [List.foldlM_cons, value_bind, ih, List.foldl_cons]

theorem value_mapM (f : α → Logged β) (items : List α) :
    (items.mapM f).value = items.map fun item => (f item).value := by
  induction items with
  | nil => rfl
  | cons item rest ih => rw [List.mapM_cons, value_bind, value_bind, ih]; rfl

/-! ## Single events -/

/-- Gives one warning. -/
def warn (warning : Warning) : Logged Unit :=
  { value := (), events := [.warning warning] }

/-- Takes one note. -/
def note (note : Note) : Logged Unit :=
  { value := (), events := [.note note] }

@[simp] theorem warnings_warn (warning : Warning) : (warn warning).warnings = [warning] := rfl

@[simp] theorem warnings_note (note : Note) : (Logged.note note).warnings = [] := rfl

end Logged

end SandboxRpc
