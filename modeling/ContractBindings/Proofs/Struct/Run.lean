import ContractBindings.Struct.Resolve
import Mathlib.Data.List.Basic

/-!
# Runs of a computation

`x.outcome before` is what the computation `x` gives when it is started with the registry `before`,
be it a result or a failure, together with the registry that it leaves. `x.Yields before a after`
says that it succeeds with the result `a` and leaves the registry `after`. The lemmas take a
computation apart along its construction, so that no later proof opens the monad.
-/

namespace ContractBindings

namespace Resolve

variable {α β : Type} {before after : StructRegistry}

/-- What a computation gives, and the registry that it leaves. -/
def outcome (x : Resolve α) (before : StructRegistry) : Except BindError α × StructRegistry :=
  x.run before

@[simp]
theorem outcome_get (before : StructRegistry) :
    outcome (get : Resolve StructRegistry) before = (.ok before, before) := rfl

/-- The second computation of a sequence runs where the first one stopped, unless that has
failed. -/
theorem outcome_bind (x : Resolve α) (f : α → Resolve β) (before : StructRegistry) :
    outcome (x >>= f) before = match outcome x before with
      | (.ok a, middle) => outcome (f a) middle
      | (.error error, middle) => (.error error, middle) := by
  -- a failure keeps the registry as it is then, so both branches hand on `middle`
  change ((match outcome x before with
    | (result, middle) => outcome (ExceptT.mk (ExceptT.bindCont f result)) middle) :
      Except BindError β × StructRegistry) = _
  rcases outcome x before with ⟨_ | _, middle⟩ <;> rfl

/-- **Successful run** of a computation from one registry to another. -/
def Yields (x : Resolve α) (before : StructRegistry) (a : α) (after : StructRegistry) : Prop :=
  outcome x before = (.ok a, after)

@[simp]
theorem yields_pure {a b : α} :
    Yields (pure a : Resolve α) before b after ↔ a = b ∧ before = after := by
  change ((Except.ok a, before) : Except BindError α × StructRegistry) = (.ok b, after) ↔ _
  simp

@[simp]
theorem not_yields_throw {error : BindError} {a : α} :
    ¬Yields (throw error : Resolve α) before a after := by
  change ¬((Except.error error, before) : Except BindError α × StructRegistry) = (.ok a, after)
  simp

@[simp]
theorem yields_get {found : StructRegistry} :
    Yields (get : Resolve StructRegistry) before found after ↔
      before = found ∧ before = after := by
  change ((Except.ok before, before) : Except BindError StructRegistry × StructRegistry) =
    (.ok found, after) ↔ _
  simp

@[simp]
theorem yields_set {registry : StructRegistry} {u : PUnit} :
    Yields (set registry : Resolve PUnit) before u after ↔ registry = after := by
  change ((Except.ok PUnit.unit, registry) : Except BindError PUnit × StructRegistry) =
    (.ok u, after) ↔ _
  simp

/-- A sequence of two computations succeeds if both do, the second where the first stopped. -/
@[simp]
theorem yields_bind {x : Resolve α} {f : α → Resolve β} {b : β} :
    Yields (x >>= f) before b after ↔
      ∃ a middle, Yields x before a middle ∧ Yields (f a) middle b after := by
  rw [Yields, outcome_bind]
  rcases hx : outcome x before with ⟨error | a, middle⟩
  · simp [Yields, hx]
  · simp [Yields, hx]

/-! ### Lists of computations -/

@[simp]
theorem yields_mapM_nil {f : α → Resolve β} {results : List β} :
    Yields ([].mapM f) before results after ↔ results = [] ∧ before = after := by
  rw [List.mapM_nil, yields_pure, eq_comm]

@[simp]
theorem yields_mapM_cons {f : α → Resolve β} {item : α} {rest : List α} {results : List β} :
    Yields ((item :: rest).mapM f) before results after ↔
      ∃ first middle others, Yields (f item) before first middle ∧
        Yields (rest.mapM f) middle others after ∧ results = first :: others := by
  simp only [List.mapM_cons, yields_bind, yields_pure]
  constructor
  · rintro ⟨first, middle, hfirst, others, _, hothers, rfl, rfl⟩
    exact ⟨first, middle, others, hfirst, hothers, rfl⟩
  · rintro ⟨first, middle, others, hfirst, hothers, rfl⟩
    exact ⟨first, middle, hfirst, others, after, hothers, rfl, rfl⟩

/-- If every result leads back to its item, the results lead back to the items. -/
theorem map_eq_of_yields_mapM {f : α → Resolve β} {g : β → α}
    (hstep : ∀ item before result after, Yields (f item) before result after → g result = item)
    {items : List α} {results : List β} (h : Yields (items.mapM f) before results after) :
    results.map g = items := by
  induction items generalizing before results with
  | nil =>
    obtain ⟨rfl, -⟩ := yields_mapM_nil.mp h
    rfl
  | cons item rest ih =>
    obtain ⟨first, middle, others, hfirst, hothers, rfl⟩ := yields_mapM_cons.mp h
    rw [List.map_cons, hstep item before first middle hfirst, ih hothers]

/-- If every result has a property, all of them have. -/
theorem forall_mem_of_yields_mapM {f : α → Resolve β} {P : β → Prop}
    (hstep : ∀ item before result after, Yields (f item) before result after → P result)
    {items : List α} {results : List β} (h : Yields (items.mapM f) before results after) :
    ∀ result ∈ results, P result := by
  induction items generalizing before results with
  | nil =>
    obtain ⟨rfl, -⟩ := yields_mapM_nil.mp h
    exact fun _ hmem => absurd hmem List.not_mem_nil
  | cons item rest ih =>
    obtain ⟨first, middle, others, hfirst, hothers, rfl⟩ := yields_mapM_cons.mp h
    exact List.forall_mem_cons.mpr ⟨hstep item before first middle hfirst, ih hothers⟩

end Resolve

/-- The fields of a tuple are mapped one after the other. -/
theorem mapFields_eq_mapM (language : Language) (fields : TupleFields) :
    mapFields language fields = fields.mapM fun field => mapType language field.2 := by
  induction fields with
  | nil => rfl
  | cons field rest ih => rw [mapFields, ih, List.mapM_cons]

end ContractBindings
