import TreeQuery.Error

/-!
# Computations that may abort

Looking at a place that is not there aborts a computation. Such a look is an `Option`, whose `none` is
the abort, and a computation that may abort or fail with an error is `Checked`.

`Checked.done` are the computations that go through. What is shown of a computation is that it goes
through, with the result of another one that has no way to abort.
-/

namespace TreeQuery

/-- A computation that may abort, and gives a value or an error if it does not. -/
abbrev Checked (α : Type) := ExceptT Error Option α

namespace Checked

variable {α β : Type}

/-- The computation that goes through and gives a result. -/
def done (result : Except Error α) : Checked α := ExceptT.mk (some result)

/-- The computation that aborts. -/
def abort : Checked α := ExceptT.mk none

theorem pure_eq_done (a : α) : (pure a : Checked α) = done (.ok a) := rfl

@[simp] theorem done_ok_bind (a : α) (f : α → Checked β) : done (.ok a) >>= f = f a := rfl

@[simp] theorem done_error_bind (e : Error) (f : α → Checked β) :
    done (.error e) >>= f = done (.error e) := rfl

/-- A look that finds something does not show. -/
@[simp] theorem lift_some_bind (a : α) (f : α → Checked β) :
    (liftM (some a) : Checked α) >>= f = f a := rfl

/-- Of two computations one after the other, both give a value if the second does. -/
theorem exists_of_bind {x : Checked α} {f : α → Checked β} {b : β} (h : x >>= f = done (.ok b)) :
    ∃ a, x = done (.ok a) ∧ f a = done (.ok b) := by
  match x, h with
  | some (.ok a), h => exact ⟨a, rfl, h⟩
  | some (.error e), h => cases h
  | none, h => cases h

theorem exists_of_lift_bind {o : Option α} {f : α → Checked β} {b : β}
    (h : (liftM o : Checked α) >>= f = done (.ok b)) : ∃ a, o = some a ∧ f a = done (.ok b) := by
  cases o with
  | none => cases h
  | some a => exact ⟨a, rfl, h⟩

/-- Two computations one after the other go through if both do. -/
theorem done_bind {result : Except Error α} {f : α → Checked β} {g : α → Except Error β}
    (h : ∀ a, result = .ok a → f a = done (g a)) : done result >>= f = done (result >>= g) := by
  cases result with
  | error e => rfl
  | ok a => exact h a rfl

theorem done_map (result : Except Error α) (f : α → β) :
    f <$> done result = done (result.map f) := by
  cases result <;> rfl

/-! ## Looks at every member of a list -/

variable {l : List α}

theorem mapM_eq_some {f : α → Option β} {g : α → β} (h : ∀ a ∈ l, f a = some (g a)) :
    l.mapM f = some (l.map g) := by
  induction l with
  | nil => rfl
  | cons a l ih =>
    rw [List.mapM_cons, h a List.mem_cons_self, ih fun b hb => h b (List.mem_cons_of_mem _ hb)]
    rfl

theorem allM_eq_some {f : α → Option Bool} {g : α → Bool} (h : ∀ a ∈ l, f a = some (g a)) :
    l.allM f = some (l.all g) := by
  induction l with
  | nil => rfl
  | cons a l ih =>
    rw [List.allM, h a List.mem_cons_self, ih fun b hb => h b (List.mem_cons_of_mem _ hb),
      List.all_cons]
    cases g a <;> rfl

theorem filterM_eq_some {f : α → Option Bool} {g : α → Bool} (h : ∀ a ∈ l, f a = some (g a)) :
    l.filterM f = some (l.filter g) := by
  -- What is kept is gathered in reverse, in front of what was kept before.
  have haux (acc : List α) : l.filterAuxM f acc = some ((l.filter g).reverse ++ acc) := by
    induction l generalizing acc with
    | nil => rfl
    | cons a l ih =>
      rw [List.filterAuxM, h a List.mem_cons_self, List.filter_cons]
      have ih := ih fun b hb => h b (List.mem_cons_of_mem _ hb)
      cases g a with
      | true => simpa using ih (a :: acc)
      | false => exact ih acc
  rw [List.filterM, haux]
  simp

end Checked

end TreeQuery
