import Mathlib.Data.List.Basic

/-!
# Computations that leave a trace

A computation in `Traced ε` returns a value and the list of events of type `ε` on its way. The value
of a sequence of computations is that of the last on the values before it, and its trace is the
traces one after the other; so a condition on all events (`Traced.All`) is one on each part
(`Traced.all_bind`).
-/

namespace NetworkSim

/-- A value and the events on the way to it. -/
structure Traced (ε α : Type) where
  val : α
  trace : List ε

namespace Traced

variable {ε α β : Type}

instance : Monad (Traced ε) where
  pure a := ⟨a, []⟩
  bind x f := ⟨(f x.val).val, x.trace ++ (f x.val).trace⟩

/-- One event. -/
def emit (e : ε) : Traced ε Unit := ⟨(), [e]⟩

-- `(rfl)` and not `rfl`: as `dsimp` lemmas they would leave decidability instances behind

@[simp] theorem val_pure (a : α) : (pure a : Traced ε α).val = a := (rfl)

@[simp] theorem val_bind (x : Traced ε α) (f : α → Traced ε β) :
    (x >>= f).val = (f x.val).val := (rfl)

@[simp] theorem val_map (f : α → β) (x : Traced ε α) : (f <$> x).val = f x.val := (rfl)

@[simp] theorem val_ite (p : Prop) [Decidable p] (x y : Traced ε α) :
    (if p then x else y).val = if p then x.val else y.val := by
  split <;> rfl

/-- Every event on the way has the property `p`. -/
def All (p : ε → Prop) (x : Traced ε α) : Prop := ∀ e ∈ x.trace, p e

variable {p : ε → Prop}

@[simp] theorem all_pure (a : α) : All p (pure a : Traced ε α) ↔ True :=
  iff_true_intro fun _ h => absurd h List.not_mem_nil

@[simp] theorem all_emit (e : ε) : All p (emit e) ↔ p e := List.forall_mem_singleton

@[simp] theorem all_bind (x : Traced ε α) (f : α → Traced ε β) :
    All p (x >>= f) ↔ All p x ∧ All p (f x.val) := List.forall_mem_append

@[simp] theorem all_map (f : α → β) (x : Traced ε α) : All p (f <$> x) ↔ All p x := by
  refine (all_bind x fun a => pure (f a)).trans ?_
  rw [all_pure, and_true]

@[simp] theorem all_ite (c : Prop) [Decidable c] (x y : Traced ε α) :
    All p (if c then x else y) ↔ if c then All p x else All p y := by
  split <;> rfl

end Traced

end NetworkSim
