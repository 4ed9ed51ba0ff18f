import Mathlib.Init

/-!
# What holds after a computation that may fail

`Outcome Q E x` says that `x` ends with a result that has `Q`, or with a failure that has `E`. With
`E` true of no failure it is total correctness, and with `E` true of every failure partial
correctness. The rules follow the way in which such computations are put together: one after the
other (`Outcome.bind`), and over the elements of a list with an invariant (`Outcome.foldlM`), which
also covers runs.
-/

namespace NetworkSim

variable {ε α β σ : Type}

/-- The outcome of a computation is a result with `Q` or a failure with `E`. -/
def Outcome (Q : α → Prop) (E : ε → Prop) : Except ε α → Prop
  | .ok a => Q a
  | .error e => E e

namespace Outcome

variable {Q Q' : α → Prop} {E E' : ε → Prop} {x : Except ε α}

@[simp] theorem ok (a : α) : Outcome Q E (.ok a) ↔ Q a := Iff.rfl

@[simp] theorem error (e : ε) : Outcome Q E (.error e) ↔ E e := Iff.rfl

theorem result (h : Outcome Q E x) {a : α} (hx : x = .ok a) : Q a := by
  rw [hx] at h
  exact h

theorem failure (h : Outcome Q E x) {e : ε} (hx : x = .error e) : E e := by
  rw [hx] at h
  exact h

theorem mono (h : Outcome Q E x) (hQ : ∀ a, Q a → Q' a) (hE : ∀ e, E e → E' e) :
    Outcome Q' E' x := by
  cases x with
  | ok a => exact hQ a h
  | error e => exact hE e h

theorem and (h : Outcome Q E x) (h' : Outcome Q' E' x) :
    Outcome (fun a => Q a ∧ Q' a) (fun e => E e ∧ E' e) x := by
  cases x with
  | ok a => exact ⟨h, h'⟩
  | error e => exact ⟨h, h'⟩

/-- One computation after the other. -/
theorem bind {R : β → Prop} {f : α → Except ε β} (h : Outcome Q E x)
    (hf : ∀ a, Q a → Outcome R E (f a)) : Outcome R E (x >>= f) := by
  cases x with
  | ok a => exact hf a h
  | error e => exact h

/-- An invariant of each round holds after all of them. -/
theorem foldlM {I : σ → Prop} {f : σ → α → Except ε σ} {as : List α}
    (hf : ∀ a ∈ as, ∀ s, I s → Outcome I E (f s a)) {s : σ} (h : I s) :
    Outcome I E (as.foldlM f s) := by
  induction as generalizing s with
  | nil => exact h
  | cons a as ih =>
    rw [List.foldlM_cons]
    exact (hf a List.mem_cons_self s h).bind fun s' h' =>
      ih (fun a' ha' => hf a' (List.mem_cons_of_mem a ha')) h'

end Outcome

end NetworkSim
