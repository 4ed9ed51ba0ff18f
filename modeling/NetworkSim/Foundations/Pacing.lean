import Mathlib.Algebra.Order.Group.Defs
import Mathlib.Data.List.Chain

/-!
# Pacing

Events are given times that are at least a gap apart: each takes the later of its clock reading and
the next free time, and the next free time is then a gap after it (`times`, `after`). So a series of
events is spaced whatever the clock reads (`spaced_times`), and it continues an earlier series
exactly when its first event does (`spaced_append_times_iff`).
-/

namespace NetworkSim.Pacing

variable {τ : Type*} [AddCommGroup τ] [LinearOrder τ]

/-- The times of the events at the clock readings `nows`, when `next` is the next free time. -/
def times (gap : τ) : τ → List τ → List τ
  | _, [] => []
  | next, now :: nows => max now next :: times gap (max now next + gap) nows

/-- The next free time after these events. -/
def after (gap next : τ) (nows : List τ) : τ :=
  nows.foldl (fun next now => max now next + gap) next

/-- Each time is at least a gap after the one before it. -/
def Spaced (gap : τ) (ts : List τ) : Prop := ts.IsChain fun t t' => t + gap ≤ t'

variable (gap next : τ)

@[simp] theorem times_nil : times gap next [] = [] := rfl

@[simp] theorem times_cons (now : τ) (nows : List τ) :
    times gap next (now :: nows) = max now next :: times gap (max now next + gap) nows := rfl

@[simp] theorem after_nil : after gap next [] = next := rfl

@[simp] theorem after_cons (now : τ) (nows : List τ) :
    after gap next (now :: nows) = after gap (max now next + gap) nows := rfl

theorem times_append (nows nows' : List τ) :
    times gap next (nows ++ nows') =
      times gap next nows ++ times gap (after gap next nows) nows' := by
  induction nows generalizing next with
  | nil => rfl
  | cons now nows ih => rw [List.cons_append, times_cons, times_cons, ih, after_cons]; rfl

theorem after_append (nows nows' : List τ) :
    after gap next (nows ++ nows') = after gap (after gap next nows) nows' := List.foldl_append

/-- The next free time is a gap after the last event. -/
theorem last_add_gap (ts nows : List τ) (hne : nows ≠ []) :
    ∃ last ∈ (ts ++ times gap next nows).getLast?, last + gap = after gap next nows := by
  induction nows generalizing ts next with
  | nil => exact absurd rfl hne
  | cons now nows ih =>
    cases nows with
    | nil => exact ⟨max now next, by simp, rfl⟩
    | cons now' nows =>
      rw [times_cons, List.append_cons, after_cons]
      exact ih _ _ (List.cons_ne_nil now' nows)

/-- The events of one series are spaced. -/
theorem spaced_times (nows : List τ) : Spaced gap (times gap next nows) := by
  induction nows generalizing next with
  | nil => exact .nil
  | cons now nows ih =>
    refine List.isChain_cons.mpr ⟨fun t ht => ?_, ih _⟩
    cases nows with
    | nil => simp at ht
    | cons now' nows =>
      obtain rfl : max now' (max now next + gap) = t := by simpa using ht
      exact le_max_right ..

/-- **A series continues another one** when its first event does. -/
theorem spaced_append_times_iff (ts nows : List τ) :
    Spaced gap (ts ++ times gap next nows) ↔
      Spaced gap ts ∧
        ∀ now ∈ nows.head?, ∀ last ∈ ts.getLast?, last + gap ≤ max now next := by
  refine List.isChain_append.trans (and_congr_right fun _ => ?_)
  refine (and_iff_right (spaced_times gap next nows)).trans ?_
  cases nows with
  | nil => simp
  | cons now nows => simp

/-- The next free time does not go back. -/
theorem le_after [IsOrderedAddMonoid τ] (hgap : 0 ≤ gap) (nows : List τ) :
    next ≤ after gap next nows := by
  induction nows generalizing next with
  | nil => exact le_rfl
  | cons now nows ih =>
    calc next
      _ ≤ max now next := le_max_right ..
      _ ≤ max now next + gap := le_add_of_nonneg_right hgap
      _ ≤ after gap next (now :: nows) := ih _

end NetworkSim.Pacing
