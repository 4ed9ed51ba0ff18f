import Mathlib.Data.List.Basic
import Mathlib.Logic.Function.Basic

/-!
# Quotas

A queue is gone through once, in its order, while every key has a quota: an element is taken as
long as the quota of its key is not used up (`within`) and is left where it is otherwise (`beyond`).
An element that is left does not hold up those behind it with other keys. Seen from one key the
queue is first come, first served: the elements taken are as many of the first ones as the quota
allows (`filter_within`), those left are the others (`filter_beyond`). Both keep the order of the
queue (`within_sublist`, `beyond_sublist`).
-/

namespace NetworkSim.Quotas

variable {α κ : Type*} [DecidableEq κ] (key : α → κ)

/-- The quotas after an element with key `k` has been taken. -/
def spend (quota : κ → ℕ) (k : κ) : κ → ℕ := Function.update quota k (quota k - 1)

/-- The elements taken. -/
def within : (κ → ℕ) → List α → List α
  | _, [] => []
  | quota, x :: xs =>
    if quota (key x) = 0 then within quota xs else x :: within (spend quota (key x)) xs

/-- The elements left. -/
def beyond : (κ → ℕ) → List α → List α
  | _, [] => []
  | quota, x :: xs =>
    if quota (key x) = 0 then x :: beyond quota xs else beyond (spend quota (key x)) xs

variable {key}

theorem spend_self (quota : κ → ℕ) (k : κ) : spend quota k k = quota k - 1 :=
  Function.update_self ..

theorem spend_of_ne (quota : κ → ℕ) {k k' : κ} (h : k' ≠ k) : spend quota k k' = quota k' :=
  Function.update_of_ne h ..

theorem within_cons_zero {quota : κ → ℕ} {x : α} (h : quota (key x) = 0) (xs : List α) :
    within key quota (x :: xs) = within key quota xs := by rw [within, if_pos h]

theorem within_cons_pos {quota : κ → ℕ} {x : α} (h : quota (key x) ≠ 0) (xs : List α) :
    within key quota (x :: xs) = x :: within key (spend quota (key x)) xs := by
  rw [within, if_neg h]

theorem beyond_cons_zero {quota : κ → ℕ} {x : α} (h : quota (key x) = 0) (xs : List α) :
    beyond key quota (x :: xs) = x :: beyond key quota xs := by rw [beyond, if_pos h]

theorem beyond_cons_pos {quota : κ → ℕ} {x : α} (h : quota (key x) ≠ 0) (xs : List α) :
    beyond key quota (x :: xs) = beyond key (spend quota (key x)) xs := by rw [beyond, if_neg h]

/-- **Of each key** the first elements are taken, up to the quota, -/
theorem filter_within (quota : κ → ℕ) (xs : List α) (k : κ) :
    (within key quota xs).filter (fun x => decide (key x = k)) =
      (xs.filter (fun x => decide (key x = k))).take (quota k) := by
  induction xs generalizing quota with
  | nil => simp [within]
  | cons x xs ih =>
    by_cases hzero : quota (key x) = 0
    · rw [within_cons_zero hzero, ih]
      by_cases hk : key x = k
      · rw [← hk, hzero, List.take_zero, List.take_zero]
      · rw [List.filter_cons_of_neg (by simpa using hk)]
    · rw [within_cons_pos hzero]
      by_cases hk : key x = k
      · subst hk
        obtain ⟨n, hn⟩ := Nat.exists_eq_succ_of_ne_zero hzero
        rw [List.filter_cons_of_pos (by simp), List.filter_cons_of_pos (by simp), ih, spend_self,
          hn, List.take_succ_cons, Nat.succ_sub_one]
      · rw [List.filter_cons_of_neg (by simpa using hk),
          List.filter_cons_of_neg (by simpa using hk), ih, spend_of_ne _ (Ne.symm hk)]

/-- and the others are left. -/
theorem filter_beyond (quota : κ → ℕ) (xs : List α) (k : κ) :
    (beyond key quota xs).filter (fun x => decide (key x = k)) =
      (xs.filter (fun x => decide (key x = k))).drop (quota k) := by
  induction xs generalizing quota with
  | nil => simp [beyond]
  | cons x xs ih =>
    by_cases hzero : quota (key x) = 0
    · rw [beyond_cons_zero hzero]
      by_cases hk : key x = k
      · subst hk
        rw [List.filter_cons_of_pos (by simp), List.filter_cons_of_pos (by simp), ih, hzero,
          List.drop_zero, List.drop_zero]
      · rw [List.filter_cons_of_neg (by simpa using hk),
          List.filter_cons_of_neg (by simpa using hk), ih]
    · rw [beyond_cons_pos hzero, ih]
      by_cases hk : key x = k
      · subst hk
        obtain ⟨n, hn⟩ := Nat.exists_eq_succ_of_ne_zero hzero
        rw [List.filter_cons_of_pos (by simp), spend_self, hn, List.drop_succ_cons,
          Nat.succ_sub_one]
      · rw [List.filter_cons_of_neg (by simpa using hk), spend_of_ne _ (Ne.symm hk)]

/-- The elements taken are in the order of the queue, -/
theorem within_sublist (quota : κ → ℕ) (xs : List α) : (within key quota xs).Sublist xs := by
  induction xs generalizing quota with
  | nil => exact List.Sublist.refl []
  | cons x xs ih =>
    by_cases hzero : quota (key x) = 0
    · rw [within_cons_zero hzero]
      exact (ih quota).cons x
    · rw [within_cons_pos hzero]
      exact (ih _).cons_cons x

/-- and so are those left. -/
theorem beyond_sublist (quota : κ → ℕ) (xs : List α) : (beyond key quota xs).Sublist xs := by
  induction xs generalizing quota with
  | nil => exact List.Sublist.refl []
  | cons x xs ih =>
    by_cases hzero : quota (key x) = 0
    · rw [beyond_cons_zero hzero]
      exact (ih quota).cons_cons x
    · rw [beyond_cons_pos hzero]
      exact (ih _).cons x

end NetworkSim.Quotas
