import Mathlib.Data.Int.ModEq
import Mathlib.Tactic.Linarith

/-!
# Serial numbers

Counters that are kept modulo `2 * h` and compared by a signed difference of half the range. The
difference of two counters comes out right as long as they are less than `h` apart
(`diff_mod_of_lt`); at a distance of exactly `h` it is right up to its sign (`diff_mod_of_eq`); and
whatever the two numbers, it is congruent to their difference (`diff_modEq`).
-/

namespace NetworkSim.Serial

/-- The difference `y - x` of two serial numbers, brought into the middle of the range. -/
def diff (h x y : ℕ) : ℤ :=
  let d : ℤ := (y : ℤ) - x
  if d > (h : ℤ) - 1 then d - 2 * h
  else if d < -((h : ℤ) - 1) then d + 2 * h
  else d

theorem diff_modEq (h x y : ℕ) : diff h x y ≡ (y : ℤ) - x [ZMOD 2 * h] := by
  rw [Int.modEq_iff_dvd]
  simp only [diff]
  split_ifs
  · exact ⟨1, by omega⟩
  · exact ⟨-1, by omega⟩
  · exact ⟨0, by omega⟩

theorem diff_range {h x y : ℕ} (hx : x < 2 * h) (hy : y < 2 * h) :
    -(h : ℤ) ≤ diff h x y ∧ diff h x y ≤ h := by
  simp only [diff]
  split_ifs <;> omega

/-- The difference of counters, up to a multiple of the modulus. -/
theorem diff_mod_modEq (h a b : ℕ) :
    diff h (a % (2 * h)) (b % (2 * h)) ≡ (b : ℤ) - a [ZMOD 2 * h] := by
  have hmod (c : ℕ) : ((c % (2 * h) : ℕ) : ℤ) ≡ c [ZMOD 2 * h] := by
    exact_mod_cast Nat.mod_modEq c (2 * h)
  exact (diff_modEq h _ _).trans ((hmod b).sub (hmod a))

theorem eq_of_modEq_of_lt {m d e : ℤ} (h : d ≡ e [ZMOD m]) (hlt : |e - d| < m) : d = e := by
  have := Int.eq_zero_of_abs_lt_dvd (Int.modEq_iff_dvd.mp h) hlt
  omega

/-- **Less than half the range apart**, the difference is exact. -/
theorem diff_mod_of_lt {h a b : ℕ} (hlt : |(b : ℤ) - a| < h) :
    diff h (a % (2 * h)) (b % (2 * h)) = b - a := by
  have hpos : 0 < h := by
    have := abs_nonneg ((b : ℤ) - a)
    omega
  have hrange := diff_range (Nat.mod_lt a (show 0 < 2 * h by omega))
    (Nat.mod_lt b (show 0 < 2 * h by omega))
  refine eq_of_modEq_of_lt (diff_mod_modEq h a b) ?_
  rw [abs_lt] at hlt ⊢
  omega

/-- Half the range apart, the difference is exact up to its sign. -/
theorem diff_mod_of_eq {h a b : ℕ} (hpos : 0 < h) (heq : b = a + h) :
    diff h (a % (2 * h)) (b % (2 * h)) = h ∨ diff h (a % (2 * h)) (b % (2 * h)) = -h := by
  have hrange := diff_range (Nat.mod_lt a (show 0 < 2 * h by omega))
    (Nat.mod_lt b (show 0 < 2 * h by omega))
  obtain ⟨k, hk⟩ := Int.modEq_iff_dvd.mp (diff_mod_modEq h a b)
  subst heq
  -- the difference is `h` up to a multiple of `2 * h` that keeps it in the range
  have hk0 : k = 0 ∨ k = 1 := by
    have h1 : 0 ≤ k := by
      by_contra hneg
      have : 2 * (h : ℤ) * k ≤ 2 * h * (-1) := by
        apply mul_le_mul_of_nonneg_left <;> omega
      push_cast at hk
      omega
    have h2 : k ≤ 1 := by
      by_contra hgt
      have : 2 * (h : ℤ) * 2 ≤ 2 * h * k := by
        apply mul_le_mul_of_nonneg_left <;> omega
      push_cast at hk
      omega
    omega
  push_cast at hk
  rcases hk0 with rfl | rfl <;> omega

end NetworkSim.Serial
