import Mathlib.Data.Nat.ModEq

/-!
# Ones' complement sums

Ones' complement addition of numbers from 0 to `M`, where `M` is the word of all ones: a carry out
of the word is added back in (`OnesComplement.add`). The sum of a list of words is the least
positive number congruent to their sum modulo `M`, or zero if all of them are zero
(`OnesComplement.sum_eq_norm`), and the words need not be added one at a time: a larger sum may be
cut into a high and a low part and these be added (`OnesComplement.norm_fold`).
-/

namespace NetworkSim.OnesComplement

variable (M : ℕ)

/-- Addition with end-around carry. -/
def add (a b : ℕ) : ℕ := if a + b ≤ M then a + b else a + b - M

/-- The ones' complement sum of a list of words. -/
def sum (words : List ℕ) : ℕ := words.foldl (add M) 0

/-- The word congruent to `n` modulo `M` that is positive unless `n` is zero. -/
def norm (n : ℕ) : ℕ := if n = 0 then 0 else (n - 1) % M + 1

variable {M}

theorem norm_of_le {n : ℕ} (h : n ≤ M) : norm M n = n := by
  unfold norm
  split
  · omega
  · rw [Nat.mod_eq_of_lt (by omega)]
    omega

theorem norm_le (hM : 0 < M) (n : ℕ) : norm M n ≤ M := by
  unfold norm
  split
  · exact Nat.zero_le M
  · exact Nat.mod_lt _ hM

theorem norm_eq_zero_iff {n : ℕ} : norm M n = 0 ↔ n = 0 := by
  unfold norm
  split <;> omega

/-- Subtracting `M` from a number above it changes nothing. -/
theorem norm_sub {n : ℕ} (h : M < n) : norm M (n - M) = norm M n := by
  unfold norm
  rw [if_neg (by omega), if_neg (by omega)]
  have hsub : n - 1 = n - M - 1 + M := by omega
  rw [hsub, Nat.add_mod_right]

theorem norm_add_mul (n k : ℕ) (hn : 0 < n) : norm M (n + k * M) = norm M n := by
  unfold norm
  rw [if_neg (by omega), if_neg (by omega)]
  have hsub : n + k * M - 1 = n - 1 + M * k := by
    rw [Nat.mul_comm k M]
    omega
  rw [hsub, Nat.add_mul_mod_self_left]

/-- The norm is the word congruent to `n`. -/
theorem norm_modEq (n : ℕ) : norm M n ≡ n [MOD M] := by
  unfold norm
  split
  · rename_i hzero
    rw [hzero]
  · rename_i hpos
    have hmod := (Nat.mod_modEq (n - 1) M).add_right 1
    rwa [Nat.sub_add_cancel (Nat.one_le_iff_ne_zero.mpr hpos)] at hmod

/-- It is all ones just for the positive multiples of `M`. -/
theorem norm_eq_max_iff (hM : 0 < M) {n : ℕ} : norm M n = M ↔ 0 < n ∧ M ∣ n := by
  constructor
  · intro h
    have hpos : 0 < n := by
      by_contra hzero
      obtain rfl : n = 0 := by omega
      exact hM.ne ((norm_eq_zero_iff.mpr rfl).symm.trans h)
    refine ⟨hpos, ?_⟩
    have hmod := norm_modEq (M := M) n
    rw [h] at hmod
    exact (Nat.modEq_zero_iff_dvd.mp (hmod.symm.trans (Nat.modEq_zero_iff_dvd.mpr dvd_rfl)))
  · rintro ⟨hpos, k, rfl⟩
    cases k with
    | zero => simp at hpos
    | succ k =>
      rw [Nat.mul_succ, Nat.add_comm, Nat.mul_comm M k, norm_add_mul M k hM, norm_of_le le_rfl]

theorem add_eq_norm {a b : ℕ} (ha : a ≤ M) (hb : b ≤ M) : add M a b = norm M (a + b) := by
  unfold add
  split
  · rename_i h
    exact (norm_of_le h).symm
  · rename_i h
    rw [← norm_sub (by omega), norm_of_le (by omega)]

theorem norm_norm_add (a b : ℕ) : norm M (norm M a + b) = norm M (a + b) := by
  by_cases ha : a = 0
  · rw [ha, norm_eq_zero_iff.mpr rfl]
  · have hpos : 0 < norm M a := Nat.pos_of_ne_zero (mt norm_eq_zero_iff.mp ha)
    have hle : norm M a ≤ a := by
      unfold norm at hpos ⊢
      split
      · omega
      · have := Nat.mod_le (a - 1) M
        omega
    obtain ⟨k, hk⟩ : M ∣ a - norm M a := (Nat.modEq_iff_dvd' hle).mp (norm_modEq a)
    have hsum : a + b = norm M a + b + k * M := by
      rw [Nat.mul_comm k M]
      omega
    rw [hsum, norm_add_mul _ _ (by omega)]

/-- **A ones' complement sum** is the norm of the sum. -/
theorem sum_eq_norm (hM : 0 < M) {words : List ℕ} (h : ∀ word ∈ words, word ≤ M) :
    sum M words = norm M words.sum := by
  have hfold (words : List ℕ) (h : ∀ word ∈ words, word ≤ M) (acc : ℕ) (hacc : acc ≤ M) :
      words.foldl (add M) acc = norm M (acc + words.sum) := by
    induction words generalizing acc with
    | nil => exact (norm_of_le hacc).symm
    | cons word words ih =>
      have hword := h word List.mem_cons_self
      rw [List.foldl_cons, add_eq_norm hacc hword,
        ih (fun w hw => h w (List.mem_cons_of_mem _ hw)) _ (norm_le hM _), norm_norm_add,
        List.sum_cons, Nat.add_assoc]
  have hzero := hfold words h 0 (Nat.zero_le M)
  rwa [Nat.zero_add] at hzero

/-- **Folding.** A number may be cut at the word size and its parts be added. -/
theorem norm_fold (n : ℕ) : norm M (n / (M + 1) + n % (M + 1)) = norm M n := by
  have hdiv := Nat.div_add_mod n (M + 1)
  generalize n / (M + 1) = high at hdiv ⊢
  generalize n % (M + 1) = low at hdiv ⊢
  rw [Nat.add_mul, Nat.one_mul, Nat.mul_comm M] at hdiv
  by_cases hpos : 0 < high + low
  · have hsum : n = high + low + high * M := by omega
    rw [hsum, norm_add_mul _ _ hpos]
  · obtain rfl : high = 0 := by omega
    obtain rfl : low = 0 := by omega
    rw [← hdiv, Nat.zero_mul]

end NetworkSim.OnesComplement
