import Mathlib.Algebra.Field.ZMod
import Mathlib.Algebra.BigOperators.Fin

/-!
# Cyclic redundancy checks

The shift register of width `w` that divides a stream of bits by the polynomial `x ^ w + g` over the
field of two elements, and the errors its remainder detects. The register is linear in the stream
(`remainder_zipWith_xor`), so an error is missed only when the error pattern itself has remainder
zero. That never happens for a burst no longer than the register when `g` has a constant term
(`remainder_burst_ne_zero`), nor for an odd number of errors when `x ^ w + g` has an even number of
terms (`remainder_odd_ne_zero`).
-/

namespace NetworkSim.Crc

variable {w : ℕ} (g : BitVec w)

/-- One step of the register: it moves up one place and takes the next bit; when a set bit falls
out at the top, the generator is subtracted. -/
def step (r : BitVec w) (b : Bool) : BitVec w :=
  if r.msb then r.shiftConcat b ^^^ g else r.shiftConcat b

/-- The register after a stream of bits. -/
def remainder (r : BitVec w) (bits : List Bool) : BitVec w := bits.foldl (step g) r

@[simp] theorem remainder_nil (r : BitVec w) : remainder g r [] = r := rfl

@[simp] theorem remainder_cons (r : BitVec w) (b : Bool) (bits : List Bool) :
    remainder g r (b :: bits) = remainder g (step g r b) bits := rfl

theorem remainder_append (r : BitVec w) (bits bits' : List Bool) :
    remainder g r (bits ++ bits') = remainder g (remainder g r bits) bits' :=
  List.foldl_append

/-! ## Linearity -/

theorem shiftConcat_xor (r r' : BitVec w) (b b' : Bool) :
    (r ^^^ r').shiftConcat (b ^^ b') = r.shiftConcat b ^^^ r'.shiftConcat b' := by
  ext i hi
  simp only [BitVec.getElem_shiftConcat, BitVec.getElem_xor]
  split <;> rfl

theorem step_xor (r r' : BitVec w) (b b' : Bool) :
    step g (r ^^^ r') (b ^^ b') = step g r b ^^^ step g r' b' := by
  simp only [step, BitVec.msb_xor, shiftConcat_xor]
  cases r.msb <;> cases r'.msb <;> ext i hi <;>
    simp only [Bool.xor_true, Bool.xor_false, Bool.not_true, Bool.not_false, Bool.false_eq_true,
      if_true, if_false, BitVec.getElem_xor] <;>
    cases g[i] <;> simp

/-- The register is linear in its contents and the stream. -/
theorem remainder_zipWith_xor (r r' : BitVec w) (bits bits' : List Bool)
    (h : bits.length = bits'.length) :
    remainder g (r ^^^ r') (bits.zipWith xor bits') =
      remainder g r bits ^^^ remainder g r' bits' := by
  induction bits generalizing r r' bits' with
  | nil =>
    obtain rfl := List.length_eq_zero_iff.mp h.symm
    rfl
  | cons b bits ih =>
    cases bits' with
    | nil => simp at h
    | cons b' bits' =>
      simp only [List.zipWith_cons_cons, remainder_cons, step_xor]
      exact ih _ _ bits' (by simpa using h)

/-! ## Bursts -/

theorem step_zero_false : step g 0 false = 0 := by
  ext i hi
  simp [step, BitVec.getElem_shiftConcat]

theorem remainder_zero_replicate_false (n : ℕ) : remainder g 0 (List.replicate n false) = 0 := by
  induction n with
  | zero => rfl
  | succ n ih => rw [List.replicate_succ, remainder_cons, step_zero_false, ih]

/-- With a constant term in the generator, a register that is not zero stays so when zeros come
in. -/
theorem step_false_ne_zero (hg : g.getLsbD 0 = true) {r : BitVec w} (hr : r ≠ 0) :
    step g r false ≠ 0 := by
  have hw : 0 < w := by
    by_contra h
    simp [BitVec.getLsbD_of_ge g 0 (by omega)] at hg
  intro h
  cases hm : r.msb with
  | true =>
    have h0 := congrArg (fun x : BitVec w => x.getLsbD 0) h
    simp [step, hm, hg, BitVec.getLsbD_shiftConcat] at h0
  | false =>
    apply hr
    ext i hi
    by_cases hlast : i + 1 < w
    · have hi1 := congrArg (fun x : BitVec w => x[i + 1]) h
      simpa [step, hm, BitVec.getElem_shiftConcat] using hi1
    · obtain rfl : i = w - 1 := by omega
      rw [BitVec.msb_eq_getLsbD_last, BitVec.getLsbD_eq_getElem hi] at hm
      simpa using hm

theorem remainder_replicate_false_ne_zero (hg : g.getLsbD 0 = true) {r : BitVec w} (hr : r ≠ 0)
    (n : ℕ) : remainder g r (List.replicate n false) ≠ 0 := by
  induction n generalizing r with
  | zero => exact hr
  | succ n ih =>
    rw [List.replicate_succ, remainder_cons]
    exact ih (step_false_ne_zero g hg hr)

/-- Bits that fit the register are read in unchanged: `n` of them give a number below `2 ^ n`, which
is zero only if they all are. -/
theorem remainder_zero_short (bits : List Bool) (h : bits.length ≤ w) :
    (remainder g 0 bits).toNat < 2 ^ bits.length ∧
      (true ∈ bits → remainder g 0 bits ≠ 0) := by
  induction bits using List.reverseRecOn with
  | nil => simp
  | append_singleton bits b ih =>
    rw [List.length_append, List.length_singleton] at h
    obtain ⟨hlt, hne⟩ := ih (by omega)
    generalize hr : remainder g 0 bits = r at *
    have hmsb : r.msb = false := by
      rw [BitVec.msb_eq_false_iff_two_mul_lt]
      have : 2 ^ (bits.length + 1) ≤ 2 ^ w := Nat.pow_le_pow_right (by omega) h
      rw [Nat.pow_succ] at this
      omega
    have hstep : remainder g 0 (bits ++ [b]) = r.shiftConcat b := by
      rw [remainder_append, hr]
      simp [step, hmsb]
    have hval : (r.shiftConcat b).toNat = r.toNat * 2 + b.toNat :=
      BitVec.toNat_shiftConcat_eq_of_lt (k := bits.length) (by omega) hlt
    rw [hstep]
    refine ⟨?_, fun hmem h0 => ?_⟩
    · rw [hval, List.length_append, List.length_singleton, Nat.pow_succ]
      have := Bool.toNat_le b
      omega
    · replace hval : 0 = r.toNat * 2 + b.toNat := by rw [← hval, h0]; rfl
      have hr0 : r = 0 := BitVec.eq_of_toNat_eq (by simpa using by omega)
      have hb : b = false := by
        cases b
        · rfl
        · simp at hval
      simp only [List.mem_append, List.mem_singleton, hb, Bool.true_eq_false, or_false] at hmem
      exact hne hmem hr0

/-- **Bursts are detected**: set bits confined to `w` consecutive places leave a remainder. -/
theorem remainder_burst_ne_zero (hg : g.getLsbD 0 = true) (m n : ℕ) (bits : List Bool)
    (hlen : bits.length ≤ w) (hbits : true ∈ bits) :
    remainder g 0 (List.replicate m false ++ bits ++ List.replicate n false) ≠ 0 := by
  rw [remainder_append, remainder_append, remainder_zero_replicate_false]
  exact remainder_replicate_false_ne_zero g hg ((remainder_zero_short g bits hlen).2 hbits) n

/-! ## Odd errors -/

/-- A bit as an element of the field. -/
def bitVal (b : Bool) : ZMod 2 := if b then 1 else 0

theorem bitVal_xor (b b' : Bool) : bitVal (b ^^ b') = bitVal b + bitVal b' := by
  cases b <;> cases b' <;> decide

/-- The number of set bits, modulo 2. -/
def parity (x : BitVec w) : ZMod 2 := ∑ i : Fin w, bitVal x[i]

theorem parity_zero : parity (0 : BitVec w) = 0 := by simp [parity, bitVal]

theorem parity_xor (x y : BitVec w) : parity (x ^^^ y) = parity x + parity y := by
  simp only [parity, Fin.getElem_fin, BitVec.getElem_xor, bitVal_xor, Finset.sum_add_distrib]

/-- Shifting loses the top bit and gains the new one. -/
theorem parity_shiftConcat (hw : 0 < w) (x : BitVec w) (b : Bool) :
    parity (x.shiftConcat b) + bitVal x.msb = parity x + bitVal b := by
  obtain ⟨n, rfl⟩ := Nat.exists_eq_succ_of_ne_zero hw.ne'
  have hl : parity (x.shiftConcat b) = bitVal b + ∑ i : Fin n, bitVal x[(i : ℕ)] := by
    rw [parity, Fin.sum_univ_succ]
    simp [BitVec.getElem_shiftConcat]
  have hr : parity x = (∑ i : Fin n, bitVal x[(i : ℕ)]) + bitVal x.msb := by
    rw [parity, Fin.sum_univ_castSucc]
    simp [BitVec.msb_eq_getLsbD_last, BitVec.getLsbD_eq_getElem]
  rw [hl, hr, add_comm, ← add_assoc, add_right_comm, add_comm (bitVal x.msb)]

theorem parity_step (hg : parity g = 1) (r : BitVec w) (b : Bool) :
    parity (step g r b) = parity r + bitVal b := by
  have hw : 0 < w := by
    by_contra h
    obtain rfl : w = 0 := by omega
    simp [parity] at hg
  have h := parity_shiftConcat hw r b
  cases hm : r.msb with
  | false => simpa [step, hm, bitVal] using h
  | true =>
    rw [hm] at h
    simpa [step, hm, parity_xor, hg, bitVal] using h

theorem parity_remainder (hg : parity g = 1) (r : BitVec w) (bits : List Bool) :
    parity (remainder g r bits) = parity r + (bits.map bitVal).sum := by
  induction bits generalizing r with
  | nil => simp
  | cons b bits ih =>
    rw [remainder_cons, ih, parity_step g hg, List.map_cons, List.sum_cons, add_assoc]

theorem sum_bitVal (bits : List Bool) : (bits.map bitVal).sum = (bits.count true : ZMod 2) := by
  induction bits with
  | nil => simp
  | cons b bits ih => cases b <;> simp [ih, bitVal, add_comm]

/-- **Odd errors are detected**: an odd number of set bits leaves a remainder. -/
theorem remainder_odd_ne_zero (hg : parity g = 1) (bits : List Bool)
    (hodd : Odd (bits.count true)) : remainder g 0 bits ≠ 0 := by
  intro h
  have hp := parity_remainder g hg 0 bits
  rw [h, parity_zero, zero_add, sum_bitVal] at hp
  exact absurd ((ZMod.natCast_eq_zero_iff_even).mp hp.symm) (Nat.not_even_iff_odd.mpr hodd)

end NetworkSim.Crc
