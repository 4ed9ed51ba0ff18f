import NetworkSim.Foundations.OnesComplement
import NetworkSim.Router.Protocol

/-!
# What the checksum checks accept

`cksum` adds the 16-bit words of its data in 32 bits and folds the carries back in, so what it
returns is the one nonzero word that makes the sum a multiple of `0xffff`
(`cksumBytes_eq_iff`). The checks compute it anew and compare; an ones' complement sum of `0xffff`,
which makes a header valid, can also be due to a stored checksum of zero, and that they refuse
(`checks_accept_valid_iff`).
-/

namespace NetworkSim.Router

/-! ## Bytes and words -/

theorem toNat_toUInt32_shiftLeft_or (b0 b1 : UInt8) :
    (b0.toUInt32 <<< 8 ||| b1.toUInt32).toNat = 256 * b0.toNat + b1.toNat := by
  have h0 := b0.toNat_lt
  have h1 := b1.toNat_lt
  simp only [UInt32.toNat_or, UInt32.toNat_shiftLeft, UInt8.toNat_toUInt32]
  change b0.toNat <<< 8 % 2 ^ 32 ||| b1.toNat = _
  rw [Nat.mod_eq_of_lt (by rw [Nat.shiftLeft_eq]; omega),
    ← Nat.shiftLeft_add_eq_or_of_lt (by omega), Nat.shiftLeft_eq, Nat.mul_comm]

theorem toNat_toUInt32_shiftLeft (b : UInt8) : (b.toUInt32 <<< 8).toNat = 256 * b.toNat := by
  have h := toNat_toUInt32_shiftLeft_or b 0
  simpa using h

theorem toNat_word16 (b0 b1 : UInt8) : (word16 b0 b1).toNat = 256 * b0.toNat + b1.toNat := by
  have h0 := b0.toNat_lt
  have h1 := b1.toNat_lt
  simp only [word16, UInt16.toNat_or, UInt16.toNat_shiftLeft, UInt8.toNat_toUInt16]
  change b0.toNat <<< 8 % 2 ^ 16 ||| b1.toNat = _
  rw [Nat.mod_eq_of_lt (by rw [Nat.shiftLeft_eq]; omega),
    ← Nat.shiftLeft_add_eq_or_of_lt (by omega), Nat.shiftLeft_eq, Nat.mul_comm]

theorem word16_bytes16 (x : UInt16) : word16 (x >>> 8).toUInt8 x.toUInt8 = x := by
  apply UInt16.toNat_inj.mp
  have hx := x.toNat_lt
  rw [toNat_word16]
  simp only [UInt16.toNat_toUInt8, UInt16.toNat_shiftRight]
  change 256 * (x.toNat >>> 8 % 2 ^ 8) + x.toNat % 2 ^ 8 = x.toNat
  rw [Nat.shiftRight_eq_div_pow]
  omega

theorem toNat_word32 (b0 b1 b2 b3 : UInt8) :
    (word32 b0 b1 b2 b3).toNat =
      2 ^ 24 * b0.toNat + (2 ^ 16 * b1.toNat + (2 ^ 8 * b2.toNat + b3.toNat)) := by
  have h0 := b0.toNat_lt
  have h1 := b1.toNat_lt
  have h2 := b2.toNat_lt
  have h3 := b3.toNat_lt
  simp only [word32, UInt32.toNat_or, UInt32.toNat_shiftLeft, UInt8.toNat_toUInt32]
  change b0.toNat <<< 24 % 2 ^ 32 ||| b1.toNat <<< 16 % 2 ^ 32 ||| b2.toNat <<< 8 % 2 ^ 32 |||
    b3.toNat = _
  rw [Nat.mod_eq_of_lt (by rw [Nat.shiftLeft_eq]; omega),
    Nat.mod_eq_of_lt (by rw [Nat.shiftLeft_eq]; omega),
    Nat.mod_eq_of_lt (by rw [Nat.shiftLeft_eq]; omega), Nat.or_assoc, Nat.or_assoc,
    ← Nat.shiftLeft_add_eq_or_of_lt (by omega) b2.toNat, Nat.shiftLeft_eq b2.toNat,
    ← Nat.shiftLeft_add_eq_or_of_lt (by omega) b1.toNat, Nat.shiftLeft_eq b1.toNat,
    ← Nat.shiftLeft_add_eq_or_of_lt (by omega) b0.toNat, Nat.shiftLeft_eq b0.toNat]
  omega

theorem word32_bytes32 (x : UInt32) :
    word32 (x >>> 24).toUInt8 (x >>> 16).toUInt8 (x >>> 8).toUInt8 x.toUInt8 = x := by
  apply UInt32.toNat_inj.mp
  have hx := x.toNat_lt
  rw [toNat_word32]
  simp only [UInt32.toNat_toUInt8, UInt32.toNat_shiftRight]
  change 2 ^ 24 * (x.toNat >>> 24 % 2 ^ 8) + (2 ^ 16 * (x.toNat >>> 16 % 2 ^ 8) +
    (2 ^ 8 * (x.toNat >>> 8 % 2 ^ 8) + x.toNat % 2 ^ 8)) = x.toNat
  simp only [Nat.shiftRight_eq_div_pow]
  omega

/-- The 16-bit words of some bytes; a last odd byte is padded with zero. -/
def words : List UInt8 → List ℕ
  | [] => []
  | [b] => [256 * b.toNat]
  | b0 :: b1 :: data => (256 * b0.toNat + b1.toNat) :: words data

theorem le_of_mem_words {data : List UInt8} {word : ℕ} (h : word ∈ words data) : word ≤ 0xffff := by
  induction data using words.induct with
  | case1 => simp [words] at h
  | case2 b =>
    have := b.toNat_lt
    rw [words, List.mem_singleton] at h
    omega
  | case3 b0 b1 data ih =>
    have := b0.toNat_lt
    have := b1.toNat_lt
    rw [words, List.mem_cons] at h
    rcases h with rfl | h
    · omega
    · exact ih h

/-! ## The loops of `cksum` -/

/-- The first loop adds the words, in 32 bits. -/
theorem toNat_cksumLoop (data : List UInt8) (sum : UInt32) :
    (cksumLoop data sum).toNat = (sum.toNat + (words data).sum) % 2 ^ 32 := by
  induction data using words.induct generalizing sum with
  | case1 =>
    rw [cksumLoop, words, List.sum_nil, Nat.add_zero, Nat.mod_eq_of_lt sum.toNat_lt]
  | case2 b =>
    rw [cksumLoop, words, List.sum_singleton, UInt32.toNat_add, toNat_toUInt32_shiftLeft]
  | case3 b0 b1 data ih =>
    rw [cksumLoop, ih, words, List.sum_cons, UInt32.toNat_add, toNat_toUInt32_shiftLeft_or,
      Nat.mod_add_mod, Nat.add_assoc]

/-- A round of the second loop cuts the sum into its two halves and adds them. -/
theorem toNat_foldCarry (sum : UInt32) :
    ((sum >>> 16) + (sum &&& 0xffff)).toNat =
      sum.toNat / (0xffff + 1) + sum.toNat % (0xffff + 1) := by
  have hsum := sum.toNat_lt
  have hlow : (sum &&& 0xffff).toNat = sum.toNat % 65536 := by
    rw [UInt32.toNat_and]
    exact Nat.and_two_pow_sub_one_eq_mod sum.toNat 16
  have hhigh : (sum >>> 16).toNat = sum.toNat / 65536 := by
    rw [UInt32.toNat_shiftRight]
    exact Nat.shiftRight_eq_div_pow sum.toNat 16
  rw [UInt32.toNat_add, hlow, hhigh]
  omega

theorem norm_foldCarries (fuel : ℕ) (sum : UInt32) :
    OnesComplement.norm 0xffff (foldCarries fuel sum).toNat =
      OnesComplement.norm 0xffff sum.toNat := by
  induction fuel generalizing sum with
  | zero => rfl
  | succ fuel ih =>
    rw [foldCarries]
    split
    · rw [ih, toNat_foldCarry, OnesComplement.norm_fold]
    · rfl

/-- Two rounds of the second loop are enough. -/
theorem foldCarries_le (sum : UInt32) : (foldCarries 2 sum).toNat ≤ 0xffff := by
  have hsum := sum.toNat_lt
  have hle (x : UInt32) (h : ¬ x > 0xffff) : x.toNat ≤ 0xffff :=
    not_lt.mp fun hlt => h (UInt32.lt_iff_toNat_lt.mpr hlt)
  rw [foldCarries]
  split
  · have hfirst := toNat_foldCarry sum
    rw [foldCarries]
    split
    · rename_i hbig
      have hbig' : 0xffff < ((sum >>> 16) + (sum &&& 0xffff)).toNat :=
        UInt32.lt_iff_toNat_lt.mp hbig
      rw [foldCarries, toNat_foldCarry]
      omega
    · rename_i hsmall
      exact hle _ hsmall
  · rename_i hsmall
    exact hle _ hsmall

theorem toNat_foldCarries (sum : UInt32) :
    (foldCarries 2 sum).toNat = OnesComplement.norm 0xffff sum.toNat := by
  rw [← norm_foldCarries 2 sum, OnesComplement.norm_of_le (foldCarries_le sum)]

/-- **What `cksum` computes**: the one nonzero word that makes the 32-bit sum a multiple of
`0xffff`. -/
theorem cksumBytes_eq_iff (data : List UInt8) (sum : UInt16) :
    cksumBytes data = sum ↔ sum ≠ 0 ∧ 0xffff ∣ sum.toNat + (words data).sum % 2 ^ 32 := by
  have hloop := toNat_cksumLoop data 0
  rw [UInt32.toNat_zero, Nat.zero_add] at hloop
  have hfold := toNat_foldCarries (cksumLoop data 0)
  have hle := foldCarries_le (cksumLoop data 0)
  rw [hloop] at hfold
  have hmod := OnesComplement.norm_modEq (M := 0xffff) ((words data).sum % 2 ^ 32)
  rw [← hfold] at hmod
  have hnot : (~~~(foldCarries 2 (cksumLoop data 0))).toUInt16.toNat =
      0xffff - (foldCarries 2 (cksumLoop data 0)).toNat := by
    rw [UInt32.toNat_toUInt16, UInt32.toNat_not]
    change (2 ^ 32 - 1 - (foldCarries 2 (cksumLoop data 0)).toNat) % 2 ^ 16 = _
    omega
  have hsum := sum.toNat_lt
  have hdvd : 0xffff ∣ sum.toNat + (words data).sum % 2 ^ 32 ↔
      0xffff ∣ sum.toNat + (foldCarries 2 (cksumLoop data 0)).toNat := by
    rw [← Nat.modEq_zero_iff_dvd, ← Nat.modEq_zero_iff_dvd]
    exact ⟨fun h => (hmod.add_left _).trans h, fun h => (hmod.symm.add_left _).trans h⟩
  have hne : sum ≠ 0 ↔ sum.toNat ≠ 0 := by rw [ne_eq, ne_eq, ← UInt16.toNat_inj, UInt16.toNat_zero]
  rw [hdvd, hne, ← UInt16.toNat_inj]
  unfold cksumBytes
  simp only
  split
  · rename_i hzero
    have hzero' := congrArg UInt16.toNat hzero
    rw [hnot, UInt16.toNat_zero] at hzero'
    change 0xffff = sum.toNat ↔ _
    omega
  · rename_i hpos
    have hpos' : 0xffff - (foldCarries 2 (cksumLoop data 0)).toNat ≠ 0 := by
      rw [← hnot]
      exact fun h => hpos (UInt16.toNat_inj.mp h)
    rw [hnot]
    omega

/-! ## Replacing a checksum -/

theorem overwrite_cons_cons (off : ℕ) (news : List UInt8) (b0 b1 : UInt8) (bytes : List UInt8) :
    overwrite (off + 2) news (b0 :: b1 :: bytes) = b0 :: b1 :: overwrite off news bytes := by
  apply List.ext_getElem?
  intro i
  rw [getElem?_overwrite]
  match i with
  | 0 => simp
  | 1 => simp
  | i + 2 =>
    simp only [List.getElem?_cons_succ, getElem?_overwrite]
    congr 1
    funext old
    simp only [Nat.add_le_add_iff_right, Nat.add_sub_add_right]

/-- Replacing a word of some bytes changes their sum by it. -/
theorem sum_words_overwrite (k : ℕ) (x : UInt16) {bytes : List UInt8}
    (h : 2 * k + 1 < bytes.length) :
    (words (overwrite (2 * k) (bytes16 x) bytes)).sum +
        (word16 (bytes.getD (2 * k) 0) (bytes.getD (2 * k + 1) 0)).toNat =
      (words bytes).sum + x.toNat := by
  induction k generalizing bytes with
  | zero =>
    obtain ⟨b0, b1, rest, rfl⟩ : ∃ b0 b1 rest, bytes = b0 :: b1 :: rest := by
      match bytes, h with
      | b0 :: b1 :: rest, _ => exact ⟨b0, b1, rest, rfl⟩
    have hnew : overwrite (2 * 0) (bytes16 x) (b0 :: b1 :: rest) =
        (x >>> 8).toUInt8 :: x.toUInt8 :: rest := by
      apply List.ext_getElem?
      intro i
      rw [getElem?_overwrite]
      match i with
      | 0 => rfl
      | 1 => rfl
      | i + 2 => simp [bytes16]
    rw [hnew, words, words, List.sum_cons, List.sum_cons, ← toNat_word16, ← toNat_word16,
      word16_bytes16]
    simp only [Nat.mul_zero, Nat.zero_add, List.getD_cons_zero, List.getD_cons_succ]
    omega
  | succ k ih =>
    obtain ⟨b0, b1, rest, rfl⟩ : ∃ b0 b1 rest, bytes = b0 :: b1 :: rest := by
      match bytes, h with
      | b0 :: b1 :: rest, _ => exact ⟨b0, b1, rest, rfl⟩
    have hrest := @ih rest (by simp only [List.length_cons] at h; omega)
    rw [Nat.mul_succ, overwrite_cons_cons, words, words, List.sum_cons, List.sum_cons]
    simp only [Nat.add_right_comm _ 2, List.getD_cons_succ]
    omega

/-! ## The checks -/

/-- The ones' complement sum of the 16-bit words of some bytes. -/
def internetSum (data : List UInt8) : ℕ := OnesComplement.sum 0xffff (words data)

theorem internetSum_eq_iff (data : List UInt8) :
    internetSum data = 0xffff ↔ 0 < (words data).sum ∧ 0xffff ∣ (words data).sum := by
  rw [internetSum, OnesComplement.sum_eq_norm (by decide) fun word h => le_of_mem_words h,
    OnesComplement.norm_eq_max_iff (by decide)]

/-- What `check_ip_packet_corrupt` computes. -/
theorem checkIpPacketCorrupt_val (b : Buf) (off : ℕ) (hhl : 5 ≤ ipHl (b.get off)) :
    (checkIpPacketCorrupt b off).val = false ↔
      cksumBytes (overwrite 10 (bytes16 0) (b.slice off (4 * ipHl (b.get off)))) =
        b.get16 (off + 10) := by
  have hhead (beyond : ℕ → UInt8) :
      ((Buf.mk (b.slice off (4 * ipHl (b.get off))) beyond).set 10 (bytes16 0)).get 0 =
        b.get off := by
    rw [Buf.get_set_of_not (.inl (by decide)), Buf.get_slice _ _ _ _ (by omega), Nat.add_zero]
  have hsum (beyond : ℕ → UInt8) :
      (Buf.mk (b.slice off (4 * ipHl (b.get off))) beyond).get16 10 = b.get16 (off + 10) := by
    rw [Buf.get16, Buf.get_slice _ _ _ _ (by omega), Buf.get_slice _ _ _ _ (by omega)]
    rfl
  have hslice (beyond : ℕ → UInt8) :
      ((Buf.mk (b.slice off (4 * ipHl (b.get off))) beyond).set 10 (bytes16 0)).slice 0
        (4 * ipHl (b.get off)) =
        overwrite 10 (bytes16 0) (b.slice off (4 * ipHl (b.get off))) := by
    rw [Buf.set, Buf.slice_zero _ _ _ (by simp), List.take_of_length_le (by simp)]
  simp only [checkIpPacketCorrupt, Buf.readByte, Buf.readBytes, Buf.read16, Buf.write, cksum,
    Traced.val_bind, Traced.val_pure, hhead, hsum, Int.toNat_natCast, hslice, ne_eq,
    decide_eq_false_iff_not, not_not]

/-- What `check_icmp_packet_corrupt` computes: `cksum` sees nothing of a message whose length is
negative as an `int`. -/
theorem checkIcmpPacketCorrupt_val (b : Buf) (off len : ℕ) (hlen : 8 ≤ len) (hlt : len < 2 ^ 32) :
    (checkIcmpPacketCorrupt b off len).val = false ↔
      cksumBytes ((overwrite 2 (bytes16 0) (b.slice off len)).take
        (if len < 2 ^ 31 then len else 0)) = b.get16 (off + 2) := by
  have hsum (beyond : ℕ → UInt8) :
      (Buf.mk (b.slice off len) beyond).get16 2 = b.get16 (off + 2) := by
    rw [Buf.get16, Buf.get_slice _ _ _ _ (by omega), Buf.get_slice _ _ _ _ (by omega)]
    rfl
  have hint : ((len : ℤ).bmod (2 ^ 32)).toNat = if len < 2 ^ 31 then len else 0 := by
    rw [Int.bmod_def]
    split <;> split <;> omega
  have hslice (beyond : ℕ → UInt8) (n : ℕ) (hn : n ≤ len) :
      ((Buf.mk (b.slice off len) beyond).set 2 (bytes16 0)).slice 0 n =
        (overwrite 2 (bytes16 0) (b.slice off len)).take n := by
    rw [Buf.set, Buf.slice_zero _ _ _ (by simpa using hn)]
  simp only [checkIcmpPacketCorrupt, Buf.readBytes, Buf.read16, Buf.write, cksum,
    Traced.val_bind, Traced.val_pure, hsum, Int.toNat_natCast, hint]
  rw [hslice _ _ (by split <;> omega)]
  simp only [ne_eq, decide_eq_false_iff_not, not_not]

/-- The stored checksum of an ICMP message and the sum of all its words for which the check is
right. Below 2^31 bytes, only a stored zero is taken for the wrong one of the two zeros as long as
the sum fits into 32 bits; a longer sum loses carries, and from 2^31 bytes on nothing is added. -/
def icmpSumsAgree (len stored total : ℕ) : Prop :=
  if len < 2 ^ 31 then
    if total - stored < 2 ^ 32 then stored ≠ 0 ∨ ¬ (0 < total ∧ 0xffff ∣ total)
    else ¬ 0xffff ∣ total ∧ (stored = 0 ∨ ¬ 0xffff ∣ stored + (total - stored) % 2 ^ 32)
  else if stored = 0xffff then 0xffff ∣ total
  else ¬ (0 < total ∧ 0xffff ∣ total)

/-- The sum of the words of a message is below 2^46 when it has fewer than 2^31 bytes. -/
theorem sum_words_le (data : List UInt8) : (words data).sum ≤ 0xffff * ((data.length + 1) / 2) := by
  induction data using words.induct with
  | case1 => simp [words]
  | case2 b =>
    have := b.toNat_lt
    simp only [words, List.sum_singleton, List.length_singleton]
    omega
  | case3 b0 b1 data ih =>
    have := b0.toNat_lt
    have := b1.toNat_lt
    simp only [words, List.sum_cons, List.length_cons]
    omega

/-- **What the checks accept.** `check_ip_packet_corrupt` and `check_icmp_packet_corrupt` return 0
for the valid headers and messages and no others just when the checksum stored is not 0x0000 or the
ones' complement sum is not 0xffff, as far as the sum fits into 32 bits. -/
theorem checks_accept_valid_iff (b : Buf) (off : ℕ) :
    (5 ≤ ipHl (b.get off) →
      (((checkIpPacketCorrupt b off).val = false ↔
          internetSum (b.slice off (4 * ipHl (b.get off))) = 0xffff) ↔
        (b.get16 (off + 10) ≠ 0 ∨
          ¬ (0 < (words (b.slice off (4 * ipHl (b.get off)))).sum ∧
            0xffff ∣ (words (b.slice off (4 * ipHl (b.get off)))).sum)))) ∧
    ∀ len : ℕ, 8 ≤ len → len < 2 ^ 32 →
      (((checkIcmpPacketCorrupt b off len).val = false ↔
          internetSum (b.slice off len) = 0xffff) ↔
        icmpSumsAgree len (b.get16 (off + 2)).toNat (words (b.slice off len)).sum) := by
  refine ⟨fun hhl => ?_, fun len hlen hlt => ?_⟩
  · have hbyte : ipHl (b.get off) < 16 := Nat.mod_lt _ (by decide)
    have hlong : 2 * 5 + 1 < (b.slice off (4 * ipHl (b.get off))).length := by
      rw [Buf.length_slice]
      omega
    have hsum := sum_words_overwrite 5 0 hlong
    rw [Buf.getD_slice _ _ _ _ (by omega), Buf.getD_slice _ _ _ _ (by omega)] at hsum
    have hle := sum_words_le (overwrite 10 (bytes16 0) (b.slice off (4 * ipHl (b.get off))))
    rw [length_overwrite, Buf.length_slice] at hle
    have hne : b.get16 (off + 10) ≠ 0 ↔ (b.get16 (off + 10)).toNat ≠ 0 := by
      rw [ne_eq, ne_eq, ← UInt16.toNat_inj, UInt16.toNat_zero]
    have hget : word16 (b.get (off + 2 * 5)) (b.get (off + (2 * 5 + 1))) = b.get16 (off + 10) := rfl
    rw [hget, UInt16.toNat_zero] at hsum
    rw [checkIpPacketCorrupt_val b off hhl, cksumBytes_eq_iff, internetSum_eq_iff, hne,
      Nat.mod_eq_of_lt (by omega)]
    generalize (words (overwrite 10 (bytes16 0) (b.slice off (4 * ipHl (b.get off))))).sum = S at *
    generalize (words (b.slice off (4 * ipHl (b.get off)))).sum = total at *
    generalize (b.get16 (off + 10)).toNat = stored at *
    obtain rfl : total = stored + S := by omega
    omega
  · have hlong : 2 * 1 + 1 < (b.slice off len).length := by
      rw [Buf.length_slice]
      omega
    have hsum := sum_words_overwrite 1 0 hlong
    rw [Buf.getD_slice _ _ _ _ (by omega), Buf.getD_slice _ _ _ _ (by omega)] at hsum
    have hle := sum_words_le (overwrite 2 (bytes16 0) (b.slice off len))
    rw [length_overwrite, Buf.length_slice] at hle
    have hne : b.get16 (off + 2) ≠ 0 ↔ (b.get16 (off + 2)).toNat ≠ 0 := by
      rw [ne_eq, ne_eq, ← UInt16.toNat_inj, UInt16.toNat_zero]
    have hget : word16 (b.get (off + 2 * 1)) (b.get (off + (2 * 1 + 1))) = b.get16 (off + 2) := rfl
    rw [hget, UInt16.toNat_zero] at hsum
    have hstored := (b.get16 (off + 2)).toNat_lt
    rw [checkIcmpPacketCorrupt_val b off len hlen hlt, cksumBytes_eq_iff, internetSum_eq_iff, hne,
      icmpSumsAgree]
    by_cases hint : len < 2 ^ 31
    · rw [if_pos hint, if_pos hint, List.take_of_length_le (by simp)]
      generalize (words (overwrite 2 (bytes16 0) (b.slice off len))).sum = S at *
      generalize (words (b.slice off len)).sum = total at *
      generalize (b.get16 (off + 2)).toNat = stored at *
      obtain rfl : total = stored + S := by omega
      rw [Nat.add_sub_cancel_left]
      split
      · omega
      · -- the carries lost are too few to be a multiple of 0xffff
        have hdiv := Nat.div_add_mod S (2 ^ 32)
        have hfew : S / 2 ^ 32 < 2 ^ 14 := by omega
        omega
    · rw [if_neg hint, if_neg hint, List.take_zero, words, List.sum_nil]
      generalize (words (b.slice off len)).sum = total at *
      generalize (b.get16 (off + 2)).toNat = stored at *
      split <;> omega

/-- The header of an ICMP packet from 10.0.0.1 to 10.0.0.2. -/
def pingHdr : List UInt8 :=
  [0x45, 0, 0, 28, 0, 0, 0, 0, 64, 1, 0x66, 0xdf, 10, 0, 0, 1, 10, 0, 0, 2]

/-- An ICMP echo request without data. -/
def pingMessage : List UInt8 := [8, 0, 0xf7, 0xfd, 0, 1, 0, 1]

/-- A header and a message with a nonzero checksum. -/
theorem checks_accept_valid_iff_ping :
    ((checkIpPacketCorrupt ⟨pingHdr, fun _ => 0⟩ 0).val = false ↔ internetSum pingHdr = 0xffff) ∧
      ((checkIcmpPacketCorrupt ⟨pingMessage, fun _ => 0⟩ 0 8).val = false ↔
        internetSum pingMessage = 0xffff) :=
  ⟨((checks_accept_valid_iff ⟨pingHdr, fun _ => 0⟩ 0).1 (by decide)).mpr (by decide),
    ((checks_accept_valid_iff ⟨pingMessage, fun _ => 0⟩ 0).2 8 (by decide) (by decide)).mpr
      (by simp only [icmpSumsAgree]; decide)⟩

/-- The header of a packet to 10.0.102.233, whose checksum is zero. -/
def zeroSumHdr : List UInt8 :=
  [0x45, 0, 0, 20, 0, 0, 0, 0, 64, 1, 0, 0, 10, 0, 0, 1, 10, 0, 0x66, 0xe9]

/-- It is valid, and taken for corrupt. -/
theorem valid_header_refused :
    internetSum zeroSumHdr = 0xffff ∧
      (checkIpPacketCorrupt ⟨zeroSumHdr, fun _ => 0⟩ 0).val = true := by decide

end NetworkSim.Router
