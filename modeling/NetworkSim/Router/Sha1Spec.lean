import NetworkSim.Foundations.Draining
import NetworkSim.Router.Sha1

/-!
# The digest of a message

What `router/sha1.c` computes: the compression function folded over the blocks of the padded message
(`sha1`), however the message was cut into calls of `SHA1Input`, and whatever was in the message
block before. After any sequence of calls `SHA1Result` gives the digest exactly when the length in
bits fits into 64 bits and nothing came after the first result (`sha1_calls`).
-/

namespace NetworkSim.Router

/-- What stands behind a message of `n` bytes: a one bit, zeros up to the end of a block but for 8
bytes, and the length in bits. -/
def sha1Padding (n : ℕ) : List UInt8 :=
  0x80 :: List.replicate ((119 - n % 64) % 64) 0 ++
    (bytes32 (UInt32.ofNat (8 * n / 2 ^ 32)) ++ bytes32 (UInt32.ofNat (8 * n)))

/-- The SHA-1 digest of a message. -/
def sha1 (msg : List UInt8) : MessageDigest :=
  (blocks 64 (msg ++ sha1Padding msg.length)).foldl sha1Compress initialDigest

namespace SHA1Context

variable (c : SHA1Context)

/-- The bytes of the message block that have been put there. -/
def filled : List UInt8 := c.messageBlock.toList.take c.messageBlockIndex

/-- What the message so far amounts to. -/
def absorbed : MessageDigest × List UInt8 := (c.messageDigest, c.filled)

/-- The length in bits. -/
def bits : ℕ := c.lengthHigh.toNat * 2 ^ 32 + c.lengthLow.toNat

variable {c}

theorem length_filled (h : c.messageBlockIndex ≤ 64) : c.filled.length = c.messageBlockIndex := by
  rw [filled, List.length_take, List.Vector.toList_length, min_eq_left h]

/-- A full message block is its bytes. -/
theorem filled_of_full (h : c.messageBlockIndex = 64) : c.filled = c.messageBlock.toList := by
  rw [filled, h, List.take_of_length_le (by simp)]

end SHA1Context

/-! ## Input -/

variable {c : SHA1Context}

theorem filled_putByte (byte : UInt8) (h : c.messageBlockIndex < 64) :
    (putByte byte c).filled = c.filled ++ [byte] := by
  change (c.messageBlock.toList.set c.messageBlockIndex byte).take (c.messageBlockIndex + 1) = _
  have hlen : c.messageBlockIndex < c.messageBlock.toList.length := by simpa using h
  rw [List.take_add_one, List.take_set, List.getElem?_set_self hlen,
    List.set_eq_of_length_le (by rw [List.length_take]; omega)]
  rfl

theorem filled_sha1ProcessMessageBlock : (sha1ProcessMessageBlock c).filled = [] := List.take_zero

theorem messageBlockIndex_sha1ProcessMessageBlock :
    (sha1ProcessMessageBlock c).messageBlockIndex = 0 := by
  rw [sha1ProcessMessageBlock]

theorem lengthHigh_sha1ProcessMessageBlock :
    (sha1ProcessMessageBlock c).lengthHigh = c.lengthHigh := by
  rw [sha1ProcessMessageBlock]

theorem lengthLow_sha1ProcessMessageBlock :
    (sha1ProcessMessageBlock c).lengthLow = c.lengthLow := by
  rw [sha1ProcessMessageBlock]

theorem computed_sha1ProcessMessageBlock : (sha1ProcessMessageBlock c).computed = c.computed := by
  rw [sha1ProcessMessageBlock]

theorem corrupted_sha1ProcessMessageBlock :
    (sha1ProcessMessageBlock c).corrupted = c.corrupted := by
  rw [sha1ProcessMessageBlock]

theorem bits_sha1ProcessMessageBlock : (sha1ProcessMessageBlock c).bits = c.bits := by
  rw [SHA1Context.bits, lengthHigh_sha1ProcessMessageBlock, lengthLow_sha1ProcessMessageBlock]
  rfl

theorem absorbed_addLength : (addLength c).absorbed = c.absorbed := by
  unfold addLength
  split
  · split <;> rfl
  · rfl

theorem messageBlockIndex_addLength : (addLength c).messageBlockIndex = c.messageBlockIndex := by
  unfold addLength
  split
  · split <;> rfl
  · rfl

theorem computed_addLength : (addLength c).computed = c.computed := by
  unfold addLength
  split
  · split <;> rfl
  · rfl

/-- One more byte: it is put into the message block, and a full block is processed. -/
theorem absorbed_inputByte (byte : UInt8) (h : c.messageBlockIndex < 64) :
    (inputByte byte c).absorbed = absorb 64 sha1Compress c.absorbed byte := by
  have hlen : c.absorbed.2.length = c.messageBlockIndex := SHA1Context.length_filled h.le
  have habsorbed : (addLength (putByte byte c)).absorbed =
      (c.messageDigest, c.filled ++ [byte]) := by
    rw [absorbed_addLength, SHA1Context.absorbed, filled_putByte byte h]
    rfl
  obtain ⟨hdigest, hfilled⟩ := Prod.mk.inj habsorbed
  have hindex : (addLength (putByte byte c)).messageBlockIndex = c.messageBlockIndex + 1 :=
    messageBlockIndex_addLength
  rw [inputByte, absorb, hlen, hindex]
  split
  · rename_i hfull
    rw [SHA1Context.absorbed, filled_sha1ProcessMessageBlock, sha1ProcessMessageBlock, hdigest,
      ← SHA1Context.filled_of_full (hindex.trans hfull), hfilled]
    rfl
  · exact habsorbed

theorem messageBlockIndex_inputByte (byte : UInt8) (h : c.messageBlockIndex < 64) :
    (inputByte byte c).messageBlockIndex < 64 := by
  have hindex : (addLength (putByte byte c)).messageBlockIndex = c.messageBlockIndex + 1 :=
    messageBlockIndex_addLength
  rw [inputByte]
  split
  · exact Nat.zero_lt_succ 63
  · rename_i hpart
    omega

theorem computed_inputByte (byte : UInt8) : (inputByte byte c).computed = c.computed := by
  have hsame : (addLength (putByte byte c)).computed = c.computed := computed_addLength
  rw [inputByte]
  split
  · rw [computed_sha1ProcessMessageBlock, hsame]
  · exact hsame

/-- The length grows by a byte, and the flag tells when it does not fit. -/
theorem length_inputByte (byte : UInt8) (h8 : 8 ∣ c.bits) (hcorrupted : c.corrupted = false) :
    if c.bits + 8 < 2 ^ 64 then
      (inputByte byte c).bits = c.bits + 8 ∧ (inputByte byte c).corrupted = false
    else (inputByte byte c).corrupted = true := by
  have hlow := c.lengthLow.toNat_lt
  have hhigh := c.lengthHigh.toNat_lt
  have hlow8 : (c.lengthLow + 8 = 0) ↔ c.lengthLow.toNat + 8 = 2 ^ 32 := by
    rw [← UInt32.toNat_inj, UInt32.toNat_add]
    simp only [UInt32.toNat_ofNat, SHA1Context.bits] at h8 ⊢
    omega
  have hhigh1 : (c.lengthHigh + 1 = 0) ↔ c.lengthHigh.toNat + 1 = 2 ^ 32 := by
    rw [← UInt32.toNat_inj, UInt32.toNat_add]
    simp only [UInt32.toNat_ofNat]
    omega
  have hadd : if c.bits + 8 < 2 ^ 64 then
      (addLength (putByte byte c)).bits = c.bits + 8 ∧
        (addLength (putByte byte c)).corrupted = false
      else (addLength (putByte byte c)).corrupted = true := by
    have hbits : c.bits = c.lengthHigh.toNat * 2 ^ 32 + c.lengthLow.toNat := rfl
    have hputLow : (putByte byte c).lengthLow = c.lengthLow := rfl
    have hputHigh : (putByte byte c).lengthHigh = c.lengthHigh := rfl
    rw [addLength, hputLow, hputHigh]
    by_cases hlast : c.lengthLow + 8 = 0
    · rw [if_pos hlast]
      by_cases hwrap : c.lengthHigh + 1 = 0
      · rw [if_pos hwrap, if_neg (by have := hlow8.mp hlast; have := hhigh1.mp hwrap; omega)]
      · rw [if_neg hwrap]
        have hcarry := hlow8.mp hlast
        have hne := mt hhigh1.mpr hwrap
        rw [if_pos (by omega)]
        refine ⟨?_, hcorrupted⟩
        change (c.lengthHigh + 1).toNat * 2 ^ 32 + (0 : UInt32).toNat = _
        rw [UInt32.toNat_add, UInt32.toNat_one, UInt32.toNat_zero, hbits]
        omega
    · rw [if_neg hlast]
      have hne := mt hlow8.mpr hlast
      have hdvd : 8 ∣ c.lengthLow.toNat := by omega
      rw [if_pos (by omega)]
      refine ⟨?_, hcorrupted⟩
      change c.lengthHigh.toNat * 2 ^ 32 + (c.lengthLow + 8).toNat = _
      rw [UInt32.toNat_add, show (8 : UInt32).toNat = 8 from rfl, hbits]
      omega
  unfold inputByte
  by_cases hfull : (addLength (putByte byte c)).messageBlockIndex = 64
  · rwa [if_pos hfull, corrupted_sha1ProcessMessageBlock, bits_sha1ProcessMessageBlock]
  · rwa [if_neg hfull]

/-- The context after the bytes `msg`. -/
structure Absorbed (msg : List UInt8) (c : SHA1Context) : Prop where
  absorbed : c.absorbed = ((blocks 64 msg).foldl sha1Compress initialDigest, partialBlock 64 msg)
  index : c.messageBlockIndex < 64
  bits : c.bits = 8 * msg.length
  computed : c.computed = false
  corrupted : c.corrupted = false

namespace Absorbed

theorem reset (c : SHA1Context) : Absorbed [] (sha1Reset c) where
  absorbed := by rw [sha1Reset, SHA1Context.absorbed, SHA1Context.filled, List.take_zero]; rfl
  index := by rw [sha1Reset]; exact Nat.zero_lt_succ 63
  bits := by rw [sha1Reset, SHA1Context.bits, UInt32.toNat_zero, Nat.zero_mul, List.length_nil]
  computed := by rw [sha1Reset]
  corrupted := by rw [sha1Reset]

variable {msg : List UInt8}

theorem inputByte (h : Absorbed msg c) (byte : UInt8) (hlen : 8 * (msg.length + 1) < 2 ^ 64) :
    Absorbed (msg ++ [byte]) (inputByte byte c) where
  absorbed := by
    rw [absorbed_inputByte byte h.index, h.absorbed, ← foldl_absorb (by decide), ← foldl_absorb
      (by decide), List.foldl_append]
    rfl
  index := messageBlockIndex_inputByte byte h.index
  bits := by
    have hbits := length_inputByte byte (h.bits ▸ Nat.dvd_mul_right 8 _) h.corrupted
    rw [if_pos (by rw [h.bits]; omega)] at hbits
    rw [hbits.1, h.bits, List.length_append, List.length_singleton]
    omega
  computed := (computed_inputByte byte).trans h.computed
  corrupted := by
    have hbits := length_inputByte byte (h.bits ▸ Nat.dvd_mul_right 8 _) h.corrupted
    rw [if_pos (by rw [h.bits]; omega)] at hbits
    exact hbits.2

theorem inputLoop (h : Absorbed msg c) (bytes : List UInt8) :
    if 8 * (msg ++ bytes).length < 2 ^ 64 then Absorbed (msg ++ bytes) (inputLoop bytes c)
    else (Router.inputLoop bytes c).corrupted = true := by
  induction bytes generalizing msg c with
  | nil =>
    rw [List.append_nil]
    split
    · exact h
    · rename_i hlong
      have hlow := c.lengthLow.toNat_lt
      have hhigh := c.lengthHigh.toNat_lt
      have hbits := h.bits
      rw [SHA1Context.bits] at hbits
      omega
  | cons byte bytes ih =>
    rw [Router.inputLoop, h.corrupted, if_neg Bool.false_ne_true]
    by_cases hlen : 8 * (msg.length + 1) < 2 ^ 64
    · rw [List.append_cons]
      exact ih (h.inputByte byte hlen)
    · -- this byte is one too many, and the loop stops behind it
      have hflag := length_inputByte byte (h.bits ▸ Nat.dvd_mul_right 8 _) h.corrupted
      rw [if_neg (by rw [h.bits]; omega)] at hflag
      rw [if_neg (by rw [List.length_append, List.length_cons]; omega)]
      cases bytes with
      | nil => exact hflag
      | cons byte' bytes => rw [Router.inputLoop, hflag, if_pos rfl, hflag]

theorem sha1Input (h : Absorbed msg c) (bytes : List UInt8) :
    if 8 * (msg ++ bytes).length < 2 ^ 64 then Absorbed (msg ++ bytes) (sha1Input bytes c)
    else (Router.sha1Input bytes c).corrupted = true := by
  have hloop := h.inputLoop bytes
  rw [Router.sha1Input, h.computed, h.corrupted]
  by_cases hnil : bytes = []
  · rw [if_pos hnil]
    subst hnil
    exact hloop
  · rwa [if_neg hnil]

end Absorbed

/-! ## Padding -/

theorem absorbed_iterate_putByte (byte : UInt8) {n : ℕ} (h : c.messageBlockIndex + n ≤ 64) :
    ((putByte byte)^[n] c).absorbed = (c.messageDigest, c.filled ++ List.replicate n byte) ∧
      ((putByte byte)^[n] c).messageBlockIndex = c.messageBlockIndex + n ∧
      ((putByte byte)^[n] c).lengthHigh = c.lengthHigh ∧
      ((putByte byte)^[n] c).lengthLow = c.lengthLow := by
  induction n with
  | zero => exact ⟨by rw [List.replicate_zero, List.append_nil]; rfl, rfl, rfl, rfl⟩
  | succ n ih =>
    obtain ⟨habsorbed, hindex, hhigh, hlow⟩ := ih (by omega)
    obtain ⟨hdigest, hfilled⟩ := Prod.mk.inj habsorbed
    rw [Function.iterate_succ_apply']
    refine ⟨?_, congrArg (· + 1) hindex, hhigh, hlow⟩
    rw [SHA1Context.absorbed, filled_putByte byte (by omega), hfilled, List.append_assoc,
      List.replicate_succ']
    exact congrArg (·, _) hdigest

/-- Zeros up to offset `n`. -/
theorem absorbed_putZeros {n : ℕ} (h : c.messageBlockIndex ≤ n) (hn : n ≤ 64) :
    (putZeros n c).absorbed =
        (c.messageDigest, c.filled ++ List.replicate (n - c.messageBlockIndex) 0) ∧
      (putZeros n c).messageBlockIndex = n ∧ (putZeros n c).lengthHigh = c.lengthHigh ∧
      (putZeros n c).lengthLow = c.lengthLow := by
  obtain ⟨habsorbed, hindex, hlen⟩ := absorbed_iterate_putByte 0
    (show c.messageBlockIndex + (n - c.messageBlockIndex) ≤ 64 by omega)
  exact ⟨habsorbed, hindex.trans (by omega), hlen⟩

theorem overwrite_end {off : ℕ} {news bytes : List UInt8} (h : off + news.length = bytes.length) :
    overwrite off news bytes = bytes.take off ++ news := by
  apply List.ext_getElem?
  intro i
  rw [getElem?_overwrite]
  rcases Nat.lt_or_ge i off with hlt | hge
  · rw [List.getElem?_append_left (by rw [List.length_take]; omega), List.getElem?_take_of_lt hlt]
    simp only [not_le.mpr hlt, if_false, Option.map_id']
  · rw [List.getElem?_append_right (by rw [List.length_take]; omega), List.length_take,
      min_eq_left (by omega)]
    simp only [hge, if_true]
    rcases Nat.lt_or_ge i bytes.length with hi | hi
    · rw [List.getElem?_eq_getElem hi, List.getElem?_eq_getElem (by omega), Option.map_some,
        List.getD_eq_getElem?_getD, List.getElem?_eq_getElem (by omega), Option.getD_some]
    · rw [List.getElem?_eq_none hi, List.getElem?_eq_none (by omega), Option.map_none]

/-- The two length words fill up the last block. -/
theorem messageDigest_last (h : c.messageBlockIndex = 56) :
    (sha1ProcessMessageBlock (storeLength c)).messageDigest =
      sha1Compress c.messageDigest
        (c.filled ++ (bytes32 c.lengthHigh ++ bytes32 c.lengthLow)) := by
  rw [SHA1Context.filled, h, ← overwrite_end (by simp [bytes32])]
  rfl

/-- `SHA1PadMessage` processes what the message block holds and the padding behind it. -/
theorem messageDigest_sha1PadMessage {msg : List UInt8} (h : Absorbed msg c) :
    (sha1PadMessage c).messageDigest = sha1 msg := by
  have hbits := h.bits
  have hlow := c.lengthLow.toNat_lt
  have hhigh := c.lengthHigh.toNat_lt
  rw [SHA1Context.bits] at hbits
  have hlowEq : UInt32.ofNat (8 * msg.length) = c.lengthLow := by
    rw [← UInt32.toNat_inj, UInt32.toNat_ofNat']
    omega
  have hhighEq : UInt32.ofNat (8 * msg.length / 2 ^ 32) = c.lengthHigh := by
    rw [← UInt32.toNat_inj, UInt32.toNat_ofNat']
    omega
  obtain ⟨hdigest, hfilled⟩ := Prod.mk.inj h.absorbed
  have hindex := SHA1Context.length_filled h.index.le
  have hmod : msg.length % 64 = c.messageBlockIndex := by
    rw [← length_partialBlock (by decide), ← hfilled, hindex]
  rw [sha1, blocks_append (by decide), List.foldl_append, ← hdigest, ← hfilled, sha1Padding, hmod,
    hlowEq, hhighEq]
  obtain ⟨hput, hputIndex⟩ : (putByte 0x80 c).filled = c.filled ++ [0x80] ∧
      (putByte 0x80 c).messageBlockIndex = c.messageBlockIndex + 1 :=
    ⟨filled_putByte 0x80 h.index, rfl⟩
  have hlengths : (bytes32 c.lengthHigh ++ bytes32 c.lengthLow).length = 8 := rfl
  rw [sha1PadMessage]
  by_cases hlate : c.messageBlockIndex > 55
  · -- the length does not fit into this block any more
    rw [if_pos hlate]
    obtain ⟨hblock, hfull, hhigh₁, hlow₁⟩ := absorbed_putZeros
      (show (putByte 0x80 c).messageBlockIndex ≤ 64 by omega) le_rfl
    obtain ⟨hdigest₁, hfilled₁⟩ := Prod.mk.inj hblock
    have hnext : (sha1ProcessMessageBlock (putZeros 64 (putByte 0x80 c))).messageDigest =
        sha1Compress c.messageDigest
          (c.filled ++ 0x80 :: List.replicate (63 - c.messageBlockIndex) 0) := by
      rw [sha1ProcessMessageBlock, ← SHA1Context.filled_of_full hfull, hfilled₁, hdigest₁, hput,
        hputIndex, Nat.add_sub_add_right 63 1, List.append_assoc]
      rfl
    obtain ⟨hzeros, hindex₂, hhigh₂, hlow₂⟩ := absorbed_putZeros
      (show (sha1ProcessMessageBlock (putZeros 64 (putByte 0x80 c))).messageBlockIndex ≤ 56
        from Nat.zero_le 56) (by decide)
    obtain ⟨hdigest₂, hfilled₂⟩ := Prod.mk.inj hzeros
    rw [messageDigest_last hindex₂, hhigh₂, hlow₂, hdigest₂, hfilled₂, hnext,
      filled_sha1ProcessMessageBlock, messageBlockIndex_sha1ProcessMessageBlock,
      lengthHigh_sha1ProcessMessageBlock, lengthLow_sha1ProcessMessageBlock, hhigh₁, hlow₁]
    have hpadding : c.filled ++ (0x80 :: List.replicate ((119 - c.messageBlockIndex) % 64) 0 ++
        (bytes32 c.lengthHigh ++ bytes32 c.lengthLow)) =
        (c.filled ++ 0x80 :: List.replicate (63 - c.messageBlockIndex) 0) ++
          (List.replicate 56 0 ++ (bytes32 c.lengthHigh ++ bytes32 c.lengthLow)) := by
      have h64 := h.index
      rw [show (119 - c.messageBlockIndex) % 64 = 63 - c.messageBlockIndex + 56 by omega,
        List.replicate_add]
      simp only [List.append_assoc, List.cons_append]
    have hlen₁ : (c.filled ++ 0x80 :: List.replicate (63 - c.messageBlockIndex) 0).length = 64 := by
      rw [List.length_append, List.length_cons, List.length_replicate, hindex]
      have h64 := h.index
      omega
    rw [hpadding, blocks_block_append (by decide) hlen₁,
      blocks_block (by decide) (by simp [bytes32])]
    rfl
  · rw [if_neg hlate]
    obtain ⟨hzeros, hindex₂, hhigh₂, hlow₂⟩ := absorbed_putZeros
      (show (putByte 0x80 c).messageBlockIndex ≤ 56 by omega) (by decide)
    obtain ⟨hdigest₂, hfilled₂⟩ := Prod.mk.inj hzeros
    rw [messageDigest_last hindex₂, hhigh₂, hlow₂, hdigest₂, hfilled₂, hput, hputIndex]
    have hpadding : c.filled ++ (0x80 :: List.replicate ((119 - c.messageBlockIndex) % 64) 0 ++
        (bytes32 c.lengthHigh ++ bytes32 c.lengthLow)) =
        (c.filled ++ [0x80] ++ List.replicate (56 - (c.messageBlockIndex + 1)) 0 ++
          (bytes32 c.lengthHigh ++ bytes32 c.lengthLow)) := by
      rw [show (119 - c.messageBlockIndex) % 64 = 56 - (c.messageBlockIndex + 1) by omega]
      simp only [List.append_assoc, List.cons_append, List.nil_append]
    rw [hpadding, blocks_block (by decide)]
    · rfl
    · simp only [List.length_append, List.length_singleton, List.length_replicate, hindex, hlengths]
      omega

theorem corrupted_putZeros (n : ℕ) : (putZeros n c).corrupted = c.corrupted := by
  unfold putZeros
  induction n - c.messageBlockIndex with
  | zero => rfl
  | succ k ih => rw [Function.iterate_succ_apply', ← ih, putByte]

theorem corrupted_sha1PadMessage : (sha1PadMessage c).corrupted = c.corrupted := by
  rw [sha1PadMessage, corrupted_sha1ProcessMessageBlock, storeLength]
  split
  · rw [corrupted_putZeros, corrupted_sha1ProcessMessageBlock, corrupted_putZeros, putByte]
  · rw [corrupted_putZeros, putByte]

/-! ## Calls in any order -/

/-- A call that the user of a context makes after `SHA1Reset`. -/
inductive Sha1Call
  | input (messageArray : List UInt8)
  | result

/-- The context after a call. -/
def sha1Call (c : SHA1Context) : Sha1Call → SHA1Context
  | .input messageArray => sha1Input messageArray c
  | .result => (sha1Result c).2

/-- What was input before the first result. -/
def messageOf : List Sha1Call → List UInt8
  | [] => []
  | .input messageArray :: calls => messageArray ++ messageOf calls
  | .result :: _ => []

/-- Whether nothing is input behind a result. -/
def NothingLate : List Sha1Call → Prop
  | [] => True
  | .input _ :: calls => NothingLate calls
  | .result :: calls => ∀ messageArray, .input messageArray ∈ calls → messageArray = []

theorem sha1Result_of_computed (hcomputed : c.computed = true) (hcorrupted : c.corrupted = false) :
    sha1Result c = (true, c) := by
  rw [sha1Result, hcorrupted, hcomputed]
  rfl

theorem sha1Result_of_corrupted (h : c.corrupted = true) : sha1Result c = (false, c) := by
  rw [sha1Result, h]
  rfl

/-- A context that is corrupted stays so. -/
theorem foldl_corrupted (calls : List Sha1Call) (h : c.corrupted = true) :
    (calls.foldl sha1Call c).corrupted = true := by
  induction calls generalizing c with
  | nil => exact h
  | cons call calls ih =>
    refine ih ?_
    cases call with
    | result => rw [sha1Call, sha1Result_of_corrupted h, h]
    | input messageArray =>
      rw [sha1Call, sha1Input, h, Bool.or_true]
      split
      · exact h
      · rfl

/-- Once the digest is computed, only something to input makes a difference. -/
theorem foldl_computed (calls : List Sha1Call) (hcomputed : c.computed = true)
    (hcorrupted : c.corrupted = false) :
    ((∀ messageArray, .input messageArray ∈ calls → messageArray = []) →
        calls.foldl sha1Call c = c) ∧
      ((calls.foldl sha1Call c).corrupted = false →
        ∀ messageArray, .input messageArray ∈ calls → messageArray = []) := by
  induction calls with
  | nil => exact ⟨fun _ => rfl, fun _ _ hmem => absurd hmem List.not_mem_nil⟩
  | cons call calls ih =>
    cases call with
    | result =>
      rw [List.foldl_cons, sha1Call, sha1Result_of_computed hcomputed hcorrupted]
      simpa using ih
    | input messageArray =>
      rw [List.foldl_cons, sha1Call, sha1Input, hcomputed, Bool.true_or]
      by_cases hnil : messageArray = []
      · subst hnil
        rw [if_pos rfl]
        simpa using ih
      · rw [if_neg hnil, if_pos rfl]
        refine ⟨fun hall => absurd (hall _ List.mem_cons_self) hnil, fun hfalse => ?_⟩
        rw [foldl_corrupted calls rfl] at hfalse
        cases hfalse

theorem Absorbed.short {msg : List UInt8} (h : Absorbed msg c) : 8 * msg.length < 2 ^ 64 := by
  have hbits := h.bits
  have hlow := c.lengthLow.toNat_lt
  have hhigh := c.lengthHigh.toNat_lt
  rw [SHA1Context.bits] at hbits
  omega

/-- The first result is the digest of the message. -/
theorem Absorbed.sha1Result {msg : List UInt8} (h : Absorbed msg c) :
    ∃ c' : SHA1Context, sha1Result c = (true, c') ∧ c'.computed = true ∧ c'.corrupted = false ∧
      c'.messageDigest = sha1 msg := by
  have hcorrupted := @corrupted_sha1PadMessage c
  have hdigest := messageDigest_sha1PadMessage h
  rw [Router.sha1Result, h.corrupted, h.computed]
  rw [h.corrupted] at hcorrupted
  generalize sha1PadMessage c = padded at hcorrupted hdigest ⊢
  exact ⟨{ padded with computed := true }, rfl, rfl, hcorrupted, hdigest⟩

/-- The result after any calls, from the message so far. -/
theorem sha1Result_foldl {msg : List UInt8} (h : Absorbed msg c) (calls : List Sha1Call) :
    ((sha1Result (calls.foldl sha1Call c)).1 = true ↔
        8 * (msg ++ messageOf calls).length < 2 ^ 64 ∧ NothingLate calls) ∧
      ((sha1Result (calls.foldl sha1Call c)).1 = true →
        (sha1Result (calls.foldl sha1Call c)).2.messageDigest = sha1 (msg ++ messageOf calls)) := by
  induction calls generalizing msg c with
  | nil =>
    obtain ⟨c', hc', -, -, hdigest⟩ := h.sha1Result
    rw [messageOf, List.append_nil, List.foldl_nil, hc']
    exact ⟨iff_of_true rfl ⟨h.short, trivial⟩, fun _ => hdigest⟩
  | cons call calls ih =>
    cases call with
    | input messageArray =>
      have hinput := h.sha1Input messageArray
      rw [List.foldl_cons, sha1Call, messageOf, ← List.append_assoc, NothingLate]
      split at hinput
      · exact ih hinput
      · rename_i hlong
        rw [sha1Result_of_corrupted (foldl_corrupted calls hinput)]
        refine ⟨iff_of_false Bool.false_ne_true fun hfits => ?_, fun hfalse => ?_⟩
        · have hlen := hfits.1
          rw [List.length_append] at hlen
          omega
        · cases hfalse
    | result =>
      obtain ⟨c', hc', hcomputed, hcorrupted, hdigest⟩ := h.sha1Result
      rw [List.foldl_cons, sha1Call, messageOf, List.append_nil, NothingLate, hc']
      obtain ⟨hkeeps, hnothing⟩ := foldl_computed calls hcomputed hcorrupted
      have hlate (hr : (sha1Result (calls.foldl sha1Call c')).1 = true) :
          (calls.foldl sha1Call c').corrupted = false := by
        by_contra htrue
        rw [sha1Result_of_corrupted (eq_true_of_ne_false htrue)] at hr
        cases hr
      have hsame (hall : ∀ messageArray, .input messageArray ∈ calls → messageArray = []) :
          sha1Result (calls.foldl sha1Call c') = (true, c') := by
        rw [hkeeps hall, sha1Result_of_computed hcomputed hcorrupted]
      refine ⟨⟨fun hr => ⟨h.short, hnothing (hlate hr)⟩, fun hall => ?_⟩, fun hr => ?_⟩
      · rw [hsame hall.2]
      · rw [hsame (hnothing (hlate hr)), hdigest]

/-- **`SHA1Result` gives the digest of the message**, whatever the message block held before and
however the message was cut into calls; and it gives one exactly when the length in bits fits into
64 bits and nothing was input behind the first result. -/
theorem sha1_calls (c : SHA1Context) (calls : List Sha1Call) :
    let r := sha1Result (calls.foldl sha1Call (sha1Reset c))
    (r.1 = true ↔ 8 * (messageOf calls).length < 2 ^ 64 ∧ NothingLate calls) ∧
      (r.1 = true → r.2.messageDigest = sha1 (messageOf calls)) :=
  sha1Result_foldl (Absorbed.reset c) calls

set_option maxRecDepth 20000 in
example : sha1 [97, 98, 99] = ⟨0xA9993E36, 0x4706816A, 0xBA3E2571, 0x7850C26C, 0x9CD0D89D⟩ := by
  decide +kernel

end NetworkSim.Router
