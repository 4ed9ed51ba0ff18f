import NetworkSim.Foundations.Crc
import NetworkSim.Tcp.Switch

/-!
# What the checksum detects

`compute_crc8` is the division of the bit stream of the buffer, each byte from its highest bit, by
`x ^ 8 + x ^ 2 + x + 1` (`computeCrc8_toBitVec`), so the results on `Crc.remainder` apply to it: a
frame with its checksum set is valid (`frameValid_setChecksum`), and an error on a valid frame is
detected when it is a short burst or has odd weight (`frameValid_corrupt`). The complement of one
byte, which is what `send_frame` does to a frame, is such an error
(`frameValid_complementByte`).
-/

namespace NetworkSim.Tcp

/-! ## The byte image of a frame -/

theorem convertFrameToChar_convertCharToFrame (charBuf : List.Vector UInt8 maxFrameSize) :
    convertFrameToChar (convertCharToFrame charBuf) = charBuf := by
  obtain ⟨bytes, hbytes⟩ := charBuf
  obtain ⟨b0, b1, b2, b3, b4, b5, b6, rest, rfl⟩ : ∃ b0 b1 b2 b3 b4 b5 b6 rest,
      bytes = b0 :: b1 :: b2 :: b3 :: b4 :: b5 :: b6 :: rest := by
    match bytes, hbytes with
    | b0 :: b1 :: b2 :: b3 :: b4 :: b5 :: b6 :: rest, _ => exact ⟨_, _, _, _, _, _, _, _, rfl⟩
  have hrest : rest.length = framePayloadSize + 1 := by simpa [maxFrameSize] using hbytes
  have hlast : rest.take framePayloadSize ++ [rest[framePayloadSize]] = rest := by
    rw [List.take_append_getElem, ← hrest, List.take_length]
  have h0 : UInt8.ofNat (UInt16.ofNat (b0.toNat + 256 * b1.toNat)).toNat = b0 := by
    have := b0.toNat_lt; have := b1.toNat_lt
    exact UInt8.toNat_inj.mp (by simp)
  have h1 : UInt8.ofNat ((UInt16.ofNat (b0.toNat + 256 * b1.toNat)).toNat / 256) = b1 := by
    have := b0.toNat_lt; have := b1.toNat_lt
    exact UInt8.toNat_inj.mp (by simp; omega)
  apply Subtype.ext
  simp only [convertFrameToChar, convertCharToFrame]
  change UInt8.ofNat (UInt16.ofNat (b0.toNat + 256 * b1.toNat)).toNat ::
    UInt8.ofNat ((UInt16.ofNat (b0.toNat + 256 * b1.toNat)).toNat / 256) ::
    b2 :: b3 :: b4 :: b5 :: b6 :: (rest.take framePayloadSize ++ [rest[framePayloadSize]]) = _
  rw [h0, h1, hlast]

/-! ## The bit stream -/

/-- The bits of a byte, from the highest. -/
def byteBits (byte : UInt8) : List Bool := (List.range 8).map (fun j => byte.toBitVec.getMsbD j)

/-- The bits of a buffer in the order in which `compute_crc8` reads them. -/
def bufferBits (bytes : List UInt8) : List Bool := bytes.flatMap byteBits

theorem length_byteBits (byte : UInt8) : (byteBits byte).length = 8 := by simp [byteBits]

theorem byteBits_xor (a b : UInt8) :
    byteBits (a ^^^ b) = (byteBits a).zipWith xor (byteBits b) := by
  simp [byteBits, List.zipWith_map, List.zipWith_self]

theorem bufferBits_zipWith_xor (as bs : List UInt8) (h : as.length = bs.length) :
    bufferBits (as.zipWith (· ^^^ ·) bs) = (bufferBits as).zipWith xor (bufferBits bs) := by
  induction as generalizing bs with
  | nil => simp [bufferBits]
  | cons a as ih =>
    cases bs with
    | nil => simp at h
    | cons b bs =>
      simp only [bufferBits, List.zipWith_cons_cons, List.flatMap_cons] at ih ⊢
      rw [byteBits_xor, ih bs (by simpa using h), List.zipWith_append]
      rw [length_byteBits, length_byteBits]

theorem length_bufferBits (bytes : List UInt8) : (bufferBits bytes).length = 8 * bytes.length := by
  induction bytes with
  | nil => rfl
  | cons b bytes ih =>
    rw [bufferBits, List.flatMap_cons, List.length_append, length_byteBits, ← bufferBits, ih,
      List.length_cons]
    omega

theorem bufferBits_replicate_zero (n : ℕ) :
    bufferBits (List.replicate n 0) = List.replicate (8 * n) false := by
  refine List.eq_replicate_iff.mpr ⟨by rw [length_bufferBits, List.length_replicate], ?_⟩
  intro b hb
  simp only [bufferBits, List.mem_flatMap, List.mem_replicate] at hb
  obtain ⟨_, ⟨-, rfl⟩, hb⟩ := hb
  simpa [byteBits] using hb

theorem eq_zero_of_byteBits {byte : UInt8} (h : true ∉ byteBits byte) : byte = 0 := by
  apply UInt8.toBitVec_inj.mp
  apply BitVec.eq_of_getMsbD_eq
  intro j hj
  have hm : byte.toBitVec.getMsbD j ∈ byteBits byte :=
    List.mem_map.mpr ⟨j, List.mem_range.mpr hj, rfl⟩
  cases hb : byte.toBitVec.getMsbD j with
  | false => simp
  | true => exact absurd (hb ▸ hm) h

/-! ## The loop is a division -/

/-- The generator `0x07`: with the term `x ^ 8` that the register drops, `x ^ 8 + x ^ 2 + x + 1`. -/
def crc8Generator : BitVec 8 := 0x07

theorem crc8Bit_toBitVec (r : UInt8) (b : Bool) :
    (crc8Bit r (if b then 1 else 0)).toBitVec = Crc.step crc8Generator r.toBitVec b := by
  have h : ∀ n : Fin 256, ∀ b : Bool, (crc8Bit (UInt8.ofFin n) (if b then 1 else 0)).toBitVec =
      Crc.step crc8Generator (UInt8.ofFin n).toBitVec b := by decide +kernel
  exact h r.toFin b

/-- The bits that the loop shifts out of a byte are its bits from the highest. -/
theorem shifted_bits (byte : UInt8) :
    [7, 6, 5, 4, 3, 2, 1, 0].map (fun j : UInt8 => (byte >>> j) &&& 1) =
      (byteBits byte).map (fun b => if b then 1 else 0) := by
  have h : ∀ n : Fin 256,
      [7, 6, 5, 4, 3, 2, 1, 0].map (fun j : UInt8 => (UInt8.ofFin n >>> j) &&& 1) =
        (byteBits (UInt8.ofFin n)).map (fun b => if b then 1 else 0) := by decide +kernel
  exact h byte.toFin

theorem crc8Byte_toBitVec (r byte : UInt8) :
    (crc8Byte r byte).toBitVec = Crc.remainder crc8Generator r.toBitVec (byteBits byte) := by
  have hmap : crc8Byte r byte =
      ((byteBits byte).map (fun b => if b then 1 else 0)).foldl crc8Bit r := by
    rw [← shifted_bits, List.foldl_map]
    rfl
  rw [hmap, List.foldl_map]
  clear hmap
  generalize byteBits byte = bits
  induction bits generalizing r with
  | nil => rfl
  | cons b bits ih =>
    rw [List.foldl_cons, ih, crc8Bit_toBitVec]
    rfl

theorem foldl_crc8Byte_toBitVec (r : UInt8) (bytes : List UInt8) :
    (bytes.foldl crc8Byte r).toBitVec =
      Crc.remainder crc8Generator r.toBitVec (bufferBits bytes) := by
  induction bytes generalizing r with
  | nil => rfl
  | cons byte bytes ih =>
    rw [List.foldl_cons, ih, crc8Byte_toBitVec, ← Crc.remainder_append]
    rfl

theorem crc8Byte_zero (byte : UInt8) : crc8Byte 0 byte = byte := by
  have h : ∀ n : Fin 256, crc8Byte 0 (UInt8.ofFin n) = UInt8.ofFin n := by decide +kernel
  exact h byte.toFin

/-- `compute_crc8` is the remainder of the buffer's bit stream. The source loads the first byte into
the register whole, which is what reading in its eight bits comes to. -/
theorem computeCrc8_toBitVec (bytes : List UInt8) :
    (computeCrc8 bytes).toBitVec = Crc.remainder crc8Generator 0 (bufferBits bytes) := by
  cases bytes with
  | nil => rfl
  | cons byte bytes =>
    calc (computeCrc8 (byte :: bytes)).toBitVec
        = (bytes.foldl crc8Byte (crc8Byte 0 byte)).toBitVec := by rw [crc8Byte_zero]; rfl
      _ = ((byte :: bytes).foldl crc8Byte 0).toBitVec := rfl
      _ = _ := foldl_crc8Byte_toBitVec 0 (byte :: bytes)

theorem frameValid_iff (frame : Frame) :
    frameValid frame = true ↔
      Crc.remainder crc8Generator 0 (bufferBits (convertFrameToChar frame).toList) = 0 := by
  rw [frameValid, beq_iff_eq, ← UInt8.toBitVec_inj, computeCrc8_toBitVec]
  rfl

/-! ## Setting the checksum -/

/-- A byte that comes in last is added to what a zero byte leaves. -/
theorem crc8Byte_eq_xor (r byte : UInt8) : crc8Byte r byte = crc8Byte r 0 ^^^ byte := by
  apply UInt8.toBitVec_inj.mp
  have hbits : byteBits byte = (byteBits 0).zipWith xor (byteBits byte) := by
    rw [← byteBits_xor, UInt8.zero_xor]
  have hlin := Crc.remainder_zipWith_xor crc8Generator r.toBitVec 0 (byteBits 0) (byteBits byte)
    (by rw [length_byteBits, length_byteBits])
  have hzero := crc8Byte_toBitVec 0 byte
  rw [crc8Byte_zero] at hzero
  rw [← hbits, show r.toBitVec ^^^ 0 = r.toBitVec from BitVec.xor_zero] at hlin
  rw [crc8Byte_toBitVec, hlin, UInt8.toBitVec_xor, crc8Byte_toBitVec r 0, hzero]
  rfl

/-- **The checksum accepts what it wrote.** -/
theorem frameValid_setChecksum (frame : Frame) : frameValid (setChecksum frame) = true := by
  -- only the last byte of the image depends on the checksum
  obtain ⟨b, bytes, himage⟩ : ∃ b bytes, ∀ c : UInt8,
      (convertFrameToChar { frame with checksum := c }).toList = b :: (bytes ++ [c]) := by
    refine ⟨UInt8.ofNat frame.remainingMsgBytes.toNat,
      UInt8.ofNat (frame.remainingMsgBytes.toNat / 256) :: frame.dstId :: frame.srcId ::
        frame.seqNum :: frame.isAck :: frame.length :: frame.data.toList, fun c => rfl⟩
  have hlast (c : UInt8) : computeCrc8 (b :: (bytes ++ [c])) =
      computeCrc8 (b :: (bytes ++ [0])) ^^^ c := by
    simp only [computeCrc8, List.foldl_append, List.foldl_cons, List.foldl_nil]
    exact crc8Byte_eq_xor _ c
  rw [frameValid, setChecksum, himage, himage, hlast, UInt8.xor_self]
  rfl

/-! ## Errors -/

/-- A frame on which the error pattern `error` was added. -/
def addError (error : List.Vector UInt8 maxFrameSize) (frame : Frame) : Frame :=
  convertCharToFrame (List.Vector.map₂ (· ^^^ ·) (convertFrameToChar frame) error)

/-- All set bits lie within `n` consecutive places. -/
def IsBurst (n : ℕ) (bits : List Bool) : Prop :=
  ∃ k, ∀ i, bits[i]? = some true → k ≤ i ∧ i < k + n

theorem toList_map₂ {α β γ : Type} {n : ℕ} (f : α → β → γ) (v : List.Vector α n)
    (v' : List.Vector β n) : (List.Vector.map₂ f v v').toList = v.toList.zipWith f v'.toList :=
  rfl

/-- An error has a remainder of its own exactly when the checksum detects it. -/
theorem frameValid_addError (error : List.Vector UInt8 maxFrameSize) {frame : Frame}
    (h : frameValid frame = true) :
    frameValid (addError error frame) = true ↔
      Crc.remainder crc8Generator 0 (bufferBits error.toList) = 0 := by
  rw [frameValid_iff] at h ⊢
  have hlin := Crc.remainder_zipWith_xor crc8Generator 0 0
    (bufferBits (convertFrameToChar frame).toList) (bufferBits error.toList)
    (by simp [length_bufferBits])
  rw [h, show (0 : BitVec 8) ^^^ 0 = 0 from rfl,
    show ∀ x : BitVec 8, 0 ^^^ x = x from fun _ => BitVec.zero_xor] at hlin
  rw [addError, convertFrameToChar_convertCharToFrame, toList_map₂,
    bufferBits_zipWith_xor _ _ (by simp), hlin]

theorem exists_burst {n : ℕ} {bits : List Bool} (h : IsBurst n bits) (hmem : true ∈ bits) :
    ∃ m burst l, bits = List.replicate m false ++ burst ++ List.replicate l false ∧
      burst.length ≤ n ∧ true ∈ burst := by
  obtain ⟨k, hk⟩ := h
  have hout (i : ℕ) (hi : i < bits.length) (hki : i < k ∨ k + n ≤ i) : bits[i] = false := by
    cases hb : bits[i] with
    | false => rfl
    | true =>
      have := hk i (by rw [List.getElem?_eq_getElem hi, hb])
      omega
  have hfirst : bits.take k = List.replicate (bits.take k).length false := by
    refine List.eq_replicate_iff.mpr ⟨rfl, fun b hb => ?_⟩
    obtain ⟨i, hi, rfl⟩ := List.mem_iff_getElem.mp hb
    rw [List.length_take] at hi
    rw [List.getElem_take]
    exact hout i (by omega) (by omega)
  have hlast : bits.drop (k + n) = List.replicate (bits.drop (k + n)).length false := by
    refine List.eq_replicate_iff.mpr ⟨rfl, fun b hb => ?_⟩
    obtain ⟨i, hi, rfl⟩ := List.mem_iff_getElem.mp hb
    rw [List.length_drop] at hi
    rw [List.getElem_drop]
    exact hout _ (by omega) (by omega)
  have hsplit : bits = bits.take k ++ (bits.drop k).take n ++ bits.drop (k + n) := by
    rw [List.append_assoc, ← List.drop_drop, List.take_append_drop, List.take_append_drop]
  rw [hfirst, hlast] at hsplit
  refine ⟨_, _, _, hsplit, by simp, ?_⟩
  rw [hsplit] at hmem
  simpa using hmem

/-- **Short bursts are detected.** -/
theorem frameValid_addError_of_isBurst {error : List.Vector UInt8 maxFrameSize} {frame : Frame}
    (h : frameValid frame = true) (hburst : IsBurst 8 (bufferBits error.toList))
    (hne : error ≠ List.Vector.replicate maxFrameSize 0) :
    frameValid (addError error frame) = false := by
  have hmem : true ∈ bufferBits error.toList := by
    by_contra hnot
    refine hne (Subtype.ext (List.eq_replicate_iff.mpr ⟨error.2, fun byte hbyte => ?_⟩))
    refine eq_zero_of_byteBits fun hb => hnot ?_
    exact List.mem_flatMap.mpr ⟨byte, hbyte, hb⟩
  obtain ⟨m, burst, l, hbits, hlen, hburst⟩ := exists_burst hburst hmem
  rw [← Bool.not_eq_true, frameValid_addError error h, hbits]
  exact Crc.remainder_burst_ne_zero crc8Generator (by decide) m l burst hlen hburst

/-- **Errors of odd weight are detected.** -/
theorem frameValid_addError_of_odd {error : List.Vector UInt8 maxFrameSize} {frame : Frame}
    (h : frameValid frame = true) (hodd : Odd ((bufferBits error.toList).count true)) :
    frameValid (addError error frame) = false := by
  rw [← Bool.not_eq_true, frameValid_addError error h]
  exact Crc.remainder_odd_ne_zero crc8Generator (by decide) _ hodd

/-! ## The channel -/

/-- The error pattern with all bits of byte `index` set. -/
def byteError (index : ℕ) : List.Vector UInt8 maxFrameSize :=
  ⟨(List.replicate maxFrameSize 0).set index 255, by simp⟩

theorem complementByte_eq_addError (index : ℕ) (frame : Frame) :
    complementByte index frame = addError (byteError index) frame := by
  have hnot (x : UInt8) : ~~~x = x ^^^ 255 := by
    have h : ∀ n : Fin 256, ~~~(UInt8.ofFin n) = UInt8.ofFin n ^^^ 255 := by decide +kernel
    exact h x.toFin
  rw [complementByte, addError]
  congr 1
  apply Subtype.ext
  change (convertFrameToChar frame).toList.set index _ =
    (convertFrameToChar frame).toList.zipWith (· ^^^ ·)
      ((List.replicate maxFrameSize (0 : UInt8)).set index 255)
  refine List.ext_getElem (by simp) fun i h _ => ?_
  have hi : i < (convertFrameToChar frame).toList.length := by rwa [List.length_set] at h
  rw [List.getElem_zipWith, List.getElem_set, List.getElem_set]
  split
  · subst index
    rw [hnot, List.getD_eq_getElem?_getD, List.getElem?_eq_getElem hi, Option.getD_some]
  · simp

theorem bufferBits_byteError {index : ℕ} (hi : index < maxFrameSize) :
    bufferBits (byteError index).toList =
      List.replicate (8 * index) false ++ List.replicate 8 true ++
        List.replicate (8 * (maxFrameSize - (index + 1))) false := by
  change bufferBits ((List.replicate maxFrameSize (0 : UInt8)).set index 255) = _
  rw [List.set_eq_take_append_cons_drop, if_pos (by simpa using hi), List.take_replicate,
    List.drop_replicate, bufferBits, List.flatMap_append, List.flatMap_cons, ← bufferBits,
    ← bufferBits, bufferBits_replicate_zero, bufferBits_replicate_zero, Nat.min_eq_left hi.le,
    List.append_assoc]
  rfl

/-- **A frame that `send_frame` damages is never valid.** -/
theorem frameValid_complementByte {index : ℕ} (hi : index < maxFrameSize) {frame : Frame}
    (h : frameValid frame = true) : frameValid (complementByte index frame) = false := by
  rw [← Bool.not_eq_true, complementByte_eq_addError, frameValid_addError _ h,
    bufferBits_byteError hi]
  exact Crc.remainder_burst_ne_zero crc8Generator (by decide) _ _ _ (by simp) (by simp)

/-- **The frame checksum.** After `set_checksum` a frame is valid, and it is no longer so once an
error is added to it that is not zero and lies within 8 consecutive bits, or has odd weight, or is
the complement of one byte. -/
theorem setChecksum_detects (frame : Frame) :
    frameValid (setChecksum frame) = true ∧
    (∀ error : List.Vector UInt8 maxFrameSize, error ≠ List.Vector.replicate maxFrameSize 0 →
      IsBurst 8 (bufferBits error.toList) →
      frameValid (addError error (setChecksum frame)) = false) ∧
    (∀ error : List.Vector UInt8 maxFrameSize, Odd ((bufferBits error.toList).count true) →
      frameValid (addError error (setChecksum frame)) = false) ∧
    ∀ index < maxFrameSize, frameValid (complementByte index (setChecksum frame)) = false := by
  have h := frameValid_setChecksum frame
  exact ⟨h, fun error hne hburst => frameValid_addError_of_isBurst h hburst hne,
    fun error hodd => frameValid_addError_of_odd h hodd,
    fun index hi => frameValid_complementByte hi h⟩

end NetworkSim.Tcp
