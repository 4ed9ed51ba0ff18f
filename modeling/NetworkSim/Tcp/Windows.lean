import NetworkSim.Foundations.Ring
import NetworkSim.Foundations.SerialNumber
import NetworkSim.Tcp.Receiver

/-!
# Sequence numbers and windows

The operations of `util.c` seen from outside. `seq_num_diff` is the difference of serial numbers
modulo 256 (`seqNumDiff_ofNat`). The send and the receive windows of a host are rings in one array
each, and the functions on them are read as operations on the list of a window's items: `sendWin`,
the slots in use of the window for a receiver, and `recvWin`, all places of the window for a sender.
The windows must be no longer than 255, since their starts and lengths are kept in a byte.
-/

namespace NetworkSim.Tcp

/-! ## Sequence numbers -/

theorem seqNumDiff_eq_diff (x1 x2 : UInt8) :
    seqNumDiff x1 x2 = Serial.diff 128 x1.toNat x2.toNat := rfl

theorem toNat_ofNat (n : ℕ) : (UInt8.ofNat n).toNat = n % (2 * 128) := UInt8.toNat_ofNat'

/-- Numbers that are less than 128 apart are compared correctly. -/
theorem seqNumDiff_ofNat {a b : ℕ} (h1 : b < a + 128) (h2 : a < b + 128) :
    seqNumDiff (UInt8.ofNat a) (UInt8.ofNat b) = (b : ℤ) - a := by
  rw [seqNumDiff_eq_diff, toNat_ofNat, toNat_ofNat]
  refine Serial.diff_mod_of_lt ?_
  rw [abs_lt]
  omega

/-- Numbers that are 128 apart are compared correctly up to the sign. -/
theorem seqNumDiff_ofNat_of_eq {a b : ℕ} (h : b = a + 128) :
    seqNumDiff (UInt8.ofNat a) (UInt8.ofNat b) = 128 ∨
      seqNumDiff (UInt8.ofNat a) (UInt8.ofNat b) = -128 := by
  rw [seqNumDiff_eq_diff, toNat_ofNat, toNat_ofNat]
  exact Serial.diff_mod_of_eq (by omega) h

/-- Whatever the numbers, a positive difference leads from the first to the second. -/
theorem add_seqNumDiff {x1 x2 : UInt8} (h : 0 ≤ seqNumDiff x1 x2) :
    x1 + UInt8.ofNat (seqNumDiff x1 x2).toNat = x2 := by
  obtain ⟨k, hk⟩ := Int.modEq_iff_dvd.mp (Serial.diff_modEq 128 x1.toNat x2.toNat)
  rw [← seqNumDiff_eq_diff] at hk
  apply UInt8.toNat_inj.mp
  rw [UInt8.toNat_add, toNat_ofNat]
  have := x1.toNat_lt
  have := x2.toNat_lt
  omega

theorem seqNumDiff_self (x : UInt8) : seqNumDiff x x = 0 := by simp [seqNumDiff]

theorem ofNat_inj_of_lt {a b : ℕ} (h1 : b < a + 256) (h2 : a < b + 256)
    (h : UInt8.ofNat a = UInt8.ofNat b) : a = b := by
  have := congrArg UInt8.toNat h
  rw [toNat_ofNat, toNat_ofNat] at this
  omega

theorem ofNat_succ (n : ℕ) : UInt8.ofNat (n + 1) = UInt8.ofNat n + 1 := UInt8.ofNat_add n 1

/-! ## Time values -/

theorem timevalUsecdiff_add (t1 t2 t3 : TimeVal) :
    timevalUsecdiff t1 t2 + timevalUsecdiff t2 t3 = timevalUsecdiff t1 t3 := by
  unfold timevalUsecdiff
  omega

theorem timevalUsecdiff_usecplus (t1 t2 : TimeVal) (usec : ℤ) :
    timevalUsecdiff t1 (timevalUsecplus t2 usec) = timevalUsecdiff t1 t2 + usec := by
  simp only [timevalUsecdiff, timevalUsecplus]
  split_ifs <;> dsimp only <;> omega

/-- The later of two times is not before the first. -/
theorem timevalUsecdiff_afterLatestTimeout (currTimeval latestTimeout : TimeVal) :
    0 ≤ timevalUsecdiff currTimeval (afterLatestTimeout currTimeval latestTimeout) := by
  unfold afterLatestTimeout
  split
  · omega
  · simp [timevalUsecdiff]

variable {D : Type} (cfg : SysConfig D)

/-! ## The send windows -/

/-- The slots in use of the send window for receiver `id`. -/
def sendWin (id : ℕ) (host : Host D) : List SendWindowSlot :=
  Ring.contents cfg.windowSize host.sendWindow id (host.sendWindowStart id).toNat
    (cqGetLengthSend id host)

/-- The send windows are no longer than `window_size`. -/
def SendWinBound (host : Host D) : Prop := ∀ id, cqGetLengthSend id host ≤ cfg.windowSize

@[simp] theorem length_sendWin (id : ℕ) (host : Host D) :
    (sendWin cfg id host).length = cqGetLengthSend id host := Ring.length_contents ..

variable {cfg}

theorem getElem?_sendWin {id i : ℕ} {host : Host D} (h : i < cqGetLengthSend id host) :
    (sendWin cfg id host)[i]? = some (cqGetItemSend cfg id i host) := by
  rw [sendWin, Ring.getElem?_contents, if_pos h]
  rfl

theorem toNat_start (hW : cfg.windowSize ≤ 255) (n : ℕ) :
    (UInt8.ofNat (n % cfg.windowSize)).toNat = n % cfg.windowSize := by
  have := Nat.mod_lt n cfg.windowSize_pos
  rw [toNat_ofNat, Nat.mod_eq_of_lt (by omega)]

theorem cqNdequeueSend_eq (id n : ℕ) (host : Host D) :
    cqNdequeueSend cfg id n host =
      { host with
        sendWindow := Ring.clear cfg.windowSize host.sendWindow id
          (host.sendWindowStart id).toNat (min n (cqGetLengthSend id host)) .empty
        sendWindowLength := Function.update host.sendWindowLength id
          (host.sendWindowLength id - UInt8.ofNat (min n (cqGetLengthSend id host)))
        sendWindowStart := Function.update host.sendWindowStart id (UInt8.ofNat
          (((host.sendWindowStart id).toNat + min n (cqGetLengthSend id host)) %
            cfg.windowSize)) } := by
  rw [cqNdequeueSend, ← Nat.min_def]
  rfl

theorem cqGetLengthSend_cqNdequeueSend (id n : ℕ) (host : Host D) (id' : ℕ) :
    cqGetLengthSend id' (cqNdequeueSend cfg id n host) =
      if id' = id then cqGetLengthSend id host - n else cqGetLengthSend id' host := by
  rw [cqNdequeueSend_eq]
  by_cases hid : id' = id
  · have hlt := (host.sendWindowLength id).toNat_lt
    have hle : min n (cqGetLengthSend id host) ≤ (host.sendWindowLength id).toNat :=
      Nat.min_le_right ..
    subst hid
    simp only [if_true, cqGetLengthSend, Function.update_self] at hle ⊢
    rw [UInt8.toNat_sub_of_le _ _ (by rw [UInt8.le_iff_toNat_le, toNat_ofNat]; omega), toNat_ofNat]
    omega
  · simp only [if_neg hid, cqGetLengthSend, Function.update_of_ne hid]

theorem sendWin_cqNdequeueSend (hW : cfg.windowSize ≤ 255) {host : Host D} {id : ℕ}
    (hle : cqGetLengthSend id host ≤ cfg.windowSize) (n : ℕ) (id' : ℕ) :
    sendWin cfg id' (cqNdequeueSend cfg id n host) =
      if id' = id then (sendWin cfg id host).drop n else sendWin cfg id' host := by
  rw [sendWin, cqGetLengthSend_cqNdequeueSend, cqNdequeueSend_eq]
  by_cases hid : id' = id
  · subst hid
    simp only [if_true, Function.update_self]
    generalize hm : min n (cqGetLengthSend id' host) = m
    have hmle : m ≤ cqGetLengthSend id' host := by omega
    rw [toNat_start hW, Ring.contents_advance,
      show m + (cqGetLengthSend id' host - n) = cqGetLengthSend id' host by omega,
      Ring.contents_clear _ hmle hle, List.drop_left' (by simp)]
    change (sendWin cfg id' host).drop m = (sendWin cfg id' host).drop n
    rcases Nat.le_total n (cqGetLengthSend id' host) with h | h
    · rw [show m = n by omega]
    · rw [List.drop_eq_nil_of_le (by simp; omega), List.drop_eq_nil_of_le (by simp; omega)]
  · simp only [if_neg hid, Function.update_of_ne hid]
    exact Ring.contents_clear_of_ne cfg.windowSize_pos _ hid ..

theorem SendWinBound.cqNdequeueSend {host : Host D} (hb : SendWinBound cfg host) (id n : ℕ) :
    SendWinBound cfg (cqNdequeueSend cfg id n host) := by
  intro id'
  rw [cqGetLengthSend_cqNdequeueSend]
  have := hb id
  split <;> [omega; exact hb id']

theorem cqGetLengthSend_cqAppendItemSend (hW : cfg.windowSize ≤ 255) {id : ℕ} {host : Host D}
    (hlt : cqGetLengthSend id host < cfg.windowSize) (frame : Frame) (timeout : TimeVal)
    (id' : ℕ) :
    cqGetLengthSend id' (cqAppendItemSend cfg id frame timeout host) =
      if id' = id then cqGetLengthSend id host + 1 else cqGetLengthSend id' host := by
  rw [cqAppendItemSend, if_neg hlt.ne]
  simp only [cqGetLengthSend, Function.update_apply] at hlt ⊢
  split
  · rw [UInt8.toNat_add, UInt8.toNat_one]
    omega
  · rfl

theorem sendWin_cqAppendItemSend (hW : cfg.windowSize ≤ 255) {id : ℕ} {host : Host D}
    (hlt : cqGetLengthSend id host < cfg.windowSize) (frame : Frame) (timeout : TimeVal)
    (id' : ℕ) :
    sendWin cfg id' (cqAppendItemSend cfg id frame timeout host) =
      if id' = id then sendWin cfg id host ++ [⟨some frame, some timeout⟩]
      else sendWin cfg id' host := by
  rw [sendWin, cqGetLengthSend_cqAppendItemSend hW hlt]
  by_cases hid : id' = id
  · subst hid
    simp only [if_true, cqAppendItemSend, if_neg hlt.ne]
    exact Ring.contents_append host.sendWindow hlt _
  · simp only [if_neg hid, cqAppendItemSend, if_neg hlt.ne]
    exact Ring.contents_update_of_ne cfg.windowSize_pos _ hid ..

theorem SendWinBound.cqAppendItemSend {host : Host D} (hb : SendWinBound cfg host) (id : ℕ)
    (frame : Frame) (timeout : TimeVal) :
    SendWinBound cfg (cqAppendItemSend cfg id frame timeout host) := by
  rw [Tcp.cqAppendItemSend]
  split
  · exact hb
  · rename_i hfull
    intro id'
    have hlen := hb id
    have hother := hb id'
    simp only [cqGetLengthSend, Function.update_apply] at hfull hlen hother ⊢
    split
    · rw [UInt8.toNat_add, UInt8.toNat_one]
      omega
    · exact hother

theorem sendWin_setTimeout {host : Host D} (hb : SendWinBound cfg host) {id i : ℕ}
    (hi : i < cqGetLengthSend id host) (timeout : Option TimeVal) (id' : ℕ) :
    sendWin cfg id' (setTimeout cfg id i timeout host) =
      if id' = id then
        (sendWin cfg id host).set i { cqGetItemSend cfg id i host with timeout := timeout }
      else sendWin cfg id' host := by
  by_cases hid : id' = id
  · subst hid
    rw [if_pos rfl]
    exact Ring.contents_update host.sendWindow (hb id') hi _
  · rw [if_neg hid]
    exact Ring.contents_update_of_ne cfg.windowSize_pos _ hid ..

/-! ## The receive windows -/

variable (cfg) in
/-- All places of the receive window for sender `id`. -/
def recvWin (id : ℕ) (host : Host D) : List (Option Frame) :=
  Ring.contents cfg.windowSize host.recvWindow id (host.recvWindowStart id).toNat cfg.windowSize

@[simp] theorem length_recvWin (id : ℕ) (host : Host D) :
    (recvWin cfg id host).length = cfg.windowSize := Ring.length_contents ..

theorem getElem?_recvWin {id i : ℕ} {host : Host D} (h : i < cfg.windowSize) :
    (recvWin cfg id host)[i]? = some (cqGetItemRecv cfg id i host) := by
  rw [recvWin, Ring.getElem?_contents, if_pos h]
  rfl

theorem recvWin_cqSetItemRecv (id : ℕ) {i : ℕ} (hi : i < cfg.windowSize) (frame : Frame)
    (host : Host D) (id' : ℕ) :
    recvWin cfg id' (cqSetItemRecv cfg id i frame host) =
      if id' = id then (recvWin cfg id host).set i (some frame) else recvWin cfg id' host := by
  by_cases hid : id' = id
  · subst hid
    rw [if_pos rfl]
    exact Ring.contents_update host.recvWindow le_rfl hi _
  · rw [if_neg hid]
    exact Ring.contents_update_of_ne cfg.windowSize_pos _ hid ..

theorem cqNdequeueRecv_one (id : ℕ) (host : Host D) :
    cqNdequeueRecv cfg id 1 host =
      { host with
        recvWindow := Ring.clear cfg.windowSize host.recvWindow id
          (host.recvWindowStart id).toNat 1 none
        recvWindowStart := Function.update host.recvWindowStart id
          (UInt8.ofNat (((host.recvWindowStart id).toNat + 1) % cfg.windowSize)) } := by
  rw [cqNdequeueRecv, if_pos (show 1 ≤ cfg.windowSize from cfg.windowSize_pos)]
  rfl

/-- Dequeuing the first place makes it the last one, and empties it. -/
theorem recvWin_cqNdequeueRecv_one (hW : cfg.windowSize ≤ 255) (id : ℕ) (host : Host D) (id' : ℕ) :
    recvWin cfg id' (cqNdequeueRecv cfg id 1 host) =
      if id' = id then (recvWin cfg id host).tail ++ [none] else recvWin cfg id' host := by
  have hpos := cfg.windowSize_pos
  rw [recvWin, cqNdequeueRecv_one]
  by_cases hid : id' = id
  · subst hid
    simp only [if_true, Function.update_self]
    rw [toNat_start hW, Ring.contents_advance, add_comm, Ring.contents_succ, ← List.drop_one,
      List.drop_append_of_le_length (by simp; omega),
      Ring.contents_clear _ hpos le_rfl, List.drop_left' (by simp)]
    -- the place behind the last one is the first one
    have hlast : Ring.slot cfg.windowSize id' (host.recvWindowStart id').toNat cfg.windowSize =
        Ring.slot cfg.windowSize id' (host.recvWindowStart id').toNat 0 := by
      simp [Ring.slot]
    rw [hlast, Ring.clear_succ, Function.update_self]
    rfl
  · simp only [if_neg hid, Function.update_of_ne hid]
    exact Ring.contents_clear_of_ne hpos host.recvWindow hid ..

end NetworkSim.Tcp
