import NetworkSim.Tcp.Retransmissions

/-!
# Cumulative acknowledgements

A window of at most 128 frames with consecutive sequence numbers loses its frames up to the one that
an ACK names, and none when it names no frame of the window (`cumulative_ack_iff`): the half-range
comparison that drops old ACKs agrees with the search of the window, wherever the numbers and the
ring wrap around (`ackCount_consecutive`). Only when the handler reads an unassigned `slot` is there
nothing to say (`ReadsUnassignedSlot`). So a call of `handle_incoming_acks` takes out of every
window what the ACKs of its receiver cover, one after the other (`handleIncomingAcks_windows`).
-/

namespace NetworkSim.Tcp

variable {D : Type} {cfg : SysConfig D}

/-! ## Windows with consecutive numbers -/

/-- The frames of a window are numbered from `b` on. -/
def Consecutive (b : UInt8) (window : List Frame) : Prop :=
  ∀ k frame, window[k]? = some frame → frame.seqNum = b + UInt8.ofNat k

/-- How many of `len` frames numbered from `b` on the cumulative ACK `a` covers. -/
def covered (b a : UInt8) (len : ℕ) : ℕ :=
  if (a - b).toNat < len then (a - b).toNat + 1 else 0

/-- In the lower half of the range, the difference of sequence numbers is the distance. -/
theorem seqNumDiff_of_le {x1 x2 : UInt8} (h : (x2 - x1).toNat ≤ 127) :
    seqNumDiff x1 x2 = (x2 - x1).toNat := by
  have h1 := x1.toNat_lt
  have h2 := x2.toNat_lt
  rw [UInt8.toNat_sub] at h ⊢
  simp only [seqNumDiff, maxSeqNum]
  split_ifs <;> omega

theorem add_sub_cancel_toNat (b a : UInt8) : b + UInt8.ofNat (a - b).toNat = a := by
  rw [UInt8.ofNat_toNat, UInt8.add_comm, UInt8.sub_add_cancel]

/-- **The half-range comparison agrees with the search**: a window of at most half the range loses
the frames that the ACK covers. -/
theorem ackCount_consecutive {b : UInt8} {window : List Frame} (h : Consecutive b window)
    (hlen : window.length ≤ 128) (a : UInt8) :
    SendView.ackCount window a = covered b a window.length := by
  have hnum {k : ℕ} (hk : k < window.length) : window[k].seqNum = b + UInt8.ofNat k :=
    h k _ (List.getElem?_eq_getElem hk)
  -- a frame that carries the number `a` is at the distance of `a` from `b`
  have hdist {k : ℕ} (hk : k < window.length) (ha : window[k].seqNum = a) :
      k = (a - b).toNat := by
    rw [hnum hk] at ha
    rw [← ha, UInt8.add_comm, UInt8.add_sub_cancel, toNat_ofNat]
    omega
  rw [covered, SendView.ackCount]
  by_cases hlt : (a - b).toNat < window.length
  · have hfirst : window.head? = some window[0] := by
      rw [List.head?_eq_getElem?, List.getElem?_eq_getElem (by omega)]
    have hnew : ¬ seqNumDiff window[0].seqNum a < 0 := by
      have hzero : window[0].seqNum = b := (hnum (by omega)).trans (UInt8.add_zero b)
      rw [hzero, seqNumDiff_of_le (by omega)]
      omega
    have hfind : window.findIdx? (fun frame => decide (frame.seqNum = a)) =
        some (a - b).toNat := by
      rw [List.findIdx?_eq_some_iff_getElem]
      refine ⟨hlt, ?_, fun j hj => ?_⟩
      · rw [hnum hlt, add_sub_cancel_toNat]
        exact decide_eq_true rfl
      · intro heq
        have := hdist (hj.trans hlt) (of_decide_eq_true heq)
        omega
    rw [hfirst, Option.any_some, if_neg (by simpa using hnew), hfind, if_pos hlt]
    rfl
  · have hfind : window.findIdx? (fun frame => decide (frame.seqNum = a)) = none := by
      rw [List.findIdx?_eq_none_iff]
      intro frame hmem
      obtain ⟨k, hk, rfl⟩ := List.getElem_of_mem hmem
      refine decide_eq_false fun ha => hlt ?_
      rw [← hdist hk ha]
      exact hk
    rw [hfind, if_neg hlt]
    split <;> rfl

/-! ## The handler -/

/-- `retransmit_frame` has no fault when the window is not empty. -/
theorem exists_retransmitFrame {dstId : UInt8} {host : Host D} {window : List Frame}
    (hwin : winFrames cfg dstId.toNat host = window.map some) (hne : window ≠ [])
    (seqNum : UInt8) : ∃ host', retransmitFrame cfg dstId seqNum host = .ok host' := by
  have hfind := findSeqNum_of_winFrames hwin seqNum
  rw [← findSeqNum_clock cfg dstId.toNat seqNum host _ (host.ticks + 1) (timevalUsecplus
    (afterLatestTimeout (host.env.clock host.ticks) host.latestTimeout) 10000)] at hfind
  have hpos : cqGetLengthSend dstId.toNat host ≠ 0 := by
    rw [length_of_winFrames hwin]
    exact fun h => hne (List.eq_nil_of_length_eq_zero h)
  simp only [retransmitFrame, gettimeofday]
  split
  · rename_i herror
    exact absurd (hfind.symm.trans herror) (by simp)
  · exact ⟨_, rfl⟩
  · exact ⟨_, if_neg hpos⟩

variable [CDouble D]

/-- Handling the ACK `frame` retransmits although there is nothing to retransmit: the window is
empty, and in congestion avoidance the count of duplicates is 3 after the third duplicate of the
latest ACK, or still 3 after an ACK that is older. -/
def ReadsUnassignedSlot (frame : Frame) (host : Host D) : Prop :=
  EmptyFastRetransmit frame host ∨
    cqGetLengthSend frame.srcId.toNat host = 0 ∧ (host.cc frame.srcId.toNat).state = .aimd ∧
      (host.cc frame.srcId.toNat).dupAcks = 3 ∧
      seqNumDiff (host.dupAcksSeqNum frame.srcId.toNat) frame.seqNum ≤ 0 ∧
      host.dupAcksSeqNum frame.srcId.toNat ≠ frame.seqNum

instance (frame : Frame) (host : Host D) : Decidable (ReadsUnassignedSlot frame host) :=
  inferInstanceAs (Decidable (_ ∨ _))

omit [CDouble D] in
theorem readsUnassignedSlot_iff {frame : Frame} {host : Host D} :
    ReadsUnassignedSlot frame host ↔
      cqGetLengthSend frame.srcId.toNat host = 0 ∧ (host.cc frame.srcId.toNat).state = .aimd ∧
        countDuplicate (host.dupAcksSeqNum frame.srcId.toNat) frame.seqNum
          (host.cc frame.srcId.toNat).dupAcks = 3 := by
  have hsucc (x : UInt8) : x + 1 = 3 ↔ x = 2 := by grind
  rw [ReadsUnassignedSlot, EmptyFastRetransmit, countDuplicate]
  split_ifs with hnewer hsame
  · have hne := ne_of_newer hnewer
    have hnot : ¬ seqNumDiff (host.dupAcksSeqNum frame.srcId.toNat) frame.seqNum ≤ 0 :=
      not_le.mpr hnewer
    have hthree : (0 : UInt8) ≠ 3 := by decide
    simp only [hne, hnot, hthree, and_false, false_and, or_self]
  · simp only [hsame, hsucc, ne_eq, not_true, and_false, and_true, or_false]
  · simp only [hsame, not_lt.mp hnewer, ne_eq, not_false_eq_true, and_false, and_true, false_or]

/-- The congestion control has a fault only when it retransmits and the window is empty. -/
theorem exists_updateCc {srcId : UInt8} (seqNum : UInt8) {host : Host D} {window : List Frame}
    (hwin : winFrames cfg srcId.toNat host = window.map some)
    (h : (host.cc srcId.toNat).state = .aimd → (host.cc srcId.toNat).dupAcks = 3 →
      window ≠ []) : ∃ host', updateCc cfg srcId seqNum host = .ok host' := by
  rw [updateCc_eq]
  split
  · rename_i hthird
    refine exists_retransmitFrame ?_ (h hthird.1 hthird.2) _
    exact hwin
  · exact ⟨_, rfl⟩

/-- **The handler has a fault** exactly when it reads the unassigned `slot`. -/
theorem handleAck_ok_iff {frame : Frame} {host : Host D} {window : List Frame}
    (hwin : winFrames cfg frame.srcId.toNat host = window.map some) :
    (∃ host', handleAck cfg frame host = .ok host') ↔ ¬ ReadsUnassignedSlot frame host := by
  have hstate : ((updateDupAcks frame.srcId frame.seqNum host).cc frame.srcId.toNat).state =
      (host.cc frame.srcId.toNat).state := by rw [updateDupAcks_cc]; rfl
  have hdup : ((updateDupAcks frame.srcId frame.seqNum host).cc frame.srcId.toNat).dupAcks =
      countDuplicate (host.dupAcksSeqNum frame.srcId.toNat) frame.seqNum
        (host.cc frame.srcId.toNat).dupAcks := by rw [updateDupAcks_cc]; rfl
  have hresends : Resends cfg [] host (updateDupAcks frame.srcId frame.seqNum host) :=
    updateDupAcks_resends frame.srcId frame.seqNum host
  have hwin₁ := (hresends.winFrames_eq frame.srcId.toNat).trans hwin
  have hlen : cqGetLengthSend frame.srcId.toNat (updateDupAcks frame.srcId frame.seqNum host) =
      cqGetLengthSend frame.srcId.toNat host := by
    rw [length_of_winFrames hwin₁, length_of_winFrames hwin]
  rw [readsUnassignedSlot_iff, ← hstate, ← hdup, ← hlen]
  constructor
  · rintro ⟨host', h⟩ ⟨hempty, haimd, hthree⟩
    rw [handleAck, updateCc_emptyWindow _ hempty haimd hthree] at h
    simp at h
  · intro hnot
    have hne (haimd : ((updateDupAcks frame.srcId frame.seqNum host).cc
        frame.srcId.toNat).state = .aimd)
        (hthree : ((updateDupAcks frame.srcId frame.seqNum host).cc
          frame.srcId.toNat).dupAcks = 3) : window ≠ [] := by
      rintro rfl
      exact hnot ⟨length_of_winFrames hwin₁, haimd, hthree⟩
    obtain ⟨host₁, hcc⟩ := exists_updateCc frame.seqNum hwin₁ hne
    obtain ⟨sent, hsent⟩ := updateCc_resends hcc
    rw [handleAck, hcc]
    exact ⟨_, dequeueAcked_eq ((hsent.winFrames_eq _).trans hwin₁) frame.seqNum⟩

/-- What the handler takes out of the windows. -/
theorem handleAck_windows (hW : cfg.windowSize ≤ 255) {frame : Frame} {host host' : Host D}
    {window : List Frame} (hwin : winFrames cfg frame.srcId.toNat host = window.map some)
    (hlen : window.length ≤ cfg.windowSize) (h : handleAck cfg frame host = .ok host') (id : ℕ) :
    winFrames cfg id host' =
      if id = frame.srcId.toNat then
        (window.drop (SendView.ackCount window frame.seqNum)).map some
      else winFrames cfg id host := by
  rw [handleAck] at h
  split at h
  · simp at h
  · rename_i host₁ hcc
    obtain ⟨sent, hsent⟩ := updateCc_resends hcc
    have hsame (id : ℕ) : winFrames cfg id host₁ = winFrames cfg id host :=
      (hsent.winFrames_eq id).trans ((updateDupAcks_resends _ _ host).winFrames_eq id)
    have hwin₁ := (hsame frame.srcId.toNat).trans hwin
    obtain rfl := Except.ok.inj ((dequeueAcked_eq hwin₁ frame.seqNum).symm.trans h)
    have hle : cqGetLengthSend frame.srcId.toNat host₁ ≤ cfg.windowSize := by
      rw [length_of_winFrames hwin₁]
      exact hlen
    split
    · rename_i hzero
      rw [hzero, List.drop_zero, hsame]
      split
      · rename_i hid
        rw [hid, hwin]
      · rfl
    · rw [winFrames, sendWin_cqNdequeueSend hW hle]
      split
      · rw [List.map_drop, List.map_drop, ← hwin₁]
        rfl
      · exact hsame id

/-- **`handle_incoming_acks`** takes out of every window what the ACKs of its receiver cover, one
after the other. -/
theorem handleIncomingAcksLoop_windows (hW : cfg.windowSize ≤ 255) {kept frames : List Frame}
    {host host' : Host D} {window : ℕ → List Frame}
    (hwin : ∀ id, winFrames cfg id host = (window id).map some)
    (hlen : ∀ id, (window id).length ≤ cfg.windowSize)
    (h : handleIncomingAcksLoop cfg kept frames host = .ok host') (id : ℕ) :
    winFrames cfg id host' =
      ((acksFrom id frames).foldl (fun window a => window.drop (SendView.ackCount window a))
        (window id)).map some := by
  induction frames generalizing kept host window with
  | nil =>
    obtain rfl := Except.ok.inj h
    exact hwin id
  | cons frame frames ih =>
    rw [handleIncomingAcksLoop] at h
    split at h
    · rename_i hinvalid
      rw [acksFrom_invalid hinvalid]
      exact ih hwin hlen h
    · rename_i hvalid
      split at h
      · rename_i hdata
        rw [acksFrom_data hdata]
        exact ih hwin hlen h
      · rename_i hack
        split at h
        · simp at h
        · rename_i host₁ hframe
          have hwin₁ := handleAck_windows hW (hwin frame.srcId.toNat) (hlen _) hframe
          have hstep (id : ℕ) : winFrames cfg id host₁ =
              (if id = frame.srcId.toNat then
                (window id).drop (SendView.ackCount (window id) frame.seqNum)
              else window id).map some := by
            rw [hwin₁]
            split
            · rename_i hid
              rw [hid]
            · exact hwin id
          have hshort (id : ℕ) : (if id = frame.srcId.toNat then
              (window id).drop (SendView.ackCount (window id) frame.seqNum)
              else window id).length ≤ cfg.windowSize := by
            have := hlen id
            split
            · rw [List.length_drop]
              omega
            · exact this
          rw [ih hstep hshort h]
          by_cases hid : id = frame.srcId.toNat
          · have hacks : acksFrom id (frame :: frames) = frame.seqNum :: acksFrom id frames := by
              simp [acksFrom, hvalid, hack, hid]
            rw [hacks, List.foldl_cons, if_pos hid]
          · have hacks : acksFrom id (frame :: frames) = acksFrom id frames := by
              simp [acksFrom, Ne.symm hid]
            rw [hacks, if_neg hid]

/-- The loop of `handle_incoming_acks` goes on with what the handler of an ACK leaves, -/
theorem handleIncomingAcksLoop_ack {frame : Frame} (hvalid : frameValid frame = true)
    (hack : frame.isAck ≠ 0) {host host' : Host D} (h : handleAck cfg frame host = .ok host')
    (kept frames : List Frame) :
    handleIncomingAcksLoop cfg kept (frame :: frames) host =
      handleIncomingAcksLoop cfg kept frames host' := by
  rw [handleIncomingAcksLoop, if_neg (by simp [hvalid]), if_neg hack, h]

/-- or stops with its fault. -/
theorem handleIncomingAcksLoop_fault {frame : Frame} (hvalid : frameValid frame = true)
    (hack : frame.isAck ≠ 0) {host : Host D} {e : Fault} (h : handleAck cfg frame host = .error e)
    (kept frames : List Frame) :
    handleIncomingAcksLoop cfg kept (frame :: frames) host = .error e := by
  rw [handleIncomingAcksLoop, if_neg (by simp [hvalid]), if_neg hack, h]

/-- **The law of cumulative ACKs.** When `handle_incoming_acks` comes to the ACK `frame`, the window
of its receiver loses the frames that it covers and the other windows lose none, unless the handler
reads the unassigned `slot`. -/
theorem cumulative_ack_iff (cfg : SysConfig D) (hW : cfg.windowSize ≤ 128) (host : Host D)
    (frame : Frame) (hvalid : frameValid frame = true) (hack : frame.isAck ≠ 0) (b : UInt8)
    (window : List Frame) (hwin : winFrames cfg frame.srcId.toNat host = window.map some)
    (hlen : window.length ≤ cfg.windowSize) (hb : Consecutive b window) :
    (∃ host',
      (∀ kept frames, handleIncomingAcksLoop cfg kept (frame :: frames) host =
        handleIncomingAcksLoop cfg kept frames host') ∧
      ∀ id, winFrames cfg id host' =
        if id = frame.srcId.toNat then
          (window.drop (covered b frame.seqNum window.length)).map some
        else winFrames cfg id host) ↔ ¬ ReadsUnassignedSlot frame host := by
  rw [← handleAck_ok_iff hwin]
  constructor
  · rintro ⟨host', hnext, -⟩
    cases hhandle : handleAck cfg frame host with
    | error e =>
      have hnil := (handleIncomingAcksLoop_fault hvalid hack hhandle [] []).symm.trans (hnext [] [])
      simp [handleIncomingAcksLoop] at hnil
    | ok host₁ => exact ⟨host₁, rfl⟩
  · rintro ⟨host', hhandle⟩
    refine ⟨host', handleIncomingAcksLoop_ack hvalid hack hhandle, fun id => ?_⟩
    rw [handleAck_windows (by omega) hwin hlen hhandle, ackCount_consecutive hb (by omega)]

theorem four_slots : 0 < 4 := by decide

/-- An ACK from host 1 to host 0. -/
def ackOf (seqNum : UInt8) : Frame :=
  setChecksum { Frame.zero with srcId := 1, seqNum := seqNum, isAck := 1 }

/-- A data frame from host 0 to host 1. -/
def dataOf (seqNum : UInt8) : Frame :=
  setChecksum { Frame.zero with dstId := 1, seqNum := seqNum }

/-- Host 0 with the frames 254, 255 and 0 for host 1 in a window of four slots; the window, the
numbers and the ring wrap around. -/
def wrappedSender : Host ℚ :=
  { initHost (lossyConfig 4 four_slots) 0 .still with
    sendWindow := fun j =>
      if j = 6 then ⟨some (dataOf 254), none⟩
      else if j = 7 then ⟨some (dataOf 255), none⟩
      else if j = 4 then ⟨some (dataOf 0), none⟩
      else .empty
    sendWindowStart := fun _ => 2
    sendWindowLength := fun id => if id = 1 then 3 else 0 }

theorem consecutive_wrapped : Consecutive 254 [dataOf 254, dataOf 255, dataOf 0] := by
  intro k frame hk
  rcases k with _ | _ | _ | k
  · obtain rfl := Option.some.inj hk
    rfl
  · obtain rfl := Option.some.inj hk
    rfl
  · obtain rfl := Option.some.inj hk
    rfl
  · simp at hk

theorem cumulative_ack_iff_wrapped :
    ∃ host',
      (∀ kept frames,
        handleIncomingAcksLoop (lossyConfig 4 four_slots) kept (ackOf 255 :: frames)
            wrappedSender =
          handleIncomingAcksLoop (lossyConfig 4 four_slots) kept frames host') ∧
      winFrames (lossyConfig 4 four_slots) 1 host' = [some (dataOf 0)] := by
  obtain ⟨host', hnext, hwin⟩ := (cumulative_ack_iff (lossyConfig 4 four_slots) (by decide)
    wrappedSender (ackOf 255) (frameValid_setChecksum _) (by decide) 254
    [dataOf 254, dataOf 255, dataOf 0] rfl (by decide) consecutive_wrapped).mpr (by decide)
  exact ⟨host', hnext, (hwin 1).trans rfl⟩

/-- Host 0 in congestion avoidance, with an empty window, after two duplicates of the ACK 6. -/
def idleSender : Host ℚ :=
  { initHost (lossyConfig 4 four_slots) 0 .still with
    cc := fun _ => ⟨4, 4, 2, .aimd⟩
    dupAcksSeqNum := fun _ => 6 }

/-- **An ACK for no frame** that is not just dropped. -/
theorem third_duplicate_not_dropped :
    winFrames (lossyConfig 4 four_slots) 1 idleSender = [] ∧
    ¬ ∃ host',
      (∀ kept frames,
        handleIncomingAcksLoop (lossyConfig 4 four_slots) kept (ackOf 6 :: frames) idleSender =
          handleIncomingAcksLoop (lossyConfig 4 four_slots) kept frames host') ∧
      ∀ id, winFrames (lossyConfig 4 four_slots) id host' =
        winFrames (lossyConfig 4 four_slots) id idleSender := by
  refine ⟨rfl, ?_⟩
  rintro ⟨host', hnext, -⟩
  have hfault : handleAck (lossyConfig 4 four_slots) (ackOf 6) idleSender =
      .error .uninitialisedSlot := handleAck_emptyWindow (by decide)
  have hvalid : frameValid (ackOf 6) = true := frameValid_setChecksum _
  have hack : (ackOf 6).isAck ≠ 0 := by decide
  have hnil := hnext [] []
  simp [handleIncomingAcksLoop, hvalid, hack, hfault] at hnil

end NetworkSim.Tcp
