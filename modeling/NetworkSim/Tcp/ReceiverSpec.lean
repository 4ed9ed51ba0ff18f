import NetworkSim.Foundations.SlidingWindow
import NetworkSim.Tcp.ChecksumSpec
import NetworkSim.Tcp.Main
import NetworkSim.Tcp.Windows

/-!
# What the receiver does

A host seen as the receiver of one sender is a `RecvView`: the frames appended to `recv_msg_head`,
the sequence number of the last one, and the receive window. A valid frame from that sender is an
`accept` on this view, and every other frame leaves it unchanged (`recvView_handleFrame`); what else
`handle_incoming_frames` does is to emit one ACK for each valid frame (`handleFrame_outgoing`). The
invariant of the view, `RecvView.Inv`, holds for whatever frames arrive.
-/

namespace NetworkSim.Tcp

open SlidingWindow (front shift)

/-! ## The view -/

/-- A host as the receiver of one sender. -/
structure RecvView where
  appended : List Frame
  lfr : UInt8
  win : List (Option Frame)

namespace RecvView

/-- The frames at the front of the window are appended. -/
def advance (v : RecvView) : RecvView where
  appended := v.appended ++ front v.win
  lfr := v.lfr + UInt8.ofNat (front v.win).length
  win := shift v.win

/-- A frame is put into the window. -/
def store (i : ℕ) (frame : Frame) (v : RecvView) : RecvView :=
  { v with win := v.win.set i (some frame) }

/-- A frame arrives: it is put into its place and the window advanced, unless it is for no place of
the window. -/
def accept (frame : Frame) (v : RecvView) : RecvView :=
  let diff := seqNumDiff v.lfr frame.seqNum
  if 0 < diff ∧ diff ≤ v.win.length then (v.store (diff - 1).toNat frame).advance else v

theorem advance_of_none {v : RecvView} {win : List (Option Frame)} (h : v.win = none :: win) :
    v.advance = v := by
  obtain ⟨appended, lfr, _⟩ := v
  subst h
  simp [advance, SlidingWindow.shift_none]

theorem advance_of_some {v : RecvView} {frame : Frame} {win : List (Option Frame)}
    (h : v.win = some frame :: win) :
    v.advance = advance ⟨v.appended ++ [frame], v.lfr + 1, win ++ [none]⟩ := by
  obtain ⟨appended, lfr, _⟩ := v
  subst h
  simp [advance, SlidingWindow.shift_some, SlidingWindow.front_append_none, ofNat_succ,
    UInt8.add_assoc, UInt8.add_comm]

end RecvView

variable {D : Type} {cfg : SysConfig D}

variable (cfg) in
/-- The view of `host` as the receiver of `srcId`. -/
def recvView (srcId : ℕ) (host : Host D) : RecvView :=
  ⟨host.log.appended srcId, host.recvLfr srcId, recvWin cfg srcId host⟩

/-! ## Advancing the window -/

variable (cfg) in
/-- What one round of the loop does with the next frame expected. -/
def advanceOnce (srcId : ℕ) (frame : Frame) (host : Host D) : Host D :=
  let host :=
    { host with
      recvMsgHead := Function.update host.recvMsgHead srcId (host.recvMsgHead srcId ++ [frame])
      log := { host.log with
        appended :=
          Function.update host.log.appended srcId (host.log.appended srcId ++ [frame]) } }
  let host := cqNdequeueRecv cfg srcId 1 host
  { host with recvLfr := Function.update host.recvLfr srcId (host.recvLfr srcId + 1) }

theorem advanceWindow_some {srcId : ℕ} {frame : Frame} {host : Host D}
    (h : cqGetItemRecv cfg srcId 0 host = some frame) (rounds : ℕ) (ackSeqNum : UInt8) :
    advanceWindow cfg srcId (rounds + 1) ackSeqNum host =
      advanceWindow cfg srcId rounds (ackSeqNum + 1) (advanceOnce cfg srcId frame host) := by
  rw [advanceWindow, h]
  rfl

theorem advanceWindow_none {srcId : ℕ} {host : Host D}
    (h : cqGetItemRecv cfg srcId 0 host = none) (rounds : ℕ) (ackSeqNum : UInt8) :
    advanceWindow cfg srcId rounds ackSeqNum host = (ackSeqNum, host) := by
  cases rounds with
  | zero => rfl
  | succ rounds => rw [advanceWindow, h]

variable (cfg) in
theorem recvWin_eq_cons (srcId : ℕ) (host : Host D) :
    recvWin cfg srcId host = cqGetItemRecv cfg srcId 0 host :: (recvWin cfg srcId host).tail := by
  have h : (recvWin cfg srcId host)[0]? = some (cqGetItemRecv cfg srcId 0 host) :=
    getElem?_recvWin cfg.windowSize_pos
  cases hw : recvWin cfg srcId host with
  | nil => rw [hw] at h; simp at h
  | cons x win =>
    rw [hw] at h
    rw [List.tail_cons, (by simpa using h : x = cqGetItemRecv cfg srcId 0 host)]

theorem recvView_advanceOnce (hW : cfg.windowSize ≤ 255) (srcId : ℕ) (frame : Frame)
    (host : Host D) (srcId' : ℕ) :
    recvView cfg srcId' (advanceOnce cfg srcId frame host) =
      if srcId' = srcId then
        ⟨host.log.appended srcId ++ [frame], host.recvLfr srcId + 1,
          (recvWin cfg srcId host).tail ++ [none]⟩
      else recvView cfg srcId' host := by
  have hwin : recvWin cfg srcId' (advanceOnce cfg srcId frame host) = _ :=
    recvWin_cqNdequeueRecv_one hW srcId
      { host with
        recvMsgHead := Function.update host.recvMsgHead srcId (host.recvMsgHead srcId ++ [frame])
        log := { host.log with
          appended :=
            Function.update host.log.appended srcId (host.log.appended srcId ++ [frame]) } } srcId'
  rw [recvView, hwin]
  by_cases hid : srcId' = srcId
  · subst hid
    simp only [if_true, advanceOnce, cqNdequeueRecv_one, Function.update_self]
    rfl
  · simp only [if_neg hid, advanceOnce, cqNdequeueRecv_one, Function.update_of_ne hid]
    rfl

/-- The loop moves the front of the window to `recv_msg_head`, given rounds enough. -/
theorem recvView_advanceWindow (hW : cfg.windowSize ≤ 255) (srcId rounds : ℕ) (ackSeqNum : UInt8)
    (host : Host D) (hr : (front (recvWin cfg srcId host)).length ≤ rounds) (srcId' : ℕ) :
    recvView cfg srcId' (advanceWindow cfg srcId rounds ackSeqNum host).2 =
      if srcId' = srcId then (recvView cfg srcId host).advance else recvView cfg srcId' host := by
  induction rounds generalizing ackSeqNum host with
  | zero =>
    cases hitem : cqGetItemRecv cfg srcId 0 host with
    | none =>
      rw [advanceWindow_none hitem,
        RecvView.advance_of_none (v := recvView cfg srcId host)
          (hitem ▸ recvWin_eq_cons cfg srcId host)]
      split <;> [subst_vars; skip] <;> rfl
    | some frame =>
      rw [recvWin_eq_cons, hitem] at hr
      simp at hr
  | succ rounds ih =>
    cases hitem : cqGetItemRecv cfg srcId 0 host with
    | none =>
      rw [advanceWindow_none hitem,
        RecvView.advance_of_none (v := recvView cfg srcId host)
          (hitem ▸ recvWin_eq_cons cfg srcId host)]
      split <;> [subst_vars; skip] <;> rfl
    | some frame =>
      have hview := recvView_advanceOnce hW srcId frame host
      have hself := hview srcId
      rw [if_pos rfl] at hself
      have hwin : recvWin cfg srcId (advanceOnce cfg srcId frame host) =
          (recvWin cfg srcId host).tail ++ [none] := congrArg RecvView.win hself
      have hcons := recvWin_eq_cons cfg srcId host
      rw [hitem] at hcons
      rw [hcons, SlidingWindow.front_some, List.length_cons] at hr
      rw [advanceWindow_some hitem, ih _ _
        (by rw [hwin, SlidingWindow.front_append_none]; omega), hview srcId', hself,
        RecvView.advance_of_some (v := recvView cfg srcId host) hcons]
      split <;> rfl

/-- The counter `ack_seq_num` keeps up with `recv_lfr`. -/
theorem advanceWindow_ackSeqNum (srcId rounds : ℕ) {ackSeqNum : UInt8} {host : Host D}
    (h : ackSeqNum = host.recvLfr srcId) :
    (advanceWindow cfg srcId rounds ackSeqNum host).1 =
      (advanceWindow cfg srcId rounds ackSeqNum host).2.recvLfr srcId := by
  induction rounds generalizing ackSeqNum host with
  | zero => exact h
  | succ rounds ih =>
    cases hitem : cqGetItemRecv cfg srcId 0 host with
    | none => rw [advanceWindow_none hitem]; exact h
    | some frame =>
      rw [advanceWindow_some hitem]
      refine ih ?_
      rw [h, advanceOnce, cqNdequeueRecv_one]
      simp only [Function.update_self]

variable (cfg) in
/-- The fields that the loop changes. -/
theorem advanceWindow_frame (srcId rounds : ℕ) (ackSeqNum : UInt8) (host : Host D) :
    ∃ recvWindow recvWindowStart recvLfr recvMsgHead appended,
      (advanceWindow cfg srcId rounds ackSeqNum host).2 =
        { host with
          recvWindow := recvWindow
          recvWindowStart := recvWindowStart
          recvLfr := recvLfr
          recvMsgHead := recvMsgHead
          log := { host.log with appended := appended } } := by
  induction rounds generalizing ackSeqNum host with
  | zero => exact ⟨_, _, _, _, _, rfl⟩
  | succ rounds ih =>
    cases hitem : cqGetItemRecv cfg srcId 0 host with
    | none => rw [advanceWindow_none hitem]; exact ⟨_, _, _, _, _, rfl⟩
    | some frame =>
      obtain ⟨_, _, _, _, _, h⟩ := ih (ackSeqNum + 1) (advanceOnce cfg srcId frame host)
      rw [advanceWindow_some hitem, h, advanceOnce, cqNdequeueRecv_one]
      exact ⟨_, _, _, _, _, rfl⟩

/-! ## One frame -/

variable (cfg) in
theorem recvFrameInWindow_iff (seqNum srcId : UInt8) (host : Host D) :
    recvFrameInWindow cfg seqNum srcId host = true ↔
      0 < seqNumDiff (host.recvLfr srcId.toNat) seqNum ∧
        seqNumDiff (host.recvLfr srcId.toNat) seqNum ≤ cfg.windowSize := by
  rw [recvFrameInWindow, Bool.and_eq_true, decide_eq_true_iff, decide_eq_true_iff]

theorem recvView_acceptFrame (hW : cfg.windowSize ≤ 255) (frame : Frame) (host : Host D)
    (srcId : ℕ) :
    recvView cfg srcId (acceptFrame cfg frame host).2 =
      if srcId = frame.srcId.toNat then (recvView cfg srcId host).accept frame
      else recvView cfg srcId host := by
  have hiff := recvFrameInWindow_iff cfg frame.seqNum frame.srcId host
  by_cases hin : recvFrameInWindow cfg frame.seqNum frame.srcId host = true
  · have hd := hiff.mp hin
    rw [acceptFrame, if_neg (by rw [hin]; decide)]
    have hidx : (seqNumDiff (host.recvLfr frame.srcId.toNat) frame.seqNum - 1).toNat <
        cfg.windowSize := by omega
    rw [recvView_advanceWindow hW _ _ _ _ (by
      have := SlidingWindow.length_front_le (recvWin cfg frame.srcId.toNat
        (cqSetItemRecv cfg frame.srcId.toNat
          (seqNumDiff (host.recvLfr frame.srcId.toNat) frame.seqNum - 1).toNat frame host))
      rwa [length_recvWin] at this)]
    have hset := recvWin_cqSetItemRecv frame.srcId.toNat hidx frame host srcId
    by_cases hid : srcId = frame.srcId.toNat
    · subst hid
      rw [if_pos rfl, if_pos rfl, RecvView.accept,
        if_pos (by simpa [recvView, length_recvWin] using hd)]
      rw [if_pos rfl] at hset
      rw [recvView, hset]
      rfl
    · rw [if_neg hid, if_neg hid]
      rw [if_neg hid] at hset
      rw [recvView, hset]
      rfl
  · rw [acceptFrame, if_pos (by simpa using hin)]
    split
    · rename_i hid
      subst hid
      rw [RecvView.accept, if_neg (by simpa [recvView, length_recvWin, hiff] using hin)]
    · rfl

variable (cfg) in
theorem acceptFrame_ackSeqNum (frame : Frame) (host : Host D) :
    (acceptFrame cfg frame host).1 =
      (acceptFrame cfg frame host).2.recvLfr frame.srcId.toNat := by
  rw [acceptFrame]
  split
  · rfl
  · exact advanceWindow_ackSeqNum _ _ rfl

variable (cfg) in
theorem acceptFrame_frame (frame : Frame) (host : Host D) :
    ∃ recvWindow recvWindowStart recvLfr recvMsgHead appended,
      (acceptFrame cfg frame host).2 =
        { host with
          recvWindow := recvWindow
          recvWindowStart := recvWindowStart
          recvLfr := recvLfr
          recvMsgHead := recvMsgHead
          log := { host.log with appended := appended } } := by
  rw [acceptFrame]
  split
  · exact ⟨_, _, _, _, _, rfl⟩
  · obtain ⟨_, _, _, _, _, h⟩ := advanceWindow_frame cfg frame.srcId.toNat cfg.windowSize
      (host.recvLfr frame.srcId.toNat) (cqSetItemRecv cfg frame.srcId.toNat
        (seqNumDiff (host.recvLfr frame.srcId.toNat) frame.seqNum - 1).toNat frame host)
    exact ⟨_, _, _, _, _, h⟩

/-- An ACK frame as the receiver makes it. -/
structure IsAckFrame (srcId dstId seqNum : UInt8) (frame : Frame) : Prop where
  valid : frameValid frame = true
  isAck : frame.isAck = 1
  srcId : frame.srcId = srcId
  dstId : frame.dstId = dstId
  seqNum : frame.seqNum = seqNum

theorem handleFrame_eq {frame : Frame} (hvalid : frameValid frame = true) (host : Host D) :
    handleFrame cfg host frame =
      reassembleMessages frame.srcId.toNat (sendAck frame.srcId (acceptFrame cfg frame host).1
        (acceptFrame cfg frame host).2) := by
  rw [handleFrame, if_neg (by rw [hvalid]; decide)]

variable (cfg) in
/-- **A valid frame** is answered by one ACK for the last frame appended. -/
theorem handleFrame_valid {frame : Frame} (hvalid : frameValid frame = true) (host : Host D) :
    ∃ recvWindow recvWindowStart recvLfr recvMsgHead copies appended printed ack,
      handleFrame cfg host frame =
        { host with
          recvWindow := recvWindow
          recvWindowStart := recvWindowStart
          recvLfr := recvLfr
          recvMsgHead := recvMsgHead
          outgoingFramesHead := host.outgoingFramesHead ++ [ack]
          mallocs := host.mallocs + 1
          copies := copies
          log := { host.log with appended := appended, printed := printed } } ∧
      IsAckFrame (UInt8.ofNat host.id) frame.srcId (recvLfr frame.srcId.toNat) ack := by
  have hack := acceptFrame_ackSeqNum cfg frame host
  obtain ⟨recvWindow, recvWindowStart, recvLfr, recvMsgHead, appended, hframe⟩ :=
    acceptFrame_frame cfg frame host
  rw [hframe] at hack
  rw [handleFrame_eq hvalid, hframe, hack]
  exact ⟨recvWindow, recvWindowStart, recvLfr, _, _, appended, _, _, rfl,
    frameValid_setChecksum _, rfl, rfl, rfl, rfl⟩

theorem handleFrame_invalid {frame : Frame} (hvalid : frameValid frame = false) (host : Host D) :
    handleFrame cfg host frame = host := by rw [handleFrame, if_pos hvalid]

variable (cfg) in
/-- The fields that a receiver changes. -/
theorem handleIncomingFrames_eq (host : Host D) :
    ∃ recvWindow recvWindowStart recvLfr recvMsgHead outgoing mallocs copies appended printed,
      handleIncomingFrames cfg host =
        { host with
          incomingFramesHead := []
          recvWindow := recvWindow
          recvWindowStart := recvWindowStart
          recvLfr := recvLfr
          recvMsgHead := recvMsgHead
          outgoingFramesHead := outgoing
          mallocs := mallocs
          copies := copies
          log := { host.log with appended := appended, printed := printed } } := by
  have hfold (frames : List Frame) (host : Host D) :
      ∃ recvWindow recvWindowStart recvLfr recvMsgHead outgoing mallocs copies appended printed,
        frames.foldl (handleFrame cfg) host =
          { host with
            recvWindow := recvWindow
            recvWindowStart := recvWindowStart
            recvLfr := recvLfr
            recvMsgHead := recvMsgHead
            outgoingFramesHead := outgoing
            mallocs := mallocs
            copies := copies
            log := { host.log with appended := appended, printed := printed } } := by
    induction frames generalizing host with
    | nil => exact ⟨_, _, _, _, _, _, _, _, _, rfl⟩
    | cons frame frames ih =>
      obtain ⟨_, _, _, _, _, _, _, _, _, heq⟩ := ih (handleFrame cfg host frame)
      rw [List.foldl_cons, heq]
      by_cases hvalid : frameValid frame = true
      · obtain ⟨_, _, _, _, _, _, _, _, heq', -⟩ := handleFrame_valid cfg hvalid host
        rw [heq']
        exact ⟨_, _, _, _, _, _, _, _, _, rfl⟩
      · rw [handleFrame_invalid (by simpa using hvalid)]
        exact ⟨_, _, _, _, _, _, _, _, _, rfl⟩
  exact hfold host.incomingFramesHead { host with incomingFramesHead := [] }

/-- **The receiver refines its view**: a valid frame is accepted by the view of its sender. -/
theorem recvView_handleFrame (hW : cfg.windowSize ≤ 255) (host : Host D) (frame : Frame)
    (srcId : ℕ) :
    recvView cfg srcId (handleFrame cfg host frame) =
      if frameValid frame = true ∧ srcId = frame.srcId.toNat then
        (recvView cfg srcId host).accept frame
      else recvView cfg srcId host := by
  by_cases hvalid : frameValid frame = true
  · have h := recvView_acceptFrame hW frame host srcId
    simp only [hvalid, true_and]
    rw [← h, handleFrame_eq hvalid]
    rfl
  · rw [if_neg (fun h => hvalid h.1), handleFrame_invalid (by simpa using hvalid)]

/-! ## The invariant -/

namespace RecvView

/-- The frames appended are numbered from 0, and those in the window on from there. -/
structure Ordered (v : RecvView) : Prop where
  appended_seqNum : ∀ k frame, v.appended[k]? = some frame → frame.seqNum = UInt8.ofNat k
  lfr_eq : v.lfr = UInt8.ofNat (v.appended.length + 255)
  win_seqNum : ∀ i frame, v.win[i]? = some (some frame) →
    frame.seqNum = v.lfr + 1 + UInt8.ofNat i

/-- Besides, the next frame expected is not there. -/
structure Inv (v : RecvView) : Prop extends Ordered v where
  first : v.win[0]? = some none

theorem Ordered.advance {v : RecvView} (h : v.Ordered) (hpos : 0 < v.win.length) :
    v.advance.Inv where
  appended_seqNum k frame hk := by
    rw [RecvView.advance, List.getElem?_append] at hk
    split at hk
    · exact h.appended_seqNum k frame hk
    · have := h.win_seqNum _ frame (SlidingWindow.getElem?_of_front hk)
      rw [this, h.lfr_eq, ← ofNat_succ, ← UInt8.ofNat_add]
      apply UInt8.toNat_inj.mp
      rw [toNat_ofNat, toNat_ofNat]
      omega
  lfr_eq := by
    rw [RecvView.advance, h.lfr_eq, ← UInt8.ofNat_add, List.length_append, Nat.add_right_comm]
  win_seqNum i frame hi := by
    have := h.win_seqNum _ frame (SlidingWindow.getElem?_of_shift hi)
    rw [this, RecvView.advance, UInt8.ofNat_add]
    simp only [UInt8.add_assoc, UInt8.add_comm 1]
  first := SlidingWindow.getElem?_shift_zero hpos

theorem Ordered.store {v : RecvView} (h : v.Ordered) {frame : Frame}
    (hd : 0 < seqNumDiff v.lfr frame.seqNum) :
    (v.store (seqNumDiff v.lfr frame.seqNum - 1).toNat frame).Ordered where
  appended_seqNum := h.appended_seqNum
  lfr_eq := h.lfr_eq
  win_seqNum i frame' hi := by
    rw [RecvView.store, List.getElem?_set] at hi
    split at hi
    · rename_i hidx
      split at hi
      · obtain rfl : frame = frame' := by simpa using hi
        have hadd := add_seqNumDiff hd.le
        rw [show (seqNumDiff v.lfr frame.seqNum).toNat = 1 + i by omega, UInt8.ofNat_add] at hadd
        rw [← hadd, RecvView.store, ← UInt8.add_assoc]
        rfl
      · simp at hi
    · exact h.win_seqNum i frame' hi

theorem Inv.accept {v : RecvView} (h : v.Inv) (frame : Frame) : (v.accept frame).Inv := by
  rw [RecvView.accept]
  split
  · rename_i hd
    refine (h.toOrdered.store hd.1).advance ?_
    rw [RecvView.store, List.length_set]
    omega
  · exact h

/-- All frames that are appended or in the window. -/
def frames (v : RecvView) : List Frame := v.appended ++ v.win.reduceOption

theorem frames_accept (v : RecvView) (frame : Frame) :
    (v.accept frame).frames.Subperm (frame :: v.frames) := by
  rw [RecvView.accept]
  split
  · simp only [frames, advance, store, List.append_assoc, SlidingWindow.front_append_shift]
    refine ((List.subperm_append_left v.appended).mpr
      (SlidingWindow.reduceOption_set_subperm v.win _ frame)).trans ?_
    exact List.perm_middle.subperm
  · exact (List.sublist_cons_self frame v.frames).subperm

end RecvView

/-! ## Runs -/

variable (cfg) in
/-- `handle_incoming_frames` on the frames `batch`. -/
def receiveBatch (host : Host D) (batch : List Frame) : Host D :=
  handleIncomingFrames cfg { host with incomingFramesHead := batch }

theorem handleFrame_incoming (host : Host D) (frame : Frame) :
    (handleFrame cfg host frame).incomingFramesHead = host.incomingFramesHead := by
  by_cases hvalid : frameValid frame = true
  · obtain ⟨_, _, _, _, _, _, _, _, h, -⟩ := handleFrame_valid cfg hvalid host
    rw [h]
  · rw [handleFrame_invalid (by simpa using hvalid)]

theorem foldl_handleFrame_incoming (frames : List Frame) (host : Host D) :
    (frames.foldl (handleFrame cfg) host).incomingFramesHead = host.incomingFramesHead := by
  induction frames generalizing host with
  | nil => rfl
  | cons frame frames ih => rw [List.foldl_cons, ih, handleFrame_incoming]

theorem receiveBatch_eq {host : Host D} (h : host.incomingFramesHead = []) (batch : List Frame) :
    receiveBatch cfg host batch = batch.foldl (handleFrame cfg) host := by
  rw [receiveBatch, handleIncomingFrames, ← h]

/-- Where the batches end does not matter. -/
theorem foldl_receiveBatch {host : Host D} (h : host.incomingFramesHead = [])
    (batches : List (List Frame)) :
    batches.foldl (receiveBatch cfg) host = batches.flatten.foldl (handleFrame cfg) host := by
  induction batches generalizing host with
  | nil => rfl
  | cons batch batches ih =>
    rw [List.foldl_cons, receiveBatch_eq h, List.flatten_cons, List.foldl_append,
      ih ((foldl_handleFrame_incoming batch host).trans h)]

theorem recvView_foldl_inv (hW : cfg.windowSize ≤ 255) (srcId : ℕ) (frames : List Frame)
    {host : Host D} (h : (recvView cfg srcId host).Inv) :
    (recvView cfg srcId (frames.foldl (handleFrame cfg) host)).Inv := by
  induction frames generalizing host with
  | nil => exact h
  | cons frame frames ih =>
    rw [List.foldl_cons]
    refine ih ?_
    rw [recvView_handleFrame hW]
    split <;> [exact h.accept frame; exact h]

theorem recvView_foldl_frames (hW : cfg.windowSize ≤ 255) (srcId : ℕ) (frames : List Frame)
    (host : Host D) :
    (recvView cfg srcId (frames.foldl (handleFrame cfg) host)).frames.Subperm
      (frames.filter (fun frame => srcId = frame.srcId.toNat) ++
        (recvView cfg srcId host).frames) := by
  induction frames generalizing host with
  | nil => exact List.Subperm.refl _
  | cons frame frames ih =>
    rw [List.foldl_cons]
    refine (ih (handleFrame cfg host frame)).trans ?_
    rw [recvView_handleFrame hW, List.filter_cons]
    by_cases hid : srcId = frame.srcId.toNat
    · simp only [hid, and_true, decide_true, if_true]
      split
      · refine ((List.subperm_append_left _).mpr (RecvView.frames_accept _ frame)).trans ?_
        exact List.perm_middle.subperm
      · exact (List.sublist_cons_self frame _).subperm
    · simp only [hid, and_false, if_false, decide_false, Bool.false_eq_true]
      exact List.Subperm.refl _

section Start

variable [CDouble D] (cfg) (id : ℕ) (env : HostEnv)

theorem recvView_initHost (srcId : ℕ) :
    recvView cfg srcId (initHost cfg id env) = ⟨[], 255, List.replicate cfg.windowSize none⟩ := by
  simp only [recvView, recvWin, initHost, HostLog.empty, Ring.contents, List.map_const',
    List.length_range]

theorem recvView_initHost_inv (srcId : ℕ) : (recvView cfg srcId (initHost cfg id env)).Inv := by
  rw [recvView_initHost]
  have hnone (i : ℕ) (frame : Frame)
      (h : (List.replicate cfg.windowSize (none : Option Frame))[i]? = some (some frame)) :
      False := by
    rw [List.getElem?_replicate] at h
    split at h <;> simp at h
  exact
    { appended_seqNum := fun k frame h => by simp at h
      lfr_eq := rfl
      win_seqNum := fun i frame h => (hnone i frame h).elim
      first := by rw [List.getElem?_replicate, if_pos cfg.windowSize_pos] }

/-- A host after `init_host` that has handled `frames`. -/
def hostAfterFrames (frames : List Frame) : Host D :=
  frames.foldl (handleFrame cfg) (initHost cfg id env)

/-- **The receiver is in order for any input.** Whatever valid frames arrive, in whatever batches,
and after each of them: the frames appended for a sender are numbered 0, 1, 2, … modulo 256 and are
copies of frames received from it, each appended once; the next frame expected is not in the window,
and the frames in the window are numbered by their places; and the frame just handled was answered
by one ACK, which names the last frame appended. -/
theorem handleIncomingFrames_in_order (hW : cfg.windowSize ≤ 255) (batches : List (List Frame))
    (hvalid : ∀ batch ∈ batches, ∀ frame ∈ batch, frameValid frame = true) :
    batches.foldl (receiveBatch cfg) (initHost cfg id env) =
      hostAfterFrames cfg id env batches.flatten ∧
    (∀ frames, frames <+: batches.flatten → ∀ srcId : UInt8,
      let host := hostAfterFrames cfg id env frames
      (∀ k frame, (host.log.appended srcId.toNat)[k]? = some frame →
        frame.seqNum = UInt8.ofNat k) ∧
      (host.log.appended srcId.toNat).Subperm (frames.filter (fun f => f.srcId = srcId)) ∧
      host.recvLfr srcId.toNat = UInt8.ofNat ((host.log.appended srcId.toNat).length + 255) ∧
      cqGetItemRecv cfg srcId.toNat 0 host = none ∧
      ∀ i < cfg.windowSize, ∀ frame, cqGetItemRecv cfg srcId.toNat i host = some frame →
        frame.seqNum = host.recvLfr srcId.toNat + 1 + UInt8.ofNat i) ∧
    ∀ frames frame, frames ++ [frame] <+: batches.flatten →
      ∃ ack, (hostAfterFrames cfg id env (frames ++ [frame])).outgoingFramesHead =
          (hostAfterFrames cfg id env frames).outgoingFramesHead ++ [ack] ∧
        ack.isAck = 1 ∧ ack.dstId = frame.srcId ∧
        ack.seqNum =
          (hostAfterFrames cfg id env (frames ++ [frame])).recvLfr frame.srcId.toNat := by
  refine ⟨foldl_receiveBatch rfl batches, fun frames _ srcId => ?_, fun frames frame hpre => ?_⟩
  · have hinv := recvView_foldl_inv hW srcId.toNat frames
      (recvView_initHost_inv cfg id env srcId.toNat)
    have hsub := recvView_foldl_frames hW srcId.toNat frames (initHost cfg id env)
    have hnil : (recvView cfg srcId.toNat (initHost cfg id env)).frames = [] := by
      rw [recvView_initHost]
      simp [RecvView.frames, List.reduceOption_replicate_none]
    have hsrc : (fun f : Frame => decide (srcId.toNat = f.srcId.toNat)) =
        fun f => decide (f.srcId = srcId) := by
      funext f
      simp only [UInt8.toNat_inj, eq_comm]
    rw [hnil, List.append_nil, hsrc] at hsub
    refine ⟨hinv.appended_seqNum, ?_, hinv.lfr_eq, ?_, fun i hi frame hframe => ?_⟩
    · exact (List.sublist_append_left _ _).subperm.trans hsub
    · have hfirst := hinv.first
      rw [recvView, getElem?_recvWin cfg.windowSize_pos] at hfirst
      exact Option.some.inj hfirst
    · refine hinv.win_seqNum i frame ?_
      rw [recvView, getElem?_recvWin hi]
      exact congrArg some hframe
  · have hmem : frame ∈ batches.flatten := hpre.subset (by simp)
    obtain ⟨batch, hbatch, hframe⟩ := List.mem_flatten.mp hmem
    have hlast : hostAfterFrames cfg id env (frames ++ [frame]) =
        handleFrame cfg (hostAfterFrames cfg id env frames) frame := by
      rw [hostAfterFrames, List.foldl_append]
      rfl
    obtain ⟨_, _, _, _, _, _, _, ack, hhost, hack⟩ := handleFrame_valid cfg
      (hvalid batch hbatch frame hframe) (hostAfterFrames cfg id env frames)
    rw [hlast, hhost]
    exact ⟨ack, rfl, hack.isAck, hack.dstId, hack.seqNum⟩

end Start

/-- A frame of zero bytes, twice. -/
theorem handleIncomingFrames_in_order_twice :
    let host := hostAfterFrames ccBasicConfig 1 .still [setChecksum .zero, setChecksum .zero]
    [[setChecksum .zero], [setChecksum .zero]].foldl (receiveBatch ccBasicConfig)
        (initHost ccBasicConfig 1 .still) = host ∧
      host.recvLfr (0 : UInt8).toNat =
        UInt8.ofNat ((host.log.appended (0 : UInt8).toNat).length + 255) := by
  have hvalid (frame : Frame) (h : frame ∈ [setChecksum .zero]) : frameValid frame = true := by
    rw [List.mem_singleton.mp h, frameValid_setChecksum]
  obtain ⟨hbatches, hframes, -⟩ := handleIncomingFrames_in_order ccBasicConfig 1 .still
    (by decide) [[setChecksum .zero], [setChecksum .zero]]
    (List.forall_mem_cons.mpr ⟨hvalid, List.forall_mem_singleton.mpr hvalid⟩)
  obtain ⟨-, -, hlfr, -⟩ := hframes [setChecksum .zero, setChecksum .zero] List.prefix_rfl 0
  exact ⟨hbatches, hlfr⟩

end NetworkSim.Tcp
