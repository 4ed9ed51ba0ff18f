import NetworkSim.Foundations.Interleaving
import NetworkSim.Tcp.ReceiverSpec
import NetworkSim.Tcp.SenderMoves

/-!
# Peers do not influence each other

A host keeps the windows, the counters and the congestion state of all its peers in arrays, and what
comes in from them in one list. Here two states of a host are compared on the part that belongs to
one peer, as the receiver of this peer (`RecvAgree`) and as the sender to it (`SendAgree`). Both
handlers keep the peers apart, so only the order of each peer's frames matters
(`peers_independent`).
-/

namespace NetworkSim.Tcp

variable {D : Type} {cfg : SysConfig D}

/-! ## Receiving -/

/-- Which frames are popped does not depend on the memory behind them. -/
theorem popMessage_rest (beyond beyond' : ℕ → ℕ → UInt8) (copies copies' : ℕ)
    (buffer frames : List Frame) : (popMessage beyond copies buffer frames).2.2 =
      (popMessage beyond' copies' buffer frames).2.2 := by
  induction buffer generalizing copies copies' frames with
  | nil => rfl
  | cons frame buffer ih =>
    cases frames with
    | nil => rfl
    | cons frame' frames => exact ih (copies + 1) (copies' + 1) frames

theorem reassembleLoop_rest (beyond beyond' : ℕ → ℕ → UInt8) (fuel copies copies' : ℕ)
    (frames : List Frame) : (reassembleLoop beyond fuel copies frames).2.2 =
      (reassembleLoop beyond' fuel copies' frames).2.2 := by
  induction fuel generalizing copies copies' frames with
  | zero => rfl
  | succ fuel ih =>
    rw [reassembleLoop, reassembleLoop, reassembleMessage, reassembleMessage]
    cases scanMessage [] frames with
    | none => rfl
    | some buffer =>
      simp only [popMessage_rest beyond beyond' copies copies' buffer frames]
      exact ih _ _ _

/-- What the source sets in an ACK frame; the other fields keep what was in the fresh memory. -/
def Frame.ackFields (frame : Frame) : UInt8 × UInt8 × UInt8 × UInt8 :=
  (frame.srcId, frame.dstId, frame.isAck, frame.seqNum)

/-- What `host` is sending to `peer`, up to the fields that are not set in an ACK frame. -/
def acksTo (peer : UInt8) (host : Host D) : List (UInt8 × UInt8 × UInt8 × UInt8) :=
  (host.outgoingFramesHead.filter (·.dstId = peer)).map Frame.ackFields

theorem acksTo_sendAck (peer peer' ackSeqNum : UInt8) (host : Host D) :
    acksTo peer (sendAck peer' ackSeqNum host) =
      acksTo peer host ++
        if peer' = peer then [(UInt8.ofNat host.id, peer', 1, ackSeqNum)] else [] := by
  unfold acksTo
  simp only [sendAck, mallocFrame, List.filter_append, List.map_append]
  congr 1
  generalize hack : setChecksum _ = ack
  have hdst : ack.dstId = peer' := by
    rw [← hack]
    rfl
  have hfields : ack.ackFields = (UInt8.ofNat host.id, peer', 1, ackSeqNum) := by
    rw [← hack]
    rfl
  by_cases hpeer : peer' = peer
  · rw [if_pos hpeer, List.filter_cons_of_pos (by simpa [hdst] using hpeer), List.filter_nil,
      List.map_singleton, hfields]
  · rw [if_neg hpeer, List.filter_cons_of_neg (by simpa [hdst] using hpeer)]
    rfl

variable (cfg) in
/-- Two states of a host are the same as the receiver of `peer`. -/
structure RecvAgree (peer : UInt8) (s t : Host D) : Prop where
  id_eq : s.id = t.id
  lfr_eq : s.recvLfr peer.toNat = t.recvLfr peer.toNat
  start_eq : s.recvWindowStart peer.toNat = t.recvWindowStart peer.toNat
  ring_eq : Ring.AgreeOn cfg.windowSize id peer.toNat s.recvWindow t.recvWindow
  msg_eq : s.recvMsgHead peer.toNat = t.recvMsgHead peer.toNat
  acks_eq : acksTo peer s = acksTo peer t

namespace RecvAgree

variable {peer peer' : UInt8} {s t u : Host D}

theorem refl (peer : UInt8) (s : Host D) : RecvAgree cfg peer s s :=
  ⟨rfl, rfl, rfl, .refl _ _ _ _, rfl, rfl⟩

theorem symm (h : RecvAgree cfg peer s t) : RecvAgree cfg peer t s :=
  ⟨h.id_eq.symm, h.lfr_eq.symm, h.start_eq.symm, h.ring_eq.symm, h.msg_eq.symm, h.acks_eq.symm⟩

theorem trans (h : RecvAgree cfg peer s t) (h' : RecvAgree cfg peer t u) :
    RecvAgree cfg peer s u :=
  ⟨h.id_eq.trans h'.id_eq, h.lfr_eq.trans h'.lfr_eq, h.start_eq.trans h'.start_eq,
    h.ring_eq.trans h'.ring_eq, h.msg_eq.trans h'.msg_eq, h.acks_eq.trans h'.acks_eq⟩

/-! What is done for `peer` in both states. -/

theorem getItem (h : RecvAgree cfg peer s t) (i : ℕ) :
    cqGetItemRecv cfg peer.toNat i s = cqGetItemRecv cfg peer.toNat i t := by
  unfold cqGetItemRecv cqSlotRecv
  rw [h.start_eq]
  exact h.ring_eq.slot cfg.windowSize_pos _ i

theorem setItem (h : RecvAgree cfg peer s t) (i : ℕ) (frame : Frame) :
    RecvAgree cfg peer (cqSetItemRecv cfg peer.toNat i frame s)
      (cqSetItemRecv cfg peer.toNat i frame t) := by
  refine ⟨h.id_eq, h.lfr_eq, h.start_eq, ?_, h.msg_eq, h.acks_eq⟩
  unfold cqSetItemRecv cqSlotRecv
  rw [h.start_eq]
  exact h.ring_eq.update _ rfl

theorem once (h : RecvAgree cfg peer s t) (frame : Frame) :
    RecvAgree cfg peer (advanceOnce cfg peer.toNat frame s)
      (advanceOnce cfg peer.toNat frame t) := by
  simp only [advanceOnce, cqNdequeueRecv_one]
  refine ⟨h.id_eq, ?_, ?_, ?_, ?_, h.acks_eq⟩
  · simp only [Function.update_self, h.lfr_eq]
  · simp only [Function.update_self, h.start_eq]
  · simp only [h.start_eq]
    exact h.ring_eq.clear _ _ 1 none
  · simp only [Function.update_self, h.msg_eq]

theorem window (h : RecvAgree cfg peer s t) (rounds : ℕ) (ackSeqNum : UInt8) :
    (advanceWindow cfg peer.toNat rounds ackSeqNum s).1 =
        (advanceWindow cfg peer.toNat rounds ackSeqNum t).1 ∧
      RecvAgree cfg peer (advanceWindow cfg peer.toNat rounds ackSeqNum s).2
        (advanceWindow cfg peer.toNat rounds ackSeqNum t).2 := by
  induction rounds generalizing ackSeqNum s t with
  | zero => exact ⟨rfl, h⟩
  | succ rounds ih =>
    have hitem := h.getItem 0
    cases hs : cqGetItemRecv cfg peer.toNat 0 s with
    | none =>
      rw [advanceWindow_none hs, advanceWindow_none (hitem.symm.trans hs)]
      exact ⟨rfl, h⟩
    | some frame =>
      rw [advanceWindow_some hs, advanceWindow_some (hitem.symm.trans hs)]
      exact ih (h.once frame) (ackSeqNum + 1)

theorem accept {frame : Frame} (h : RecvAgree cfg frame.srcId s t) :
    (acceptFrame cfg frame s).1 = (acceptFrame cfg frame t).1 ∧
      RecvAgree cfg frame.srcId (acceptFrame cfg frame s).2 (acceptFrame cfg frame t).2 := by
  have hin : recvFrameInWindow cfg frame.seqNum frame.srcId s =
      recvFrameInWindow cfg frame.seqNum frame.srcId t := by
    unfold recvFrameInWindow
    rw [h.lfr_eq]
  simp only [acceptFrame, hin, h.lfr_eq]
  cases recvFrameInWindow cfg frame.seqNum frame.srcId t with
  | false => exact ⟨rfl, h⟩
  | true => exact (h.setItem _ frame).window _ _

theorem ack (h : RecvAgree cfg peer s t) (ackSeqNum : UInt8) :
    RecvAgree cfg peer (sendAck peer ackSeqNum s) (sendAck peer ackSeqNum t) := by
  refine ⟨h.id_eq, h.lfr_eq, h.start_eq, h.ring_eq, h.msg_eq, ?_⟩
  rw [acksTo_sendAck, acksTo_sendAck, h.acks_eq, h.id_eq]

theorem reassemble (h : RecvAgree cfg peer s t) :
    RecvAgree cfg peer (reassembleMessages peer.toNat s) (reassembleMessages peer.toNat t) := by
  refine ⟨h.id_eq, h.lfr_eq, h.start_eq, h.ring_eq, ?_, h.acks_eq⟩
  simp only [reassembleMessages, Function.update_self, h.msg_eq]
  exact reassembleLoop_rest _ _ _ _ _ _

theorem handleFrame {frame : Frame} (h : RecvAgree cfg frame.srcId s t) :
    RecvAgree cfg frame.srcId (handleFrame cfg s frame) (handleFrame cfg t frame) := by
  cases hvalid : frameValid frame with
  | false =>
    rw [handleFrame_invalid hvalid, handleFrame_invalid hvalid]
    exact h
  | true =>
    rw [handleFrame_eq hvalid, handleFrame_eq hvalid, h.accept.1]
    exact (h.accept.2.ack _).reassemble

/-! What is done for another peer. -/

theorem setItem_of_ne {id : ℕ} (hne : peer.toNat ≠ id) (i : ℕ) (frame : Frame) (s : Host D) :
    RecvAgree cfg peer (cqSetItemRecv cfg id i frame s) s :=
  ⟨rfl, rfl, rfl, (Ring.AgreeOn.refl _ _ _ _).update_of_ne cfg.windowSize_pos hne _ _ _, rfl, rfl⟩

theorem once_of_ne {id : ℕ} (hne : peer.toNat ≠ id) (frame : Frame) (s : Host D) :
    RecvAgree cfg peer (advanceOnce cfg id frame s) s := by
  simp only [advanceOnce, cqNdequeueRecv_one]
  refine ⟨rfl, Function.update_of_ne hne _ _, Function.update_of_ne hne _ _, ?_,
    Function.update_of_ne hne _ _, rfl⟩
  exact (Ring.AgreeOn.refl _ _ _ _).clear_of_ne cfg.windowSize_pos hne _ 1 none

theorem window_of_ne {id : ℕ} (hne : peer.toNat ≠ id) (rounds : ℕ) (ackSeqNum : UInt8)
    (s : Host D) : RecvAgree cfg peer (advanceWindow cfg id rounds ackSeqNum s).2 s := by
  induction rounds generalizing ackSeqNum s with
  | zero => exact refl peer s
  | succ rounds ih =>
    cases hs : cqGetItemRecv cfg id 0 s with
    | none =>
      rw [advanceWindow_none hs]
      exact refl peer s
    | some frame =>
      rw [advanceWindow_some hs]
      exact (ih (ackSeqNum + 1) (advanceOnce cfg id frame s)).trans (once_of_ne hne frame s)

theorem accept_of_ne {frame : Frame} (hne : peer ≠ frame.srcId) (s : Host D) :
    RecvAgree cfg peer (acceptFrame cfg frame s).2 s := by
  have hne' : peer.toNat ≠ frame.srcId.toNat := fun h => hne (UInt8.toNat_inj.mp h)
  unfold acceptFrame
  split
  · exact refl peer s
  · exact (window_of_ne hne' _ _ _).trans (setItem_of_ne hne' _ frame s)

theorem ack_of_ne (hne : peer ≠ peer') (ackSeqNum : UInt8) (s : Host D) :
    RecvAgree cfg peer (sendAck peer' ackSeqNum s) s := by
  refine ⟨rfl, rfl, rfl, .refl _ _ _ _, rfl, ?_⟩
  rw [acksTo_sendAck, if_neg hne.symm, List.append_nil]

theorem reassemble_of_ne (hne : peer ≠ peer') (s : Host D) :
    RecvAgree cfg peer (reassembleMessages peer'.toNat s) s := by
  have hne' : peer.toNat ≠ peer'.toNat := fun h => hne (UInt8.toNat_inj.mp h)
  exact ⟨rfl, rfl, rfl, .refl _ _ _ _, Function.update_of_ne hne' _ _, rfl⟩

theorem handleFrame_of_ne {frame : Frame} (hne : peer ≠ frame.srcId) (s : Host D) :
    RecvAgree cfg peer (Tcp.handleFrame cfg s frame) s := by
  cases hvalid : frameValid frame with
  | false =>
    rw [handleFrame_invalid hvalid]
    exact refl peer s
  | true =>
    rw [handleFrame_eq hvalid]
    exact ((reassemble_of_ne hne _).trans (ack_of_ne hne _ _)).trans (accept_of_ne hne s)

end RecvAgree

variable (cfg) in
/-- The receiver keeps its peers apart. -/
theorem separated_handleFrame :
    Separated (ε := Fault) (RecvAgree (D := D) cfg) Frame.srcId
      (fun host frame => .ok (handleFrame cfg host frame)) where
  symm := RecvAgree.symm
  trans := RecvAgree.trans
  own := by
    rintro frame s t s' hst ⟨⟩
    exact ⟨_, rfl, hst.handleFrame⟩
  other := by
    rintro frame s t s' peer hne hst ⟨⟩
    exact (RecvAgree.handleFrame_of_ne hne s).trans hst

/-! ## Sending -/

variable (cfg) in
/-- The send windows hold frames for their own receivers only. -/
def OwnWindows (host : Host D) : Prop :=
  ∀ j frame, (host.sendWindow j).frame = some frame → frame.dstId.toNat = j / cfg.windowSize

variable (cfg) in
/-- Two states of a host are the same as the sender to `peer`, but for the timers. -/
structure SendAgree (peer : UInt8) (s t : Host D) : Prop where
  length_eq : s.sendWindowLength peer.toNat = t.sendWindowLength peer.toNat
  start_eq : s.sendWindowStart peer.toNat = t.sendWindowStart peer.toNat
  frames_eq : Ring.AgreeOn cfg.windowSize SendWindowSlot.frame peer.toNat s.sendWindow t.sendWindow
  curr_eq : s.currSeqNum peer.toNat = t.currSeqNum peer.toNat
  cc_eq : s.cc peer.toNat = t.cc peer.toNat
  dup_eq : s.dupAcksSeqNum peer.toNat = t.dupAcksSeqNum peer.toNat
  out_eq : s.outgoingFramesHead.filter (·.dstId = peer) =
    t.outgoingFramesHead.filter (·.dstId = peer)

namespace SendAgree

variable {peer peer' : UInt8} {s t u : Host D}

theorem refl (peer : UInt8) (s : Host D) : SendAgree cfg peer s s :=
  ⟨rfl, rfl, .refl _ _ _ _, rfl, rfl, rfl, rfl⟩

theorem symm (h : SendAgree cfg peer s t) : SendAgree cfg peer t s :=
  ⟨h.length_eq.symm, h.start_eq.symm, h.frames_eq.symm, h.curr_eq.symm, h.cc_eq.symm,
    h.dup_eq.symm, h.out_eq.symm⟩

theorem trans (h : SendAgree cfg peer s t) (h' : SendAgree cfg peer t u) :
    SendAgree cfg peer s u :=
  ⟨h.length_eq.trans h'.length_eq, h.start_eq.trans h'.start_eq, h.frames_eq.trans h'.frames_eq,
    h.curr_eq.trans h'.curr_eq, h.cc_eq.trans h'.cc_eq, h.dup_eq.trans h'.dup_eq,
    h.out_eq.trans h'.out_eq⟩

/-! What is done for `peer` in both states. -/

theorem length (h : SendAgree cfg peer s t) :
    cqGetLengthSend peer.toNat s = cqGetLengthSend peer.toNat t :=
  congrArg UInt8.toNat h.length_eq

theorem getFrame (h : SendAgree cfg peer s t) (i : ℕ) :
    (cqGetItemSend cfg peer.toNat i s).frame = (cqGetItemSend cfg peer.toNat i t).frame := by
  unfold cqGetItemSend cqSlotSend
  rw [h.start_eq]
  exact h.frames_eq.slot cfg.windowSize_pos _ i

theorem derefFrame (h : SendAgree cfg peer s t) (i : ℕ) :
    (cqGetItemSend cfg peer.toNat i s).derefFrame =
      (cqGetItemSend cfg peer.toNat i t).derefFrame := by
  unfold SendWindowSlot.derefFrame
  rw [h.getFrame]

theorem findSeqNum (h : SendAgree cfg peer s t) (seqNum : UInt8) (is : List ℕ) :
    findSeqNum cfg peer.toNat seqNum s is = findSeqNum cfg peer.toNat seqNum t is := by
  induction is with
  | nil => rfl
  | cons i is ih => rw [Tcp.findSeqNum, Tcp.findSeqNum, ih, h.derefFrame]

theorem setTimeout (h : SendAgree cfg peer s t) (i : ℕ) (timeout timeout' : Option TimeVal) :
    SendAgree cfg peer (setTimeout cfg peer.toNat i timeout s)
      (setTimeout cfg peer.toNat i timeout' t) := by
  refine ⟨h.length_eq, h.start_eq, ?_, h.curr_eq, h.cc_eq, h.dup_eq, h.out_eq⟩
  have hframe := h.getFrame i
  unfold Tcp.setTimeout cqSlotSend
  rw [h.start_eq]
  exact h.frames_eq.update _ hframe

theorem setCc (h : SendAgree cfg peer s t) (cc : CongestionControl D) :
    SendAgree cfg peer (setCc peer.toNat cc s) (setCc peer.toNat cc t) := by
  refine ⟨h.length_eq, h.start_eq, h.frames_eq, h.curr_eq, ?_, h.dup_eq, h.out_eq⟩
  simp only [Tcp.setCc, Function.update_self]

theorem dequeue (h : SendAgree cfg peer s t) (n : ℕ) :
    SendAgree cfg peer (cqNdequeueSend cfg peer.toNat n s)
      (cqNdequeueSend cfg peer.toNat n t) := by
  rw [cqNdequeueSend_eq, cqNdequeueSend_eq]
  refine ⟨?_, ?_, ?_, h.curr_eq, h.cc_eq, h.dup_eq, h.out_eq⟩
  · simp only [Function.update_self, h.length, h.length_eq]
  · simp only [Function.update_self, h.length, h.start_eq]
  · simp only [h.length, h.start_eq]
    exact h.frames_eq.clear _ _ _ _

/-- The clock and the history do not matter. -/
theorem relog (h : SendAgree cfg peer s t) (ticks ticks' : ℕ) (latest latest' : TimeVal)
    (log log' : HostLog) :
    SendAgree cfg peer { s with ticks := ticks, latestTimeout := latest, log := log }
      { t with ticks := ticks', latestTimeout := latest', log := log' } :=
  ⟨h.length_eq, h.start_eq, h.frames_eq, h.curr_eq, h.cc_eq, h.dup_eq, h.out_eq⟩

theorem send (h : SendAgree cfg peer s t) (frame : Frame) :
    SendAgree cfg peer { s with outgoingFramesHead := s.outgoingFramesHead ++ [frame] }
      { t with outgoingFramesHead := t.outgoingFramesHead ++ [frame] } := by
  refine ⟨h.length_eq, h.start_eq, h.frames_eq, h.curr_eq, h.cc_eq, h.dup_eq, ?_⟩
  rw [List.filter_append, List.filter_append, h.out_eq]

theorem retransmitFrame (h : SendAgree cfg peer s t) {seqNum : UInt8} {s' : Host D}
    (hs : retransmitFrame cfg peer seqNum s = .ok s') :
    ∃ t', Tcp.retransmitFrame cfg peer seqNum t = .ok t' ∧ SendAgree cfg peer s' t' := by
  unfold Tcp.retransmitFrame gettimeofday at hs ⊢
  simp only at hs ⊢
  generalize timevalUsecplus (afterLatestTimeout (s.env.clock s.ticks) s.latestTimeout)
    10000 = latest at hs
  generalize timevalUsecplus (afterLatestTimeout (s.env.clock s.ticks) s.latestTimeout)
    timeoutIntervalUsec = timeout at hs
  generalize timevalUsecplus (afterLatestTimeout (t.env.clock t.ticks) t.latestTimeout)
    10000 = latest'
  generalize timevalUsecplus (afterLatestTimeout (t.env.clock t.ticks) t.latestTimeout)
    timeoutIntervalUsec = timeout'
  have hclock := h.relog (s.ticks + 1) (t.ticks + 1) latest latest' s.log t.log
  rw [hclock.findSeqNum, hclock.length] at hs
  split at hs
  · cases hs
  · rename_i i frame _
    obtain rfl := Except.ok.inj hs
    exact ⟨_, rfl, ((h.send frame).relog _ _ _ _ _ _).setTimeout i _ _⟩
  · split at hs
    · cases hs
    · rename_i hlen
      obtain rfl := Except.ok.inj hs
      rw [if_neg hlen]
      exact ⟨_, rfl, (h.relog _ _ _ _ _ _).setTimeout _ _ _⟩

theorem dequeueAcked (h : SendAgree cfg peer s t) {seqNum : UInt8} {s' : Host D}
    (hs : dequeueAcked cfg peer seqNum s = .ok s') :
    ∃ t', Tcp.dequeueAcked cfg peer seqNum t = .ok t' ∧ SendAgree cfg peer s' t' := by
  unfold Tcp.dequeueAcked at hs ⊢
  rw [h.length, h.derefFrame, h.findSeqNum] at hs
  split at hs
  · rename_i hlen
    obtain rfl := Except.ok.inj hs
    rw [if_pos hlen]
    exact ⟨_, rfl, h⟩
  · rename_i hlen
    rw [if_neg hlen]
    split at hs
    · cases hs
    · split at hs
      · rename_i hold
        obtain rfl := Except.ok.inj hs
        rw [if_pos hold]
        exact ⟨_, rfl, h⟩
      · rename_i hold
        rw [if_neg hold]
        split at hs
        · cases hs
        · obtain rfl := Except.ok.inj hs
          exact ⟨_, rfl, h⟩
        · rename_i j _ _
          obtain rfl := Except.ok.inj hs
          exact ⟨_, rfl, h.dequeue (j + 1)⟩

variable [CDouble D]

omit [CDouble D] in
theorem control_eq (h : SendAgree cfg peer s t) :
    s.control peer.toNat = t.control peer.toNat := Control.ext h.dup_eq h.cc_eq

theorem updateDupAcks (h : SendAgree cfg peer s t) (seqNum : UInt8) :
    SendAgree cfg peer (updateDupAcks peer seqNum s) (updateDupAcks peer seqNum t) := by
  rw [updateDupAcks_eq, updateDupAcks_eq, h.control_eq]
  refine SendAgree.setCc ?_ _
  refine ⟨h.length_eq, h.start_eq, h.frames_eq, h.curr_eq, h.cc_eq, ?_, h.out_eq⟩
  simp only [Function.update_self]

theorem updateCc (h : SendAgree cfg peer s t) {seqNum : UInt8} {s' : Host D}
    (hs : updateCc cfg peer seqNum s = .ok s') :
    ∃ t', Tcp.updateCc cfg peer seqNum t = .ok t' ∧ SendAgree cfg peer s' t' := by
  rw [updateCc_eq, h.control_eq, h.cc_eq] at hs
  rw [updateCc_eq]
  split at hs
  · rename_i hthird
    rw [if_pos hthird]
    exact (h.setCc _).retransmitFrame hs
  · rename_i hthird
    obtain rfl := Except.ok.inj hs
    rw [if_neg hthird]
    exact ⟨_, rfl, h.setCc _⟩

theorem handleAck {frame : Frame} (h : SendAgree cfg frame.srcId s t) {s' : Host D}
    (hs : handleAck cfg frame s = .ok s') :
    ∃ t', Tcp.handleAck cfg frame t = .ok t' ∧ SendAgree cfg frame.srcId s' t' := by
  unfold Tcp.handleAck at hs ⊢
  split at hs
  · cases hs
  · rename_i s₁ hcc
    obtain ⟨t₁, hcc', h₁⟩ := (h.updateDupAcks frame.seqNum).updateCc hcc
    rw [hcc']
    exact h₁.dequeueAcked hs

/-! What is done for another peer. -/

omit [CDouble D] in
theorem setTimeout_of_ne {id : ℕ} (hne : peer.toNat ≠ id) (i : ℕ) (timeout : Option TimeVal)
    (s : Host D) : SendAgree cfg peer (Tcp.setTimeout cfg id i timeout s) s :=
  ⟨rfl, rfl, (Ring.AgreeOn.refl _ _ _ _).update_of_ne cfg.windowSize_pos hne _ _ _, rfl, rfl, rfl,
    rfl⟩

omit [CDouble D] in
theorem setCc_of_ne {id : ℕ} (hne : peer.toNat ≠ id) (cc : CongestionControl D) (s : Host D) :
    SendAgree cfg peer (Tcp.setCc id cc s) s :=
  ⟨rfl, rfl, .refl _ _ _ _, rfl, Function.update_of_ne hne _ _, rfl, rfl⟩

omit [CDouble D] in
theorem retransmitFrame_of_ne (hne : peer ≠ peer') {seqNum : UInt8} {s' : Host D}
    (hown : OwnWindows cfg s) (hs : Tcp.retransmitFrame cfg peer' seqNum s = .ok s') :
    SendAgree cfg peer s' s := by
  have hne' : peer.toNat ≠ peer'.toNat := fun h => hne (UInt8.toNat_inj.mp h)
  obtain ⟨now, latest, timeout, -, -, -, ⟨i, frame, -, hframe, -, rfl⟩ | ⟨-, -, rfl⟩⟩ :=
    retransmitFrame_cases hs
  · refine (setTimeout_of_ne hne' i _ _).trans ⟨rfl, rfl, .refl _ _ _ _, rfl, rfl, rfl, ?_⟩
    have hdst : frame.dstId ≠ peer := by
      rintro rfl
      have hslot := hown _ frame hframe
      rw [cqSlotSend, ← Ring.slot, Ring.slot_div cfg.windowSize_pos] at hslot
      exact hne' hslot
    rw [List.filter_append, List.filter_cons_of_neg (by simpa using hdst), List.filter_nil,
      List.append_nil]
  · exact (setTimeout_of_ne hne' _ _ _).trans ⟨rfl, rfl, .refl _ _ _ _, rfl, rfl, rfl, rfl⟩

omit [CDouble D] in
theorem dequeueAcked_of_ne (hne : peer ≠ peer') {seqNum : UInt8} {s' : Host D}
    (hs : Tcp.dequeueAcked cfg peer' seqNum s = .ok s') : SendAgree cfg peer s' s := by
  have hne' : peer.toNat ≠ peer'.toNat := fun h => hne (UInt8.toNat_inj.mp h)
  rcases dequeueAcked_cases hs with rfl | ⟨n, rfl⟩
  · exact refl peer s'
  · rw [cqNdequeueSend_eq]
    exact ⟨Function.update_of_ne hne' _ _, Function.update_of_ne hne' _ _,
      (Ring.AgreeOn.refl _ _ _ _).clear_of_ne cfg.windowSize_pos hne' _ _ _, rfl, rfl, rfl, rfl⟩

theorem updateDupAcks_of_ne (hne : peer ≠ peer') (seqNum : UInt8) (s : Host D) :
    SendAgree cfg peer (Tcp.updateDupAcks peer' seqNum s) s := by
  have hne' : peer.toNat ≠ peer'.toNat := fun h => hne (UInt8.toNat_inj.mp h)
  rw [updateDupAcks_eq]
  refine (setCc_of_ne hne' _ _).trans ?_
  exact ⟨rfl, rfl, .refl _ _ _ _, rfl, rfl, Function.update_of_ne hne' _ _, rfl⟩

theorem updateCc_of_ne (hne : peer ≠ peer') {seqNum : UInt8} {s' : Host D}
    (hown : OwnWindows cfg s) (hs : Tcp.updateCc cfg peer' seqNum s = .ok s') :
    SendAgree cfg peer s' s := by
  have hne' : peer.toNat ≠ peer'.toNat := fun h => hne (UInt8.toNat_inj.mp h)
  rw [updateCc_eq] at hs
  split at hs
  · refine (retransmitFrame_of_ne hne ?_ hs).trans (setCc_of_ne hne' _ s)
    exact hown
  · obtain rfl := Except.ok.inj hs
    exact setCc_of_ne hne' _ s

end SendAgree

theorem OwnWindows.congr {host host' : Host D} (h : OwnWindows cfg host)
    (hframes : ∀ j, (host'.sendWindow j).frame = (host.sendWindow j).frame) :
    OwnWindows cfg host' :=
  fun j frame hj => h j frame ((hframes j).symm.trans hj)

/-- A frame goes into the window for its receiver. -/
theorem SenderMove.ownWindows {host host' : Host D} (h : SenderMove cfg host host')
    (hown : OwnWindows cfg host) : OwnWindows cfg host' := by
  cases h with
  | resends host' sent h => exact hown.congr h.frames
  | dequeue id n =>
    rw [cqNdequeueSend_eq]
    intro j frame hj
    rcases Ring.clear_apply cfg.windowSize host.sendWindow id
      (host.sendWindowStart id).toNat (min n (cqGetLengthSend id host)) .empty j with h | h
    · exact absurd ((congrArg SendWindowSlot.frame h).symm.trans hj)
        (by simp [SendWindowSlot.empty])
    · exact hown j frame (h ▸ hj)
  | send frame hframe sent timeout =>
    unfold cqAppendItemSend
    split
    · exact hown
    · intro j frame' hj
      simp only [Function.update_apply] at hj
      split at hj
      · rename_i hslot
        rw [hslot, ← Option.some.inj hj, cqSlotSend, ← Ring.slot,
          Ring.slot_div cfg.windowSize_pos]
      · exact hown j frame' hj
  | backlog frames hframes latestTimeout => exact hown

theorem SenderMoves.ownWindows {host host' : Host D} (h : SenderMoves cfg host host')
    (hown : OwnWindows cfg host) : OwnWindows cfg host' := by
  induction h with
  | refl => exact hown
  | tail _ hmove ih => exact hmove.ownWindows ih

variable [CDouble D]

theorem SendAgree.handleAck_of_ne {peer : UInt8} {frame : Frame} {s s' : Host D}
    (hne : peer ≠ frame.srcId) (hown : OwnWindows cfg s) (hs : Tcp.handleAck cfg frame s = .ok s') :
    SendAgree cfg peer s' s := by
  unfold Tcp.handleAck at hs
  split at hs
  · cases hs
  · rename_i s₁ hcc
    have hresends : Resends cfg [] s (Tcp.updateDupAcks frame.srcId frame.seqNum s) :=
      updateDupAcks_resends frame.srcId frame.seqNum s
    have hown' := hown.congr hresends.frames
    exact ((dequeueAcked_of_ne hne hs).trans (updateCc_of_ne hne hown' hcc)).trans
      (updateDupAcks_of_ne hne frame.seqNum s)

variable (cfg) in
/-- The body of the loop of `handle_incoming_acks`. -/
def ackStep (host : Host D) (frame : Frame) : Except Fault (Host D) :=
  if frameValid frame = true ∧ frame.isAck ≠ 0 then handleAck cfg frame host else .ok host

/-- The valid data frames, which `handle_incoming_acks` leaves in the list. -/
def dataFrames (frames : List Frame) : List Frame :=
  frames.filter fun frame => frameValid frame && decide (frame.isAck = 0)

theorem handleIncomingAcksLoop_eq (kept frames : List Frame) (host : Host D) :
    handleIncomingAcksLoop cfg kept frames host =
      (frames.foldlM (ackStep cfg) host).map
        fun host => { host with incomingFramesHead := kept ++ dataFrames frames } := by
  induction frames generalizing kept host with
  | nil =>
    rw [handleIncomingAcksLoop, dataFrames, List.filter_nil, List.append_nil]
    rfl
  | cons frame frames ih =>
    rw [handleIncomingAcksLoop, List.foldlM_cons]
    by_cases hvalid : frameValid frame = false
    · have hdata : dataFrames (frame :: frames) = dataFrames frames :=
        List.filter_cons_of_neg (by simp [hvalid])
      rw [if_pos hvalid, ackStep, if_neg (by simp [hvalid]), hdata, ih]
      rfl
    · by_cases hack : frame.isAck = 0
      · have hdata : dataFrames (frame :: frames) = frame :: dataFrames frames :=
          List.filter_cons_of_pos (by simpa [hack] using hvalid)
        rw [if_neg hvalid, if_pos hack, ackStep, if_neg (fun h => h.2 hack), hdata, ih,
          List.append_assoc]
        rfl
      · have hdata : dataFrames (frame :: frames) = dataFrames frames :=
          List.filter_cons_of_neg (by simp [hack])
        rw [if_neg hvalid, if_neg hack, ackStep, if_pos ⟨by simpa using hvalid, hack⟩, hdata]
        cases handleAck cfg frame host with
        | error e => rfl
        | ok host₁ => exact ih kept host₁

variable (cfg) in
/-- The sender keeps its peers apart. -/
theorem separated_ackStep :
    Separated (fun peer s t => OwnWindows cfg s ∧ OwnWindows cfg t ∧ SendAgree cfg peer s t)
      Frame.srcId (ackStep (D := D) cfg) where
  symm := fun ⟨hs, ht, h⟩ => ⟨ht, hs, h.symm⟩
  trans := fun ⟨hs, _, h⟩ ⟨_, hu, h'⟩ => ⟨hs, hu, h.trans h'⟩
  own := by
    rintro frame s t s' ⟨hs, ht, h⟩ hstep
    unfold ackStep at hstep ⊢
    split at hstep
    · rename_i hack
      obtain ⟨t', ht', h'⟩ := h.handleAck hstep
      rw [if_pos hack]
      exact ⟨t', ht', (handleAck_moves hstep).ownWindows hs, (handleAck_moves ht').ownWindows ht,
        h'⟩
    · rename_i hack
      obtain rfl := Except.ok.inj hstep
      rw [if_neg hack]
      exact ⟨t, rfl, hs, ht, h⟩
  other := by
    rintro frame s t s' peer hne ⟨hs, ht, h⟩ hstep
    unfold ackStep at hstep
    split at hstep
    · refine ⟨(handleAck_moves hstep).ownWindows hs, ht, ?_⟩
      exact (SendAgree.handleAck_of_ne hne hs hstep).trans h
    · obtain rfl := Except.ok.inj hstep
      exact ⟨hs, ht, h⟩

/-! ## Reachable states -/

variable (cfg) in
/-- The states of a host that are reached from `init_host`, whatever is read from the input, comes
in from the switch and is taken by it, and in whatever order the handlers are called. -/
inductive HostReachable : Host D → Prop
  | initHost (id : ℕ) (env : HostEnv) : HostReachable (initHost cfg id env)
  | input {host : Host D} (h : HostReachable host) (cmds : List Cmd) :
      HostReachable { host with inputCmdlistHead := host.inputCmdlistHead ++ cmds }
  | deliver {host : Host D} (h : HostReachable host) (frames : List Frame) :
      HostReachable { host with incomingFramesHead := host.incomingFramesHead ++ frames }
  | collect {host : Host D} (h : HostReachable host) (frames : List Frame) :
      HostReachable { host with outgoingFramesHead := frames }
  | handleInputCmds {host : Host D} (h : HostReachable host) :
      HostReachable (handleInputCmds host)
  | handleIncomingAcks {host host' : Host D} (h : HostReachable host)
      (hrun : handleIncomingAcks cfg host = .ok host') : HostReachable host'
  | handleTimedoutFrames {host : Host D} (h : HostReachable host) (currTimeval : TimeVal) :
      HostReachable (handleTimedoutFrames cfg currTimeval host)
  | handleOutgoingFrames {host host' : Host D} (h : HostReachable host) (currTimeval : TimeVal)
      (hrun : handleOutgoingFrames cfg currTimeval host = .ok host') : HostReachable host'
  | runSender {host host' : Host D} (h : HostReachable host)
      (hrun : runSender cfg host = .ok host') : HostReachable host'
  | handleIncomingFrames {host : Host D} (h : HostReachable host) :
      HostReachable (handleIncomingFrames cfg host)

namespace OwnWindows

variable {host host' : Host D}

omit [CDouble D] in
theorem handleInputCmds (h : OwnWindows cfg host) : OwnWindows cfg (handleInputCmds host) := by
  obtain ⟨frames, hcreates, -⟩ := handleInputCmds_creates host
  obtain ⟨_, _, heq⟩ := hcreates.eq
  rw [heq]
  exact h

theorem handleIncomingAcks (h : OwnWindows cfg host)
    (hrun : handleIncomingAcks cfg host = .ok host') : OwnWindows cfg host' := by
  obtain ⟨host₁, hmoves, rfl⟩ := handleIncomingAcksLoop_moves hrun
  exact hmoves.ownWindows h

theorem runSender (h : OwnWindows cfg host) (hrun : runSender cfg host = .ok host') :
    OwnWindows cfg host' := by
  rcases runSender_cases hrun with ⟨-, rfl⟩ | ⟨host₁, hround, rfl⟩
  · exact h
  · obtain ⟨host₂, hmoves, hmoves'⟩ := sendRound_moves hround
    refine hmoves'.ownWindows (hmoves.ownWindows (handleInputCmds ?_))
    exact h

omit [CDouble D] in
theorem handleIncomingFrames (h : OwnWindows cfg host) :
    OwnWindows cfg (handleIncomingFrames cfg host) := by
  obtain ⟨_, _, _, _, _, _, _, _, _, heq⟩ := handleIncomingFrames_eq cfg host
  rw [heq]
  exact h

end OwnWindows

theorem HostReachable.ownWindows {host : Host D} (h : HostReachable cfg host) :
    OwnWindows cfg host := by
  induction h with
  | initHost id env => exact fun j frame hj => absurd hj (Option.some_ne_none frame).symm
  | input h cmds ih => exact ih
  | deliver h frames ih => exact ih
  | collect h frames ih => exact ih
  | handleInputCmds h ih => exact ih.handleInputCmds
  | handleIncomingAcks h hrun ih => exact ih.handleIncomingAcks hrun
  | handleTimedoutFrames h currTimeval ih =>
    exact ih.congr (handleTimedoutFrames_resends currTimeval _).frames
  | handleOutgoingFrames h currTimeval hrun ih =>
    exact (handleOutgoingFrames_moves hrun).ownWindows ih
  | runSender h hrun ih => exact ih.runSender hrun
  | handleIncomingFrames h ih => exact ih.handleIncomingFrames

/-- **Peers do not influence each other**: if two lists of incoming frames have the same frames from
each source in the same order, `handle_incoming_frames` leaves the same receiver of each source,
with the same ACKs to it, and `handle_incoming_acks` the same sender to each source. -/
theorem peers_independent (host : Host D) (hreach : HostReachable cfg host)
    (frames frames' : List Frame)
    (hframes : ∀ peer : UInt8, frames.filter (·.srcId = peer) = frames'.filter (·.srcId = peer)) :
    (∀ peer, RecvAgree cfg peer
      (handleIncomingFrames cfg { host with incomingFramesHead := frames })
      (handleIncomingFrames cfg { host with incomingFramesHead := frames' })) ∧
    ∀ host₁, handleIncomingAcks cfg { host with incomingFramesHead := frames } = .ok host₁ →
      ∃ host₂, handleIncomingAcks cfg { host with incomingFramesHead := frames' } = .ok host₂ ∧
        ∀ peer, SendAgree cfg peer host₁ host₂ := by
  have hown := hreach.ownWindows
  constructor
  · have hpure (frames : List Frame) (host : Host D) :
        frames.foldlM (fun host frame => (.ok (handleFrame cfg host frame) : Except Fault (Host D)))
          host = .ok (frames.foldl (handleFrame cfg) host) := by
      induction frames generalizing host with
      | nil => rfl
      | cons frame frames ih => exact ih _
    obtain ⟨host₂, hhost₂, hagree⟩ := (separated_handleFrame cfg).interleave hframes
      (fun peer => RecvAgree.refl peer { host with incomingFramesHead := [] }) (hpure frames _)
    obtain rfl := Except.ok.inj ((hpure frames' _).symm.trans hhost₂)
    exact hagree
  · intro host₁ hrun
    unfold handleIncomingAcks at hrun ⊢
    rw [handleIncomingAcksLoop_eq] at hrun ⊢
    cases hfold : frames.foldlM (ackStep cfg) { host with incomingFramesHead := frames } with
    | error e =>
      rw [hfold] at hrun
      cases hrun
    | ok host₁' =>
      rw [hfold] at hrun
      obtain rfl := Except.ok.inj hrun
      have hstart (peer : UInt8) : OwnWindows cfg { host with incomingFramesHead := frames } ∧
          OwnWindows cfg { host with incomingFramesHead := frames' } ∧
            SendAgree cfg peer { host with incomingFramesHead := frames }
              { host with incomingFramesHead := frames' } :=
        ⟨hown, hown, rfl, rfl, .refl _ _ _ _, rfl, rfl, rfl, rfl⟩
      obtain ⟨host₂, hhost₂, hagree⟩ := (separated_ackStep cfg).interleave hframes hstart hfold
      rw [hhost₂]
      refine ⟨_, rfl, fun peer => ?_⟩
      obtain ⟨-, -, h⟩ := hagree peer
      exact ⟨h.length_eq, h.start_eq, h.frames_eq, h.curr_eq, h.cc_eq, h.dup_eq, h.out_eq⟩

set_option maxRecDepth 100000 in
/-- A data frame and an ACK from each of the hosts 1 and 2, in two orders. -/
theorem peers_independent_swap :
    let frame (srcId isAck : UInt8) :=
      setChecksum { Frame.zero with srcId := srcId, isAck := isAck }
    let host (frames : List Frame) : Host ℚ :=
      { initHost ccBasicConfig 0 .still with incomingFramesHead := frames }
    let frames := [frame 1 0, frame 1 1, frame 2 0, frame 2 1]
    let frames' := [frame 2 0, frame 1 0, frame 2 1, frame 1 1]
    (∀ peer, RecvAgree ccBasicConfig peer (handleIncomingFrames ccBasicConfig (host frames))
      (handleIncomingFrames ccBasicConfig (host frames'))) ∧
    ∃ host₁, handleIncomingAcks ccBasicConfig (host frames) = .ok host₁ ∧
      ∃ host₂, handleIncomingAcks ccBasicConfig (host frames') = .ok host₂ ∧
        ∀ peer, SendAgree ccBasicConfig peer host₁ host₂ := by
  intro frame host frames frames'
  have hframes (peer : UInt8) :
      frames.filter (·.srcId = peer) = frames'.filter (·.srcId = peer) := by
    have hsrc (srcId isAck : UInt8) : (frame srcId isAck).srcId = srcId := rfl
    simp only [frames, frames', List.filter_cons, hsrc, List.filter_nil]
    by_cases hone : 1 = peer
    · subst hone
      simp
    · simp [hone]
  obtain ⟨hrecv, hsend⟩ := peers_independent (initHost ccBasicConfig 0 .still) (.initHost 0 .still)
    frames frames' hframes
  obtain ⟨host₁, hhost₁⟩ := exists_of_isOk
    (by decide +kernel : (handleIncomingAcks ccBasicConfig (host frames)).isOk = true)
  exact ⟨hrecv, host₁, hhost₁, hsend host₁ hhost₁⟩

end NetworkSim.Tcp
