import NetworkSim.Tcp.CongestionControl

/-!
# Fast retransmit

The third duplicate of an ACK is meant to start fast recovery and to send the oldest frame again.
The arm of the `else if` chain that does so comes after the one for slow start, which fires on the
state alone; so in slow start nothing is sent again, and in congestion avoidance the frame sent is
the one after the ACK (`fastRetransmits_iff`). That is the oldest one in every run with valid ACKs
and windows of at most 127 frames (`SenderRun.notesLatest`).
-/

namespace NetworkSim.Tcp

open CDouble

variable {D : Type} [CDouble D] {cfg : SysConfig D}

/-! ## The third duplicate -/

variable (cfg) in
/-- Handling the ACK `frame` starts fast recovery and sends `first` again. -/
def FastRetransmits (frame first : Frame) (host : Host D) : Prop :=
  ∃ host', handleAck cfg frame host = .ok host' ∧
    (host'.cc frame.srcId.toNat).state = .frft ∧
    (host'.cc frame.srcId.toNat).ssthresh =
      CDouble.max (div (host.cc frame.srcId.toNat).cwnd (ofInt 2)) (ofInt 2) ∧
    (host'.cc frame.srcId.toNat).cwnd =
      add (host'.cc frame.srcId.toNat).ssthresh (ofInt 3) ∧
    host'.outgoingFramesHead = host.outgoingFramesHead ++ [first]

/-- The entries after the third duplicate. -/
theorem ack_third {c : Control D} {seqNum : UInt8} (hsame : c.dupAcksSeqNum = seqNum)
    (hdup : c.cc.dupAcks = 2) (hstate : c.cc.state = .aimd) :
    (c.ack seqNum).cc =
      { c.cc with
        state := .frft
        ssthresh := CDouble.max (div c.cc.cwnd (ofInt 2)) (ofInt 2)
        cwnd := add (CDouble.max (div c.cc.cwnd (ofInt 2)) (ofInt 2)) (ofInt 3)
        dupAcks := 3 } := by
  have hthree : (2 : UInt8) + 1 = 3 := rfl
  have hne : (3 : UInt8) ≠ 0 := by decide
  simp only [Control.ack, Control.updateCc, Control.updateDupAcks, countDuplicate, hsame, hdup,
    hstate, hthree, hne, seqNumDiff_self, lt_irrefl, if_false, if_true, reduceCtorEq, and_false,
    ne_eq, not_false_eq_true, and_self]

/-- Slow start does not end in fast recovery. -/
theorem ack_slowStart {c : Control D} (hstate : c.cc.state = .ss) (seqNum : UInt8) :
    (c.ack seqNum).cc.state ≠ .frft := by
  have hss : (c.updateDupAcks seqNum).cc.state = .ss := hstate
  rw [Control.ack, Control.updateCc]
  dsimp only
  rw [if_pos hss]
  dsimp only
  split <;> decide

theorem not_fastRetransmits_of_slowStart {frame first : Frame} {host : Host D}
    (hstate : (host.cc frame.srcId.toNat).state = .ss) :
    ¬ FastRetransmits cfg frame first host := by
  rintro ⟨host', hack, hfrft, -⟩
  refine ack_slowStart (c := host.control frame.srcId.toNat) hstate frame.seqNum ?_
  rw [← (handleAck_control hack frame.srcId.toNat).trans (if_pos rfl)]
  exact hfrft

/-- The `else if` chain at the third duplicate is a call of `retransmit_frame`. -/
theorem updateCc_third {frame : Frame} {host : Host D}
    (hsame : host.dupAcksSeqNum frame.srcId.toNat = frame.seqNum)
    (hdup : (host.cc frame.srcId.toNat).dupAcks = 2)
    (hstate : (host.cc frame.srcId.toNat).state = .aimd) :
    updateCc cfg frame.srcId frame.seqNum (updateDupAcks frame.srcId frame.seqNum host) =
      retransmitFrame cfg frame.srcId (frame.seqNum + 1) (setCc frame.srcId.toNat
        ((host.control frame.srcId.toNat).ack frame.seqNum).cc host) := by
  have hthree : (2 : UInt8) + 1 = 3 := rfl
  rw [updateCc_duplicate cfg hsame, hdup, if_pos ⟨hstate, hthree⟩]

/-- **The third duplicate** does what it is meant to do in congestion avoidance, when the oldest
frame is the one after the ACK. -/
theorem fastRetransmits_iff {frame first : Frame} {rest : List Frame} {host : Host D}
    (hwin : winFrames cfg frame.srcId.toNat host = (first :: rest).map some)
    (hstate : (host.cc frame.srcId.toNat).state ≠ .frft)
    (hdup : (host.cc frame.srcId.toNat).dupAcks = 2)
    (hsame : host.dupAcksSeqNum frame.srcId.toNat = frame.seqNum) :
    FastRetransmits cfg frame first host ↔
      (host.cc frame.srcId.toNat).state = .aimd ∧ first.seqNum = frame.seqNum + 1 := by
  constructor
  · intro h
    have haimd : (host.cc frame.srcId.toNat).state = .aimd := by
      cases hcc : (host.cc frame.srcId.toNat).state with
      | ss => exact absurd h (not_fastRetransmits_of_slowStart hcc)
      | aimd => rfl
      | frft => exact absurd hcc hstate
    obtain ⟨host', hack, -, -, -, hout⟩ := h
    refine ⟨haimd, ?_⟩
    rw [handleAck, updateCc_third hsame hdup haimd] at hack
    split at hack
    · simp at hack
    · rename_i host₁ hretransmit
      have hsent : host'.outgoingFramesHead = host₁.outgoingFramesHead := by
        rcases dequeueAcked_cases hack with rfl | ⟨n, rfl⟩ <;> rfl
      rw [hsent] at hout
      obtain ⟨_, _, _, -, -, -, hcases⟩ := retransmitFrame_cases hretransmit
      rcases hcases with ⟨i, found, -, -, hseq, rfl⟩ | ⟨-, -, rfl⟩
      · have hsingle := List.append_cancel_left (show host.outgoingFramesHead ++ [found] =
          host.outgoingFramesHead ++ [first] from hout)
        rw [← List.singleton_inj.mp hsingle]
        exact hseq
      · exact absurd (show host.outgoingFramesHead = host.outgoingFramesHead ++ [first] from hout)
          (by simp)
  · rintro ⟨haimd, hseq⟩
    have hwin' : winFrames cfg frame.srcId.toNat (setCc frame.srcId.toNat
        ((host.control frame.srcId.toNat).ack frame.seqNum).cc host) =
          (first :: rest).map some := hwin
    have hfind : (first :: rest).findIdx? (fun f => decide (f.seqNum = frame.seqNum + 1)) =
        some 0 := by
      rw [List.findIdx?_cons, if_pos (decide_eq_true hseq)]
    obtain ⟨host₁, hretransmit, hout₁⟩ : ∃ host₁,
        retransmitFrame cfg frame.srcId (frame.seqNum + 1) (setCc frame.srcId.toNat
          ((host.control frame.srcId.toNat).ack frame.seqNum).cc host) = .ok host₁ ∧
        host₁.outgoingFramesHead = host.outgoingFramesHead ++ [first] := by
      obtain ⟨_, _, hretransmit⟩ := retransmitFrame_of_winFrames hwin' hfind rfl
      exact ⟨_, hretransmit, rfl⟩
    obtain ⟨sent, hsent⟩ := retransmitFrame_resends hretransmit
    obtain ⟨host', hdequeue⟩ : ∃ host', dequeueAcked cfg frame.srcId frame.seqNum host₁ =
        .ok host' := ⟨_, dequeueAcked_eq ((hsent.winFrames_eq _).trans hwin') frame.seqNum⟩
    have hhandle : handleAck cfg frame host = .ok host' := by
      rw [handleAck, updateCc_third hsame hdup haimd, hretransmit]
      exact hdequeue
    have hout : host'.outgoingFramesHead = host.outgoingFramesHead ++ [first] := by
      rw [← hout₁]
      rcases dequeueAcked_cases hdequeue with rfl | ⟨n, rfl⟩ <;> rfl
    have hcontrol := (handleAck_control hhandle frame.srcId.toNat).trans (if_pos rfl)
    have hcc := (congrArg Control.cc hcontrol).trans
      (ack_third (c := host.control frame.srcId.toNat) hsame hdup haimd)
    refine ⟨host', hhandle, congrArg CongestionControl.state hcc,
      congrArg CongestionControl.ssthresh hcc, ?_, hout⟩
    exact (congrArg CongestionControl.cwnd hcc).trans
      (congrArg (add · (ofInt 3)) (congrArg CongestionControl.ssthresh hcc).symm)

/-! ## Runs with valid ACKs -/

omit [CDouble D] in
/-- The position of the first frame of the window is that of the first one not acknowledged. -/
theorem SenderOk.slotPosition_eq {frames : List Frame} {host : Host D} {v : ℕ → SendView}
    (hok : SenderOk cfg frames host v) (r : ℕ) :
    slotPosition r 0 host = (v r).created.length - (v r).unacked.length := by
  rw [slotPosition, hok.length_window, (hok r).1.created, (hok r).1.backlog, SendView.unacked,
    List.length_append]
  omega

omit [CDouble D] in
/-- The frames of a window carry consecutive numbers. -/
theorem SenderOk.consecutive {frames : List Frame} {host : Host D} {v : ℕ → SendView}
    (hok : SenderOk cfg frames host v) (r : ℕ) :
    Consecutive (UInt8.ofNat (slotPosition r 0 host)) (v r).window := by
  obtain ⟨base, hle, hbase⟩ := (hok r).2.unacked_eq
  have hlen := congrArg List.length hbase
  rw [List.length_drop] at hlen
  intro k frame hk
  have hunacked : (v r).unacked[k]? = some frame := by
    rw [SendView.unacked, List.getElem?_append_left (List.getElem?_eq_some_iff.mp hk).1, hk]
  rw [hbase, List.getElem?_drop] at hunacked
  rw [(hok r).2.created_seqNum _ _ hunacked, hok.slotPosition_eq, ← UInt8.ofNat_add]
  congr 1
  omega

/-- As long as no ACK is handled, the first frame that is not acknowledged is the same. -/
theorem SendView.Steps.base_eq {W : ℕ} {v v' : SendView} (h : SendView.Steps W v v')
    (hacks : v'.acks = v.acks) :
    v'.created.length - v'.unacked.length = v.created.length - v.unacked.length := by
  obtain ⟨news, handled, k, hcreated, hhandled, hk, hunacked, hlast⟩ := h.unacked_eq
  have hnil : handled = [] := by
    have hlen := congrArg List.length hhandled
    rw [hacks, List.length_append] at hlen
    exact List.eq_nil_of_length_eq_zero (by omega)
  have hzero : k = 0 := by
    by_contra hpos
    obtain ⟨frame, -, hmem⟩ := hlast (Nat.pos_of_ne_zero hpos)
    rw [hnil] at hmem
    exact List.not_mem_nil hmem
  rw [hunacked, hcreated, hzero, List.drop_zero, List.length_append, List.length_append]
  omega

variable (cfg) in
/-- A host with nothing to handle has noted the number before the first frame of every window. -/
def NotesLatest (host : Host D) : Prop :=
  ∃ v, SenderOk cfg [] host v ∧ ∀ r, host.dupAcksSeqNum r = ackSeq (slotPosition r 0 host)

omit [CDouble D] in
/-- A handler that handles no ACK. -/
theorem NotesLatest.steps {host host' : Host D} (h : NotesLatest cfg host)
    (hsteps : ∀ v, SenderOk cfg [] host v → ∃ v',
      (∀ r, SendView.Steps cfg.windowSize (v r) (v' r)) ∧ SenderOk cfg [] host' v')
    (hcontrol : ∀ r, host'.dupAcksSeqNum r = host.dupAcksSeqNum r) : NotesLatest cfg host' := by
  obtain ⟨v, hok, hlatest⟩ := h
  obtain ⟨v', hv', hok'⟩ := hsteps v hok
  refine ⟨v', hok', fun r => ?_⟩
  have hacks : (v' r).acks = (v r).acks := (hok' r).1.acks.symm.trans (hok r).1.acks
  rw [hcontrol, hlatest, hok'.slotPosition_eq, (hv' r).base_eq hacks, ← hok.slotPosition_eq]

/-- What the handler of an ACK leaves alone. -/
theorem handleAck_same {frame : Frame} {host host' : Host D}
    (h : handleAck cfg frame host = .ok host') :
    host'.log.created = host.log.created ∧
      host'.bufferedOutframesHead = host.bufferedOutframesHead := by
  rw [handleAck] at h
  split at h
  · simp at h
  · rename_i host₁ hcc
    obtain ⟨sent, hsent⟩ := updateCc_resends hcc
    have hdup : Resends cfg [] host (updateDupAcks frame.srcId frame.seqNum host) :=
      updateDupAcks_resends frame.srcId frame.seqNum host
    have hsame : host₁.log.created = host.log.created ∧
        host₁.bufferedOutframesHead = host.bufferedOutframesHead := by
      obtain ⟨_, _, _, _, _, _, _, heq⟩ := (hdup.trans hsent).eq
      exact ⟨by rw [heq], by rw [heq]⟩
    rcases dequeueAcked_cases h with rfl | ⟨n, rfl⟩ <;> exact hsame

omit [CDouble D] in
/-- A valid ACK covers the frames that it names. -/
theorem covered_ackSeq {p k len : ℕ} (hk : k ≤ len) (hlen : len ≤ 127) :
    covered (UInt8.ofNat p) (ackSeq (p + k)) len = k := by
  have hsub : (ackSeq (p + k) - UInt8.ofNat p).toNat = (k + 255) % 256 := by
    have heq : ackSeq (p + k) = UInt8.ofNat p + UInt8.ofNat (k + 255) := by
      rw [ackSeq, ← UInt8.ofNat_add, add_assoc]
    rw [heq, UInt8.add_comm, UInt8.add_sub_cancel, toNat_ofNat]
  rw [covered, hsub]
  split <;> omega

/-- **A valid ACK** becomes the latest one. -/
theorem NotesLatest.handleAck (hW : cfg.windowSize ≤ 127) {frame : Frame} {host host' : Host D}
    (h : NotesLatest cfg host) (hvalid : ValidAck frame host)
    (hack : Tcp.handleAck cfg frame host = .ok host') : NotesLatest cfg host' := by
  obtain ⟨v, hok, hlatest⟩ := h
  obtain ⟨hframe, hisAck, k, hk, hseq⟩ := hvalid
  have hok₁ : SenderOk cfg [frame] host _ := hok.relist [frame] rfl (fun _ => rfl) rfl rfl
  obtain ⟨v', -, hok'⟩ := handleAck_steps (by omega) hok₁ hframe hisAck hack
  refine ⟨v', hok', fun r => ?_⟩
  have hwin := (hok frame.srcId.toNat).1.window
  have hlen := (hok frame.srcId.toNat).2.length_window
  have hlength := hok.length_window frame.srcId.toNat
  -- the ACK takes `k` frames out of the window
  have hcount : SendView.ackCount (v frame.srcId.toNat).window frame.seqNum = k := by
    rw [ackCount_consecutive (hok.consecutive _) (by omega), hseq]
    exact covered_ackSeq (by omega) (by omega)
  have hwindows := handleAck_windows (by omega) hwin hlen hack r
  rw [hcount] at hwindows
  obtain ⟨hcreated, hbacklog⟩ := handleAck_same hack
  have hdup := congrArg Control.dupAcksSeqNum (handleAck_control hack r)
  change host'.dupAcksSeqNum r = _ at hdup
  rw [hdup]
  by_cases hr : r = frame.srcId.toNat
  · subst hr
    rw [if_pos rfl] at hwindows ⊢
    have hposition : slotPosition frame.srcId.toNat 0 host' =
        slotPosition frame.srcId.toNat 0 host + k := by
      have hlength' := length_of_winFrames hwindows
      rw [List.length_drop] at hlength'
      obtain ⟨base, hle, hbase⟩ := (hok frame.srcId.toNat).2.unacked_eq
      have hunacked := congrArg List.length hbase
      rw [SendView.unacked, List.length_append, List.length_drop] at hunacked
      rw [slotPosition, slotPosition, hcreated, hbacklog, hlength', hlength,
        (hok _).1.created, (hok _).1.backlog]
      omega
    have hnewer : seqNumDiff (host.dupAcksSeqNum frame.srcId.toNat) frame.seqNum = k := by
      rw [hlatest, hseq, ackSeq, ackSeq, seqNumDiff_ofNat]
      · simp only [slotPosition]
        omega
      · simp only [slotPosition]
        omega
      · simp only [slotPosition]
        omega
    have hack' : ((host.control frame.srcId.toNat).ack frame.seqNum).dupAcksSeqNum =
        if 0 < seqNumDiff (host.dupAcksSeqNum frame.srcId.toNat) frame.seqNum then frame.seqNum
        else host.dupAcksSeqNum frame.srcId.toNat := rfl
    rw [hack', hnewer, hposition]
    split
    · exact hseq
    · have hzero : k = 0 := by omega
      rw [hzero, add_zero]
      exact hlatest _
  · rw [if_neg hr] at hwindows ⊢
    refine (hlatest r).trans (congrArg ackSeq ?_)
    have hlength' : cqGetLengthSend r host' = cqGetLengthSend r host := by
      rw [length_of_winFrames (hwindows.trans (hok r).1.window), hok.length_window]
    rw [slotPosition, slotPosition, hcreated, hbacklog, hlength']

/-- **In every run with valid ACKs** the latest one is noted. -/
theorem SenderRun.notesLatest (hW : cfg.windowSize ≤ 127) {id : ℕ} {env : HostEnv}
    {acks : List Frame} {host : Host D} (h : SenderRun cfg ValidAck id env acks host) :
    NotesLatest cfg host := by
  induction h with
  | start => exact ⟨_, senderOk_initHost id env, fun _ => rfl⟩
  | commands _ ih =>
    refine ih.steps (fun v hok => handleInputCmds_steps hok) fun r => ?_
    exact congrArg Control.dupAcksSeqNum (handleInputCmds_control _ r)
  | ack _ frame hP hack ih => exact ih.handleAck hW hP hack
  | @timeout acks host _ currTimeval ih =>
    refine ih.steps (fun v hok => handleTimedoutFrames_steps currTimeval hok) fun r => ?_
    obtain ⟨⟨_, _, heq, -⟩, -⟩ := @handleTimedoutFrames_spec _ cfg _ currTimeval host
    rw [heq]
  | send _ currTimeval hsend ih =>
    refine ih.steps (fun v hok => handleOutgoingFrames_steps (by omega) hok hsend) fun r => ?_
    exact congrArg Control.dupAcksSeqNum (handleOutgoingFrames_control hsend r)
  | turn _ _ _ _ _ _ ih =>
    obtain ⟨v, hok, hlatest⟩ := ih
    exact ⟨v, hok.of_eq rfl (fun _ => rfl) rfl rfl rfl, hlatest⟩
  | rest _ hsame ih =>
    obtain ⟨v, hok, hlatest⟩ := ih
    obtain ⟨_, _, _, _, _, _, _, _, _, _, _, rfl⟩ := hsame
    exact ⟨_, hok.relist [] rfl (fun _ => rfl) rfl rfl, hlatest⟩

/-- **The third duplicate ACK**, in a run with valid ACKs, triggers the fast retransmit of the
oldest frame exactly in congestion avoidance, when that frame is the one after the ACK; with a
window size of at most 127 it always is. -/
theorem third_duplicate_iff (cfg : SysConfig D) (id : ℕ) (env : HostEnv) (acks : List Frame)
    (host : Host D) (hrun : SenderRun cfg ValidAck id env acks host) (frame first : Frame)
    (rest : List Frame) (hwin : winFrames cfg frame.srcId.toNat host = (first :: rest).map some)
    (hstate : (host.cc frame.srcId.toNat).state ≠ .frft)
    (hdup : (host.cc frame.srcId.toNat).dupAcks = 2)
    (hsame : host.dupAcksSeqNum frame.srcId.toNat = frame.seqNum) :
    (FastRetransmits cfg frame first host ↔
      (host.cc frame.srcId.toNat).state = .aimd ∧ first.seqNum = frame.seqNum + 1) ∧
    (cfg.windowSize ≤ 127 → first.seqNum = frame.seqNum + 1) := by
  refine ⟨fastRetransmits_iff hwin hstate hdup hsame, fun hW => ?_⟩
  obtain ⟨v, hok, hlatest⟩ := hrun.notesLatest hW
  have hwindow : (v frame.srcId.toNat).window = first :: rest :=
    List.map_injective_iff.mpr (Option.some_injective Frame)
      ((hok _).1.window.symm.trans hwin)
  have hfirst := hok.consecutive frame.srcId.toNat 0 first (by rw [hwindow]; rfl)
  rw [hfirst, ← hsame, hlatest, ackSeq, ← ofNat_succ, add_assoc, UInt8.ofNat_add]
  rfl

set_option maxRecDepth 100000 in
/-- Two duplicates in such a run have ended slow start. -/
theorem third_duplicate_iff_aimd :
    ∃ first, FastRetransmits (lossyConfig 2 (by decide)) (ackOf 0) first
      (duplicated 2 (by decide) 2) := by
  obtain ⟨first, rest, hwin, hfirst⟩ := exists_window (n := 1) (m := 2)
    (show (winFrames (lossyConfig 2 (by decide)) 1 (duplicated 2 (by decide) 2)).map
      (Option.map (·.seqNum)) = [some 1, some 2] by decide +kernel)
  have hstart : SenderRun (lossyConfig 2 (by decide)) ValidAck 0 .still [ackOf 0]
      (othersSent 2 (by decide)) :=
    senderRun_othersSent (by decide +kernel) (by decide +kernel) (by decide +kernel)
      (by decide +kernel)
  have htwo := senderRun_duplicated hstart 2 (by decide +kernel)
  have hiff := third_duplicate_iff (lossyConfig 2 (by decide)) 0 .still _ _ htwo (ackOf 0) first
    rest hwin (by decide +kernel) (by decide +kernel) (by decide +kernel)
  exact ⟨first, hiff.1.mpr ⟨by decide +kernel, hiff.2 (by decide)⟩⟩

/-! ## Slow start -/

set_option maxRecDepth 100000 in
/-- **The third duplicate in slow start** sends nothing again. -/
theorem slow_start_ignores_third_duplicate :
    SenderRun (lossyConfig 8 (by decide)) ValidAck 0 .still (List.replicate 3 (ackOf 0))
        (duplicated 8 (by decide) 2) ∧
      ValidAck (ackOf 0) (duplicated 8 (by decide) 2) ∧
      ((duplicated 8 (by decide) 2).cc 1).state = .ss ∧
      ((duplicated 8 (by decide) 2).cc 1).dupAcks = 2 ∧
      (duplicated 8 (by decide) 2).dupAcksSeqNum 1 = 0 ∧
      cqGetLengthSend 1 (duplicated 8 (by decide) 2) = 2 ∧
      ∀ first, ¬ FastRetransmits (lossyConfig 8 (by decide)) (ackOf 0) first
        (duplicated 8 (by decide) 2) := by
  have hstart : SenderRun (lossyConfig 8 (by decide)) ValidAck 0 .still [ackOf 0]
      (othersSent 8 (by decide)) :=
    senderRun_othersSent (by decide +kernel) (by decide +kernel) (by decide +kernel)
      (by decide +kernel)
  have hss : ((duplicated 8 (by decide) 2).cc (ackOf 0).srcId.toNat).state = .ss := by
    decide +kernel
  exact ⟨senderRun_duplicated hstart 2 (by decide +kernel), by decide +kernel, by decide +kernel,
    by decide +kernel, by decide +kernel, by decide +kernel,
    fun first => not_fastRetransmits_of_slowStart hss⟩

end NetworkSim.Tcp
