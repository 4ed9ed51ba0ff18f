import NetworkSim.Tcp.Delivery

/-!
# A window that fills up

Host 0 is given a message of one byte for host 1 in every round; every data frame arrives, and every
ACK is corrupted on its way back. Each round then puts one more frame into the window of host 0
(`flood_round`), whatever the size of the window, and after `k` rounds the `k` frames in it have all
been appended at host 1 (`flood_run`). No timer expires, since the clocks stand still.
-/

namespace NetworkSim.Tcp

variable {D : Type} [CDouble D] {cfg : SysConfig D}

/-- A round in which host 0 is given a message of one byte for host 1, the data frame arrives and
the ACK frame is corrupted takes 21 values of `rand()`; the tenth one decides about the data
frame. -/
def lostAcksEnv : WorldEnv :=
  ⟨fun k => if k % 21 = 9 then 999 else 0, fun _ => [.scanned 4 "msg" 0 1 [97]]⟩

theorem handleIncomingAcksLoop_invalid {frames : List Frame}
    (h : ∀ frame ∈ frames, frameValid frame = false) (host : Host D) :
    handleIncomingAcksLoop cfg [] frames host = .ok { host with incomingFramesHead := [] } := by
  induction frames with
  | nil => rfl
  | cons frame frames ih =>
    have h' := List.forall_mem_cons.mp h
    rw [handleIncomingAcksLoop, if_pos h'.1, ih h'.2]

/-- Host 0 when `frames` are in the window for host 1, with timers that have not expired. -/
structure Flooder (cfg : SysConfig ℚ) (frames : List Frame) (host : Host ℚ) : Prop where
  id_eq : host.id = 0
  env : host.env = .still
  cwnd : (host.cc 1).cwnd = 1
  window : winFrames cfg 1 host = frames.map some
  timers : ∀ slot ∈ sendWin cfg 1 host, ∃ timeout, slot.timeout = some timeout ∧
    0 < timevalUsecdiff ⟨0, 0⟩ timeout

namespace Flooder

variable {W : ℕ} {hW : 0 < W} {frames : List Frame} {host : Host ℚ}

theorem length_window (h : Flooder (lossyConfig W hW) frames host) :
    cqGetLengthSend 1 host = frames.length := by
  have := congrArg List.length h.window
  rwa [winFrames, List.length_map, List.length_map, length_sendWin] at this

theorem getItem (h : Flooder (lossyConfig W hW) frames host) {i : ℕ} (hi : i < frames.length) :
    ∃ timeout, (cqGetItemSend (lossyConfig W hW) 1 i host).timeout = some timeout ∧
      0 < timevalUsecdiff ⟨0, 0⟩ timeout :=
  h.timers _ (List.mem_of_getElem? (getElem?_sendWin (by rwa [h.length_window])))

theorem handleTimedoutFrames (h : Flooder (lossyConfig W hW) frames host) :
    handleTimedoutFrames (lossyConfig W hW) ⟨0, 0⟩ host = host := by
  have hnone : (List.range (cqGetLengthSend 1 host)).any
      (fun j => timedOut ⟨0, 0⟩ (cqGetItemSend (lossyConfig W hW) 1 j host)) = false := by
    rw [List.any_eq_false]
    intro j hj
    rw [h.length_window, List.mem_range] at hj
    obtain ⟨timeout, htimeout, hlt⟩ := h.getItem hj
    rw [timedOut, htimeout]
    simp only [decide_eq_true_eq]
    omega
  have hself : handleTimedoutWindow (lossyConfig W hW) ⟨0, 0⟩ host 0 = host := by
    rw [handleTimedoutWindow, if_pos h.id_eq.symm]
  change handleTimedoutWindow _ _ (handleTimedoutWindow _ _ host 0) 1 = host
  rw [hself, handleTimedoutWindow, if_neg (by rw [h.id_eq]; decide), hnone]
  rfl

theorem resendLoop (h : Flooder (lossyConfig W hW) frames host) {is : List ℕ}
    (his : ∀ i ∈ is, i < frames.length) (framesPerRtt : ℤ) :
    resendLoop (lossyConfig W hW) 1 is framesPerRtt host = .ok (framesPerRtt, host) := by
  induction is with
  | nil => rfl
  | cons i is ih =>
    have his' := List.forall_mem_cons.mp his
    obtain ⟨timeout, htimeout, -⟩ := h.getItem his'.1
    rw [Tcp.resendLoop, if_neg (by simp [htimeout]), ih his'.2]

/-- A new frame is sent, since there is a place left in the window and no frame to be sent again. -/
theorem send (hW' : W ≤ 255) (h : Flooder (lossyConfig W hW) frames host)
    (hlen : frames.length < W) {frame : Frame}
    (hbacklog : host.bufferedOutframesHead = [frame]) (hdst : frame.dstId.toNat = 1) :
    ∃ host', handleOutgoingFrames (lossyConfig W hW) ⟨0, 0⟩
        (Tcp.handleTimedoutFrames (lossyConfig W hW) ⟨0, 0⟩ host) = .ok host' ∧
      Flooder (lossyConfig W hW) (frames ++ [frame]) host' ∧ host'.bufferedOutframesHead = [] ∧
      host'.outgoingFramesHead = host.outgoingFramesHead ++ [frame] ∧
      host'.inputCmdlistHead = host.inputCmdlistHead ∧
      host'.incomingFramesHead = host.incomingFramesHead ∧ host'.currSeqNum = host.currSeqNum ∧
      host'.log.created = host.log.created := by
  have hlt : cqGetLengthSend 1 host < (lossyConfig W hW).windowSize := by rwa [h.length_window]
  have hresend (framesPerRtt : ℕ → ℤ) :
      resendWindows (lossyConfig W hW) (List.range (lossyConfig W hW).numHosts) framesPerRtt host =
        .ok (framesPerRtt, host) := by
    change resendWindows _ [0, 1] _ _ = _
    rw [resendWindows, if_pos h.id_eq.symm, resendWindows, if_neg (by rw [h.id_eq]; decide),
      h.resendLoop fun i hi => by rwa [h.length_window, List.mem_range] at hi]
    simp only [resendWindows, Function.update_eq_self]
  have hbudget : CDouble.toInt (host.cc 1).cwnd = 1 := by
    rw [h.cwnd]
    rfl
  have hwin := @sendWin_cqAppendItemSend _ (lossyConfig W hW) hW' _ _ hlt frame
    (timevalUsecplus (afterLatestTimeout ⟨0, 0⟩ host.latestTimeout) (timeoutIntervalUsec + 0)) 1
  rw [if_pos rfl, cqAppendItemSend, if_neg hlt.ne] at hwin
  rw [h.handleTimedoutFrames]
  unfold handleOutgoingFrames
  simp only [hresend, hbacklog]
  rw [sendLoop, hdst, if_neg (not_or.mpr ⟨hlt.ne, by rw [hbudget]; decide⟩)]
  simp only [sendLoop, cqAppendItemSend]
  rw [if_neg (by exact hlt.ne)]
  refine ⟨_, rfl, ⟨h.id_eq, h.env, h.cwnd, ?_, ?_⟩, rfl, rfl, rfl, rfl, rfl, rfl⟩
  · refine (congrArg (List.map SendWindowSlot.frame) hwin).trans ?_
    rw [List.map_append, List.map_append]
    exact congrArg (· ++ [some frame]) h.window
  · intro slot hslot
    rcases List.mem_append.mp (hwin ▸ hslot) with hold | hnew
    · exact h.timers slot hold
    · rw [List.mem_singleton.mp hnew]
      refine ⟨_, rfl, ?_⟩
      rw [timevalUsecdiff_usecplus]
      have := timevalUsecdiff_afterLatestTimeout ⟨0, 0⟩ host.latestTimeout
      have : timeoutIntervalUsec = 100000 := rfl
      omega

end Flooder

/-- Host 0 between its turns. -/
structure FloodSender (cfg : SysConfig ℚ) (frames : List Frame) (host : Host ℚ) : Prop extends
    Flooder cfg frames host where
  cmds : host.inputCmdlistHead = []
  incoming : ∀ frame ∈ host.incomingFramesHead, frameValid frame = false
  backlog : host.bufferedOutframesHead = []
  outgoing : host.outgoingFramesHead = []
  curr : host.currSeqNum 1 = UInt8.ofNat frames.length
  created : framesFor 1 host.log.created = frames

/-- Host 1 between its turns. -/
structure FloodReceiver (cfg : SysConfig ℚ) (frames : List Frame) (host : Host ℚ) : Prop where
  id_eq : host.id = 1
  cmds : host.inputCmdlistHead = []
  incoming : host.incomingFramesHead = []
  outgoing : host.outgoingFramesHead = []
  length_window : cqGetLengthSend 0 host = 0
  view : recvView cfg 0 host =
    ⟨frames, ackSeq frames.length, List.replicate cfg.windowSize none⟩

/-- The frame that host 0 makes of a message when `n` frames were made before. -/
structure FloodFrame (n : ℕ) (frame : Frame) : Prop where
  data : IsDataFrame frame
  srcId : frame.srcId = 0
  dstId : frame.dstId = 1
  seqNum : frame.seqNum = UInt8.ofNat n

variable {W : ℕ} {hW : 0 < W} {frames : List Frame} {host : Host ℚ}

/-- A turn of host 0 with a new message of one byte, when all ACKs were corrupted. -/
theorem FloodSender.runSender (hW' : W ≤ 255) (h : FloodSender (lossyConfig W hW) frames host)
    (hlen : frames.length < W) :
    ∃ host' frame, runSender (lossyConfig W hW)
        { host with inputCmdlistHead := [⟨0, 1, [97]⟩] } = .ok host' ∧
      FloodFrame frames.length frame ∧ host'.outgoingFramesHead = [frame] ∧
      FloodSender (lossyConfig W hW) (frames ++ [frame])
        { host' with outgoingFramesHead := [] } := by
  obtain ⟨frame, -, hcreates, ⟨hsrc, hdst, -⟩, -⟩ := appendFragment_creates ⟨0, 1, [97]⟩ 2
    (show 2 ≤ 0 + framePayloadSize by decide)
    { host with
      ticks := host.ticks + 1
      roundTripNum := host.roundTripNum + 1
      csvOut := true
      inputCmdlistHead := [] }
  have hdata := hcreates.data frame List.mem_cons_self
  have hdst' : frame.dstId = 1 := hdst
  have hfor : framesFor 1 [frame] = [frame] := by
    rw [framesFor_cons, hdst']
    rfl
  have hseq := hcreates.seqNum 1 0 frame (by rw [hfor]; rfl)
  have hnext := hcreates.curr 1
  rw [hfor] at hnext
  obtain ⟨currSeqNum, mallocs, heq⟩ := hcreates.eq
  rw [heq] at hnext
  have hinput : handleInputCmds
      { host with
        ticks := host.ticks + 1
        roundTripNum := host.roundTripNum + 1
        csvOut := true
        inputCmdlistHead := [⟨0, 1, [97]⟩] } = _ := heq
  have hclock : host.env.clock host.ticks = ⟨0, 0⟩ := by
    rw [h.env]
    rfl
  obtain ⟨host₂, hok, h₂, hbacklog, hout, hcmds, hincoming, hcurr, hcreated⟩ :=
    @Flooder.send W hW frames
      { host with
        ticks := host.ticks + 1
        roundTripNum := host.roundTripNum + 1
        csvOut := true
        inputCmdlistHead := []
        incomingFramesHead := []
        currSeqNum := currSeqNum
        mallocs := mallocs
        bufferedOutframesHead := host.bufferedOutframesHead ++ [frame]
        log := { host.log with created := host.log.created ++ [frame] } } hW'
      ⟨h.id_eq, h.env, h.cwnd, h.window, h.timers⟩ hlen frame
      (congrArg (· ++ [frame]) h.backlog) (by rw [hdst']; rfl)
  refine ⟨updateActive (lossyConfig W hW) host₂, frame, ?_, ⟨hdata, hsrc, hdst', ?_⟩, ?_,
    ⟨h₂.id_eq, h₂.env, h₂.cwnd, h₂.window, h₂.timers⟩, hcmds, ?_, hbacklog, rfl, ?_, ?_⟩
  · have hacks : handleIncomingAcksLoop (lossyConfig W hW) [] host.incomingFramesHead = fun host =>
        .ok { host with incomingFramesHead := [] } :=
      funext fun _ => handleIncomingAcksLoop_invalid h.incoming _
    have hwakes : wakesUp (lossyConfig W hW) ⟨0, 0⟩
        { host with ticks := host.ticks + 1, inputCmdlistHead := [⟨0, 1, [97]⟩] } = true := rfl
    unfold Tcp.runSender
    simp only [gettimeofday, hclock, hwakes, if_true, sendRound, hinput, handleIncomingAcks, hacks]
    rw [hok]
  · rw [hseq]
    exact (UInt8.add_zero _).trans h.curr
  · refine hout.trans ?_
    simp only [h.outgoing, List.nil_append]
  · intro f hf
    change f ∈ host₂.incomingFramesHead at hf
    rw [hincoming] at hf
    exact absurd hf List.not_mem_nil
  · refine (congrFun hcurr 1).trans (hnext.trans ?_)
    rw [List.length_append, UInt8.ofNat_add]
    exact congrArg (· + _) h.curr
  · refine (congrArg (framesFor 1) hcreated).trans ?_
    simp only [framesFor_append, h.created, hfor]

/-- Host 1 has nothing to send. -/
theorem FloodReceiver.runSender (h : FloodReceiver (lossyConfig W hW) frames host) :
    ∃ host', runSender (lossyConfig W hW) host = .ok host' ∧
      FloodReceiver (lossyConfig W hW) frames host' := by
  have hnext (host : Host ℚ) (hid : host.id = 1) (hlen : cqGetLengthSend 0 host = 0) :
      hostGetNextExpiringTimeval (lossyConfig W hW) host = none := by
    change (if 1 = host.id then if 0 = host.id then none else
      List.foldl _ none (List.range (cqGetLengthSend 0 host)) else _) = none
    rw [if_pos hid.symm, if_neg (by rw [hid]; decide), hlen]
    rfl
  have hsleeps (now : TimeVal) :
      wakesUp (lossyConfig W hW) now { host with ticks := host.ticks + 1 } = false := by
    unfold wakesUp
    rw [hnext { host with ticks := host.ticks + 1 } h.id_eq h.length_window]
    simp [h.cmds, h.incoming]
  unfold Tcp.runSender
  simp only [gettimeofday, hsleeps, Bool.false_eq_true, if_false]
  exact ⟨_, rfl, h.id_eq, h.cmds, h.incoming, h.outgoing, h.length_window, h.view⟩

/-- The next frame expected is appended, and the window stays empty. -/
theorem RecvView.accept_next {n W : ℕ} (hW : 0 < W) (appended : List Frame) {frame : Frame}
    (hseq : frame.seqNum = UInt8.ofNat n) :
    RecvView.accept frame ⟨appended, ackSeq n, List.replicate W none⟩ =
      ⟨appended ++ [frame], ackSeq (n + 1), List.replicate W none⟩ := by
  obtain ⟨w, rfl⟩ := Nat.exists_eq_succ_of_ne_zero hW.ne'
  have hdiff : seqNumDiff (ackSeq n) frame.seqNum = 1 := by
    rw [hseq]
    rcases seqNumDiff_ackSeq (n := n) (k := n) (by omega) (by omega) with h | h <;> omega
  have hnext : ackSeq (n + 1) = ackSeq n + 1 := by
    unfold ackSeq
    rw [Nat.add_right_comm, ofNat_succ]
  rw [RecvView.accept]
  simp only [hdiff]
  rw [if_pos (by simp), RecvView.store, List.replicate_succ]
  change RecvView.advance ⟨appended, ackSeq n, some frame :: List.replicate w none⟩ = _
  rw [RecvView.advance_of_some rfl, ← List.replicate_succ', List.replicate_succ,
    RecvView.advance_of_none rfl, hnext]

/-- Host 1 receives the next frame and answers it. -/
theorem FloodReceiver.handleIncomingFrames (hW' : W ≤ 255)
    (h : FloodReceiver (lossyConfig W hW) frames host) {frame : Frame}
    (hframe : FloodFrame frames.length frame) :
    ∃ ack, (handleIncomingFrames (lossyConfig W hW)
        { host with incomingFramesHead := [frame] }).outgoingFramesHead = [ack] ∧
      frameValid ack = true ∧ ack.srcId = 1 ∧ ack.dstId = 0 ∧
      FloodReceiver (lossyConfig W hW) (frames ++ [frame])
        { handleIncomingFrames (lossyConfig W hW) { host with incomingFramesHead := [frame] } with
          outgoingFramesHead := [] } := by
  have hview := @recvView_handleFrame _ (lossyConfig W hW) hW'
    { host with incomingFramesHead := [] } frame 0
  rw [if_pos ⟨hframe.data.valid, by rw [hframe.srcId]; rfl⟩] at hview
  obtain ⟨_, _, _, _, _, _, _, ack, heq, hack⟩ := handleFrame_valid (lossyConfig W hW)
    hframe.data.valid { host with incomingFramesHead := [] }
  have hhandle : Tcp.handleIncomingFrames (lossyConfig W hW)
      { host with incomingFramesHead := [frame] } = _ := heq
  rw [heq] at hview
  rw [hhandle]
  refine ⟨ack, congrArg (· ++ [ack]) h.outgoing, hack.valid, ?_, ?_, h.id_eq, h.cmds, rfl, rfl,
    h.length_window, ?_⟩
  · rw [hack.srcId]
    exact congrArg UInt8.ofNat h.id_eq
  · rw [hack.dstId, hframe.srcId]
  · refine hview.trans ?_
    rw [List.length_append]
    exact (congrArg (RecvView.accept frame) h.view).trans
      (RecvView.accept_next hW frames hframe.seqNum)

/-- The global variables when `phase` values of `rand()` were taken in the round. -/
structure LossyWorld (sender receiver : Host ℚ) (phase : ℕ) (w : World ℚ) : Prop where
  sender : w.hosts 0 = sender
  receiver : w.hosts 1 = receiver
  env : w.env = lostAcksEnv
  rands : w.rands % 21 = phase
  ports : PortsEmpty w
  exitMain : w.exitMain = false

namespace LossyWorld

variable {sender receiver : Host ℚ} {phase : ℕ} {w : World ℚ}

theorem setSender (h : LossyWorld sender receiver phase w) (host : Host ℚ) :
    LossyWorld host receiver phase (setHost 0 host w) :=
  ⟨hosts_setHost 0 host w 0, (hosts_setHost 0 host w 1).trans h.receiver, h.env, h.rands, h.ports,
    h.exitMain⟩

theorem setReceiver (h : LossyWorld sender receiver phase w) (host : Host ℚ) :
    LossyWorld sender host phase (setHost 1 host w) :=
  ⟨(hosts_setHost 1 host w 0).trans h.sender, hosts_setHost 1 host w 1, h.env, h.rands, h.ports,
    h.exitMain⟩

theorem rand_eq (h : LossyWorld sender receiver phase w) (j : ℕ) :
    w.env.rand (w.rands + j) = if (phase + j) % 21 = 9 then 999 else 0 := by
  rw [h.env, ← h.rands, Nat.mod_add_mod]
  rfl

/-- The hosts take their turns in the order of their numbers. -/
theorem getRandSeq (h : LossyWorld sender receiver phase w)
    (hphase : phase + 4 ≤ 9 ∨ 9 < phase ∧ phase + 4 < 21) :
    ∃ w', getRandSeq (lossyConfig W hW).numHosts w = ([0, 1], w') ∧
      LossyWorld sender receiver (phase + 4) w' := by
  have hzero (j : ℕ) (hj : j < 4) : w.env.rand (w.rands + j) = 0 := by
    rw [h.rand_eq, if_neg (by omega)]
  refine ⟨{ w with rands := w.rands + 4 }, ?_, h.sender, h.receiver, h.env, ?_, h.ports, h.exitMain⟩
  · have h0 := hzero 0 (by omega)
    have h1 := hzero 1 (by omega)
    have h2 := hzero 2 (by omega)
    have h3 := hzero 3 (by omega)
    change shuffle 2 [0, 1] [0, 1] w = _
    simp only [shuffle, rand, Nat.add_assoc, Nat.reduceAdd, h1, h2, h3]
    rw [Nat.add_zero] at h0
    simp [h0]
  · have := h.rands
    change (w.rands + 4) % 21 = phase + 4
    omega

theorem corruptProb_eq :
    CDouble.toInt (CDouble.mul (CDouble.ofInt 1000) (lossyConfig W hW).corruptProb) = 500 := by
  change CDouble.toInt (CDouble.mul (CDouble.ofInt 1000) (1 / 2 : ℚ)) = 500
  decide +kernel

/-- The data frame arrives. -/
theorem sendData (h : LossyWorld sender receiver 8 w) {frame : Frame} (hdst : frame.dstId = 1) :
    LossyWorld sender
      { receiver with incomingFramesHead := receiver.incomingFramesHead ++ [frame] } 10
      (sendFrame (lossyConfig W hW) frame w) := by
  have hrand := h.rand_eq 1
  have heq : sendFrame (lossyConfig W hW) frame w =
      setHost 1 { receiver with incomingFramesHead := receiver.incomingFramesHead ++ [frame] }
        { w with rands := w.rands + 2 } := by
    simp only [sendFrame, rand, hrand, corruptProb_eq]
    rw [if_neg (by decide), hdst]
    simp only [← h.receiver]
    rfl
  have hrands := h.rands
  have h' : LossyWorld sender receiver 10 { w with rands := w.rands + 2 } :=
    ⟨h.sender, h.receiver, h.env, by change (w.rands + 2) % 21 = 10; omega, h.ports, h.exitMain⟩
  rw [heq]
  exact h'.setReceiver _

/-- The ACK frame is corrupted. -/
theorem sendAck (h : LossyWorld sender receiver 18 w) {frame : Frame} (hdst : frame.dstId = 0)
    (hvalid : frameValid frame = true) :
    ∃ frame', frameValid frame' = false ∧
      LossyWorld { sender with incomingFramesHead := sender.incomingFramesHead ++ [frame'] }
        receiver 0 (sendFrame (lossyConfig W hW) frame w) := by
  have hrand := h.rand_eq 1
  refine ⟨complementByte (w.env.rand (w.rands + 2) % maxFrameSize) frame,
    frameValid_complementByte (Nat.mod_lt _ (by decide)) hvalid, ?_⟩
  have heq : sendFrame (lossyConfig W hW) frame w =
      setHost 0
        { sender with
          incomingFramesHead := sender.incomingFramesHead ++
            [complementByte (w.env.rand (w.rands + 2) % maxFrameSize) frame] }
        { w with rands := w.rands + 3 } := by
    simp only [sendFrame, rand, hrand, corruptProb_eq]
    rw [if_pos (by decide), hdst]
    simp only [← h.sender]
    rfl
  have hrands := h.rands
  have h' : LossyWorld sender receiver 0 { w with rands := w.rands + 3 } :=
    ⟨h.sender, h.receiver, h.env, by change (w.rands + 3) % 21 = 0; omega, h.ports, h.exitMain⟩
  rw [heq]
  exact h'.setSender _

/-- A pass of the service loop when nothing is left to be sent. -/
theorem servicePass_idle (h : LossyWorld sender receiver phase w)
    (hsender : sender.outgoingFramesHead = []) (hreceiver : receiver.outgoingFramesHead = [])
    (accept : ℕ → ℕ) :
    servicePass (lossyConfig W hW) [0, 1] 0 accept w = .ok (2, accept, w) := by
  rw [servicePass, h.sender, hsender]
  simp only
  rw [servicePass, h.receiver, hreceiver]
  rfl

theorem sendDataFrames (h : LossyWorld sender receiver 4 w) {frame : Frame}
    (hsender : sender.outgoingFramesHead = [frame]) (hreceiver : receiver.outgoingFramesHead = [])
    (hsrc : frame.srcId = 0) (hdst : frame.dstId = 1) :
    ∃ w', sendDataFrames (lossyConfig W hW) w = .ok w' ∧
      LossyWorld { sender with outgoingFramesHead := [] }
        { receiver with incomingFramesHead := receiver.incomingFramesHead ++ [frame] } 14 w' := by
  obtain ⟨w₁, horder₁, h₁⟩ := @getRandSeq W hW _ _ _ _ h (by omega)
  have h₂ := @sendData W hW _ _ _ (h₁.setSender { sender with outgoingFramesHead := [] }) frame hdst
  obtain ⟨w₃, horder₃, h₃⟩ := @getRandSeq W hW _ _ _ _ h₂ (by omega)
  refine ⟨w₃, ?_, h₃⟩
  have hcheck : frameSanityCheck (lossyConfig W hW) frame = .ok () := by
    rw [frameSanityCheck, hdst, hsrc]
    rfl
  have htotal : outgoingTotal (lossyConfig W hW) w = 1 := by
    change ([0, 1].map fun i => (w.hosts i).outgoingFramesHead.length).sum = 1
    simp [h.sender, h.receiver, hsender, hreceiver]
  have hpass : servicePass (lossyConfig W hW) [0, 1] 0 (fun _ => 0) w₁ =
      .ok (1, Function.update (fun _ => 0) 1 1, sendFrame (lossyConfig W hW) frame
        (setHost 0 { sender with outgoingFramesHead := [] } w₁)) := by
    rw [servicePass, h₁.sender, hsender]
    simp only [hcheck, serviceFrame]
    rw [if_neg (show ¬ 0 ≥ (lossyConfig W hW).recvAcceptRate from Nat.not_succ_le_zero 9), hdst,
      servicePass, h₂.receiver, hreceiver]
    rfl
  rw [Tcp.sendDataFrames, serviceIngressPorts_empty h.ports]
  simp only [htotal]
  rw [serviceLoop]
  simp only [horder₁, hpass]
  rw [if_neg (show ¬ 1 = (lossyConfig W hW).numHosts from Nat.succ_ne_succ_iff.mpr (by decide)),
    serviceLoop]
  simp only [horder₃, h₃.servicePass_idle rfl hreceiver]
  rfl

theorem sendAckFrames (h : LossyWorld sender receiver 18 w) {frame : Frame}
    (hsender : sender.outgoingFramesHead = []) (hreceiver : receiver.outgoingFramesHead = [frame])
    (hvalid : frameValid frame = true) (hsrc : frame.srcId = 1) (hdst : frame.dstId = 0) :
    ∃ w' frame', sendAckFrames (lossyConfig W hW) w = .ok w' ∧ frameValid frame' = false ∧
      LossyWorld { sender with incomingFramesHead := sender.incomingFramesHead ++ [frame'] }
        { receiver with outgoingFramesHead := [] } 0 w' := by
  obtain ⟨frame', hinvalid, h'⟩ := @sendAck W hW _ _ _
    (h.setReceiver { receiver with outgoingFramesHead := [] }) frame hdst hvalid
  refine ⟨_, frame', ?_, hinvalid, h'⟩
  have hcheck : frameSanityCheck (lossyConfig W hW) frame = .ok () := by
    rw [frameSanityCheck, hdst, hsrc]
    rfl
  change sendAckFramesLoop _ [0, 1] w = _
  rw [sendAckFramesLoop, h.sender, hsender, sendAckFramesOf]
  simp only
  rw [sendAckFramesLoop, h.receiver, hreceiver, sendAckFramesOf]
  simp only [h.receiver, hcheck]
  rfl

theorem handleInput (h : LossyWorld sender receiver phase w)
    (hcmds : sender.inputCmdlistHead = []) :
    ∃ w', handleInput (lossyConfig W hW) w = .ok w' ∧
      LossyWorld { sender with inputCmdlistHead := [⟨0, 1, [97]⟩] } receiver phase w' := by
  have h' : LossyWorld sender receiver phase { w with inputs := w.inputs + 1 } :=
    ⟨h.sender, h.receiver, h.env, h.rands, h.ports, h.exitMain⟩
  refine ⟨_, ?_, h'.setSender _⟩
  have hcommand : checkCommand (lossyConfig W hW) "msg" 0 1 [97] { w with inputs := w.inputs + 1 } =
      setHost 0 { sender with inputCmdlistHead := [⟨0, 1, [97]⟩] }
        { w with inputs := w.inputs + 1 } := by
    unfold checkCommand
    rw [if_pos ⟨rfl, (by decide : (0 : ℤ) < (2 : ℕ)), (by decide : (1 : ℤ) < (2 : ℕ)), le_rfl,
      by decide⟩]
    simp only [Int.toNat_zero, h.sender, hcmds]
    rfl
  have hstdin : w.env.stdin w.inputs = [.scanned 4 "msg" 0 1 [97]] := by
    rw [h.env]
    rfl
  unfold Tcp.handleInput checkInput
  rw [hstdin, checkInputLoop, if_neg (by decide), hcommand]
  rfl

end LossyWorld

omit [CDouble D] in
theorem handleIncomingFrames_invalid {host : Host D}
    (h : ∀ frame ∈ host.incomingFramesHead, frameValid frame = false) :
    handleIncomingFrames cfg host = { host with incomingFramesHead := [] } := by
  have hfold (frames : List Frame) (h : ∀ frame ∈ frames, frameValid frame = false)
      (host : Host D) : frames.foldl (handleFrame cfg) host = host := by
    induction frames with
    | nil => rfl
    | cons frame frames ih =>
      have h' := List.forall_mem_cons.mp h
      rw [List.foldl_cons, handleFrame_invalid h'.1, ih h'.2]
  exact hfold _ h _

/-- **A round** puts one more frame into the window of host 0. -/
theorem flood_round (hW' : W ≤ 255) {sender receiver : Host ℚ} {w : World ℚ}
    (hs : FloodSender (lossyConfig W hW) frames sender)
    (hr : FloodReceiver (lossyConfig W hW) frames receiver)
    (h : LossyWorld sender receiver 0 w) (hlen : frames.length < W) :
    ∃ w' sender' receiver' frame, mainLoop (lossyConfig W hW) w = .ok w' ∧
      FloodFrame frames.length frame ∧
      FloodSender (lossyConfig W hW) (frames ++ [frame]) sender' ∧
      FloodReceiver (lossyConfig W hW) (frames ++ [frame]) receiver' ∧
      LossyWorld sender' receiver' 0 w' := by
  obtain ⟨w₁, hinput, h₁⟩ := @LossyWorld.handleInput W hW _ _ _ _ h hs.cmds
  obtain ⟨w₂, horder₂, h₂⟩ := @LossyWorld.getRandSeq W hW _ _ _ _ h₁ (by omega)
  obtain ⟨sender', frame, hsend, hframe, hout, hs'⟩ := hs.runSender hW' hlen
  obtain ⟨receiver', hidle, hr'⟩ := hr.runSender
  have h₃ := (h₂.setSender sender').setReceiver receiver'
  obtain ⟨w₄, hdata, h₄⟩ := @LossyWorld.sendDataFrames W hW _ _ _ h₃ frame hout hr'.outgoing
    hframe.srcId hframe.dstId
  obtain ⟨w₅, horder₅, h₅⟩ := @LossyWorld.getRandSeq W hW _ _ _ _ h₄ (by omega)
  have hskip := @handleIncomingFrames_invalid _ (lossyConfig W hW) _ hs'.incoming
  obtain ⟨ack, hack, hvalid, hsrc, hdst, hr''⟩ := hr'.handleIncomingFrames hW' hframe
  have hin : receiver'.incomingFramesHead ++ [frame] = [frame] := by rw [hr'.incoming]; rfl
  rw [hin] at h₄ h₅
  have h₆ := (h₅.setSender (handleIncomingFrames (lossyConfig W hW)
    { sender' with outgoingFramesHead := [] })).setReceiver (handleIncomingFrames (lossyConfig W hW)
    { receiver' with incomingFramesHead := [frame] })
  obtain ⟨w₇, frame', hacks, hinvalid, h₇⟩ := @LossyWorld.sendAckFrames W hW _ _ _ h₆ ack
    (by rw [hskip]) hack hvalid hsrc hdst
  refine ⟨w₇, _, _, frame, ?_, hframe, ?_, hr'', h₇⟩
  · have hreceive : runReceivers (lossyConfig W hW) w₄ = setHost 1
        (handleIncomingFrames (lossyConfig W hW) { receiver' with incomingFramesHead := [frame] })
        (setHost 0 (handleIncomingFrames (lossyConfig W hW)
          { sender' with outgoingFramesHead := [] }) w₅) := by
      unfold runReceivers
      simp only [horder₅, List.foldl_cons, List.foldl_nil, runReceiverTurn, h₅.sender]
      rw [(h₅.setSender _).receiver]
    unfold mainLoop runHosts runSenders
    rw [h.exitMain]
    simp only [Bool.false_eq_true, if_false, hinput, horder₂, runSendersLoop, runSenderTurn,
      h₂.sender, hsend, (h₂.setSender sender').receiver, hidle, hdata, hreceive, hacks]
  · rw [hskip]
    exact ⟨⟨hs'.id_eq, hs'.env, hs'.cwnd, hs'.window, hs'.timers⟩, hs'.cmds,
      fun f hf => List.mem_singleton.mp hf ▸ hinvalid, hs'.backlog, hs'.outgoing, hs'.curr,
      hs'.created⟩

/-- **A run** of `k` rounds after which `k` frames are in the window of host 0, and have been
appended at host 1. -/
theorem flood_run (hW' : W ≤ 255) {k : ℕ} (hk : k ≤ W) :
    ∃ n w frames sender receiver, frames.length = k ∧
      (∀ i frame, frames[i]? = some frame → FloodFrame i frame) ∧
      FloodSender (lossyConfig W hW) frames sender ∧
      FloodReceiver (lossyConfig W hW) frames receiver ∧ LossyWorld sender receiver 0 w ∧
      steps (lossyConfig W hW) n
        ⟨.top, init (lossyConfig W hW) (fun _ => .still) lostAcksEnv⟩ = .ok ⟨.top, w⟩ := by
  induction k with
  | zero =>
    refine ⟨0, _, [], _, _, rfl, by simp, ?_, ?_, ⟨rfl, rfl, rfl, rfl, ⟨fun _ => rfl, rfl⟩, rfl⟩,
      rfl⟩
    · exact ⟨⟨rfl, rfl, rfl, rfl, fun _ hslot => absurd hslot List.not_mem_nil⟩, rfl,
        fun _ hframe => absurd hframe List.not_mem_nil, rfl, rfl, rfl, rfl⟩
    · exact ⟨rfl, rfl, rfl, rfl, rfl, recvView_initHost ..⟩
  | succ k ih =>
    obtain ⟨n, w, frames, sender, receiver, hlen, hframes, hs, hr, h, hrun⟩ := ih (by omega)
    obtain ⟨w', sender', receiver', frame, hround, hframe, hs', hr', h'⟩ :=
      flood_round hW' hs hr h (by omega)
    obtain ⟨m, hsteps⟩ := mainLoop_steps hround
    have hagain : step (lossyConfig W hW) ⟨.bottom, w'⟩ = .ok ⟨.top, w'⟩ := by
      simp only [step, gracefulExit, h'.exitMain, Bool.false_and, Bool.false_eq_true, if_false]
    refine ⟨_, w', frames ++ [frame], sender', receiver', by simp [hlen], fun i f hi => ?_, hs',
      hr', h', steps_trans (steps_trans hrun hsteps) (steps_one hagain)⟩
    rw [List.getElem?_append] at hi
    split at hi
    · exact hframes i f hi
    · rw [List.getElem?_singleton] at hi
      split at hi
      · obtain rfl : frame = f := by simpa using hi
        rwa [show i = frames.length by omega]
      · simp at hi

end NetworkSim.Tcp
