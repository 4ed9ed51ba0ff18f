import NetworkSim.Tcp.SenderSpec

/-!
# The window and the backlog of a sender

The handlers of the sender, called in any order and with any arguments (`SenderOp`). For every
receiver the frames in the window followed by those in the backlog are one run of consecutive
sequence numbers that ends before `curr_seq_num`, and frames leave it only at the front, up to one
that an ACK names (`runOps_consecutive`).
-/

namespace NetworkSim.Tcp

/-! ## Handlers in any order -/

/-- A call of one of the four handlers of the sender. -/
inductive SenderOp
  | inputCmds (cmds : List Cmd)
  | incomingAcks (frames : List Frame)
  | timedoutFrames (currTimeval : TimeVal)
  | outgoingFrames (currTimeval : TimeVal)

variable {D : Type} [CDouble D] (cfg : SysConfig D)

/-- The call. -/
def SenderOp.run : SenderOp → Host D → Except Fault (Host D)
  | .inputCmds cmds, host => .ok (handleInputCmds { host with inputCmdlistHead := cmds })
  | .incomingAcks frames, host => handleIncomingAcks cfg { host with incomingFramesHead := frames }
  | .timedoutFrames currTimeval, host => .ok (handleTimedoutFrames cfg currTimeval host)
  | .outgoingFrames currTimeval, host => handleOutgoingFrames cfg currTimeval host

/-- Calls one after the other. -/
def runOps : List SenderOp → Host D → Except Fault (Host D)
  | [], host => .ok host
  | op :: ops, host =>
    match op.run cfg host with
    | .error e => .error e
    | .ok host => runOps ops host

/-- The frames that a call finds in `incoming_frames_head`. -/
def SenderOp.incoming : SenderOp → List Frame
  | .incomingAcks frames => frames
  | _ => []

variable {cfg}

omit [CDouble D] in
theorem SenderOk.with_incoming {frames : List Frame} {host : Host D} {v : ℕ → SendView}
    (hok : SenderOk cfg frames host v) (frames' : List Frame) :
    SenderOk cfg frames' host (fun id => { v id with acks := acksFrom id frames' }) := fun id => by
  obtain ⟨hrel, hinv⟩ := hok id
  exact ⟨⟨hrel.created, hrel.window, hrel.backlog, hrel.out, rfl, hrel.curr⟩,
    ⟨hinv.created_seqNum, hinv.unacked_eq, hinv.length_window⟩⟩

/-- Every call is a sequence of steps on every view, and handles ACKs of its own. -/
theorem SenderOp.run_steps (hW : cfg.windowSize ≤ 255) {op : SenderOp} {frames : List Frame}
    {host host' : Host D} {v : ℕ → SendView} (hok : SenderOk cfg frames host v)
    (h : op.run cfg host = .ok host') :
    ∃ v', (∀ id, SendView.Steps cfg.windowSize
        { v id with acks := acksFrom id op.incoming } (v' id)) ∧
      ∃ frames', SenderOk cfg frames' host' v' := by
  have hok := hok.with_incoming op.incoming
  cases op with
  | inputCmds cmds =>
    have hcmds : SenderOk cfg [] { host with inputCmdlistHead := cmds } _ := fun id =>
      ⟨⟨(hok id).1.created, (hok id).1.window, (hok id).1.backlog, (hok id).1.out,
        (hok id).1.acks, (hok id).1.curr⟩, (hok id).2⟩
    obtain ⟨v', hsteps, hok'⟩ := handleInputCmds_steps hcmds
    exact ⟨v', hsteps, _, Except.ok.inj h ▸ hok'⟩
  | incomingAcks frames =>
    have hframes : SenderOk cfg frames { host with incomingFramesHead := frames } _ := fun id =>
      ⟨⟨(hok id).1.created, (hok id).1.window, (hok id).1.backlog, (hok id).1.out,
        (hok id).1.acks, (hok id).1.curr⟩, (hok id).2⟩
    obtain ⟨v', hsteps, hok'⟩ := handleIncomingAcks_steps hW hframes h
    exact ⟨v', hsteps, _, hok'⟩
  | timedoutFrames currTimeval =>
    obtain ⟨v', hsteps, hok'⟩ := handleTimedoutFrames_steps currTimeval hok
    exact ⟨v', hsteps, _, Except.ok.inj h ▸ hok'⟩
  | outgoingFrames currTimeval =>
    obtain ⟨v', hsteps, hok'⟩ := handleOutgoingFrames_steps hW hok h
    exact ⟨v', hsteps, _, hok'⟩

theorem runOps_ok (hW : cfg.windowSize ≤ 255) {ops : List SenderOp} {host host' : Host D}
    (hok : ∃ frames v, SenderOk cfg frames host v) (h : runOps cfg ops host = .ok host') :
    ∃ frames v, SenderOk cfg frames host' v := by
  induction ops generalizing host with
  | nil => exact Except.ok.inj h ▸ hok
  | cons op ops ih =>
    obtain ⟨frames, v, hok⟩ := hok
    rw [runOps] at h
    split at h
    · simp at h
    · rename_i hrun
      obtain ⟨v', -, frames', hok'⟩ := op.run_steps hW hok hrun
      exact ih ⟨frames', v', hok'⟩ h

variable (cfg) in
/-- The frames in the slots `0 .. length - 1` of the window for `id`, and then those for `id` in
`buffered_outframes_head`. -/
def unackedFrames (id : ℕ) (host : Host D) : List (Option Frame) :=
  (List.range (cqGetLengthSend id host)).map (fun i => (cqGetItemSend cfg id i host).frame) ++
    (framesFor id host.bufferedOutframesHead).map some

omit [CDouble D] in
theorem SenderRel.unackedFrames_eq {id : ℕ} {frames : List Frame} {host : Host D} {v : SendView}
    (h : SenderRel cfg id frames host v) : unackedFrames cfg id host = v.unacked.map some := by
  have hwin := h.window
  rw [winFrames, sendWin, Ring.contents, List.map_map] at hwin
  rw [unackedFrames, SendView.unacked, List.map_append, ← hwin, h.backlog]
  rfl

omit [CDouble D] in
theorem mem_acksFrom {id : ℕ} {frames : List Frame} {seqNum : UInt8}
    (h : seqNum ∈ acksFrom id frames) :
    ∃ ack ∈ frames, frameValid ack = true ∧ ack.isAck ≠ 0 ∧ ack.srcId.toNat = id ∧
      ack.seqNum = seqNum := by
  obtain ⟨ack, hack, rfl⟩ := List.mem_map.mp h
  simp only [List.mem_filter, Bool.and_eq_true, decide_eq_true_eq] at hack
  exact ⟨ack, hack.1, hack.2.1.1, hack.2.1.2, hack.2.2, rfl⟩

/-- **The window and the backlog form one run of consecutive sequence numbers**, after any calls of
the handlers. The run ends before `curr_seq_num`, the window is no longer than `window_size`, and in
a further call new frames come in at the end, while frames leave the front only when the call
handles an ACK that names the last of them. -/
theorem runOps_consecutive (hW : cfg.windowSize ≤ 255) (id : ℕ) (env : HostEnv)
    (ops : List SenderOp) {host : Host D} (h : runOps cfg ops (initHost cfg id env) = .ok host) :
    (∀ recvId, ∃ base,
      (∀ i < (unackedFrames cfg recvId host).length, ∃ frame,
        (unackedFrames cfg recvId host)[i]? = some (some frame) ∧
          frame.seqNum = UInt8.ofNat (base + i)) ∧
      host.currSeqNum recvId = UInt8.ofNat (base + (unackedFrames cfg recvId host).length) ∧
      cqGetLengthSend recvId host ≤ cfg.windowSize) ∧
    ∀ (op : SenderOp) (host' : Host D), op.run cfg host = .ok host' → ∀ recvId, ∃ news k,
      framesFor recvId host'.log.created = framesFor recvId host.log.created ++ news ∧
      unackedFrames cfg recvId host' =
        (unackedFrames cfg recvId host ++ news.map some).drop k ∧
      (0 < k → ∃ frame, (unackedFrames cfg recvId host ++ news.map some)[k - 1]? =
          some (some frame) ∧
        ∃ ack ∈ op.incoming, frameValid ack = true ∧ ack.isAck ≠ 0 ∧ ack.srcId.toNat = recvId ∧
          ack.seqNum = frame.seqNum) := by
  obtain ⟨frames, v, hok⟩ := runOps_ok hW ⟨_, _, senderOk_initHost id env⟩ h
  refine ⟨fun recvId => ?_, fun op host' hrun recvId => ?_⟩
  · obtain ⟨hrel, hinv⟩ := hok recvId
    obtain ⟨base, hle, hbase⟩ := hinv.unacked_eq
    have hlen := congrArg List.length hbase
    rw [List.length_drop] at hlen
    rw [hrel.unackedFrames_eq, List.length_map]
    refine ⟨base, fun i hi => ?_, ?_, hok.bound recvId⟩
    · refine ⟨(v recvId).unacked[i], by simp [hi], ?_⟩
      refine hinv.created_seqNum _ _ ?_
      rw [← List.getElem?_drop, ← hbase, List.getElem?_eq_getElem hi]
    · rw [hrel.curr]
      congr 1
      omega
  · obtain ⟨v', hsteps, frames', hok'⟩ := op.run_steps hW hok hrun
    obtain ⟨news, handled, k, hcreated, hacks, -, hunacked, hlast⟩ :=
      SendView.Steps.unacked_eq (hsteps recvId)
    refine ⟨news, k, ?_, ?_, fun hpos => ?_⟩
    · rw [(hok' recvId).1.created, (hok recvId).1.created, hcreated]
    · rw [(hok' recvId).1.unackedFrames_eq, (hok recvId).1.unackedFrames_eq, hunacked,
        ← List.map_append, List.map_drop]
      rfl
    · obtain ⟨frame, hframe, hmem⟩ := hlast hpos
      refine ⟨frame, ?_, mem_acksFrom ?_⟩
      · rw [(hok recvId).1.unackedFrames_eq, ← List.map_append, List.getElem?_map]
        exact congrArg (Option.map some) hframe
      · simp only at hacks
        rw [hacks]
        exact List.mem_append_left _ hmem

set_option maxRecDepth 10000 in
/-- A message is accepted, sent and acknowledged. -/
theorem runOps_consecutive_hello :
    ∃ host, runOps ccBasicConfig
        [.inputCmds [⟨0, 1, [104, 105]⟩], .outgoingFrames ⟨0, 0⟩,
          .incomingAcks [setChecksum { Frame.zero with srcId := 1, isAck := 1 }]]
        (initHost ccBasicConfig 0 .still) = .ok host ∧
      ∀ recvId, ∃ base,
        (∀ i < (unackedFrames ccBasicConfig recvId host).length, ∃ frame,
          (unackedFrames ccBasicConfig recvId host)[i]? = some (some frame) ∧
            frame.seqNum = UInt8.ofNat (base + i)) ∧
        host.currSeqNum recvId =
          UInt8.ofNat (base + (unackedFrames ccBasicConfig recvId host).length) ∧
        cqGetLengthSend recvId host ≤ 8 := by
  obtain ⟨host, hhost⟩ := exists_of_isOk (e := runOps ccBasicConfig
    [.inputCmds [⟨0, 1, [104, 105]⟩], .outgoingFrames ⟨0, 0⟩,
      .incomingAcks [setChecksum { Frame.zero with srcId := 1, isAck := 1 }]]
    (initHost ccBasicConfig 0 .still)) (by decide +kernel)
  exact ⟨host, hhost, (runOps_consecutive (by decide) 0 .still _ hhost).1⟩

end NetworkSim.Tcp
