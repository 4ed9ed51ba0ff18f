import NetworkSim.Tcp.SenderSpec

/-!
# What the sender leaves alone

Whatever the window size, the handlers of the sender are made of few moves (`SenderMove`): frames of
the windows are sent again, a window is shortened, a frame of the backlog is sent, the backlog is
replaced by a part of it. So the fields of the receiver and all that waits to be handled stay as
they are (`SenderMoves.eq`), and a property of all frames that a host holds is a property of all it
sends (`SenderMoves.holdsOnly`).
-/

namespace NetworkSim.Tcp

variable {D : Type} {cfg : SysConfig D}

variable (cfg) in
/-- A move of the sender. -/
inductive SenderMove : Host D → Host D → Prop
  | resends (host host' : Host D) (sent : List Frame) (h : Resends cfg sent host host') :
      SenderMove host host'
  | dequeue (host : Host D) (id n : ℕ) : SenderMove host (cqNdequeueSend cfg id n host)
  | send (host : Host D) (frame : Frame) (hframe : frame ∈ host.bufferedOutframesHead)
      (sent : List (Frame × TimeVal)) (timeout : TimeVal) :
      SenderMove host (cqAppendItemSend cfg frame.dstId.toNat frame timeout
        { host with
          outgoingFramesHead := host.outgoingFramesHead ++ [frame]
          log := { host.log with sent := sent } })
  | backlog (host : Host D) (frames : List Frame)
      (hframes : ∀ frame ∈ frames, frame ∈ host.bufferedOutframesHead) (latestTimeout : TimeVal) :
      SenderMove host { host with bufferedOutframesHead := frames, latestTimeout := latestTimeout }

/-- A sequence of moves. -/
abbrev SenderMoves (cfg : SysConfig D) : Host D → Host D → Prop :=
  Relation.ReflTransGen (SenderMove cfg)

/-- All frames that a host holds for sending have the property `P`, and all it is sending `Q`. -/
structure HoldsOnly (P Q : Frame → Prop) (host : Host D) : Prop where
  backlog : ∀ frame ∈ host.bufferedOutframesHead, P frame
  window : ∀ j frame, (host.sendWindow j).frame = some frame → P frame
  outgoing : ∀ frame ∈ host.outgoingFramesHead, Q frame

variable (cfg) in
theorem cqAppendItemSend_eq (id : ℕ) (frame : Frame) (timeout : TimeVal) (host : Host D) :
    ∃ sendWindow sendWindowLength,
      cqAppendItemSend cfg id frame timeout host =
        { host with sendWindow := sendWindow, sendWindowLength := sendWindowLength } ∧
      ∀ j, sendWindow j = host.sendWindow j ∨ (sendWindow j).frame = some frame := by
  rw [cqAppendItemSend]
  split
  · exact ⟨_, _, rfl, fun j => .inl rfl⟩
  · refine ⟨_, _, rfl, fun j => ?_⟩
    rw [Function.update_apply]
    split <;> [exact .inr rfl; exact .inl rfl]

/-- The fields that a move changes. -/
theorem SenderMove.eq {host host' : Host D} (h : SenderMove cfg host host') :
    ∃ backlog outgoing sendWindow start length latestTimeout cc dupAcksSeqNum ticks sent
      retransmits, host' =
        { host with
          bufferedOutframesHead := backlog
          outgoingFramesHead := outgoing
          sendWindow := sendWindow
          sendWindowStart := start
          sendWindowLength := length
          latestTimeout := latestTimeout
          cc := cc
          dupAcksSeqNum := dupAcksSeqNum
          ticks := ticks
          log := { host.log with sent := sent, retransmits := retransmits } } := by
  cases h with
  | resends host' sent h =>
    obtain ⟨_, _, _, _, _, _, _, rfl⟩ := h.eq
    exact ⟨_, _, _, _, _, _, _, _, _, _, _, rfl⟩
  | dequeue id n => exact ⟨_, _, _, _, _, _, _, _, _, _, _, cqNdequeueSend_eq id n host⟩
  | send frame hframe sent timeout =>
    obtain ⟨_, _, h, -⟩ := cqAppendItemSend_eq cfg frame.dstId.toNat frame timeout
      { host with
        outgoingFramesHead := host.outgoingFramesHead ++ [frame]
        log := { host.log with sent := sent } }
    exact ⟨_, _, _, _, _, _, _, _, _, _, _, h⟩
  | backlog frames hframes latestTimeout => exact ⟨_, _, _, _, _, _, _, _, _, _, _, rfl⟩

theorem SenderMoves.eq {host host' : Host D} (h : SenderMoves cfg host host') :
    ∃ backlog outgoing sendWindow start length latestTimeout cc dupAcksSeqNum ticks sent
      retransmits, host' =
        { host with
          bufferedOutframesHead := backlog
          outgoingFramesHead := outgoing
          sendWindow := sendWindow
          sendWindowStart := start
          sendWindowLength := length
          latestTimeout := latestTimeout
          cc := cc
          dupAcksSeqNum := dupAcksSeqNum
          ticks := ticks
          log := { host.log with sent := sent, retransmits := retransmits } } := by
  induction h with
  | refl => exact ⟨_, _, _, _, _, _, _, _, _, _, _, rfl⟩
  | tail _ hmove ih =>
    obtain ⟨_, _, _, _, _, _, _, _, _, _, _, rfl⟩ := ih
    obtain ⟨_, _, _, _, _, _, _, _, _, _, _, rfl⟩ := hmove.eq
    exact ⟨_, _, _, _, _, _, _, _, _, _, _, rfl⟩

theorem SenderMove.holdsOnly {P Q : Frame → Prop} {host host' : Host D}
    (hPQ : ∀ frame, P frame → Q frame) (h : SenderMove cfg host host') (hP : HoldsOnly P Q host) :
    HoldsOnly P Q host' := by
  cases h with
  | resends host' sent h =>
    have hframes := h.frames
    have hsent := h.sent_mem
    obtain ⟨_, _, _, _, _, _, _, rfl⟩ := h.eq
    refine ⟨hP.backlog, fun j frame hj => hP.window j frame ((hframes j).symm.trans hj),
      fun frame hframe => ?_⟩
    rcases List.mem_append.mp hframe with hold | hnew
    · exact hP.outgoing frame hold
    · obtain ⟨id, i, -, hslot⟩ := hsent frame hnew
      exact hPQ frame (hP.window _ frame hslot)
  | dequeue id n =>
    rw [cqNdequeueSend_eq]
    refine ⟨hP.backlog, fun j frame hj => ?_, hP.outgoing⟩
    rcases Ring.clear_apply cfg.windowSize host.sendWindow id
      (host.sendWindowStart id).toNat (min n (cqGetLengthSend id host)) .empty j with h | h
    · exact absurd ((congrArg SendWindowSlot.frame h).symm.trans hj)
        (by simp [SendWindowSlot.empty])
    · exact hP.window j frame (h ▸ hj)
  | send frame hframe sent timeout =>
    obtain ⟨_, _, h, hslots⟩ := cqAppendItemSend_eq cfg frame.dstId.toNat frame timeout
      { host with
        outgoingFramesHead := host.outgoingFramesHead ++ [frame]
        log := { host.log with sent := sent } }
    rw [h]
    refine ⟨hP.backlog, fun j f hj => ?_, fun f hf => ?_⟩
    · rcases hslots j with hold | hnew
      · exact hP.window j f (hold ▸ hj)
      · rw [← Option.some.inj (hnew.symm.trans hj)]
        exact hP.backlog frame hframe
    · rcases List.mem_append.mp hf with hold | hnew
      · exact hP.outgoing f hold
      · rw [List.mem_singleton.mp hnew]
        exact hPQ frame (hP.backlog frame hframe)
  | backlog frames hframes latestTimeout =>
    exact ⟨fun frame hmem => hP.backlog frame (hframes frame hmem), hP.window, hP.outgoing⟩

theorem SenderMoves.holdsOnly {P Q : Frame → Prop} {host host' : Host D}
    (hPQ : ∀ frame, P frame → Q frame) (h : SenderMoves cfg host host') (hP : HoldsOnly P Q host) :
    HoldsOnly P Q host' := by
  induction h with
  | refl => exact hP
  | tail _ hmove ih => exact hmove.holdsOnly hPQ ih

/-! ## The handlers as sequences of moves -/

variable [CDouble D]

omit [CDouble D] in
theorem dequeueAcked_moves {srcId seqNum : UInt8} {host host' : Host D}
    (h : dequeueAcked cfg srcId seqNum host = .ok host') : SenderMoves cfg host host' := by
  rcases dequeueAcked_cases h with rfl | ⟨n, rfl⟩
  · exact .refl
  · exact .single (.dequeue host srcId.toNat n)

theorem handleAck_moves {frame : Frame} {host host' : Host D}
    (h : handleAck cfg frame host = .ok host') : SenderMoves cfg host host' := by
  rw [handleAck] at h
  split at h
  · simp at h
  · rename_i hcc
    obtain ⟨sent, hresends⟩ := updateCc_resends hcc
    exact (((Relation.ReflTransGen.single
      (.resends host _ [] (updateDupAcks_resends frame.srcId frame.seqNum host))).tail
      (.resends _ _ sent hresends))).trans (dequeueAcked_moves h)

/-- `handle_incoming_acks` makes moves, and leaves the valid data frames in the list. -/
theorem handleIncomingAcksLoop_moves {kept frames : List Frame} {host host' : Host D}
    (h : handleIncomingAcksLoop cfg kept frames host = .ok host') :
    ∃ host₁, SenderMoves cfg host host₁ ∧
      host' = { host₁ with
        incomingFramesHead :=
          kept ++ frames.filter (fun f => frameValid f && decide (f.isAck = 0)) } := by
  induction frames generalizing kept host with
  | nil => exact ⟨host, .refl, by rw [← Except.ok.inj h, List.filter_nil, List.append_nil]⟩
  | cons frame frames ih =>
    rw [handleIncomingAcksLoop] at h
    rw [List.filter_cons]
    split at h
    · rename_i hinvalid
      simpa [hinvalid] using ih h
    · rename_i hvalid
      split at h
      · rename_i hdata
        simpa [hvalid, hdata] using ih h
      · rename_i hack
        split at h
        · simp at h
        · rename_i hframe
          obtain ⟨host₁, hmoves, heq⟩ := ih h
          exact ⟨host₁, (handleAck_moves hframe).trans hmoves, by simpa [hack] using heq⟩

omit [CDouble D] in
theorem sendLoop_moves (currTimeval : TimeVal) (kept frames : List Frame) (framesPerRtt : ℕ → ℤ)
    (additionalTs : ℤ) {host : Host D}
    (hmem : ∀ frame ∈ kept ++ frames, frame ∈ host.bufferedOutframesHead) :
    SenderMoves cfg host
      (sendLoop cfg currTimeval kept frames framesPerRtt additionalTs host).2 := by
  induction frames generalizing kept framesPerRtt additionalTs host with
  | nil =>
    rw [List.append_nil] at hmem
    exact .single (.backlog host kept hmem host.latestTimeout)
  | cons frame frames ih =>
    rw [sendLoop]
    split
    · exact ih _ _ _ (by rwa [List.append_assoc])
    · refine .trans (.single (.send host frame (hmem frame (by simp)) _ _))
        (ih _ _ _ fun f hf => ?_)
      obtain ⟨_, _, h, -⟩ := cqAppendItemSend_eq cfg frame.dstId.toNat frame
        (timevalUsecplus currTimeval (timeoutIntervalUsec + additionalTs))
        { host with
          outgoingFramesHead := host.outgoingFramesHead ++ [frame]
          log := { host.log with
            sent := host.log.sent ++
              [(frame, timevalUsecplus currTimeval (timeoutIntervalUsec + additionalTs))] } }
      rw [h]
      refine hmem f ?_
      rcases List.mem_append.mp hf with hf | hf <;> simp [hf]

theorem handleOutgoingFrames_moves {currTimeval : TimeVal} {host host' : Host D}
    (h : handleOutgoingFrames cfg currTimeval host = .ok host') : SenderMoves cfg host host' := by
  rw [handleOutgoingFrames] at h
  split at h
  · simp at h
  · rename_i framesPerRtt host₁ hresend
    obtain ⟨sent, hsent⟩ := resendWindows_resends hresend
    obtain rfl := Except.ok.inj h
    exact ((Relation.ReflTransGen.single (.resends host host₁ sent hsent)).trans
      (sendLoop_moves (afterLatestTimeout currTimeval host.latestTimeout) []
        host₁.bufferedOutframesHead framesPerRtt 0 fun _ hf => hf)).tail
      (.backlog _ _ (fun _ hf => hf) _)

/-- The handlers after `handle_input_cmds` in a turn. -/
theorem sendRound_moves {currTimeval : TimeVal} {host host' : Host D}
    (h : sendRound cfg currTimeval host = .ok host') :
    ∃ host₁, SenderMoves cfg (handleInputCmds host) host₁ ∧
      SenderMoves cfg
        { host₁ with
          incomingFramesHead := (handleInputCmds host).incomingFramesHead.filter
            (fun f => frameValid f && decide (f.isAck = 0)) } host' := by
  rw [sendRound] at h
  split at h
  · simp at h
  · rename_i host₂ hacks
    obtain ⟨host₁, hmoves, rfl⟩ := handleIncomingAcksLoop_moves hacks
    refine ⟨host₁, hmoves, ?_⟩
    exact .trans (.single (.resends _ _ [] (handleTimedoutFrames_resends currTimeval _)))
      (handleOutgoingFrames_moves h)

/-! ## A turn -/

omit [CDouble D] in
/-- A host that is not woken up has nothing to handle. -/
theorem wakesUp_false {currTimeval : TimeVal} {host : Host D}
    (h : wakesUp cfg currTimeval host = false) :
    host.inputCmdlistHead = [] ∧ host.incomingFramesHead = [] := by
  rw [wakesUp, Bool.or_eq_false_iff, Bool.or_eq_false_iff] at h
  simpa using h.1

/-- A turn in `run_senders`: the host is woken up and handles what there is, or not. -/
theorem runSender_cases {host host' : Host D} (h : runSender cfg host = .ok host') :
    (wakesUp cfg (host.env.clock host.ticks) { host with ticks := host.ticks + 1 } = false ∧
      host' = updateActive cfg { host with ticks := host.ticks + 1, csvOut := false }) ∨
    ∃ host₁, sendRound cfg (host.env.clock host.ticks)
        { host with
          ticks := host.ticks + 1, roundTripNum := host.roundTripNum + 1, csvOut := true } =
        .ok host₁ ∧
      host' = updateActive cfg host₁ := by
  cases hwakes : wakesUp cfg (host.env.clock host.ticks) { host with ticks := host.ticks + 1 } with
  | false =>
    simp only [runSender, gettimeofday, hwakes, Bool.false_eq_true, if_false] at h
    exact .inl ⟨rfl, (Except.ok.inj h).symm⟩
  | true =>
    simp only [runSender, gettimeofday, hwakes, if_true] at h
    split at h
    · simp at h
    · rename_i host₁ hround
      exact .inr ⟨host₁, hround, (Except.ok.inj h).symm⟩

variable (cfg) in
/-- Everything that a turn is made of keeps `I`, which speaks of the host and of the time at which
its turn has begun. -/
structure KeptInTurns (I : TimeVal → Host D → Prop) : Prop where
  turn : ∀ {now host}, I now host → ∀ roundTripNum csvOut, I (host.env.clock host.ticks)
    { host with ticks := host.ticks + 1, roundTripNum := roundTripNum, csvOut := csvOut }
  commands : ∀ {now host}, I now host → I now (handleInputCmds host)
  ack : ∀ {now host host'} frame, I now host → handleAck cfg frame host = .ok host' → I now host'
  incoming : ∀ {now host}, I now host → ∀ frames, I now { host with incomingFramesHead := frames }
  timeout : ∀ {now host}, I now host → I now (handleTimedoutFrames cfg now host)
  send : ∀ {now host host'}, I now host →
    handleOutgoingFrames cfg now host = .ok host' → I now host'
  flags : ∀ {now host}, I now host → ∀ awaitingAck active,
    I now { host with awaitingAck := awaitingAck, active := active }

namespace KeptInTurns

variable {I : TimeVal → Host D → Prop} {host host' : Host D}

theorem handleIncomingAcksLoop (hkept : KeptInTurns cfg I) (now : TimeVal)
    {kept frames : List Frame} (h : I now host)
    (hloop : handleIncomingAcksLoop cfg kept frames host = .ok host') : I now host' := by
  induction frames generalizing kept host with
  | nil =>
    obtain rfl := Except.ok.inj hloop
    exact hkept.incoming h kept
  | cons frame frames ih =>
    rw [Tcp.handleIncomingAcksLoop] at hloop
    split at hloop
    · exact ih h hloop
    · split at hloop
      · exact ih h hloop
      · split at hloop
        · simp at hloop
        · rename_i hack
          exact ih (hkept.ack frame h hack) hloop

/-- **So a turn keeps it.** -/
theorem runSender (hkept : KeptInTurns cfg I) (now : TimeVal) (h : I now host)
    (hrun : runSender cfg host = .ok host') : I (host.env.clock host.ticks) host' := by
  rcases runSender_cases hrun with ⟨-, rfl⟩ | ⟨host₁, hround, rfl⟩
  · exact hkept.flags (hkept.turn h _ _) _ _
  · rw [sendRound] at hround
    split at hround
    · simp at hround
    · rename_i hacks
      have hcommands := hkept.commands (hkept.turn h (host.roundTripNum + 1) true)
      have hacked := hkept.handleIncomingAcksLoop _ hcommands hacks
      exact hkept.flags (hkept.send (hkept.timeout hacked) hround) _ _

end KeptInTurns

/-- What the handlers change when the host is woken up: none of the receiver's fields. The frames
that they create are made from the commands. -/
theorem sendRound_eq {currTimeval : TimeVal} {host host' : Host D}
    (h : sendRound cfg currTimeval host = .ok host') :
    ∃ frames backlog outgoing sendWindow start length latestTimeout curr cc dupAcksSeqNum ticks
      mallocs sent retransmits,
      (∀ frame ∈ frames, ∃ cmd ∈ host.inputCmdlistHead, FromCmd cmd frame) ∧
      host' =
        { host with
          inputCmdlistHead := []
          incomingFramesHead :=
            host.incomingFramesHead.filter (fun f => frameValid f && decide (f.isAck = 0))
          bufferedOutframesHead := backlog
          outgoingFramesHead := outgoing
          sendWindow := sendWindow
          sendWindowStart := start
          sendWindowLength := length
          latestTimeout := latestTimeout
          currSeqNum := curr
          cc := cc
          dupAcksSeqNum := dupAcksSeqNum
          ticks := ticks
          mallocs := mallocs
          log := { host.log with
            created := host.log.created ++ frames
            sent := sent
            retransmits := retransmits } } := by
  obtain ⟨host₁, hmoves, hmoves'⟩ := sendRound_moves h
  obtain ⟨frames, hcreates, hcmds⟩ := handleInputCmds_creates host
  obtain ⟨_, _, heq⟩ := hcreates.eq
  obtain ⟨_, _, _, _, _, _, _, _, _, _, _, rfl⟩ := hmoves.eq
  obtain ⟨_, _, _, _, _, _, _, _, _, _, _, rfl⟩ := hmoves'.eq
  rw [heq]
  exact ⟨frames, _, _, _, _, _, _, _, _, _, _, _, _, _, hcmds, rfl⟩

/-- The fields that a turn changes: none of the receiver. -/
theorem runSender_eq {host host' : Host D} (h : runSender cfg host = .ok host') :
    ∃ awaitingAck active roundTripNum csvOut cmds incoming backlog outgoing sendWindow start length
      latestTimeout curr cc dupAcksSeqNum ticks mallocs created sent retransmits,
      host.log.created <+: created ∧
      host' =
        { host with
          awaitingAck := awaitingAck
          active := active
          roundTripNum := roundTripNum
          csvOut := csvOut
          inputCmdlistHead := cmds
          incomingFramesHead := incoming
          bufferedOutframesHead := backlog
          outgoingFramesHead := outgoing
          sendWindow := sendWindow
          sendWindowStart := start
          sendWindowLength := length
          latestTimeout := latestTimeout
          currSeqNum := curr
          cc := cc
          dupAcksSeqNum := dupAcksSeqNum
          ticks := ticks
          mallocs := mallocs
          log := { host.log with
            created := created, sent := sent, retransmits := retransmits } } := by
  rcases runSender_cases h with ⟨-, rfl⟩ | ⟨host₁, hround, rfl⟩
  · exact ⟨_, _, _, _, _, _, _, _, _, _, _, _, _, _, _, _, _, _, _, _, List.prefix_rfl, rfl⟩
  · obtain ⟨frames, _, _, _, _, _, _, _, _, _, _, _, _, _, -, rfl⟩ := sendRound_eq hround
    exact ⟨_, _, _, _, _, _, _, _, _, _, _, _, _, _, _, _, _, _, _, _, List.prefix_append _ frames,
      rfl⟩

/-- A turn uses up the commands, and makes frames of them. -/
theorem runSender_creates {host host' : Host D} (h : runSender cfg host = .ok host') :
    host'.inputCmdlistHead = [] ∧ ∃ frames, host'.log.created = host.log.created ++ frames ∧
      ∀ frame ∈ frames, ∃ cmd ∈ host.inputCmdlistHead, FromCmd cmd frame := by
  rcases runSender_cases h with ⟨hsleep, rfl⟩ | ⟨host₁, hround, rfl⟩
  · exact ⟨(wakesUp_false hsleep).1, [], (List.append_nil _).symm, by simp⟩
  · obtain ⟨frames, _, _, _, _, _, _, _, _, _, _, _, _, _, hcmds, rfl⟩ := sendRound_eq hround
    exact ⟨rfl, frames, rfl, hcmds⟩

/-- A turn leaves the valid data frames in the list. -/
theorem runSender_incoming {host host' : Host D} (h : runSender cfg host = .ok host') :
    host'.incomingFramesHead =
      host.incomingFramesHead.filter (fun f => frameValid f && decide (f.isAck = 0)) := by
  rcases runSender_cases h with ⟨hsleep, rfl⟩ | ⟨host₁, hround, rfl⟩
  · have hnil : host.incomingFramesHead = [] := (wakesUp_false hsleep).2
    change host.incomingFramesHead = _
    rw [hnil, List.filter_nil]
  · obtain ⟨_, _, _, _, _, _, _, _, _, _, _, _, _, _, -, rfl⟩ := sendRound_eq hround
    rfl

/-- A turn is a sequence of steps on the view of every receiver. -/
theorem runSender_steps (hW : cfg.windowSize ≤ 255) {host host' : Host D} {v : ℕ → SendView}
    (hok : SenderOk cfg host.incomingFramesHead host v) (h : runSender cfg host = .ok host') :
    ∃ v', (∀ id, SendView.Steps cfg.windowSize (v id) (v' id)) ∧
      SenderOk cfg host'.incomingFramesHead host' v' := by
  rcases runSender_cases h with ⟨-, rfl⟩ | ⟨host₁, hround, rfl⟩
  · exact ⟨v, fun _ => .refl, hok.of_eq rfl (fun _ => rfl) rfl rfl rfl⟩
  · suffices hsuff : ∃ v', (∀ id, SendView.Steps cfg.windowSize (v id) (v' id)) ∧
        SenderOk cfg host₁.incomingFramesHead host₁ v' by
      obtain ⟨v', hsteps, hok'⟩ := hsuff
      exact ⟨v', hsteps, hok'.of_eq rfl (fun _ => rfl) rfl rfl rfl⟩
    have hok₀ : SenderOk cfg host.incomingFramesHead
        { host with
          ticks := host.ticks + 1, roundTripNum := host.roundTripNum + 1, csvOut := true } v :=
      hok.of_eq rfl (fun _ => rfl) rfl rfl rfl
    obtain ⟨frames, hcreates, -⟩ := handleInputCmds_creates
      { host with
        ticks := host.ticks + 1, roundTripNum := host.roundTripNum + 1, csvOut := true }
    obtain ⟨_, _, heq⟩ := hcreates.eq
    obtain ⟨v₁, hsteps₁, hok₁⟩ := handleInputCmds_steps hok₀
    unfold sendRound at hround
    split at hround
    · simp at hround
    · rename_i host₂ hacks
      obtain ⟨v₂, hsteps₂, hok₂⟩ := handleIncomingAcks_steps hW
        (by rw [heq] at hok₁ ⊢; exact hok₁) hacks
      obtain ⟨v₃, hsteps₃, hok₃⟩ :=
        handleTimedoutFrames_steps (host.env.clock host.ticks) hok₂
      obtain ⟨v₄, hsteps₄, hok₄⟩ := handleOutgoingFrames_steps hW hok₃ hround
      refine ⟨v₄, fun id => (((hsteps₁ id).trans (hsteps₂ id)).trans (hsteps₃ id)).trans
        (hsteps₄ id), ?_⟩
      obtain ⟨_, _, _, _, _, _, _, htimeout⟩ :=
        (@handleTimedoutFrames_resends _ cfg _ (host.env.clock host.ticks) host₂).eq
      obtain ⟨_, _, _, _, _, _, _, _, _, _, _, hout⟩ := (handleOutgoingFrames_moves hround).eq
      rw [htimeout] at hout
      rw [hout] at hok₄ ⊢
      exact hok₄

end NetworkSim.Tcp
