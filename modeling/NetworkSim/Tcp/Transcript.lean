import NetworkSim.Foundations.Draining
import NetworkSim.Tcp.Exit
import NetworkSim.Tcp.LastFragment
import NetworkSim.Tcp.Retransmissions

/-!
# Messages from end to end

What the user gets to see. A line of input that `check_input` accepts is a command (`commandsRead`);
its sender cuts the message into fragments, the links deliver the fragments, and the receiver prints
what it can reassemble of them. `reassemble_message` reads off the front of a list that grows, so
what a host has printed from a sender is what can be reassembled of all that was appended for it,
however it came in (`Prints`). Hence every host prints, of the messages that another host was told
to send it, the first few, once each and in order, and all of them before the exit
(`printed_messages`).
-/

namespace NetworkSim.Tcp

variable {D : Type} {cfg : SysConfig D}

/-! ## Reading messages off a list of frames -/

/-- The message at the front of a list of frames, and the frames behind it. Where a payload is
longer than its frame, the memory behind is read as zero here. -/
def readMessage (frames : List Frame) : Option (List UInt8 × List Frame) :=
  match reassembleMessage (fun _ _ => 0) 0 frames with
  | (none, _) => none
  | (some msg, _, rest) => some (msg, rest)

theorem scanMessage_some {buffer frames found : List Frame}
    (h : scanMessage buffer frames = some found) :
    ∃ front rest, frames = front ++ rest ∧ front ≠ [] ∧ found = buffer ++ front ∧
      ∀ rest', scanMessage buffer (front ++ rest') = some found := by
  induction frames generalizing buffer with
  | nil => simp [scanMessage] at h
  | cons frame frames ih =>
    rw [scanMessage] at h
    split at h
    · rename_i hlast
      obtain rfl := Option.some.inj h
      refine ⟨[frame], frames, rfl, List.cons_ne_nil _ _, rfl, fun rest' => ?_⟩
      rw [List.singleton_append, scanMessage, if_pos hlast]
    · rename_i hmore
      obtain ⟨front, rest, rfl, -, rfl, hscan⟩ := ih h
      refine ⟨frame :: front, rest, rfl, List.cons_ne_nil _ _, by simp, fun rest' => ?_⟩
      rw [List.cons_append, scanMessage, if_neg hmore, hscan]

/-- The frames popped are those of the buffer. -/
theorem popMessage_append (beyond : ℕ → ℕ → UInt8) (copies : ℕ) (front rest : List Frame) :
    popMessage beyond copies front (front ++ rest) =
      ((popMessage beyond copies front front).1, copies + front.length, rest) := by
  induction front generalizing copies with
  | nil => rfl
  | cons frame front ih =>
    rw [List.cons_append, popMessage, popMessage, ih, List.length_cons, Nat.add_right_comm,
      Nat.add_assoc]

/-- What is behind frames that fit is not copied. -/
theorem popMessage_of_fits {front : List Frame} (h : ∀ frame ∈ front, frame.Fits)
    (beyond : ℕ → ℕ → UInt8) (copies : ℕ) :
    (popMessage beyond copies front front).1 = (popMessage (fun _ _ => 0) 0 front front).1 := by
  have hcopies (front : List Frame) (h : ∀ frame ∈ front, frame.Fits) (copies copies' : ℕ) :
      (popMessage beyond copies front front).1 =
        (popMessage (fun _ _ => 0) copies' front front).1 := by
    induction front generalizing copies copies' with
    | nil => rfl
    | cons frame front ih =>
      obtain ⟨hframe, hfront⟩ := List.forall_mem_cons.mp h
      simp only [popMessage, hframe.copyPayload_eq, ih hfront (copies + 1) (copies' + 1)]
  exact hcopies front h copies 0

theorem reassembleMessage_append {front : List Frame}
    (hscan : ∀ rest, scanMessage [] (front ++ rest) = some front) (beyond : ℕ → ℕ → UInt8)
    (copies : ℕ) (rest : List Frame) :
    reassembleMessage beyond copies (front ++ rest) =
      (some (popMessage beyond copies front front).1, copies + front.length, rest) := by
  rw [reassembleMessage, hscan]
  simp only [popMessage_append]

/-- A message is read off the front or nothing is, whatever the memory. -/
theorem reassembleMessage_cases (frames : List Frame) :
    (readMessage frames = none ∧ ∀ beyond copies,
      reassembleMessage beyond copies frames = (none, copies, frames)) ∨
    ∃ front rest, frames = front ++ rest ∧ front ≠ [] ∧
      (∀ beyond copies rest', reassembleMessage beyond copies (front ++ rest') =
        (some (popMessage beyond copies front front).1, copies + front.length, rest')) ∧
      ∀ rest', readMessage (front ++ rest') =
        some ((popMessage (fun _ _ => 0) 0 front front).1, rest') := by
  cases hscan : scanMessage [] frames with
  | none =>
    have hnone (beyond : ℕ → ℕ → UInt8) (copies : ℕ) :
        reassembleMessage beyond copies frames = (none, copies, frames) := by
      rw [reassembleMessage, hscan]
    exact .inl ⟨by rw [readMessage, hnone], hnone⟩
  | some found =>
    obtain ⟨front, rest, rfl, hne, hfound, hscan'⟩ := scanMessage_some hscan
    rw [List.nil_append] at hfound
    subst hfound
    have hread := reassembleMessage_append hscan'
    exact .inr ⟨_, rest, rfl, hne, hread, fun rest' => by rw [readMessage, hread]⟩

theorem readMessage_some {frames rest : List Frame} {msg : List UInt8}
    (h : readMessage frames = some (msg, rest)) :
    ∃ front, frames = front ++ rest ∧ front ≠ [] ∧
      ∀ rest', readMessage (front ++ rest') = some (msg, rest') := by
  rcases reassembleMessage_cases frames with ⟨hnone, -⟩ | ⟨front, rest', rfl, hne, -, hread⟩
  · cases hnone.symm.trans h
  · obtain ⟨rfl, rfl⟩ := Prod.mk.inj (Option.some.inj ((hread rest').symm.trans h))
    exact ⟨front, rfl, hne, hread⟩

/-- `reassemble_message` looks at no frame behind the message that it returns. -/
theorem frontReader_readMessage : FrontReader readMessage where
  append {frames msg rest} h ys := by
    obtain ⟨front, rfl, -, hread⟩ := readMessage_some h
    rw [List.append_assoc, hread]
  shrinks {frames msg rest} h := by
    obtain ⟨front, rfl, hne, -⟩ := readMessage_some h
    have := List.length_pos_iff.mpr hne
    rw [List.length_append]
    omega

theorem readMessage_suffix (frames : List Frame) (msg : List UInt8) (rest : List Frame)
    (h : readMessage frames = some (msg, rest)) : rest <:+ frames := by
  obtain ⟨front, rfl, -⟩ := readMessage_some h
  exact List.suffix_append front rest

/-- **The loop of reassembly** leaves the frames behind the messages, and prints what is read off
the front when the lengths of the frames fit. -/
theorem reassembleLoop_drain (beyond : ℕ → ℕ → UInt8) (fuel copies : ℕ) (frames : List Frame) :
    ∃ msgs copies', reassembleLoop beyond fuel copies frames =
        (msgs, copies', (drain readMessage fuel frames).2) ∧
      ((∀ frame ∈ frames, frame.Fits) → msgs = (drain readMessage fuel frames).1) := by
  induction fuel generalizing copies frames with
  | zero => exact ⟨[], copies, rfl, fun _ => rfl⟩
  | succ fuel ih =>
    rcases reassembleMessage_cases frames with ⟨hread, hnone⟩ | ⟨front, rest, rfl, -, hsome, hread⟩
    · rw [drain_of_none hread]
      exact ⟨[], copies, by rw [reassembleLoop, hnone], fun _ => rfl⟩
    · rw [drain_of_some (hread rest)]
      obtain ⟨msgs, copies', heq, hmsgs⟩ := ih (copies + front.length) rest
      refine ⟨(popMessage beyond copies front front).1 :: msgs, copies', ?_, fun hfits => ?_⟩
      · rw [reassembleLoop, hsome]
        simp only [heq]
      · obtain ⟨hfront, hrest⟩ := List.forall_mem_append.mp hfits
        rw [hmsgs hrest, popMessage_of_fits hfront]

/-! ## What a host prints -/

/-- The messages that are tagged with `src`. -/
def messagesFrom (src : ℕ) (tagged : List (ℕ × List UInt8)) : List (List UInt8) :=
  (tagged.filter (fun p => p.1 = src)).map Prod.snd

@[simp] theorem messagesFrom_append (src : ℕ) (tagged tagged' : List (ℕ × List UInt8)) :
    messagesFrom src (tagged ++ tagged') =
      messagesFrom src tagged ++ messagesFrom src tagged' := by
  simp [messagesFrom]

theorem messagesFrom_map (src src' : ℕ) (msgs : List (List UInt8)) :
    messagesFrom src (msgs.map fun msg => (src', msg)) = if src' = src then msgs else [] := by
  unfold messagesFrom
  split
  · rename_i h
    rw [List.filter_eq_self.mpr (by simp [h]), List.map_map]
    exact List.map_id msgs
  · rename_i h
    rw [List.filter_eq_nil_iff.mpr (by simp [h]), List.map_nil]

/-- What a host has printed, with the host that each message is from. From every host it is what can
be reassembled of the frames appended for it, if their lengths fit, and the frames that are left
wait. -/
structure Prints (tagged : List (ℕ × List UInt8)) (host : Host D) : Prop where
  printed : tagged.map Prod.snd = host.log.printed
  waiting : ∀ src, (drained readMessage (host.log.appended src)).2 = host.recvMsgHead src
  subset : ∀ src, host.recvMsgHead src ⊆ host.log.appended src
  reassembled : ∀ src, (∀ frame ∈ host.log.appended src, frame.Fits) →
    (drained readMessage (host.log.appended src)).1 = messagesFrom src tagged

theorem Prints.congr {tagged : List (ℕ × List UInt8)} {host host' : Host D}
    (h : Prints tagged host) (hprinted : host'.log.printed = host.log.printed)
    (happended : host'.log.appended = host.log.appended)
    (hhead : host'.recvMsgHead = host.recvMsgHead) : Prints tagged host' where
  printed := h.printed.trans hprinted.symm
  waiting := by rw [happended, hhead]; exact h.waiting
  subset := by rw [happended, hhead]; exact h.subset
  reassembled := by rw [happended]; exact h.reassembled

/-- `frames` are appended to `recv_msg_head[src]`. -/
structure Appends (src : ℕ) (frames : List Frame) (host host' : Host D) : Prop where
  appended : host'.log.appended =
    Function.update host.log.appended src (host.log.appended src ++ frames)
  recvMsgHead : host'.recvMsgHead =
    Function.update host.recvMsgHead src (host.recvMsgHead src ++ frames)
  printed : host'.log.printed = host.log.printed

theorem Appends.nil {src : ℕ} {host host' : Host D} (happended : host'.log.appended =
    host.log.appended) (hhead : host'.recvMsgHead = host.recvMsgHead)
    (hprinted : host'.log.printed = host.log.printed) : Appends src [] host host' :=
  ⟨by simp [happended], by simp [hhead], hprinted⟩

theorem Appends.trans {src : ℕ} {frames frames' : List Frame} {host host' host'' : Host D}
    (h : Appends src frames host host') (h' : Appends src frames' host' host'') :
    Appends src (frames ++ frames') host host'' where
  appended := by rw [h'.appended, h.appended]; simp
  recvMsgHead := by rw [h'.recvMsgHead, h.recvMsgHead]; simp
  printed := h'.printed.trans h.printed

variable (cfg) in
theorem advanceWindow_appends (src rounds : ℕ) (ackSeqNum : UInt8) (host : Host D) :
    ∃ frames, Appends src frames host (advanceWindow cfg src rounds ackSeqNum host).2 := by
  induction rounds generalizing ackSeqNum host with
  | zero => exact ⟨[], .nil rfl rfl rfl⟩
  | succ rounds ih =>
    cases hitem : cqGetItemRecv cfg src 0 host with
    | none =>
      rw [advanceWindow_none hitem]
      exact ⟨[], .nil rfl rfl rfl⟩
    | some frame =>
      rw [advanceWindow_some hitem]
      obtain ⟨frames, h⟩ := ih (ackSeqNum + 1) (advanceOnce cfg src frame host)
      have hone : Appends src [frame] host (advanceOnce cfg src frame host) := ⟨rfl, rfl, rfl⟩
      exact ⟨[frame] ++ frames, hone.trans h⟩

variable (cfg) in
theorem acceptFrame_appends (frame : Frame) (host : Host D) :
    ∃ frames, Appends frame.srcId.toNat frames host (acceptFrame cfg frame host).2 := by
  rw [acceptFrame]
  split
  · exact ⟨[], .nil rfl rfl rfl⟩
  · obtain ⟨frames, h⟩ := advanceWindow_appends cfg frame.srcId.toNat cfg.windowSize
      (host.recvLfr frame.srcId.toNat) (cqSetItemRecv cfg frame.srcId.toNat
        (seqNumDiff (host.recvLfr frame.srcId.toNat) frame.seqNum - 1).toNat frame host)
    exact ⟨frames, h.appended, h.recvMsgHead, h.printed⟩

/-- `frames` are appended for `src`, and what can then be reassembled is taken off and printed. -/
structure Reassembles (src : ℕ) (frames : List Frame) (msgs : List (List UInt8))
    (host host' : Host D) : Prop where
  printed : host'.log.printed = host.log.printed ++ msgs
  appended : host'.log.appended =
    Function.update host.log.appended src (host.log.appended src ++ frames)
  recvMsgHead : host'.recvMsgHead = Function.update host.recvMsgHead src
    (drained readMessage (host.recvMsgHead src ++ frames)).2
  msgs_eq : (∀ frame ∈ host.recvMsgHead src ++ frames, frame.Fits) →
    msgs = (drained readMessage (host.recvMsgHead src ++ frames)).1

variable (cfg) in
theorem handleFrame_reassembles {frame : Frame} (hvalid : frameValid frame = true)
    (host : Host D) : ∃ frames msgs,
      Reassembles frame.srcId.toNat frames msgs host (handleFrame cfg host frame) := by
  obtain ⟨frames, hframes⟩ := acceptFrame_appends cfg frame host
  have hacked : Appends frame.srcId.toNat frames host (sendAck frame.srcId
      (acceptFrame cfg frame host).1 (acceptFrame cfg frame host).2) :=
    ⟨hframes.appended, hframes.recvMsgHead, hframes.printed⟩
  rw [handleFrame_eq hvalid]
  generalize sendAck frame.srcId _ _ = acked at hacked ⊢
  generalize frame.srcId.toNat = src at hacked ⊢
  have hhead : acked.recvMsgHead src = host.recvMsgHead src ++ frames := by
    rw [hacked.recvMsgHead, Function.update_self]
  obtain ⟨msgs, copies, hloop, hmsgs⟩ := reassembleLoop_drain acked.env.beyond
    (acked.recvMsgHead src).length acked.copies (acked.recvMsgHead src)
  rw [reassembleMessages_eq hloop]
  rw [hhead] at hmsgs ⊢
  refine ⟨frames, msgs, congrArg (· ++ msgs) hacked.printed, hacked.appended, ?_, hmsgs⟩
  change Function.update acked.recvMsgHead src _ = _
  rw [hacked.recvMsgHead, Function.update_idem]
  rfl

/-- **What can be reassembled** is printed. -/
theorem Prints.reassembles {tagged : List (ℕ × List UInt8)} {host host' : Host D}
    (h : Prints tagged host) {src : ℕ} {frames : List Frame} {msgs : List (List UInt8)}
    (hnew : Reassembles src frames msgs host host') :
    Prints (tagged ++ msgs.map fun msg => (src, msg)) host' := by
  have hfeed := frontReader_readMessage.drained_append (host.log.appended src) frames
  rw [feed, h.waiting src] at hfeed
  refine ⟨?_, fun src' => ?_, fun src' => ?_, fun src' hfits => ?_⟩
  · rw [hnew.printed, List.map_append, List.map_map, h.printed]
    exact congrArg (host.log.printed ++ ·) (List.map_id msgs)
  · rw [hnew.appended, hnew.recvMsgHead, Function.update_apply, Function.update_apply]
    split
    · rw [hfeed]
    · exact h.waiting src'
  · rw [hnew.appended, hnew.recvMsgHead, Function.update_apply, Function.update_apply]
    split
    · refine List.Subset.trans (drain_suffix readMessage_suffix _ _).subset ?_
      refine List.append_subset.mpr ⟨?_, List.subset_append_right _ _⟩
      exact List.Subset.trans (h.subset src) (List.subset_append_left _ _)
    · exact h.subset src'
  · rw [hnew.appended, Function.update_apply] at hfits ⊢
    rw [messagesFrom_append, messagesFrom_map]
    split at hfits
    · rename_i heq
      subst heq
      obtain ⟨hold, hframes⟩ := List.forall_mem_append.mp hfits
      have hwaits : ∀ frame ∈ host.recvMsgHead src' ++ frames, frame.Fits :=
        List.forall_mem_append.mpr ⟨fun frame hframe => hold frame (h.subset src' hframe), hframes⟩
      rw [if_pos rfl, if_pos rfl, hfeed, h.reassembled src' hold, hnew.msgs_eq hwaits]
    · rename_i hne
      rw [if_neg hne, if_neg (Ne.symm hne), List.append_nil]
      exact h.reassembled src' hfits

theorem Prints.handleIncomingFrames {tagged : List (ℕ × List UInt8)} {host : Host D}
    (h : Prints tagged host) : ∃ tagged', Prints tagged' (Tcp.handleIncomingFrames cfg host) := by
  have hfold (frames : List Frame) (tagged : List (ℕ × List UInt8)) (host : Host D)
      (h : Prints tagged host) :
      ∃ tagged', Prints tagged' (frames.foldl (Tcp.handleFrame cfg) host) := by
    induction frames generalizing tagged host with
    | nil => exact ⟨tagged, h⟩
    | cons frame frames ih =>
      by_cases hvalid : frameValid frame = true
      · obtain ⟨new, msgs, hnew⟩ := handleFrame_reassembles cfg hvalid host
        exact ih _ _ (h.reassembles hnew)
      · rw [List.foldl_cons, handleFrame_invalid (by simpa using hvalid)]
        exact ih tagged host h
  exact hfold _ tagged _ (h.congr rfl rfl rfl)

/-- Frames from hosts that there are add nothing to what was appended for others. -/
theorem handleIncomingFrames_known {host : Host D}
    (hknown : ∀ frame ∈ host.incomingFramesHead, frameValid frame = true →
      frame.srcId.toNat < cfg.numHosts)
    (h : ∀ src, cfg.numHosts ≤ src → host.log.appended src = []) (src : ℕ)
    (hsrc : cfg.numHosts ≤ src) : (handleIncomingFrames cfg host).log.appended src = [] := by
  have hfold (frames : List Frame) (host : Host D)
      (hknown : ∀ frame ∈ frames, frameValid frame = true → frame.srcId.toNat < cfg.numHosts)
      (h : host.log.appended src = []) :
      (frames.foldl (handleFrame cfg) host).log.appended src = [] := by
    induction frames generalizing host with
    | nil => exact h
    | cons frame frames ih =>
      refine ih _ (fun f hf => hknown f (List.mem_cons_of_mem frame hf)) ?_
      by_cases hvalid : frameValid frame = true
      · have hlt := hknown frame List.mem_cons_self hvalid
        obtain ⟨new, hframes⟩ := acceptFrame_appends cfg frame host
        rw [handleFrame_eq hvalid]
        change (acceptFrame cfg frame host).2.log.appended src = []
        rw [hframes.appended, Function.update_of_ne (by omega), h]
      · rwa [handleFrame_invalid (by simpa using hvalid)]
  exact hfold _ _ hknown (h src hsrc)

/-! ## What becomes of commands -/

/-- A command that fits: its message is a string, and the bytes still to be sent fit into
`remaining_msg_bytes`. -/
structure Cmd.Fits (cmd : Cmd) : Prop where
  string : 0 ∉ cmd.message
  length_le : cmd.message.length + 1 ≤ 65591

/-- The text that the receiver of a command is to print: the message with its terminator. -/
def Cmd.text (cmd : Cmd) : List UInt8 := cmd.message ++ [0]

/-- `frames` are made from `cmd`. -/
structure FragmentsOf (cmd : Cmd) (frames : List Frame) : Prop where
  fragments : Fragments cmd.text frames
  dstId : ∀ frame ∈ frames, frame.dstId = UInt8.ofNat cmd.dstId.toNat

theorem handleInputCmd_fragmentsOf {cmd : Cmd} (h : cmd.Fits) (host : Host D) :
    ∃ frames, FragmentsOf cmd frames ∧ Creates frames host (handleInputCmd host cmd) := by
  obtain ⟨frames, hfragments, hcreates⟩ := handleInputCmd_fragments h.string h.length_le host
  obtain ⟨frames', hcreates', hfrom, -⟩ := handleInputCmd_remaining cmd host
  obtain ⟨_, _, heq⟩ := hcreates.eq
  obtain ⟨_, _, heq'⟩ := hcreates'.eq
  obtain rfl : frames = frames' :=
    List.append_cancel_left (congrArg (·.log.created) (heq.symm.trans heq'))
  exact ⟨frames, ⟨hfragments, fun frame hframe => (hfrom frame hframe).dstId⟩, hcreates⟩

theorem foldl_handleInputCmd_fragmentsOf (cmds : List Cmd) (h : ∀ cmd ∈ cmds, cmd.Fits)
    (host : Host D) : ∃ groups, List.Forall₂ FragmentsOf cmds groups ∧
      Creates groups.flatten host (cmds.foldl handleInputCmd host) := by
  induction cmds generalizing host with
  | nil => exact ⟨[], .nil, Creates.refl host⟩
  | cons cmd cmds ih =>
    obtain ⟨frames, hframes, hcreates⟩ := handleInputCmd_fragmentsOf (h cmd List.mem_cons_self) host
    obtain ⟨groups, hgroups, hcreates'⟩ :=
      ih (fun c hc => h c (List.mem_cons_of_mem cmd hc)) (handleInputCmd host cmd)
    exact ⟨frames :: groups, .cons hframes hgroups, hcreates.trans hcreates'⟩

/-- Of the commands `cmds` that a host was given, it has cut the first ones into the frames that it
has created, and the others wait. -/
def HandsOver (cmds : List Cmd) (host : Host D) : Prop :=
  ∃ handled groups, cmds = handled ++ host.inputCmdlistHead ∧
    List.Forall₂ FragmentsOf handled groups ∧ host.log.created = groups.flatten

/-- The commands for receiver `r`. -/
def commandsFor (r : ℕ) (cmds : List Cmd) : List Cmd :=
  cmds.filter (fun cmd => cmd.dstId.toNat = r)

theorem commandsFor_append (r : ℕ) (cmds cmds' : List Cmd) :
    commandsFor r (cmds ++ cmds') = commandsFor r cmds ++ commandsFor r cmds' :=
  List.filter_append ..

/-- The frames for a receiver are the fragments of the commands for it. -/
theorem framesFor_flatten {cmds : List Cmd} {groups : List (List Frame)}
    (h : List.Forall₂ FragmentsOf cmds groups) (hlt : ∀ cmd ∈ cmds, cmd.dstId.toNat < 256) (r : ℕ) :
    ∃ groups', List.Forall₂ (fun cmd frames => Fragments (cmd.message ++ [0]) frames)
        (commandsFor r cmds) groups' ∧ framesFor r groups.flatten = groups'.flatten := by
  induction h with
  | nil => exact ⟨[], .nil, rfl⟩
  | @cons cmd frames cmds groups hframes _ ih =>
    obtain ⟨groups', hgroups', hflatten⟩ := ih fun c hc => hlt c (List.mem_cons_of_mem cmd hc)
    have hdst (frame : Frame) (hframe : frame ∈ frames) :
        frame.dstId.toNat = cmd.dstId.toNat := by
      rw [hframes.dstId frame hframe, toNat_ofNat, Nat.mod_eq_of_lt (hlt cmd List.mem_cons_self)]
    rw [List.flatten_cons, framesFor_append, hflatten, commandsFor, List.filter_cons]
    by_cases hr : cmd.dstId.toNat = r
    · refine ⟨frames :: groups', ?_, ?_⟩
      · rw [if_pos (by simpa using hr)]
        exact .cons hframes.fragments hgroups'
      · rw [List.flatten_cons, framesFor, List.filter_eq_self.mpr]
        exact fun frame hframe => decide_eq_true ((hdst frame hframe).trans hr)
    · refine ⟨groups', ?_, ?_⟩
      · rw [if_neg (by simpa using hr)]
        exact hgroups'
      · rw [framesFor, List.filter_eq_nil_iff.mpr, List.nil_append]
        exact fun frame hframe hfor => hr ((hdst frame hframe).symm.trans (of_decide_eq_true hfor))

variable [CDouble D]

/-- A turn of a sender cuts all its commands. -/
theorem runSender_fragmentsOf {host host' : Host D} (h : ∀ cmd ∈ host.inputCmdlistHead, cmd.Fits)
    (hrun : runSender cfg host = .ok host') :
    ∃ groups, List.Forall₂ FragmentsOf host.inputCmdlistHead groups ∧
      host'.inputCmdlistHead = [] ∧ host'.log.created = host.log.created ++ groups.flatten := by
  rcases runSender_cases hrun with ⟨hsleep, rfl⟩ | ⟨host₁, hround, rfl⟩
  · have hnil : host.inputCmdlistHead = [] := (wakesUp_false hsleep).1
    refine ⟨[], ?_, hnil, (List.append_nil _).symm⟩
    rw [hnil]
    exact .nil
  · obtain ⟨groups, hgroups, hcreates⟩ := foldl_handleInputCmd_fragmentsOf host.inputCmdlistHead h
      { host with
        ticks := host.ticks + 1, roundTripNum := host.roundTripNum + 1, csvOut := true
        inputCmdlistHead := [] }
    obtain ⟨_, _, heq⟩ := hcreates.eq
    obtain ⟨host₂, hmoves, hmoves'⟩ := sendRound_moves hround
    obtain ⟨_, _, _, _, _, _, _, _, _, _, _, rfl⟩ := hmoves.eq
    obtain ⟨_, _, _, _, _, _, _, _, _, _, _, rfl⟩ := hmoves'.eq
    refine ⟨groups, hgroups, congrArg Host.inputCmdlistHead heq, ?_⟩
    exact congrArg (·.log.created) heq

theorem HandsOver.runSender {cmds : List Cmd} {host host' : Host D} (h : HandsOver cmds host)
    (hfits : ∀ cmd ∈ cmds, cmd.Fits) (hrun : runSender cfg host = .ok host') :
    HandsOver cmds host' := by
  obtain ⟨handled, groups, rfl, hgroups, hcreated⟩ := h
  obtain ⟨groups', hgroups', hnil, hcreated'⟩ :=
    runSender_fragmentsOf (fun cmd hcmd => hfits cmd (List.mem_append_right _ hcmd)) hrun
  refine ⟨handled ++ host.inputCmdlistHead, groups ++ groups', by rw [hnil, List.append_nil],
    List.rel_append hgroups hgroups', ?_⟩
  rw [hcreated', hcreated, List.flatten_append]

omit [CDouble D] in
theorem HandsOver.sameSender {cmds : List Cmd} {host host' : Host D} (h : HandsOver cmds host)
    (hcmds : host'.inputCmdlistHead = host.inputCmdlistHead)
    (hcreated : host'.log.created = host.log.created) : HandsOver cmds host' := by
  rw [HandsOver, hcmds, hcreated]
  exact h

/-! ## What the input says -/

omit [CDouble D] in
variable (cfg) in
/-- The command that `check_input` makes of a line that it accepts. -/
def InputLine.command : InputLine → Option Cmd
  | .eof => none
  | .scanned sscanfRes inputCommand senderId receiverId inputMessage =>
    if 4 ≤ sscanfRes ∧ inputCommand = "msg" ∧ senderId < cfg.numHosts ∧
        receiverId < cfg.numHosts ∧ 0 ≤ senderId ∧ 0 ≤ receiverId then
      some ⟨UInt16.ofInt senderId, UInt16.ofInt receiverId, inputMessage⟩
    else none

/-- The lines that a call of `check_input` reads before it stops at an `exit`. -/
def linesRead : List InputLine → List InputLine
  | [] => []
  | .eof :: _ => []
  | .scanned sscanfRes inputCommand senderId receiverId inputMessage :: lines =>
    if sscanfRes < 4 ∧ inputCommand = "exit" then []
    else .scanned sscanfRes inputCommand senderId receiverId inputMessage :: linesRead lines

omit [CDouble D] in
variable (cfg) in
/-- The commands that the first `n` calls of `check_input` accept. -/
def commandsRead (env : WorldEnv) (n : ℕ) : List Cmd :=
  (List.range n).flatMap fun k => (linesRead (env.stdin k)).filterMap (InputLine.command cfg)

/-- The commands from host `i`. -/
def commandsFrom (i : ℕ) (cmds : List Cmd) : List Cmd :=
  cmds.filter (fun cmd => cmd.srcId.toNat = i)

omit [CDouble D] in
theorem commandsRead_succ (env : WorldEnv) (n : ℕ) :
    commandsRead cfg env (n + 1) = commandsRead cfg env n ++
      (linesRead (env.stdin n)).filterMap (InputLine.command cfg) := by
  rw [commandsRead, List.range_succ, List.flatMap_append, List.flatMap_singleton]
  rfl

/-- Host `i` gets the commands from host `i`. -/
def GivesCommands (cmds : List Cmd) (w w' : World D) : Prop :=
  ∀ i, w'.hosts i =
    { w.hosts i with inputCmdlistHead := (w.hosts i).inputCmdlistHead ++ commandsFrom i cmds }

omit [CDouble D] in
theorem GivesCommands.nil (w : World D) : GivesCommands [] w w :=
  fun i => by simp [commandsFrom]

omit [CDouble D] in
theorem GivesCommands.trans {cmds cmds' : List Cmd} {w w' w'' : World D}
    (h : GivesCommands cmds w w') (h' : GivesCommands cmds' w' w'') :
    GivesCommands (cmds ++ cmds') w w'' := fun i => by
  rw [h' i, h i]
  simp [commandsFrom]

omit [CDouble D] in
theorem checkCommand_gives (hhosts : cfg.numHosts ≤ 256) {sscanfRes : ℤ} (hres : ¬ sscanfRes < 4)
    (inputCommand : String) (senderId receiverId : ℤ) (inputMessage : List UInt8) (w : World D) :
    GivesCommands ((InputLine.command cfg
        (.scanned sscanfRes inputCommand senderId receiverId inputMessage)).toList) w
      (checkCommand cfg inputCommand senderId receiverId inputMessage w) := by
  rw [checkCommand, InputLine.command]
  by_cases h : inputCommand = "msg" ∧ senderId < cfg.numHosts ∧ receiverId < cfg.numHosts ∧
      0 ≤ senderId ∧ 0 ≤ receiverId
  · rw [if_pos h, if_pos ⟨by omega, h⟩]
    intro i
    have hsrc : (UInt16.ofInt senderId).toNat = senderId.toNat := by
      rw [ofInt_eq_ofNat h.2.2.2.1, UInt16.toNat_ofNat']
      omega
    rw [hosts_setHost]
    split
    · rename_i hi
      subst hi
      simp [commandsFrom, hsrc]
    · rename_i hi
      simp [commandsFrom, hsrc, Ne.symm hi]
  · rw [if_neg h, if_neg (fun hall => h hall.2)]
    exact .nil w

omit [CDouble D] in
theorem checkInputLoop_gives (hhosts : cfg.numHosts ≤ 256) (lines : List InputLine)
    (w : World D) :
    GivesCommands ((linesRead lines).filterMap (InputLine.command cfg)) w
      (checkInputLoop cfg lines w).2 := by
  induction lines generalizing w with
  | nil => exact .nil w
  | cons line lines ih =>
    cases line with
    | eof => exact .nil w
    | scanned sscanfRes inputCommand senderId receiverId inputMessage =>
      rw [checkInputLoop, linesRead]
      by_cases hres : sscanfRes < 4
      · have hnone : InputLine.command cfg
            (.scanned sscanfRes inputCommand senderId receiverId inputMessage) = none := by
          rw [InputLine.command, if_neg (by omega)]
        by_cases hexit : inputCommand = "exit"
        · rw [if_pos hres, if_pos hexit, if_pos ⟨hres, hexit⟩]
          exact .nil w
        · rw [if_pos hres, if_neg hexit, if_neg (fun h => hexit h.2), List.filterMap_cons, hnone]
          exact ih w
      · rw [if_neg hres, if_neg (fun h => hres h.1)]
        have hone := checkCommand_gives hhosts hres inputCommand senderId receiverId inputMessage w
        have hrest := ih (checkCommand cfg inputCommand senderId receiverId inputMessage w)
        have hboth := hone.trans hrest
        rw [List.filterMap_cons]
        cases hcmd : InputLine.command cfg
            (.scanned sscanfRes inputCommand senderId receiverId inputMessage) with
        | none => simpa [hcmd] using hboth
        | some cmd => simpa [hcmd] using hboth

omit [CDouble D] in
variable (cfg) in
theorem checkInputLoop_world (lines : List InputLine) (w : World D) :
    ∃ hosts, (checkInputLoop cfg lines w).2 = { w with hosts := hosts } := by
  induction lines generalizing w with
  | nil => exact ⟨w.hosts, rfl⟩
  | cons line lines ih =>
    cases line with
    | eof => exact ⟨w.hosts, rfl⟩
    | scanned sscanfRes inputCommand senderId receiverId inputMessage =>
      rw [checkInputLoop]
      split
      · split
        · exact ⟨w.hosts, rfl⟩
        · exact ih w
      · obtain ⟨hosts, heq⟩ :=
          ih (checkCommand cfg inputCommand senderId receiverId inputMessage w)
        rw [heq, checkCommand]
        split <;> exact ⟨hosts, rfl⟩

omit [CDouble D] in
/-- **A call of `handle_input`** gives the hosts the commands that it reads. -/
theorem handleInput_gives (hhosts : cfg.numHosts ≤ 256) {w w' : World D}
    (h : handleInput cfg w = .ok w') :
    GivesCommands ((linesRead (w.env.stdin w.inputs)).filterMap (InputLine.command cfg)) w w' ∧
      w'.env = w.env ∧ w'.inputs = w.inputs + 1 := by
  have hgives := checkInputLoop_gives hhosts (w.env.stdin w.inputs)
    { w with inputs := w.inputs + 1 }
  obtain ⟨hosts, hworld⟩ := checkInputLoop_world cfg (w.env.stdin w.inputs)
    { w with inputs := w.inputs + 1 }
  rw [handleInput, checkInput] at h
  split at h
  · simp at h
  all_goals
    rename_i w₁ heq
    obtain rfl := Except.ok.inj h
    rw [heq] at hgives hworld
    obtain rfl : w₁ = _ := hworld
    exact ⟨hgives, rfl, rfl⟩

/-! ## Runs -/

omit [CDouble D] in
theorem SwitchSteps.world_eq {w w' : World D} (h : SwitchSteps cfg w w') :
    ∃ hosts rands, w' = { w with hosts := hosts, rands := rands } := by
  induction h with
  | refl => exact ⟨_, _, rfl⟩
  | tail _ hstep ih =>
    obtain ⟨_, _, rfl⟩ := ih
    cases hstep <;> exact ⟨_, _, rfl⟩

/-- Where the commands read so far have got to, and what has been printed. -/
structure TranscriptInv (cfg : SysConfig D) (env : WorldEnv) (w : World D) : Prop where
  env_eq : w.env = env
  senders : (∀ cmd ∈ commandsRead cfg env w.inputs, cmd.Fits) → ∀ i < cfg.numHosts,
    HandsOver (commandsFrom i (commandsRead cfg env w.inputs)) (w.hosts i)
  receivers : ∀ i < cfg.numHosts, ∃ tagged, Prints tagged (w.hosts i)
  known : ∀ i < cfg.numHosts, ∀ src, cfg.numHosts ≤ src → (w.hosts i).log.appended src = []

/-- What a host has of the commands and of the messages. -/
structure SameTranscript (host host' : Host D) : Prop where
  cmds : host'.inputCmdlistHead = host.inputCmdlistHead
  created : host'.log.created = host.log.created
  appended : host'.log.appended = host.log.appended
  printed : host'.log.printed = host.log.printed
  recvMsgHead : host'.recvMsgHead = host.recvMsgHead

namespace TranscriptInv

variable {env : WorldEnv} {w w' : World D}

omit [CDouble D] in
theorem of_same (h : TranscriptInv cfg env w) (henv : w'.env = w.env)
    (hinputs : w'.inputs = w.inputs)
    (hsame : ∀ i, SameTranscript (w.hosts i) (w'.hosts i)) : TranscriptInv cfg env w' where
  env_eq := henv.trans h.env_eq
  senders hfits i hi := by
    rw [hinputs] at hfits ⊢
    exact (h.senders hfits i hi).sameSender (hsame i).cmds (hsame i).created
  receivers i hi := by
    obtain ⟨tagged, htagged⟩ := h.receivers i hi
    exact ⟨tagged, htagged.congr (hsame i).printed (hsame i).appended (hsame i).recvMsgHead⟩
  known i hi src hsrc := by
    rw [(hsame i).appended]
    exact h.known i hi src hsrc

omit [CDouble D] in
theorem switch (h : TranscriptInv cfg env w) (hsteps : SwitchSteps cfg w w') :
    TranscriptInv cfg env w' := by
  have hsame (i : ℕ) : SameTranscript (w.hosts i) (w'.hosts i) := by
    obtain ⟨_, _, heq⟩ := hsteps.hosts_eq i
    rw [heq]
    exact ⟨rfl, rfl, rfl, rfl, rfl⟩
  obtain ⟨_, _, heq⟩ := hsteps.world_eq
  exact h.of_same (by rw [heq]) (by rw [heq]) hsame

theorem start (hostEnv : ℕ → HostEnv) : TranscriptInv cfg env (init cfg hostEnv env) where
  env_eq := rfl
  senders _ _ _ := ⟨[], [], rfl, .nil, rfl⟩
  receivers _ _ := ⟨[], rfl, fun _ => rfl, fun _ => List.Subset.refl _, fun _ _ => rfl⟩
  known _ _ _ _ := rfl

omit [CDouble D] in
/-- New commands wait behind the others. -/
theorem input (hhosts : cfg.numHosts ≤ 256) (h : TranscriptInv cfg env w)
    (hinput : handleInput cfg w = .ok w') : TranscriptInv cfg env w' := by
  obtain ⟨hgives, henv, hinputs⟩ := handleInput_gives hhosts hinput
  refine ⟨henv.trans h.env_eq, fun hfits i hi => ?_, fun i hi => ?_, fun i hi src hsrc => ?_⟩
  · rw [hinputs, commandsRead_succ] at hfits ⊢
    obtain ⟨handled, groups, hcmds, hgroups, hcreated⟩ :=
      h.senders (fun cmd hcmd => hfits cmd (List.mem_append_left _ hcmd)) i hi
    rw [hgives i, h.env_eq]
    refine ⟨handled, groups, ?_, hgroups, hcreated⟩
    rw [commandsFrom, List.filter_append, ← commandsFrom, hcmds, List.append_assoc]
    rfl
  · obtain ⟨tagged, htagged⟩ := h.receivers i hi
    rw [hgives i]
    exact ⟨tagged, htagged.congr rfl rfl rfl⟩
  · rw [hgives i]
    exact h.known i hi src hsrc

theorem senderTurn (h : TranscriptInv cfg env w) {i : ℕ} (hi : i < cfg.numHosts) {host : Host D}
    (hrun : runSender cfg (w.hosts i) = .ok host) : TranscriptInv cfg env (setHost i host w) := by
  have hrecv : host.log.printed = (w.hosts i).log.printed ∧
      host.log.appended = (w.hosts i).log.appended ∧
      host.recvMsgHead = (w.hosts i).recvMsgHead := by
    obtain ⟨_, _, _, _, _, _, _, _, _, _, _, _, _, _, _, _, _, _, _, _, -, heq⟩ := runSender_eq hrun
    rw [heq]
    exact ⟨rfl, rfl, rfl⟩
  refine ⟨h.env_eq, fun hfits j hj => ?_, fun j hj => ?_, fun j hj src hsrc => ?_⟩
  · rw [hosts_setHost]
    split
    · rename_i hji
      subst hji
      refine (h.senders hfits j hj).runSender (fun cmd hcmd => ?_) hrun
      exact hfits cmd (List.mem_of_mem_filter hcmd)
    · exact h.senders hfits j hj
  · rw [hosts_setHost]
    split
    · obtain ⟨tagged, htagged⟩ := h.receivers i hi
      exact ⟨tagged, htagged.congr hrecv.1 hrecv.2.1 hrecv.2.2⟩
    · exact h.receivers j hj
  · rw [hosts_setHost]
    split
    · rw [hrecv.2.1]
      exact h.known i hi src hsrc
    · exact h.known j hj src hsrc

omit [CDouble D] in
theorem receiverTurn (hknown : KnownSources cfg w) (h : TranscriptInv cfg env w) {i : ℕ}
    (hi : i < cfg.numHosts) :
    TranscriptInv cfg env (setHost i (handleIncomingFrames cfg (w.hosts i)) w) := by
  have hsame : (handleIncomingFrames cfg (w.hosts i)).inputCmdlistHead =
      (w.hosts i).inputCmdlistHead ∧
      (handleIncomingFrames cfg (w.hosts i)).log.created = (w.hosts i).log.created := by
    obtain ⟨_, _, _, _, _, _, _, _, _, heq⟩ := handleIncomingFrames_eq cfg (w.hosts i)
    rw [heq]
    exact ⟨rfl, rfl⟩
  refine ⟨h.env_eq, fun hfits j hj => ?_, fun j hj => ?_, fun j hj src hsrc => ?_⟩
  · rw [hosts_setHost]
    split
    · rename_i hji
      subst hji
      exact (h.senders hfits j hj).sameSender hsame.1 hsame.2
    · exact h.senders hfits j hj
  · rw [hosts_setHost]
    split
    · obtain ⟨tagged, htagged⟩ := h.receivers i hi
      exact htagged.handleIncomingFrames
    · exact h.receivers j hj
  · rw [hosts_setHost]
    split
    · exact handleIncomingFrames_known (hknown i hi) (h.known i hi) src hsrc
    · exact h.known j hj src hsrc

/-- **Every step keeps track of the commands.** -/
theorem step (hhosts : cfg.numHosts ≤ 256) {s s' : State D} (hphase : PhaseInv cfg s)
    (hknown : KnownSources cfg s.world) (h : TranscriptInv cfg env s.world)
    (hstep : step cfg s = .ok s') : TranscriptInv cfg env s'.world := by
  have hinput (w : World D) (hs : s = ⟨.top, w⟩) : TranscriptInv cfg env s'.world := by
    subst hs
    simp only [Tcp.step] at hstep
    split at hstep
    · simp at hstep
    · rename_i w₁ hread
      obtain ⟨rands, hworld⟩ := getRandSeq_world cfg.numHosts w₁
      rw [hworld] at hstep
      rw [← Except.ok.inj hstep]
      have hone : TranscriptInv cfg env w₁ := by
        split at hread
        · exact Except.ok.inj hread ▸ h
        · exact h.input hhosts hread
      exact hone.of_same rfl rfl fun _ => ⟨rfl, rfl, rfl, rfl, rfl⟩
  cases step_cases hstep with
  | input w w' rands order hreads horder => exact hinput w rfl
  | sender w i todo host hrun =>
    exact h.senderTurn (hphase.todo_lt i List.mem_cons_self) hrun
  | dataFrames w w' rands order hdata horder =>
    obtain ⟨hsteps, -⟩ := sendDataFrames_steps hphase.ports hdata
    exact h.switch (hsteps.tail (.rand w' rands))
  | receiver w i todo => exact h.receiverTurn hknown (hphase.todo_lt i List.mem_cons_self)
  | ackFrames w w' hacks =>
    obtain ⟨hsteps, -⟩ := sendAckFrames_steps hacks
    exact h.switch hsteps
  | exit w hexit => exact h
  | again w => exact h
  | exited w => exact h

theorem run (hhosts : cfg.numHosts ≤ 256) {hostEnv : ℕ → HostEnv} {n : ℕ} {s : State D}
    (h : steps cfg n ⟨.top, init cfg hostEnv env⟩ = .ok s) : TranscriptInv cfg env s.world := by
  have hinv := steps_invariant
    (I := fun s => PhaseInv cfg s ∧ KnownSources cfg s.world ∧ TranscriptInv cfg env s.world)
    (P := fun _ => True)
    ⟨PhaseInv.start hostEnv env, fun _ _ _ hmem => absurd hmem List.not_mem_nil, .start hostEnv⟩
    (fun s s' hs _ hstep => ⟨hs.1.step hstep, hs.2.1.step hs.1 hstep,
      hs.2.2.step hhosts hs.1 hs.2.1 hstep⟩) (fun _ _ _ _ => trivial) h
  exact hinv.2.2

end TranscriptInv

omit [CDouble D] in
theorem commandsRead_lt (hhosts : cfg.numHosts ≤ 256) {env : WorldEnv} {n : ℕ} {cmd : Cmd}
    (h : cmd ∈ commandsRead cfg env n) : cmd.dstId.toNat < 256 := by
  obtain ⟨k, -, hcmd⟩ := List.mem_flatMap.mp h
  obtain ⟨line, -, hline⟩ := List.mem_filterMap.mp hcmd
  cases line with
  | eof => simp [InputLine.command] at hline
  | scanned sscanfRes inputCommand senderId receiverId inputMessage =>
    rw [InputLine.command] at hline
    split at hline
    · rename_i hvalid
      obtain rfl := Option.some.inj hline
      change (UInt16.ofInt receiverId).toNat < 256
      rw [ofInt_eq_ofNat hvalid.2.2.2.2.2, UInt16.toNat_ofNat']
      omega
    · simp at hline

omit [CDouble D] in
variable (cfg) in
/-- The texts of the messages that the first `n` calls of `check_input` have told host `s` to send
to host `r`. -/
def textsRead (env : WorldEnv) (n s r : ℕ) : List (List UInt8) :=
  (commandsFor r (commandsFrom s (commandsRead cfg env n))).map Cmd.text

/-! ## What has been delivered, among hosts whose numbers fit into a byte -/

/-- The link from a sender to a receiver, after a run. -/
theorem exists_link (hW : cfg.windowSize ≤ 127) (hhosts : cfg.numHosts ≤ 256)
    {hostEnv : ℕ → HostEnv} {env : WorldEnv} {n : ℕ} {state : State D}
    (h : steps cfg n ⟨.top, init cfg hostEnv env⟩ = .ok state) {s r : ℕ} (hs : s < cfg.numHosts)
    (hr : r < cfg.numHosts) :
    ∃ L : SlidingWindow.Link Frame, L.Inv cfg.windowSize ∧
      LinkRel cfg s r (state.world.hosts s) (state.world.hosts r) L :=
  (DeliveryInv.run (by omega) h).links (fun i hi hge => by omega) s hs r hr

/-- What a receiver has appended for a sender is a prefix of what was created for it, and at the
exit all of it. -/
theorem arrived_prefix (hW : cfg.windowSize ≤ 127) (hhosts : cfg.numHosts ≤ 256)
    {hostEnv : ℕ → HostEnv} {env : WorldEnv} {n : ℕ} {state : State D}
    (h : steps cfg n ⟨.top, init cfg hostEnv env⟩ = .ok state) {s r : ℕ} (hs : s < cfg.numHosts)
    (hr : r < cfg.numHosts) :
    (state.world.hosts r).log.appended s <+: framesFor r (state.world.hosts s).log.created ∧
      (state.point = .exited → (state.world.hosts s).inputCmdlistHead = [] ∧
        (state.world.hosts r).log.appended s =
          framesFor r (state.world.hosts s).log.created) := by
  obtain ⟨L, hL, hrel⟩ := exists_link hW hhosts h hs hr
  rw [hrel.created, show (state.world.hosts r).log.appended s = L.delivered from
    congrArg RecvView.appended hrel.received]
  refine ⟨hL.delivered_prefix, fun hexit => ?_⟩
  have hinv := ExitInv.run h
  have hsettled : Settled cfg (state.world.hosts s) :=
    hinv.settled s hs (by rw [hexit]; exact List.not_mem_nil)
  have hactive : (state.world.hosts s).active = false := by
    have hflags := hinv.exited hexit
    rw [gracefulExit, Bool.and_eq_true, List.all_eq_true] at hflags
    simpa using hflags.2 s (List.mem_range.mpr hs)
  -- nothing is in the window or waits behind it
  obtain ⟨v, hok, -⟩ := (DeliveryInv.run (by omega) h).senders s hs
  obtain ⟨hwin, hbacklog⟩ := hok.unacked_eq_nil hsettled hactive hr
  have hwindow := hrel.window
  have hrest := hrel.backlog
  rw [(hok r).1.window, hwin] at hwindow
  rw [(hok r).1.backlog, hbacklog] at hrest
  have hlen := congrArg List.length hwindow
  have hlen' := congrArg List.length hrest
  simp only [List.map_nil, List.length_nil, List.length_map, List.length_take,
    List.length_drop] at hlen hlen'
  have hnext := hL.next_le
  have hbase := hL.base_le
  exact ⟨hsettled.cmds_nil, hL.delivered_prefix.eq_of_length_le (by omega)⟩

/-- Every frame made has a length that fits. -/
theorem created_fits {hostEnv : ℕ → HostEnv} {env : WorldEnv} {n : ℕ} {state : State D}
    (h : steps cfg n ⟨.top, init cfg hostEnv env⟩ = .ok state) :
    ∀ i < cfg.numHosts, ∀ frame ∈ (state.world.hosts i).log.created, frame.Fits := by
  refine hosts_invariant (I := fun _ host => ∀ frame ∈ host.log.created, frame.Fits)
    (P := fun _ => True) ?_ ?_ ?_ (fun _ _ _ _ => trivial) h
  · exact fun i _ frame hframe => absurd hframe List.not_mem_nil
  · intro i host host' hsame hfits
    obtain ⟨_, _, _, _, _, _, _, _, _, _, _, rfl⟩ := hsame
    exact hfits
  · intro s i todo host' _ _ _ hfits hrun frame hframe
    obtain ⟨-, frames, hcreated, hfrom⟩ := runSender_creates hrun
    rw [hcreated] at hframe
    rcases List.mem_append.mp hframe with hold | hnew
    · exact hfits frame hold
    · obtain ⟨cmd, -, hcmd⟩ := hfrom frame hnew
      exact hcmd.fits

/-- So has every frame that is appended. -/
theorem appended_fits (hW : cfg.windowSize ≤ 127) (hhosts : cfg.numHosts ≤ 256)
    {hostEnv : ℕ → HostEnv} {env : WorldEnv} {n : ℕ} {state : State D}
    (h : steps cfg n ⟨.top, init cfg hostEnv env⟩ = .ok state) {s r : ℕ} (hs : s < cfg.numHosts)
    (hr : r < cfg.numHosts) : ∀ frame ∈ (state.world.hosts r).log.appended s, frame.Fits := by
  intro frame hframe
  obtain ⟨hbegins, -⟩ := arrived_prefix hW hhosts h hs hr
  exact created_fits h s hs frame (List.mem_of_mem_filter (hbegins.subset hframe))

/-- **No payload is read past its end.** Every frame that is ever appended to a `recv_msg_head` has
a length that fits, so the memory behind it is never copied. -/
theorem payloads_fit (cfg : SysConfig D) (hW : cfg.windowSize ≤ 127)
    (hhosts : cfg.numHosts ≤ 256) (hostEnv : ℕ → HostEnv) (env : WorldEnv) (n : ℕ) (state : State D)
    (h : steps cfg n ⟨.top, init cfg hostEnv env⟩ = .ok state) (r : ℕ) (hr : r < cfg.numHosts)
    (src : ℕ) (frame : Frame) (hframe : frame ∈ (state.world.hosts r).log.appended src) :
    frame.length.toNat ≤ framePayloadSize ∧ ∀ beyond beyond' : ℕ → UInt8,
      copyPayload beyond frame = copyPayload beyond' frame := by
  have hfits : frame.Fits := by
    rcases Nat.lt_or_ge src cfg.numHosts with hsrc | hsrc
    · exact appended_fits hW hhosts h hsrc hr frame hframe
    · rw [(TranscriptInv.run hhosts h).known r hr src hsrc] at hframe
      exact absurd hframe List.not_mem_nil
  exact ⟨hfits, fun _ _ => by rw [hfits.copyPayload_eq, hfits.copyPayload_eq]⟩

set_option maxRecDepth 10000 in
/-- The run of `helloEnv`, in which one frame arrives. -/
theorem payloads_fit_hello :
    ∃ s, steps ccBasicConfig 28 ⟨.top, init ccBasicConfig (fun _ => .still) helloEnv⟩ = .ok s ∧
      ∃ frame ∈ (s.world.hosts 1).log.appended 0, frame.length.toNat ≤ framePayloadSize := by
  obtain ⟨s, hs, hlen⟩ := exists_of_map_eq (e := steps ccBasicConfig 28
    ⟨.top, init ccBasicConfig (fun _ => .still) helloEnv⟩)
    (f := fun s => ((s.world.hosts 1).log.appended 0).length) (b := 1) (by decide +kernel)
  obtain ⟨frame, hframe⟩ := List.length_eq_one_iff.mp hlen
  have hmem : frame ∈ (s.world.hosts 1).log.appended 0 := hframe ▸ List.mem_singleton_self frame
  exact ⟨s, hs, frame, hmem, (payloads_fit ccBasicConfig (by decide) (by decide) _ helloEnv 28 s hs
    1 (by decide) 0 frame hmem).1⟩

/-- **Messages from end to end.** At every point of every run, whatever frames are lost or
corrupted, a host has printed the messages of the others as they come in, but from each host exactly
the first few of those that it was told to send, once each, in order and unchanged; and when
`graceful_exit` has called `exit(0)`, all of them. -/
theorem printed_messages (cfg : SysConfig D) (hW : cfg.windowSize ≤ 127)
    (hhosts : cfg.numHosts ≤ 256) (hostEnv : ℕ → HostEnv) (env : WorldEnv) (n : ℕ) (state : State D)
    (h : steps cfg n ⟨.top, init cfg hostEnv env⟩ = .ok state)
    (hfits : ∀ cmd ∈ commandsRead cfg env state.world.inputs, cmd.Fits) (r : ℕ)
    (hr : r < cfg.numHosts) :
    ∃ tagged : List (ℕ × List UInt8),
      tagged.map Prod.snd = (state.world.hosts r).log.printed ∧
      (∀ p ∈ tagged, p.1 < cfg.numHosts) ∧
      ∀ s < cfg.numHosts,
        messagesFrom s tagged <+: textsRead cfg env state.world.inputs s r ∧
        (state.point = .exited →
          messagesFrom s tagged = textsRead cfg env state.world.inputs s r) := by
  have hinv := TranscriptInv.run hhosts h
  obtain ⟨tagged, htagged⟩ := hinv.receivers r hr
  refine ⟨tagged, htagged.printed, fun p hp => ?_, fun s hs => ?_⟩
  · -- nothing was appended for a host that there is not
    by_contra hge
    have hnil := hinv.known r hr p.1 (not_lt.mp hge)
    have hnone := htagged.reassembled p.1 (by rw [hnil]; exact List.forall_mem_nil _)
    rw [hnil, drained_nil] at hnone
    have hmem : p.2 ∈ messagesFrom p.1 tagged :=
      List.mem_map_of_mem (List.mem_filter.mpr ⟨hp, by simp⟩)
    rw [← hnone] at hmem
    exact List.not_mem_nil hmem
  · obtain ⟨handled, groups, hcmds, hgroups, hcreated⟩ := hinv.senders hfits s hs
    have hlt (cmd : Cmd) (hcmd : cmd ∈ handled) : cmd.dstId.toNat < 256 := by
      have hmem : cmd ∈ commandsFrom s (commandsRead cfg env state.world.inputs) :=
        hcmds ▸ List.mem_append_left _ hcmd
      exact commandsRead_lt hhosts (List.mem_of_mem_filter hmem)
    obtain ⟨groups', hgroups', hflatten⟩ := framesFor_flatten hgroups hlt r
    obtain ⟨hbegins, hall⟩ := arrived_prefix hW hhosts h hs hr
    rw [hcreated, hflatten] at hbegins
    obtain ⟨k, part, hk, harrived, hpart, hnext⟩ := exists_arrived hgroups' hbegins
    have hprinted : messagesFrom s tagged =
        ((commandsFor r handled).take k).map Cmd.text := by
      have hfit : ∀ frame ∈ (state.world.hosts r).log.appended s, frame.Fits := fun frame hframe =>
        appended_fits hW hhosts h hs hr frame hframe
      have hloop := reassembleLoop_eq (List.forall₂_take k hgroups') hpart le_rfl
        (fun _ _ => 0) 0
      obtain ⟨msgs, copies, hdrain, hmsgs⟩ := reassembleLoop_drain (fun _ _ => 0)
        ((state.world.hosts r).log.appended s).length 0 ((state.world.hosts r).log.appended s)
      rw [← harrived, hdrain] at hloop
      rw [← htagged.reassembled s hfit, drained, ← hmsgs hfit]
      exact (Prod.mk.inj hloop).1
    rw [hprinted, textsRead, hcmds, commandsFor_append]
    refine ⟨?_, fun hexit => ?_⟩
    · exact ((List.take_prefix k _).trans (List.prefix_append _ _)).map Cmd.text
    · obtain ⟨hleft, hall⟩ := hall hexit
      rw [hleft, show commandsFor r [] = [] from rfl, List.append_nil]
      rcases Nat.lt_or_eq_of_le hk with hmore | rfl
      · -- the last frame of the next message would have arrived as well
        have hlen := hnext hmore
        rw [hall, hcreated, hflatten] at hlen
        have hle : (groups'.take (k + 1)).flatten.length ≤ groups'.flatten.length :=
          (List.Sublist.flatten (List.take_sublist _ _)).length_le
        omega
      · rw [List.take_length]

set_option maxRecDepth 10000 in
/-- The run of `helloEnv`. -/
theorem printed_messages_hello :
    ∃ s, steps ccBasicConfig 28 ⟨.top, init ccBasicConfig (fun _ => .still) helloEnv⟩ = .ok s ∧
      s.point = .exited ∧ ∃ tagged : List (ℕ × List UInt8),
        tagged.map Prod.snd = (s.world.hosts 1).log.printed ∧
        messagesFrom 0 tagged = textsRead ccBasicConfig helloEnv s.world.inputs 0 1 := by
  obtain ⟨s, hs, hstate⟩ := exists_of_map_eq (e := steps ccBasicConfig 28
    ⟨.top, init ccBasicConfig (fun _ => .still) helloEnv⟩)
    (f := fun s => (s.point, s.world.inputs)) (b := (.exited, 2)) (by decide +kernel)
  obtain ⟨hexit, hinputs⟩ := Prod.mk.inj hstate
  have hread : commandsRead ccBasicConfig helloEnv 2 = [⟨0, 1, [104, 105]⟩] := by decide
  have hfits : ∀ cmd ∈ commandsRead ccBasicConfig helloEnv s.world.inputs, cmd.Fits := by
    rw [hinputs, hread]
    exact List.forall_mem_singleton.mpr ⟨by decide, by decide⟩
  obtain ⟨tagged, hprinted, -, htexts⟩ := printed_messages ccBasicConfig (by decide) (by decide) _
    helloEnv 28 s hs hfits 1 (by decide)
  exact ⟨s, hs, hexit, tagged, hprinted, (htexts 0 (by decide)).2 hexit⟩

end NetworkSim.Tcp
