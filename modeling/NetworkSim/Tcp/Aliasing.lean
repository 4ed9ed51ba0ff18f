import NetworkSim.Tcp.Flooding

/-!
# Old and new frames

With windows of at most 128 places, and no commands to hosts whose numbers do not fit into a byte, a
frame that was appended is not taken for a new one when it comes again, and the ACK of a frame in
the window is not taken for an old one (`sequence_numbers_never_alias`). `run_config` accepts larger
windows, and one place more is enough to break both: a host that is given a message in every round,
and whose ACKs are all corrupted, fills its window whatever the size (`flood_run`), and with 129
frames in it the first one is taken for a new one (`sequence_numbers_alias`).
-/

namespace NetworkSim.Tcp

open SlidingWindow (Link)

variable {D : Type} [CDouble D] {cfg : SysConfig D}

/-- No host whose number does not fit into a byte has a command. -/
def SmallCommands (cfg : SysConfig D) (s : State D) : Prop :=
  ∀ i < cfg.numHosts, 256 ≤ i → (s.world.hosts i).inputCmdlistHead = []

/-- Without commands such hosts create nothing. -/
theorem SmallSenders.run {hostEnv : ℕ → HostEnv} {env : WorldEnv} {n : ℕ} {s : State D}
    (hsmall : RunMeets cfg (SmallCommands cfg) n ⟨.top, init cfg hostEnv env⟩)
    (h : steps cfg n ⟨.top, init cfg hostEnv env⟩ = .ok s) : SmallSenders cfg s.world := by
  have hinv := steps_invariant (I := fun s => PhaseInv cfg s ∧ SmallSenders cfg s.world)
    (P := SmallCommands cfg) ⟨PhaseInv.start hostEnv env, fun _ _ _ => rfl⟩ ?_ hsmall h
  · exact hinv.2
  intro s s' hs hcmds hstep
  refine ⟨hs.1.step hstep, fun j hj hge => ?_⟩
  have hold := hs.2 j hj hge
  cases step_cases hstep with
  | input w w' rands order hreads horder =>
    obtain ⟨cmds, heq, -⟩ := hreads.hosts j
    exact (congrArg (fun host : Host D => host.log.created) heq).trans hold
  | sender w i todo host hrun =>
    rw [hosts_setHost]
    split
    · rename_i hji
      subst hji
      obtain ⟨-, frames, hcreated, hfrom⟩ := runSender_creates hrun
      have hnil : frames = [] := by
        apply List.eq_nil_iff_forall_not_mem.mpr
        intro frame hmem
        obtain ⟨cmd, hcmd, -⟩ := hfrom frame hmem
        rw [hcmds j hj hge] at hcmd
        exact List.not_mem_nil hcmd
      rw [hcreated, hnil, List.append_nil, hold]
    · exact hold
  | dataFrames w w' rands order hdata horder =>
    obtain ⟨hsteps, -⟩ := sendDataFrames_steps hs.1.ports hdata
    obtain ⟨_, _, heq⟩ := hsteps.hosts_eq j
    exact (congrArg (fun host : Host D => host.log.created) heq).trans hold
  | receiver w i todo =>
    rw [hosts_setHost]
    split
    · rename_i hji
      subst hji
      obtain ⟨_, _, _, _, _, _, _, _, _, heq⟩ := handleIncomingFrames_eq cfg (w.hosts j)
      rw [heq]
      exact hold
    · exact hold
  | ackFrames w w' hacks =>
    obtain ⟨hsteps, -⟩ := sendAckFrames_steps hacks
    obtain ⟨_, _, heq⟩ := hsteps.hosts_eq j
    rw [heq]
    exact hold
  | exit w hexit => exact hold
  | again w => exact hold
  | exited w => exact hold

omit [CDouble D] in
/-- How many frames for `r` were created before the one in slot `j` of the window for `r`. -/
def slotPosition (r j : ℕ) (host : Host D) : ℕ :=
  (framesFor r host.log.created).length - (framesFor r host.bufferedOutframesHead).length -
    cqGetLengthSend r host + j

omit [CDouble D] in
theorem LinkRel.length_window {s r : ℕ} {sender receiver : Host D} {L : Link Frame} {W : ℕ}
    (h : LinkRel cfg s r sender receiver L) (hL : L.Inv W) :
    cqGetLengthSend r sender = L.next - L.base := by
  have hnext := hL.next_le
  have hlen := congrArg List.length h.window
  rw [winFrames, List.length_map, length_sendWin, List.length_map, List.length_take,
    List.length_drop] at hlen
  omega

omit [CDouble D] in
/-- The frame in slot `j` of the window is the one at its position. -/
theorem LinkRel.getItem {s r : ℕ} {sender receiver : Host D} {L : Link Frame} {W : ℕ}
    (h : LinkRel cfg s r sender receiver L) (hL : L.Inv W) {j : ℕ}
    (hj : j < cqGetLengthSend r sender) :
    (cqGetItemSend cfg r j sender).frame = L.msgs[L.base + j]? ∧
      slotPosition r j sender = L.base + j := by
  have hlen := h.length_window hL
  have hnext := hL.next_le
  have hbase := hL.base_le_next
  constructor
  · have hitem := congrArg (·[j]?) h.window
    simp only [winFrames, List.getElem?_map, getElem?_sendWin hj, Option.map_some] at hitem
    rw [List.getElem?_take, if_pos (by omega), List.getElem?_drop,
      List.getElem?_eq_getElem (by omega), Option.map_some, Option.some_inj] at hitem
    rw [hitem, List.getElem?_eq_getElem]
  · rw [slotPosition, h.created, h.backlog, List.length_drop, hlen]
    omega

/-- **Sequence numbers do not alias** with windows of at most 128 places. A frame in the window that
was appended at the receiver is not in the window of the receiver when it comes again, and the
number of a frame in the window is not older than that of the first one. -/
theorem sequence_numbers_never_alias (cfg : SysConfig D) (hW : cfg.windowSize ≤ 128)
    (hostEnv : ℕ → HostEnv) (env : WorldEnv) (n : ℕ) (state : State D)
    (hsmall : RunMeets cfg (SmallCommands cfg) n ⟨.top, init cfg hostEnv env⟩)
    (h : steps cfg n ⟨.top, init cfg hostEnv env⟩ = .ok state) (s r : ℕ) (hs : s < cfg.numHosts)
    (hr : r < cfg.numHosts) (j : ℕ) (hj : j < cqGetLengthSend r (state.world.hosts s))
    (frame : Frame) (hframe : (cqGetItemSend cfg r j (state.world.hosts s)).frame = some frame) :
    (slotPosition r j (state.world.hosts s) < ((state.world.hosts r).log.appended s).length →
      recvFrameInWindow cfg frame.seqNum frame.srcId (state.world.hosts r) = false) ∧
    ∀ first, (cqGetItemSend cfg r 0 (state.world.hosts s)).frame = some first →
      ¬ seqNumDiff first.seqNum frame.seqNum < 0 := by
  have hdelivery := DeliveryInv.run hW h
  have hhost := (PhaseInv.run h).hosts s hs
  obtain ⟨L, hL, hrel⟩ := hdelivery.links (SmallSenders.run hsmall h) s hs r hr
  obtain ⟨v, hok, -⟩ := hdelivery.senders s hs
  have hlen := hrel.length_window hL
  have hnext := hL.next_le_base
  have hnum (k : ℕ) (f : Frame) (hk : L.msgs[k]? = some f) : f.seqNum = UInt8.ofNat k := by
    apply (hok r).2.created_seqNum
    rw [← (hok r).1.created, hrel.created, hk]
  obtain ⟨hitem, hpos⟩ := hrel.getItem hL hj
  have hseq : frame.seqNum = UInt8.ofNat (L.base + j) := hnum _ _ (hitem.symm.trans hframe)
  constructor
  · intro hlt
    have hreceived := hrel.received
    have happended : (state.world.hosts r).log.appended s = L.delivered :=
      congrArg RecvView.appended hreceived
    rw [hpos, happended] at hlt
    -- the frame says who made it, since the number of its sender fits into a byte
    have hsrc : frame.srcId.toNat = s := by
      have hsmall : s < 256 := by
        by_contra hge
        have hnil := (SmallSenders.run hsmall h) s hs (by omega)
        have hcreated := hrel.created
        rw [hnil, framesFor_nil] at hcreated
        rw [← hcreated, hframe] at hitem
        simp at hitem
      rw [(hhost.holds.window _ _ hframe).srcId, toNat_ofNat]
      omega
    have hlfr : (state.world.hosts r).recvLfr s = ackSeq L.delivered.length :=
      congrArg RecvView.lfr hreceived
    have hdelivered := hL.delivered_le_next
    rw [← Bool.not_eq_true, recvFrameInWindow_iff, hsrc, hlfr, hseq]
    rcases seqNumDiff_ackSeq (n := L.delivered.length) (k := L.base + j) (by omega) (by omega) with
      hdiff | ⟨heq, -⟩ <;> omega
  · intro first hfirst
    obtain ⟨hitem₀, -⟩ := hrel.getItem hL (Nat.zero_lt_of_lt hj)
    rw [hnum _ _ (hitem₀.symm.trans hfirst), hseq, seqNumDiff_ofNat (by omega) (by omega)]
    omega

set_option maxRecDepth 10000 in
/-- The first round of `helloEnv` after the turns of the receivers: the frame is delivered, and
still in the window. -/
theorem sequence_numbers_never_alias_hello :
    ∃ s frame,
      steps ccBasicConfig 12 ⟨.top, init ccBasicConfig (fun _ => .still) helloEnv⟩ = .ok s ∧
      (cqGetItemSend ccBasicConfig 1 0 (s.world.hosts 0)).frame = some frame ∧
      recvFrameInWindow ccBasicConfig frame.seqNum frame.srcId (s.world.hosts 1) = false := by
  obtain ⟨s, hs, hframe⟩ := exists_of_map_eq (e := steps ccBasicConfig 12
    ⟨.top, init ccBasicConfig (fun _ => .still) helloEnv⟩)
    (f := fun s => ((cqGetItemSend ccBasicConfig 1 0 (s.world.hosts 0)).frame.isSome,
      cqGetLengthSend 1 (s.world.hosts 0), slotPosition 1 0 (s.world.hosts 0),
      ((s.world.hosts 1).log.appended 0).length)) (b := (true, 1, 0, 1)) (by decide +kernel)
  simp only [Prod.mk.injEq] at hframe
  obtain ⟨hsome, hlen, hposition, happended⟩ := hframe
  obtain ⟨frame, hframe⟩ := Option.isSome_iff_exists.mp hsome
  refine ⟨s, frame, hs, hframe, ?_⟩
  exact (sequence_numbers_never_alias ccBasicConfig (by decide) _ _ 12 s
    (fun _ _ _ _ i hi hge => absurd (show i < 5 from hi) (by omega)) hs 0 1 (by decide) (by decide)
    0 (by omega) frame hframe).1 (by omega)

/-! ## Larger windows -/

/-- One place more. -/
theorem sequence_numbers_alias :
    ∃ n state first last,
      steps (lossyConfig 129 (by decide)) n
        ⟨.top, init (lossyConfig 129 (by decide)) (fun _ => .still) lostAcksEnv⟩ = .ok state ∧
      (cqGetItemSend (lossyConfig 129 (by decide)) 1 0 (state.world.hosts 0)).frame = some first ∧
      slotPosition 1 0 (state.world.hosts 0) < ((state.world.hosts 1).log.appended 0).length ∧
      recvFrameInWindow (lossyConfig 129 (by decide)) first.seqNum first.srcId
        (state.world.hosts 1) = true ∧
      (cqGetItemSend (lossyConfig 129 (by decide)) 1 128 (state.world.hosts 0)).frame = some last ∧
      seqNumDiff first.seqNum last.seqNum < 0 := by
  obtain ⟨n, w, frames, sender, receiver, hlen, hframes, hs, hr, h, hrun⟩ :=
    @flood_run 129 (by decide) (by decide) 129 le_rfl
  have hitem (i : ℕ) (hi : i < 129) :
      (cqGetItemSend (lossyConfig 129 (by decide)) 1 i (w.hosts 0)).frame = frames[i]? := by
    have hwindow := congrArg (·[i]?) hs.window
    rw [h.sender]
    simp only [winFrames, List.getElem?_map] at hwindow
    rw [getElem?_sendWin (by rw [hs.length_window]; omega),
      List.getElem?_eq_getElem (by omega)] at hwindow
    rw [List.getElem?_eq_getElem (by omega)]
    simpa using hwindow
  have hfirst : frames[0]? = some frames[0] := List.getElem?_eq_getElem (by omega)
  have hlast : frames[128]? = some frames[128] := List.getElem?_eq_getElem (by omega)
  refine ⟨n, ⟨.top, w⟩, frames[0], frames[128], hrun, (hitem 0 (by decide)).trans hfirst, ?_, ?_,
    (hitem 128 (by decide)).trans hlast, ?_⟩
  · have happended : receiver.log.appended 0 = frames := congrArg RecvView.appended hr.view
    change slotPosition 1 0 (w.hosts 0) < ((w.hosts 1).log.appended 0).length
    rw [h.sender, h.receiver, happended, slotPosition, hs.created, hs.backlog, hs.length_window,
      framesFor_nil, hlen]
    decide
  · have hlfr : receiver.recvLfr 0 = ackSeq frames.length := congrArg RecvView.lfr hr.view
    rw [recvFrameInWindow_iff, (hframes 0 _ hfirst).srcId, (hframes 0 _ hfirst).seqNum]
    change 0 < seqNumDiff ((w.hosts 1).recvLfr 0) _ ∧ seqNumDiff ((w.hosts 1).recvLfr 0) _ ≤ 129
    rw [h.receiver, hlfr, hlen]
    decide
  · rw [(hframes 0 _ hfirst).seqNum, (hframes 128 _ hlast).seqNum]
    decide

end NetworkSim.Tcp
