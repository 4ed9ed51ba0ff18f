import NetworkSim.Tcp.Conservation
import NetworkSim.Tcp.Exit
import NetworkSim.Tcp.LastFragment

/-!
# The sanity check of the switch

The switch calls `frame_sanity_check` on every frame that it takes, and a frame that does not pass
ends the process. `check_input` asks only that the two host numbers of a command are in range. The
frames made from a command pass when the numbers differ in the 8 bits that a frame has for them
(`fromCmd_passes_iff`), so commands that `check_input` accepts can end the process. If all commands
handled have numbers that differ in these bits, every frame in every list is `Sound`, which is kept
by every step (`SoundInv.step`), and no check fails (`sanity_check_passes_iff`).
-/

namespace NetworkSim.Tcp

variable {D : Type} {cfg : SysConfig D}

theorem frameSanityCheck_ok_iff (frame : Frame) :
    frameSanityCheck cfg frame = .ok () ↔ frame.dstId.toNat < cfg.numHosts ∧
      frame.srcId.toNat < cfg.numHosts ∧ frame.srcId ≠ frame.dstId := by
  rw [frameSanityCheck]
  split_ifs with hdst hsrc hsame
  · simp [hdst.not_gt]
  · simp [hsrc.not_gt]
  · simp [hsame]
  · simp [Nat.lt_of_not_le hdst, Nat.lt_of_not_le hsrc, hsame]

/-- A frame made from a command passes when the host numbers differ in 8 bits. -/
theorem FromCmd.passes_iff {cmd : Cmd} {frame : Frame} (h : FromCmd cmd frame)
    (hsrc : cmd.srcId.toNat % 256 < cfg.numHosts) (hdst : cmd.dstId.toNat % 256 < cfg.numHosts) :
    frameSanityCheck cfg frame = .ok () ↔ cmd.srcId.toNat % 256 ≠ cmd.dstId.toNat % 256 := by
  rw [frameSanityCheck_ok_iff, h.srcId, h.dstId, toNat_ofNat, toNat_ofNat, Ne, ← UInt8.toNat_inj,
    toNat_ofNat, toNat_ofNat]
  exact ⟨fun h => h.2.2, fun h => ⟨hdst, hsrc, h⟩⟩

/-! ## Where the faults of a sender come from -/

section Faults

variable {e : Fault}

theorem derefFrame_error {slot : SendWindowSlot} (h : slot.derefFrame = .error e) :
    e = .nullFrame := by
  rw [SendWindowSlot.derefFrame] at h
  split at h
  · simp at h
  · exact (Except.error.inj h).symm

theorem findSeqNum_error {id : ℕ} {seqNum : UInt8} {host : Host D} {is : List ℕ}
    (h : findSeqNum cfg id seqNum host is = .error e) : e = .nullFrame := by
  induction is with
  | nil => simp [findSeqNum] at h
  | cons i is ih =>
    rw [findSeqNum] at h
    split at h
    · rename_i hderef
      exact Except.error.inj h ▸ derefFrame_error hderef
    · split at h
      · simp at h
      · exact ih h

theorem retransmitFrame_error {dstId seqNum : UInt8} {host : Host D}
    (h : retransmitFrame cfg dstId seqNum host = .error e) : e ≠ .sanityCheck := by
  rw [retransmitFrame] at h
  simp only at h
  split at h
  · rename_i hfind
    obtain rfl := Except.error.inj h
    simp [findSeqNum_error hfind]
  · simp at h
  · split at h
    · obtain rfl := Except.error.inj h
      simp
    · simp at h

theorem dequeueAcked_error {srcId seqNum : UInt8} {host : Host D}
    (h : dequeueAcked cfg srcId seqNum host = .error e) : e ≠ .sanityCheck := by
  rw [dequeueAcked] at h
  split at h
  · simp at h
  · split at h
    · rename_i hderef
      obtain rfl := Except.error.inj h
      simp [derefFrame_error hderef]
    · split at h
      · simp at h
      · split at h
        · rename_i hfind
          obtain rfl := Except.error.inj h
          simp [findSeqNum_error hfind]
        · simp at h
        · simp at h

theorem resendLoop_error {recvId : ℕ} {is : List ℕ} {framesPerRtt : ℤ} {host : Host D}
    (h : resendLoop cfg recvId is framesPerRtt host = .error e) : e ≠ .sanityCheck := by
  induction is generalizing framesPerRtt host with
  | nil => simp [resendLoop] at h
  | cons i is ih =>
    rw [resendLoop] at h
    split at h
    · split at h
      · rename_i hderef
        obtain rfl := Except.error.inj h
        simp [derefFrame_error hderef]
      · split at h
        · rename_i hretransmit
          exact Except.error.inj h ▸ retransmitFrame_error hretransmit
        · exact ih h
    · exact ih h

theorem resendWindows_error {recvIds : List ℕ} {framesPerRtt : ℕ → ℤ} {host : Host D}
    (h : resendWindows cfg recvIds framesPerRtt host = .error e) : e ≠ .sanityCheck := by
  induction recvIds generalizing framesPerRtt host with
  | nil => simp [resendWindows] at h
  | cons recvId recvIds ih =>
    rw [resendWindows] at h
    split at h
    · exact ih h
    · split at h
      · rename_i hresend
        exact Except.error.inj h ▸ resendLoop_error hresend
      · exact ih h

variable [CDouble D]

theorem updateCc_error {srcId seqNum : UInt8} {host : Host D}
    (h : updateCc cfg srcId seqNum host = .error e) : e ≠ .sanityCheck := by
  simp only [updateCc] at h
  split_ifs at h
  exact retransmitFrame_error h

theorem handleIncomingAcksLoop_error {kept frames : List Frame} {host : Host D}
    (h : handleIncomingAcksLoop cfg kept frames host = .error e) : e ≠ .sanityCheck := by
  induction frames generalizing kept host with
  | nil => simp [handleIncomingAcksLoop] at h
  | cons frame frames ih =>
    rw [handleIncomingAcksLoop] at h
    split at h
    · exact ih h
    · split at h
      · exact ih h
      · split at h
        · rename_i hack
          obtain rfl := Except.error.inj h
          rw [handleAck] at hack
          split at hack
          · rename_i hcc
            exact Except.error.inj hack ▸ updateCc_error hcc
          · exact dequeueAcked_error hack
        · exact ih h

theorem runSender_error {host : Host D} (h : runSender cfg host = .error e) :
    e ≠ .sanityCheck := by
  simp only [runSender] at h
  split at h
  · split at h
    · rename_i hround
      obtain rfl := Except.error.inj h
      rw [sendRound] at hround
      split at hround
      · rename_i hacks
        exact Except.error.inj hround ▸ handleIncomingAcksLoop_error hacks
      · rw [handleOutgoingFrames] at hround
        simp only at hround
        split at hround
        · rename_i hresend
          exact Except.error.inj hround ▸ resendWindows_error hresend
        · simp at hround
    · simp at h
  · simp at h

end Faults

/-! ## ACK frames -/

variable [CDouble D]

theorem sendAckFramesOf_ok (id : ℕ) {frames : List Frame} (w : World D)
    (hpass : ∀ frame ∈ frames, frameSanityCheck cfg frame = .ok ()) :
    ∃ w', sendAckFramesOf cfg id frames w = .ok w' ∧
      ∀ id', id' ≠ id → (w'.hosts id').outgoingFramesHead = (w.hosts id').outgoingFramesHead := by
  induction frames generalizing w with
  | nil => exact ⟨w, rfl, fun _ _ => rfl⟩
  | cons frame rest ih =>
    obtain ⟨hframe, hrest⟩ := List.forall_mem_cons.mp hpass
    obtain ⟨w', hw', hother⟩ := ih (sendFrame cfg frame (putOutgoing id rest w)) hrest
    refine ⟨w', ?_, fun id' hne => ?_⟩
    · simp only [sendAckFramesOf, hframe]
      exact hw'
    · rw [hother id' hne, sendFrame_outgoing, putOutgoing_outgoing, if_neg hne]

theorem sendAckFramesLoop_ok {ids : List ℕ} (hnodup : ids.Nodup) {w : World D}
    (hpass : ∀ id ∈ ids, ∀ frame ∈ (w.hosts id).outgoingFramesHead,
      frameSanityCheck cfg frame = .ok ()) : ∃ w', sendAckFramesLoop cfg ids w = .ok w' := by
  induction ids generalizing w with
  | nil => exact ⟨w, rfl⟩
  | cons id ids ih =>
    obtain ⟨hnot, hnodup⟩ := List.nodup_cons.mp hnodup
    obtain ⟨hid, hids⟩ := List.forall_mem_cons.mp hpass
    obtain ⟨w₁, hw₁, hother⟩ := sendAckFramesOf_ok id w hid
    simp only [sendAckFramesLoop, hw₁]
    refine ih hnodup fun id' hid' => ?_
    rw [hother id' fun heq => hnot (heq ▸ hid')]
    exact hids id' hid'

/-- **`send_ack_frames`** ends without a fault when all frames pass the check. -/
theorem sendAckFrames_ok {w : World D} (hpass : OutgoingPass cfg w) :
    ∃ w', sendAckFrames cfg w = .ok w' :=
  sendAckFramesLoop_ok List.nodup_range fun id hid => hpass id (List.mem_range.mp hid)

/-! ## Runs -/

variable (cfg) in
/-- A valid frame that passes the check. -/
structure Sound (frame : Frame) : Prop where
  valid : frameValid frame = true
  passes : frameSanityCheck cfg frame = .ok ()

variable (cfg) in
/-- All frames of host `i` pass the check, and those that arrive there are addressed to it. -/
structure SoundHost (i : ℕ) (host : Host D) : Prop where
  holds : HoldsOnly (Sound cfg) (Sound cfg) host
  incoming : ∀ frame ∈ host.incomingFramesHead, frameValid frame = true →
    frameSanityCheck cfg frame = .ok () ∧ frame.dstId.toNat = i

variable (cfg) in
/-- All frames of all hosts pass the check. -/
def SoundInv (w : World D) : Prop := ∀ i < cfg.numHosts, SoundHost cfg i (w.hosts i)

variable (cfg) in
/-- The two host numbers of every command that waits to be handled differ in 8 bits. -/
def DistinctCommands (s : State D) : Prop :=
  ∀ i < cfg.numHosts, ∀ cmd ∈ (s.world.hosts i).inputCmdlistHead,
    cmd.srcId.toNat % 256 ≠ cmd.dstId.toNat % 256

omit [CDouble D] in
theorem SoundInv.outgoingPass {w : World D} (h : SoundInv cfg w) : OutgoingPass cfg w :=
  fun id hid frame hframe => ((h id hid).holds.outgoing frame hframe).passes

omit [CDouble D] in
theorem SoundHost.congr {i : ℕ} {host host' : Host D} (h : SoundHost cfg i host)
    (hin : host'.incomingFramesHead = host.incomingFramesHead)
    (hbacklog : host'.bufferedOutframesHead = host.bufferedOutframesHead)
    (hwin : host'.sendWindow = host.sendWindow)
    (hout : host'.outgoingFramesHead = host.outgoingFramesHead) : SoundHost cfg i host' where
  holds := ⟨hbacklog ▸ h.holds.backlog, hwin ▸ h.holds.window, hout ▸ h.holds.outgoing⟩
  incoming := hin ▸ h.incoming

omit [CDouble D] in
/-- The switch delivers sound frames to their receivers. -/
theorem SoundInv.switch {w w' : World D} (hsteps : SwitchSteps cfg w w') (h : SoundInv cfg w) :
    SoundInv cfg w' := by
  refine hsteps.hosts_invariant (fun i host frame rest hout h => ?_)
    (fun j sender frame frame' hsender hmem _ harrives host h => ?_) h
  · exact ⟨⟨h.holds.backlog, h.holds.window,
      fun f hf => h.holds.outgoing f (hout ▸ List.mem_cons_of_mem frame hf)⟩, h.incoming⟩
  · refine ⟨⟨h.holds.backlog, h.holds.window, h.holds.outgoing⟩, fun f hf hvalid => ?_⟩
    rcases List.mem_append.mp hf with hold | hnew
    · exact h.incoming f hold hvalid
    · obtain rfl := List.mem_singleton.mp hnew
      have hframe := hsender.holds.outgoing frame hmem
      rw [harrives.eq_of_valid hframe.valid hvalid]
      exact ⟨hframe.passes, rfl⟩

omit [CDouble D] in
theorem SoundHost.senderMoves {i : ℕ} {host host' : Host D} (h : SoundHost cfg i host)
    (hmoves : SenderMoves cfg host host') : SoundHost cfg i host' := by
  have hholds := hmoves.holdsOnly (fun _ hframe => hframe) h.holds
  obtain ⟨_, _, _, _, _, _, _, _, _, _, _, rfl⟩ := hmoves.eq
  exact ⟨hholds, h.incoming⟩

omit [CDouble D] in
theorem SoundHost.handleInputCmds {i : ℕ} {host : Host D} (h : SoundHost cfg i host)
    (hcmds : ∀ cmd ∈ host.inputCmdlistHead, cmd.srcId.toNat % 256 < cfg.numHosts ∧
      cmd.dstId.toNat % 256 < cfg.numHosts ∧ cmd.srcId.toNat % 256 ≠ cmd.dstId.toNat % 256) :
    SoundHost cfg i (handleInputCmds host) := by
  obtain ⟨frames, hcreates, hfrom⟩ := handleInputCmds_creates host
  obtain ⟨_, _, heq⟩ := hcreates.eq
  rw [heq]
  refine ⟨⟨fun frame hmem => ?_, h.holds.window, h.holds.outgoing⟩, h.incoming⟩
  rcases List.mem_append.mp hmem with hold | hnew
  · exact h.holds.backlog frame hold
  · obtain ⟨cmd, hcmd, hframe⟩ := hfrom frame hnew
    obtain ⟨hsrc, hdst, hne⟩ := hcmds cmd hcmd
    exact ⟨(hcreates.data frame hnew).valid, (hframe.passes_iff hsrc hdst).mpr hne⟩

/-- The turn of a sender whose commands have distinct host numbers. -/
theorem SoundHost.runSender {i : ℕ} {host host' : Host D} (h : SoundHost cfg i host)
    (hcmds : ∀ cmd ∈ host.inputCmdlistHead, cmd.srcId.toNat % 256 < cfg.numHosts ∧
      cmd.dstId.toNat % 256 < cfg.numHosts ∧ cmd.srcId.toNat % 256 ≠ cmd.dstId.toNat % 256)
    (hrun : runSender cfg host = .ok host') : SoundHost cfg i host' := by
  rcases runSender_cases hrun with ⟨-, rfl⟩ | ⟨host₁, hround, rfl⟩
  · exact h.congr rfl rfl rfl rfl
  · suffices h₁ : SoundHost cfg i host₁ from h₁.congr rfl rfl rfl rfl
    obtain ⟨host₂, hmoves, hmoves'⟩ := sendRound_moves hround
    have h₁ : SoundHost cfg i
        { host with
          ticks := host.ticks + 1, roundTripNum := host.roundTripNum + 1, csvOut := true } :=
      h.congr rfl rfl rfl rfl
    have h₂ := (h₁.handleInputCmds hcmds).senderMoves hmoves
    refine SoundHost.senderMoves ?_ hmoves'
    exact ⟨⟨h₂.holds.backlog, h₂.holds.window, h₂.holds.outgoing⟩, fun frame hmem =>
      (h₁.handleInputCmds hcmds).incoming frame (List.mem_of_mem_filter hmem)⟩

omit [CDouble D] in
/-- An ACK goes back to where the frame came from. -/
theorem SoundHost.handleFrame {i : ℕ} {host : Host D} (h : SoundHost cfg i host)
    (hid : host.id = i) {frame : Frame}
    (hframe : frameValid frame = true →
      frameSanityCheck cfg frame = .ok () ∧ frame.dstId.toNat = i) :
    SoundHost cfg i (handleFrame cfg host frame) ∧ (handleFrame cfg host frame).id = i := by
  by_cases hvalid : frameValid frame = true
  · obtain ⟨_, _, _, _, _, _, _, ack, heq, hack⟩ := handleFrame_valid cfg hvalid host
    rw [heq]
    refine ⟨⟨⟨h.holds.backlog, h.holds.window, fun f hmem => ?_⟩, h.incoming⟩, hid⟩
    rcases List.mem_append.mp hmem with hold | hnew
    · exact h.holds.outgoing f hold
    · rw [List.mem_singleton.mp hnew]
      obtain ⟨hpasses, hdst⟩ := hframe hvalid
      have hsrc : ack.srcId = frame.dstId := by rw [hack.srcId, hid, ← hdst, UInt8.ofNat_toNat]
      rw [frameSanityCheck_ok_iff] at hpasses
      refine ⟨hack.valid, (frameSanityCheck_ok_iff ack).mpr ?_⟩
      rw [hsrc, hack.dstId]
      exact ⟨hpasses.2.1, hpasses.1, hpasses.2.2.symm⟩
  · rw [handleFrame_invalid (by simpa using hvalid)]
    exact ⟨h, hid⟩

omit [CDouble D] in
theorem SoundHost.handleIncomingFrames {i : ℕ} {host : Host D} (h : SoundHost cfg i host)
    (hid : host.id = i) : SoundHost cfg i (handleIncomingFrames cfg host) := by
  have hfold (frames : List Frame) {host : Host D} (h : SoundHost cfg i host) (hid : host.id = i)
      (hframes : ∀ frame ∈ frames, frameValid frame = true →
        frameSanityCheck cfg frame = .ok () ∧ frame.dstId.toNat = i) :
      SoundHost cfg i (frames.foldl (Tcp.handleFrame cfg) host) := by
    induction frames generalizing host with
    | nil => exact h
    | cons frame frames ih =>
      obtain ⟨hframe, hframes⟩ := List.forall_mem_cons.mp hframes
      obtain ⟨h, hid⟩ := h.handleFrame hid hframe
      exact ih h hid hframes
  exact hfold _ ⟨⟨h.holds.backlog, h.holds.window, h.holds.outgoing⟩,
    fun frame hmem => absurd hmem List.not_mem_nil⟩ hid h.incoming

theorem SoundInv.start (hostEnv : ℕ → HostEnv) (env : WorldEnv) :
    SoundInv cfg (init cfg hostEnv env) := fun i _ =>
  { holds := ⟨fun frame hframe => absurd hframe List.not_mem_nil, fun j frame hj => by
      simp [init, initHost, SendWindowSlot.empty] at hj,
      fun frame hframe => absurd hframe List.not_mem_nil⟩
    incoming := fun frame hframe => absurd hframe List.not_mem_nil }

omit [CDouble D] in
theorem SoundInv.setHost {w : World D} (h : SoundInv cfg w) {i : ℕ} {host : Host D}
    (hhost : i < cfg.numHosts → SoundHost cfg i host) : SoundInv cfg (setHost i host w) := by
  intro j hj
  rw [hosts_setHost]
  split
  · rename_i hji
    subst hji
    exact hhost hj
  · exact h j hj

/-- **Every step keeps the frames sound** if the commands have distinct host numbers. -/
theorem SoundInv.step {s s' : State D} (hphase : PhaseInv cfg s) (hexit : ExitInv cfg s)
    (hcmds : DistinctCommands cfg s) (h : SoundInv cfg s.world) (hstep : step cfg s = .ok s') :
    SoundInv cfg s'.world := by
  cases step_cases hstep with
  | input w w' rands order hreads horder =>
    intro i hi
    obtain ⟨cmds, heq, -⟩ := hreads.hosts i
    exact (congrArg (SoundHost cfg i) heq).mpr ((h i hi).congr rfl rfl rfl rfl)
  | sender w i todo host hrun =>
    refine h.setHost fun hi => (h i hi).runSender (fun cmd hcmd => ?_) hrun
    have hdst := (hexit.addressed i hi).cmds cmd hcmd
    rw [toNat_ofNat] at hdst
    have hsrc := (hphase.hosts i hi).cmds cmd hcmd
    refine ⟨?_, hdst, hcmds i hi cmd hcmd⟩
    rw [hsrc, UInt16.toNat_ofNat']
    omega
  | dataFrames w w' rands order hdata horder =>
    exact SoundInv.switch ((sendDataFrames_steps hphase.ports hdata).1.tail (.rand w' rands)) h
  | receiver w i todo =>
    exact h.setHost fun hi => (h i hi).handleIncomingFrames (hphase.hosts i hi).id_eq
  | ackFrames w w' hacks => exact SoundInv.switch (sendAckFrames_steps hacks).1 h
  | exit w hgraceful => exact h
  | again w => exact h
  | exited w => exact h

/-- Then no check fails. -/
theorem SoundInv.step_ne_sanityCheck {s : State D} (hphase : PhaseInv cfg s)
    (h : SoundInv cfg s.world) : Tcp.step cfg s ≠ .error .sanityCheck := by
  intro hstep
  obtain ⟨point, w⟩ := s
  cases point with
  | top =>
    simp only [Tcp.step] at hstep
    split at hstep
    · rename_i hinput
      obtain rfl := Except.error.inj hstep
      rw [handleInput] at hinput
      split_ifs at hinput
      split at hinput <;> simp at hinput
    · simp at hstep
  | senders todo =>
    cases todo with
    | nil =>
      obtain ⟨w', hw'⟩ := sendDataFrames_ok hphase.ports h.outgoingPass
      simp [Tcp.step, hw'] at hstep
    | cons i todo =>
      simp only [Tcp.step, runSenderTurn] at hstep
      cases hrun : Tcp.runSender cfg (w.hosts i) with
      | error e =>
        rw [hrun] at hstep
        exact runSender_error hrun (Except.error.inj hstep)
      | ok host => simp [hrun] at hstep
  | receivers todo =>
    cases todo with
    | nil =>
      obtain ⟨w', hw'⟩ := sendAckFrames_ok h.outgoingPass
      simp [Tcp.step, hw'] at hstep
    | cons i todo => simp [Tcp.step] at hstep
  | bottom =>
    simp only [Tcp.step] at hstep
    split at hstep <;> simp at hstep
  | exited => simp [Tcp.step] at hstep

/-- **Accepted commands do not end the process** exactly when their host numbers differ in 8 bits:
the frames made from a command then pass the check, and in a run with such commands only no check
fails. -/
theorem sanity_check_passes_iff (cfg : SysConfig D) :
    (∀ (senderId receiverId : ℤ) (message : List UInt8) (host : Host D),
      0 ≤ senderId → senderId < cfg.numHosts → 0 ≤ receiverId → receiverId < cfg.numHosts →
        ∃ frames, (handleInputCmd host
            ⟨UInt16.ofInt senderId, UInt16.ofInt receiverId, message⟩).bufferedOutframesHead =
              host.bufferedOutframesHead ++ frames ∧
          ((∀ frame ∈ frames, frameSanityCheck cfg frame = .ok ()) ↔
            senderId % 256 ≠ receiverId % 256)) ∧
    ∀ (hostEnv : ℕ → HostEnv) (env : WorldEnv) (n : ℕ),
      RunMeets cfg (DistinctCommands cfg) n ⟨.top, init cfg hostEnv env⟩ →
        steps cfg n ⟨.top, init cfg hostEnv env⟩ ≠ .error .sanityCheck := by
  refine ⟨fun senderId receiverId message host hs hsn hr hrn => ?_, fun hostEnv env n hcmds h => ?_⟩
  · obtain ⟨frames, hcreates, hfrom, hfields⟩ := handleInputCmd_remaining
      ⟨UInt16.ofInt senderId, UInt16.ofInt receiverId, message⟩ host
    obtain ⟨_, _, heq⟩ := hcreates.eq
    refine ⟨frames, by rw [heq], ?_⟩
    have hmod {z : ℤ} (hz : 0 ≤ z) : (UInt16.ofInt z).toNat % 256 = (z % 256).toNat := by
      rw [ofInt_eq_ofNat hz, UInt16.toNat_ofNat']
      omega
    have hpasses (frame : Frame) (hframe : frame ∈ frames) :
        frameSanityCheck cfg frame = .ok () ↔ senderId % 256 ≠ receiverId % 256 := by
      rw [(hfrom frame hframe).passes_iff (by rw [hmod hs]; omega) (by rw [hmod hr]; omega),
        hmod hs, hmod hr]
      omega
    constructor
    · -- a message has at least one fragment
      intro hall
      obtain ⟨frame, rest, rfl⟩ : ∃ frame rest, frames = frame :: rest := by
        rw [remainingFields_of_pos (Cmd.msgLength_pos _)] at hfields
        obtain ⟨frame, rest, rfl, -⟩ := List.map_eq_cons_iff.mp hfields
        exact ⟨frame, rest, rfl⟩
      exact (hpasses frame List.mem_cons_self).mp (hall frame List.mem_cons_self)
    · exact fun hne frame hframe => (hpasses frame hframe).mpr hne
  · obtain ⟨m, hm, s, hs, hstep⟩ := exists_of_steps_error h
    have hinv := steps_invariant
      (I := fun s => PhaseInv cfg s ∧ ExitInv cfg s ∧ SoundInv cfg s.world)
      ⟨PhaseInv.start hostEnv env, ExitInv.start hostEnv env, SoundInv.start hostEnv env⟩
      (fun s s' hs hcmds hstep => ⟨hs.1.step hstep, hs.2.1.step hs.1 hstep,
        hs.2.2.step hs.1 hs.2.1 hcmds hstep⟩)
      (fun k hk => hcmds k (by omega)) hs
    exact hinv.2.2.step_ne_sanityCheck hinv.1 hstep

omit [CDouble D] in
instance : DecidablePred (DistinctCommands cfg) := fun s =>
  inferInstanceAs (Decidable (∀ i < cfg.numHosts, ∀ cmd ∈ (s.world.hosts i).inputCmdlistHead,
    cmd.srcId.toNat % 256 ≠ cmd.dstId.toNat % 256))

set_option maxRecDepth 10000 in
/-- The run of `helloEnv`. -/
theorem sanity_check_passes_hello :
    steps ccBasicConfig 28 ⟨.top, init ccBasicConfig (fun _ => .still) helloEnv⟩ ≠
      .error .sanityCheck :=
  (sanity_check_passes_iff ccBasicConfig).2 (fun _ => .still) helloEnv 28
    (RunMeets.of_all (by decide +kernel))

/-- Host 0 is told to send "hi" to itself. -/
def selfEnv : WorldEnv :=
  ⟨fun k => k, fun k => if k = 0 then [.scanned 4 "msg" 0 0 [104, 105]] else []⟩

set_option maxRecDepth 10000 in
/-- `check_input` accepts the command, and in the first round the switch calls `exit(-1)`. -/
theorem accepted_command_ends_process :
    (checkInput ccBasicConfig (init ccBasicConfig (fun _ => .still) selfEnv)).2.hosts 0 =
        { initHost ccBasicConfig 0 .still with inputCmdlistHead := [⟨0, 0, [104, 105]⟩] } ∧
      steps ccBasicConfig 7 ⟨.top, init ccBasicConfig (fun _ => .still) selfEnv⟩ =
        .error .sanityCheck :=
  ⟨rfl, eq_error_of_tryCatch (by decide +kernel)⟩

end NetworkSim.Tcp
