import NetworkSim.Tcp.ReceiverSpec
import NetworkSim.Tcp.Runs
import NetworkSim.Tcp.SenderMoves

/-!
# The phases of a round

The senders, the switch, the receivers and the switch again take their turns in every round of the
loop of `main`, and the receiver relies on this order, since it does not look at `is_ack`. What may
be in the lists of a host at a point of the round is `Point.incoming` and `Point.outgoing`; that
only such frames are there (`PhaseInv`) is kept by every step (`PhaseInv.step`). So the receivers
are given data frames only, the senders acknowledgements only, and a round leaves nothing to be sent
(`phases_never_mix`).
-/

namespace NetworkSim.Tcp

variable {D : Type} {cfg : SysConfig D}

/-! ## What is in the lists of a host -/

/-- A data frame. -/
def IsData (frame : Frame) : Prop := frame.isAck = 0

/-- An acknowledgement. -/
def IsAck (frame : Frame) : Prop := frame.isAck = 1

/-- No frame at all. -/
def NoFrame (_ : Frame) : Prop := False

/-- A frame as host `i` makes it, of the sort `P`. -/
structure IsFrameOf (i : ℕ) (P : Frame → Prop) (frame : Frame) : Prop where
  valid : frameValid frame = true
  srcId : frame.srcId = UInt8.ofNat i
  sort : P frame

theorem IsFrameOf.mono {i : ℕ} {P Q : Frame → Prop} (hPQ : ∀ frame, P frame → Q frame)
    {frame : Frame} (h : IsFrameOf i P frame) : IsFrameOf i Q frame :=
  ⟨h.valid, h.srcId, hPQ frame h.sort⟩

/-- The host number `i`, with valid frames of the sort `P` in `incoming_frames_head` and frames of
the sort `Q` in `outgoing_frames_head`. -/
structure HostInv (i : ℕ) (P Q : Frame → Prop) (host : Host D) : Prop where
  id_eq : host.id = i
  cmds : ∀ cmd ∈ host.inputCmdlistHead, cmd.srcId = UInt16.ofNat i
  incoming : ∀ frame ∈ host.incomingFramesHead, frameValid frame = true → P frame
  holds : HoldsOnly (IsFrameOf i IsData) (IsFrameOf i Q) host

namespace HostInv

variable {i : ℕ} {P Q P' Q' : Frame → Prop} {host : Host D}

theorem mono (h : HostInv i P Q host) (hP : ∀ frame, P frame → P' frame)
    (hQ : ∀ frame, Q frame → Q' frame) : HostInv i P' Q' host where
  id_eq := h.id_eq
  cmds := h.cmds
  incoming frame hmem hvalid := hP frame (h.incoming frame hmem hvalid)
  holds := ⟨h.holds.backlog, h.holds.window,
    fun frame hmem => (h.holds.outgoing frame hmem).mono hQ⟩

theorem incoming_of_nil (h : HostInv i P Q host) (hnil : host.incomingFramesHead = []) :
    HostInv i P' Q host :=
  ⟨h.id_eq, h.cmds, fun frame hmem => by simp [hnil] at hmem, h.holds⟩

theorem outgoing_of_nil (h : HostInv i P Q host) (hnil : host.outgoingFramesHead = []) :
    HostInv i P Q' host :=
  ⟨h.id_eq, h.cmds, h.incoming, h.holds.backlog, h.holds.window,
    fun frame hmem => by simp [hnil] at hmem⟩

theorem outgoing_eq_nil (h : HostInv i P NoFrame host) : host.outgoingFramesHead = [] :=
  List.eq_nil_iff_forall_not_mem.mpr fun frame hmem => (h.holds.outgoing frame hmem).sort

/-- Fields that do not matter here. -/
theorem congr {host' : Host D} (h : HostInv i P Q host) (hid : host'.id = host.id)
    (hcmds : host'.inputCmdlistHead = host.inputCmdlistHead)
    (hin : host'.incomingFramesHead = host.incomingFramesHead)
    (hbacklog : host'.bufferedOutframesHead = host.bufferedOutframesHead)
    (hwin : host'.sendWindow = host.sendWindow)
    (hout : host'.outgoingFramesHead = host.outgoingFramesHead) : HostInv i P Q host' where
  id_eq := hid.trans h.id_eq
  cmds := hcmds ▸ h.cmds
  incoming := hin ▸ h.incoming
  holds := ⟨hbacklog ▸ h.holds.backlog, hwin ▸ h.holds.window, hout ▸ h.holds.outgoing⟩

end HostInv

/-! ## The turn of a sender -/

/-- A host number survives in the 16 bits of a command as far as the 8 bits of a frame show. -/
theorem ofNat_toNat_ofNat (i : ℕ) : UInt8.ofNat (UInt16.ofNat i).toNat = UInt8.ofNat i := by
  apply UInt8.toNat_inj.mp
  rw [toNat_ofNat, toNat_ofNat, UInt16.toNat_ofNat']
  omega

theorem HostInv.handleInputCmds {i : ℕ} {P Q : Frame → Prop} {host : Host D}
    (h : HostInv i P Q host) : HostInv i P Q (handleInputCmds host) := by
  obtain ⟨frames, hcreates, hcmds⟩ := handleInputCmds_creates host
  obtain ⟨_, _, heq⟩ := hcreates.eq
  rw [heq]
  refine ⟨h.id_eq, fun cmd hmem => absurd hmem List.not_mem_nil, h.incoming, fun frame hmem => ?_,
    h.holds.window, h.holds.outgoing⟩
  rcases List.mem_append.mp hmem with hold | hnew
  · exact h.holds.backlog frame hold
  · obtain ⟨cmd, hcmd, hfrom⟩ := hcmds frame hnew
    have hdata := hcreates.data frame hnew
    exact ⟨hdata.valid, by rw [hfrom.srcId, h.cmds cmd hcmd, ofNat_toNat_ofNat], hdata.isAck⟩

theorem HostInv.senderMoves {i : ℕ} {P : Frame → Prop} {host host' : Host D}
    (h : HostInv i P IsData host) (hmoves : SenderMoves cfg host host') :
    HostInv i P IsData host' := by
  have hholds := hmoves.holdsOnly (fun _ hframe => hframe) h.holds
  obtain ⟨_, _, _, _, _, _, _, _, _, _, _, rfl⟩ := hmoves.eq
  exact ⟨h.id_eq, h.cmds, h.incoming, hholds⟩

variable [CDouble D]

/-- **A turn of a sender** uses up acknowledgements and leaves data frames to be sent. -/
theorem HostInv.runSender {i : ℕ} {host host' : Host D} (h : HostInv i IsAck NoFrame host)
    (hrun : runSender cfg host = .ok host') : HostInv i NoFrame IsData host' := by
  rcases runSender_cases hrun with ⟨hsleep, rfl⟩ | ⟨host₁, hround, rfl⟩
  · have h₁ : HostInv i NoFrame IsData host :=
      (h.incoming_of_nil (wakesUp_false hsleep).2).mono (fun _ hf => hf) (fun _ hf => hf.elim)
    exact h₁.congr rfl rfl rfl rfl rfl rfl
  · suffices h₁ : HostInv i NoFrame IsData host₁ from h₁.congr rfl rfl rfl rfl rfl rfl
    obtain ⟨host₂, hmoves, hmoves'⟩ := sendRound_moves hround
    have h₁ : HostInv i IsAck IsData
        { host with
          ticks := host.ticks + 1, roundTripNum := host.roundTripNum + 1, csvOut := true } :=
      (h.mono (fun _ hf => hf) (fun _ hf => hf.elim)).congr rfl rfl rfl rfl rfl rfl
    have h₂ := h₁.handleInputCmds.senderMoves hmoves
    refine HostInv.senderMoves ?_ hmoves'
    refine ⟨h₂.id_eq, h₂.cmds, fun frame hmem hvalid => ?_, h₂.holds.backlog, h₂.holds.window,
      h₂.holds.outgoing⟩
    -- the frames that the sender leaves in the list are data, and no data had come
    simp only [List.mem_filter, Bool.and_eq_true, decide_eq_true_eq] at hmem
    have hack : frame.isAck = 1 := h₁.handleInputCmds.incoming frame hmem.1 hvalid
    rw [hmem.2.2] at hack
    exact absurd hack (by decide)

/-! ## The turn of a receiver -/

omit [CDouble D] in
theorem HostInv.handleFrame {i : ℕ} {P : Frame → Prop} {host : Host D}
    (h : HostInv i P IsAck host) (frame : Frame) :
    HostInv i P IsAck (handleFrame cfg host frame) := by
  by_cases hvalid : frameValid frame = true
  · obtain ⟨_, _, _, _, _, _, _, ack, heq, hack⟩ := handleFrame_valid cfg hvalid host
    rw [heq]
    refine ⟨h.id_eq, h.cmds, h.incoming, h.holds.backlog, h.holds.window, fun f hmem => ?_⟩
    rcases List.mem_append.mp hmem with hold | hnew
    · exact h.holds.outgoing f hold
    · rw [List.mem_singleton.mp hnew]
      exact ⟨hack.valid, by rw [hack.srcId, h.id_eq], hack.isAck⟩
  · rwa [handleFrame_invalid (by simpa using hvalid)]

omit [CDouble D] in
/-- **A turn of a receiver** uses up data frames and leaves acknowledgements to be sent. -/
theorem HostInv.handleIncomingFrames {i : ℕ} {host : Host D} (h : HostInv i IsData NoFrame host) :
    HostInv i NoFrame IsAck (handleIncomingFrames cfg host) := by
  have hfold (frames : List Frame) {host : Host D} (h : HostInv i NoFrame IsAck host) :
      HostInv i NoFrame IsAck (frames.foldl (Tcp.handleFrame cfg) host) := by
    induction frames generalizing host with
    | nil => exact h
    | cons frame frames ih => exact ih (h.handleFrame frame)
  refine hfold _ ?_
  exact ⟨h.id_eq, h.cmds, fun frame hmem => absurd hmem List.not_mem_nil, h.holds.backlog,
    h.holds.window, fun frame hmem => (h.holds.outgoing frame hmem).mono (fun _ hf => hf.elim)⟩

/-! ## The switch -/

omit [CDouble D] in
/-- What arrives of a valid frame is valid only when it is that frame. -/
theorem Arrives.eq_of_valid {frame frame' : Frame} (h : Arrives frame frame')
    (hvalid : frameValid frame = true) (hvalid' : frameValid frame' = true) : frame' = frame := by
  rcases h with rfl | ⟨index, hindex, rfl⟩
  · rfl
  · rw [frameValid_complementByte hindex hvalid] at hvalid'
    exact absurd hvalid' (by decide)

omit [CDouble D] in
theorem hosts_putOutgoing (id : ℕ) (frames : List Frame) (w : World D) (i : ℕ) :
    (putOutgoing id frames w).hosts i =
      { w.hosts i with
        outgoingFramesHead := if i = id then frames else (w.hosts i).outgoingFramesHead } := by
  simp only [putOutgoing, setHost, Function.update_apply]
  split
  · rename_i hid
    rw [hid]
  · rfl

omit [CDouble D] in
theorem hosts_putIncoming (id : ℕ) (frame : Frame) (w : World D) (i : ℕ) :
    (putIncoming id frame w).hosts i =
      { w.hosts i with
        incomingFramesHead :=
          (w.hosts i).incomingFramesHead ++ if i = id then [frame] else [] } := by
  simp only [putIncoming, setHost, Function.update_apply]
  split
  · rename_i hid
    rw [hid]
  · rw [List.append_nil]

omit [CDouble D] in
/-- A property of hosts is kept by the switch if it is kept when a frame leaves the host and when
one arrives there. -/
theorem SwitchSteps.hosts_invariant {I : ℕ → Host D → Prop} {w w' : World D}
    (h : SwitchSteps cfg w w')
    (hleave : ∀ i host frame rest, host.outgoingFramesHead = frame :: rest → I i host →
      I i { host with outgoingFramesHead := rest })
    (harrive : ∀ j sender frame frame', I j sender → frame ∈ sender.outgoingFramesHead →
      frameSanityCheck cfg frame = .ok () → Arrives frame frame' → ∀ host,
        I frame.dstId.toNat host → I frame.dstId.toNat
          { host with incomingFramesHead := host.incomingFramesHead ++ [frame'] })
    (hw : ∀ i < cfg.numHosts, I i (w.hosts i)) : ∀ i < cfg.numHosts, I i (w'.hosts i) := by
  induction h with
  | refl => exact hw
  | @tail w₁ _ _ hstep ih =>
    have hput {id : ℕ} {frame : Frame} {rest : List Frame}
        (hout : (w₁.hosts id).outgoingFramesHead = frame :: rest) (i : ℕ) (hi : i < cfg.numHosts) :
        I i ((putOutgoing id rest w₁).hosts i) := by
      rw [hosts_putOutgoing]
      by_cases hid : i = id
      · subst hid
        rw [if_pos rfl]
        exact hleave i _ frame rest hout (ih i hi)
      · rw [if_neg hid]
        exact ih i hi
    cases hstep with
    | rand => exact ih
    | drop id frame rest hid hout hcheck => exact hput hout
    | deliver id frame frame' rest hid hout hcheck harrives =>
      intro i hi
      rw [hosts_putIncoming]
      by_cases hdst : i = frame.dstId.toNat
      · subst hdst
        rw [if_pos rfl]
        exact harrive id (w₁.hosts id) frame frame' (ih id hid)
          (by rw [hout]; exact List.mem_cons_self) hcheck harrives _ (hput hout _ hi)
      · rw [if_neg hdst, List.append_nil]
        exact hput hout i hi

omit [CDouble D] in
/-- The switch delivers frames of the sort that it finds. -/
theorem SwitchSteps.hostInv {P : Frame → Prop} {w w' : World D} (h : SwitchSteps cfg w w')
    (hw : ∀ i < cfg.numHosts, HostInv i P P (w.hosts i)) :
    ∀ i < cfg.numHosts, HostInv i P P (w'.hosts i) := by
  refine h.hosts_invariant (fun i host frame rest hout h => ?_)
    (fun j sender frame frame' hsender hmem _ harrives host h => ?_) hw
  · exact ⟨h.id_eq, h.cmds, h.incoming, h.holds.backlog, h.holds.window,
      fun f hf => h.holds.outgoing f (hout ▸ List.mem_cons_of_mem frame hf)⟩
  · refine ⟨h.id_eq, h.cmds, fun f hf hvalid => ?_, h.holds.backlog, h.holds.window,
      h.holds.outgoing⟩
    rcases List.mem_append.mp hf with hold | hnew
    · exact h.incoming f hold hvalid
    · obtain rfl := List.mem_singleton.mp hnew
      have hframe := hsender.holds.outgoing frame hmem
      rw [harrives.eq_of_valid hframe.valid hvalid]
      exact hframe.sort

/-! ## The points of a round -/

namespace Point

/-- The hosts still to take their turn. -/
def todo : Point → List ℕ
  | .senders todo => todo
  | .receivers todo => todo
  | _ => []

/-- The sort of the valid frames in `incoming_frames_head` of host `i`. -/
def incoming : Point → ℕ → Frame → Prop
  | .senders todo, i => if i ∈ todo then IsAck else NoFrame
  | .receivers todo, i => if i ∈ todo then IsData else NoFrame
  | _, _ => IsAck

/-- The sort of the frames in `outgoing_frames_head` of host `i`. -/
def outgoing : Point → ℕ → Frame → Prop
  | .senders todo, i => if i ∈ todo then NoFrame else IsData
  | .receivers todo, i => if i ∈ todo then NoFrame else IsAck
  | _, _ => NoFrame

end Point

/-- In every list of every host there are only frames that belong there at this point. -/
structure PhaseInv (cfg : SysConfig D) (s : State D) : Prop where
  ports : PortsEmpty s.world
  todo_nodup : s.point.todo.Nodup
  todo_lt : ∀ i ∈ s.point.todo, i < cfg.numHosts
  hosts : ∀ i < cfg.numHosts,
    HostInv i (s.point.incoming i) (s.point.outgoing i) (s.world.hosts i)

theorem PhaseInv.start (hostEnv : ℕ → HostEnv) (env : WorldEnv) :
    PhaseInv cfg ⟨.top, init cfg hostEnv env⟩ where
  ports := ⟨fun _ => rfl, rfl⟩
  todo_nodup := List.nodup_nil
  todo_lt i hi := absurd hi List.not_mem_nil
  hosts i _ :=
    { id_eq := rfl
      cmds := fun cmd hcmd => absurd hcmd List.not_mem_nil
      incoming := fun frame hframe => absurd hframe List.not_mem_nil
      holds := ⟨fun frame hframe => absurd hframe List.not_mem_nil, fun j frame hj => by
        simp [init, initHost, SendWindowSlot.empty] at hj,
        fun frame hframe => absurd hframe List.not_mem_nil⟩ }

namespace PhaseInv

variable {s s' : State D}

omit [CDouble D] in
/-- What holds of all hosts but one that has taken its turn, and of that one. -/
theorem turn (point : List ℕ → Point) {i : ℕ} {todo : List ℕ} {w : World D} {host : Host D}
    {I O I' O' : Frame → Prop} (htodo : ∀ todo, (point todo).todo = todo)
    (hin : ∀ todo i, (point todo).incoming i = if i ∈ todo then I else I')
    (hout : ∀ todo i, (point todo).outgoing i = if i ∈ todo then O else O')
    (h : PhaseInv cfg ⟨point (i :: todo), w⟩)
    (hhost : HostInv i I O (w.hosts i) → HostInv i I' O' host) :
    PhaseInv cfg ⟨point todo, setHost i host w⟩ := by
  have hnodup := h.todo_nodup
  have hlt := h.todo_lt
  simp only [htodo, List.nodup_cons, List.mem_cons, forall_eq_or_imp] at hnodup hlt
  refine ⟨h.ports, by simpa only [htodo] using hnodup.2, by simpa only [htodo] using hlt.2,
    fun j hj => ?_⟩
  have hold := h.hosts j hj
  simp only [hin, hout, List.mem_cons] at hold ⊢
  by_cases hji : j = i
  · subst hji
    rw [if_pos (.inl rfl), if_pos (.inl rfl)] at hold
    rw [if_neg hnodup.1, if_neg hnodup.1]
    simpa only [setHost, Function.update_self] using hhost hold
  · simp only [hji, false_or] at hold
    simpa only [setHost, Function.update_of_ne hji] using hold

omit [CDouble D] in
/-- The switch at work: all hosts have made frames of the sort `P`, and all are sent. -/
theorem switch (point : Point) {point' : Point} {P : Frame → Prop} {w w' : World D}
    (hin : ∀ i, point.incoming i = NoFrame) (hout : ∀ i, point.outgoing i = P)
    (hin' : ∀ i < cfg.numHosts, point'.incoming i = P)
    (hout' : ∀ i < cfg.numHosts, point'.outgoing i = NoFrame)
    (hnodup : point'.todo.Nodup) (hlt : ∀ i ∈ point'.todo, i < cfg.numHosts)
    (h : PhaseInv cfg ⟨point, w⟩) (hsteps : SwitchSteps cfg w w')
    (hnil : ∀ i < cfg.numHosts, (w'.hosts i).outgoingFramesHead = []) :
    PhaseInv cfg ⟨point', w'⟩ := by
  refine ⟨hsteps.portsEmpty h.ports, hnodup, hlt, fun i hi => ?_⟩
  have hw := hsteps.hostInv (P := P) (fun j hj => by
    have hj := h.hosts j hj
    simp only [hin, hout] at hj
    exact hj.mono (fun _ hf => hf.elim) (fun _ hf => hf)) i hi
  simp only [hin' i hi, hout' i hi]
  exact hw.outgoing_of_nil (hnil i hi)

/-- **Every step keeps the phases apart.** -/
theorem step (h : PhaseInv cfg s) (hstep : step cfg s = .ok s') : PhaseInv cfg s' := by
  cases step_cases hstep with
  | input w w' rands order hreads horder =>
    obtain ⟨hosts, exitMain, inputs, hrest⟩ := hreads.rest
    have hmem (i : ℕ) (hi : i < cfg.numHosts) : i ∈ order :=
      horder.mem_iff.mpr (List.mem_range.mpr hi)
    refine ⟨by rw [hrest]; exact h.ports, horder.nodup_iff.mpr List.nodup_range,
      fun i hi => List.mem_range.mp (horder.mem_iff.mp hi), fun i hi => ?_⟩
    obtain ⟨cmds, heq, hcmds⟩ := hreads.hosts i
    have hold := h.hosts i hi
    simp only [Point.incoming, Point.outgoing, if_pos (hmem i hi), heq] at hold ⊢
    exact ⟨hold.id_eq, fun cmd hcmd => (List.mem_append.mp hcmd).elim (hold.cmds cmd)
      (fun hnew => (hcmds cmd hnew).1), hold.incoming, hold.holds.backlog, hold.holds.window,
      hold.holds.outgoing⟩
  | sender w i todo host hrun =>
    exact h.turn .senders (fun _ => rfl) (fun _ _ => rfl) (fun _ _ => rfl)
      fun hhost => hhost.runSender hrun
  | dataFrames w w' rands order hdata horder =>
    obtain ⟨hsteps, hnil⟩ := sendDataFrames_steps h.ports hdata
    have hmem (i : ℕ) (hi : i < cfg.numHosts) : i ∈ order :=
      horder.mem_iff.mpr (List.mem_range.mpr hi)
    exact h.switch (P := IsData) (.senders []) (by simp [Point.incoming]) (by simp [Point.outgoing])
      (fun i hi => if_pos (hmem i hi)) (fun i hi => if_pos (hmem i hi))
      (horder.nodup_iff.mpr List.nodup_range)
      (fun i hi => List.mem_range.mp (horder.mem_iff.mp hi)) (hsteps.tail (.rand w' rands)) hnil
  | receiver w i todo =>
    exact h.turn .receivers (fun _ => rfl) (fun _ _ => rfl) (fun _ _ => rfl)
      HostInv.handleIncomingFrames
  | ackFrames w w' hacks =>
    obtain ⟨hsteps, hnil⟩ := sendAckFrames_steps hacks
    exact h.switch (P := IsAck) (.receivers []) (by simp [Point.incoming])
      (by simp [Point.outgoing]) (fun _ _ => rfl) (fun _ _ => rfl) List.nodup_nil
      (by simp [Point.todo]) hsteps hnil
  | exit w hexit => exact ⟨h.ports, List.nodup_nil, by simp [Point.todo], h.hosts⟩
  | again w => exact ⟨h.ports, List.nodup_nil, by simp [Point.todo], h.hosts⟩
  | exited w => exact h

/-- **The phases are apart in every state of a run.** -/
theorem run {hostEnv : ℕ → HostEnv} {env : WorldEnv} {n : ℕ}
    (h : steps cfg n ⟨.top, init cfg hostEnv env⟩ = .ok s) : PhaseInv cfg s :=
  steps_invariant (P := fun _ => True) (PhaseInv.start hostEnv env)
    (fun _ _ hinv _ hstep => hinv.step hstep) (fun _ _ _ _ => trivial) h

end PhaseInv

/-- **Data and ACK phases never mix.** In every run, `handle_incoming_frames` is given no valid
frame other than data, `handle_incoming_acks` no valid frame other than acknowledgements, and at the
end of `run_hosts` nothing is left in any `outgoing_frames_head`. -/
theorem phases_never_mix (cfg : SysConfig D) (hostEnv : ℕ → HostEnv) (env : WorldEnv) (n : ℕ)
    (s : State D) (h : steps cfg n ⟨.top, init cfg hostEnv env⟩ = .ok s) :
    (∀ i todo, s.point = .receivers (i :: todo) →
      ∀ frame ∈ (s.world.hosts i).incomingFramesHead, frameValid frame = true →
        frame.isAck = 0) ∧
    (∀ i todo, s.point = .senders (i :: todo) →
      ∀ frame ∈ (handleInputCmds (s.world.hosts i)).incomingFramesHead, frameValid frame = true →
        frame.isAck = 1) ∧
    (s.point = .bottom → ∀ i < cfg.numHosts, (s.world.hosts i).outgoingFramesHead = []) := by
  have hinv := PhaseInv.run h
  refine ⟨fun i todo hpoint => ?_, fun i todo hpoint => ?_, fun hpoint i hi => ?_⟩
  · have hhost := hinv.hosts i (hinv.todo_lt i (by simp [hpoint, Point.todo]))
    simp only [hpoint, Point.incoming, List.mem_cons_self, if_true] at hhost
    exact hhost.incoming
  · have hhost := hinv.hosts i (hinv.todo_lt i (by simp [hpoint, Point.todo]))
    simp only [hpoint, Point.incoming, List.mem_cons_self, if_true] at hhost
    exact hhost.handleInputCmds.incoming
  · have hhost := hinv.hosts i hi
    simp only [hpoint, Point.outgoing] at hhost
    exact hhost.outgoing_eq_nil

set_option maxRecDepth 10000 in
/-- The receivers of the first round of `helloEnv`. -/
theorem phases_never_mix_hello :
    ∃ s, steps ccBasicConfig 7 ⟨.top, init ccBasicConfig (fun _ => .still) helloEnv⟩ = .ok s ∧
      ∀ i todo, s.point = .receivers (i :: todo) →
        ∀ frame ∈ (s.world.hosts i).incomingFramesHead, frameValid frame = true →
          frame.isAck = 0 := by
  obtain ⟨s, hs⟩ := exists_of_isOk (e := steps ccBasicConfig 7
    ⟨.top, init ccBasicConfig (fun _ => .still) helloEnv⟩) (by decide +kernel)
  exact ⟨s, hs, (phases_never_mix ccBasicConfig (fun _ => .still) helloEnv 7 s hs).1⟩

end NetworkSim.Tcp
