import NetworkSim.Tcp.CumulativeAcks

/-!
# Runs of a sender

What `init_host` sets up and the handlers of the sender change, in any order: commands, ACKs,
timeouts and sending, and between them whatever the rest of the program does (`SenderRun`). The
hosts of the whole program are in such a run (`senderRun_of_steps`).

Congestion control is the same little machine for every receiver (`Control`), which is stepped by an
ACK from the receiver (`handleAck_control`) or by a timeout of a frame for it
(`handleTimedoutFrames_control`) and left alone by all else. So what every sequence of such steps
keeps is kept by every run (`SenderRun.control`).
-/

namespace NetworkSim.Tcp

open CDouble

variable {D : Type} [CDouble D] {cfg : SysConfig D}

/-! ## What the handlers do to the congestion control -/

theorem updateDupAcks_control (srcId seqNum : UInt8) (host : Host D) (r : ℕ) :
    (updateDupAcks srcId seqNum host).control r =
      if r = srcId.toNat then (host.control r).updateDupAcks seqNum else host.control r := by
  rw [updateDupAcks_eq, control_setCc]
  split
  · rename_i hr
    subst hr
    exact Control.ext (Function.update_self ..) rfl
  · rename_i hr
    exact Control.ext (Function.update_of_ne hr ..) rfl

omit [CDouble D] in
theorem retransmitFrame_control {dstId seqNum : UInt8} {host host' : Host D}
    (h : retransmitFrame cfg dstId seqNum host = .ok host') (r : ℕ) :
    host'.control r = host.control r := by
  obtain ⟨_, _, _, -, -, -, hcases⟩ := retransmitFrame_cases h
  rcases hcases with ⟨_, _, -, -, -, rfl⟩ | ⟨-, -, rfl⟩ <;> rfl

theorem updateCc_control {srcId seqNum : UInt8} {host host' : Host D}
    (h : updateCc cfg srcId seqNum host = .ok host') (r : ℕ) :
    host'.control r =
      if r = srcId.toNat then (host.control r).updateCc else host.control r := by
  have hset : (setCc srcId.toNat (host.control srcId.toNat).updateCc.cc host).control r =
      if r = srcId.toNat then (host.control r).updateCc else host.control r := by
    rw [control_setCc]
    split
    · rename_i hr
      subst hr
      rfl
    · rfl
  rw [updateCc_eq] at h
  split at h
  · exact (retransmitFrame_control h r).trans hset
  · obtain rfl := Except.ok.inj h
    exact hset

/-- **An ACK** is a step of the entries of the receiver it comes from. -/
theorem handleAck_control {frame : Frame} {host host' : Host D}
    (h : handleAck cfg frame host = .ok host') (r : ℕ) :
    host'.control r =
      if r = frame.srcId.toNat then (host.control r).ack frame.seqNum else host.control r := by
  rw [handleAck] at h
  split at h
  · simp at h
  · rename_i host₁ hcc
    have hsame : host'.control r = host₁.control r := by
      rcases dequeueAcked_cases h with rfl | ⟨n, rfl⟩ <;> rfl
    rw [hsame, updateCc_control hcc, updateDupAcks_control]
    split <;> rfl

/-- **`handle_timedout_frames`** makes timeouts of the entries of some receivers. -/
theorem handleTimedoutFrames_control (currTimeval : TimeVal) (host : Host D) (r : ℕ) :
    Relation.ReflTransGen (fun c c' => c' = Control.timeout c) (host.control r)
      ((handleTimedoutFrames cfg currTimeval host).control r) := by
  rw [handleTimedoutFrames]
  induction List.range cfg.numHosts generalizing host with
  | nil => exact .refl
  | cons recvId recvIds ih =>
    refine Relation.ReflTransGen.trans ?_ (ih (handleTimedoutWindow cfg currTimeval host recvId))
    rw [handleTimedoutWindow]
    split
    · exact .refl
    · split
      · obtain ⟨⟨_, _, heq, -⟩, hcc, -⟩ := @foldl_setTimeout_none _ cfg recvId
          (List.range (cqGetLengthSend recvId host)) host
        have hsame (r : ℕ) : ((List.range (cqGetLengthSend recvId host)).foldl
            (fun host i => setTimeout cfg recvId i none host) host).control r =
              host.control r := by
          apply Control.ext
          · rw [heq]
            rfl
          · exact congrFun hcc r
        dsimp only
        rw [control_setCc]
        split
        · rename_i hr
          subst hr
          refine .single ?_
          rw [← hsame]
          rfl
        · rw [hsame]
      · exact .refl

omit [CDouble D] in
theorem handleInputCmds_control (host : Host D) (r : ℕ) :
    (handleInputCmds host).control r = host.control r := by
  obtain ⟨news, hcreates, -⟩ := handleInputCmds_creates host
  obtain ⟨_, _, heq⟩ := hcreates.eq
  rw [heq]
  rfl

omit [CDouble D] in
theorem resendLoop_control {recvId : ℕ} {is : List ℕ} {framesPerRtt frames : ℤ}
    {host host' : Host D}
    (h : resendLoop cfg recvId is framesPerRtt host = .ok (frames, host')) (r : ℕ) :
    host'.control r = host.control r := by
  induction is generalizing framesPerRtt host with
  | nil =>
    obtain ⟨-, rfl⟩ : framesPerRtt = frames ∧ host = host' := by simpa [resendLoop] using h
    rfl
  | cons i is ih =>
    rw [resendLoop] at h
    split at h
    · split at h
      · simp at h
      · split at h
        · simp at h
        · rename_i hretransmit
          exact (ih h).trans (retransmitFrame_control hretransmit r)
    · exact ih h

omit [CDouble D] in
theorem resendWindows_control {recvIds : List ℕ} {framesPerRtt frames : ℕ → ℤ}
    {host host' : Host D}
    (h : resendWindows cfg recvIds framesPerRtt host = .ok (frames, host')) (r : ℕ) :
    host'.control r = host.control r := by
  induction recvIds generalizing framesPerRtt host with
  | nil =>
    obtain ⟨-, rfl⟩ : framesPerRtt = frames ∧ host = host' := by simpa [resendWindows] using h
    rfl
  | cons recvId recvIds ih =>
    rw [resendWindows] at h
    split at h
    · exact ih h
    · split at h
      · simp at h
      · rename_i hloop
        exact (ih h).trans (resendLoop_control hloop r)

/-- Sending leaves the entries alone. -/
theorem handleOutgoingFrames_control {currTimeval : TimeVal} {host host' : Host D}
    (h : handleOutgoingFrames cfg currTimeval host = .ok host') (r : ℕ) :
    host'.control r = host.control r := by
  rw [handleOutgoingFrames] at h
  split at h
  · simp at h
  · rename_i framesPerRtt host₁ hresend
    obtain rfl := Except.ok.inj h
    refine Eq.trans ?_ (resendWindows_control hresend r)
    apply Control.ext
    · exact congrFun (sendLoop_retransmits ..).1 r
    · exact congrFun (sendLoop_cc ..) r

/-! ## Runs -/

/-- `host` is reached from `init_host`, and `acks` are the ACKs that were handled on the way; each
of them had the property `P` in the state in which it was handled. -/
inductive SenderRun (cfg : SysConfig D) (P : Frame → Host D → Prop) (id : ℕ) (env : HostEnv) :
    List Frame → Host D → Prop
  | start : SenderRun cfg P id env [] (initHost cfg id env)
  | commands {acks : List Frame} {host : Host D} (h : SenderRun cfg P id env acks host) :
      SenderRun cfg P id env acks (handleInputCmds host)
  | ack {acks : List Frame} {host host' : Host D} (h : SenderRun cfg P id env acks host)
      (frame : Frame) (hP : P frame host) (hack : handleAck cfg frame host = .ok host') :
      SenderRun cfg P id env (acks ++ [frame]) host'
  | timeout {acks : List Frame} {host : Host D} (h : SenderRun cfg P id env acks host)
      (currTimeval : TimeVal) :
      SenderRun cfg P id env acks (handleTimedoutFrames cfg currTimeval host)
  | send {acks : List Frame} {host host' : Host D} (h : SenderRun cfg P id env acks host)
      (currTimeval : TimeVal) (hsend : handleOutgoingFrames cfg currTimeval host = .ok host') :
      SenderRun cfg P id env acks host'
  /-- The beginning and the end of a turn. -/
  | turn {acks : List Frame} {host : Host D} (h : SenderRun cfg P id env acks host)
      (awaitingAck active csvOut : Bool) (roundTripNum ticks : ℕ) :
      SenderRun cfg P id env acks
        { host with
          awaitingAck := awaitingAck
          active := active
          roundTripNum := roundTripNum
          csvOut := csvOut
          ticks := ticks }
  /-- The rest of the program. -/
  | rest {acks : List Frame} {host host' : Host D} (h : SenderRun cfg P id env acks host)
      (hsame : SameSender host host') : SenderRun cfg P id env acks host'

/-- An ACK as its receiver may send it: of the frames in the window it covers the first `k`. -/
def ValidAck (frame : Frame) (host : Host D) : Prop :=
  frameValid frame = true ∧ frame.isAck ≠ 0 ∧ ∃ k ≤ cqGetLengthSend frame.srcId.toNat host,
    frame.seqNum = ackSeq (slotPosition frame.srcId.toNat k host)

instance (frame : Frame) (host : Host D) : Decidable (ValidAck frame host) :=
  inferInstanceAs (Decidable (_ ∧ _ ∧ _))

namespace SenderRun

variable {P : Frame → Host D → Prop} {id : ℕ} {env : HostEnv} {acks : List Frame}
  {host host' : Host D}

/-- **The entries for every receiver** are reached by ACKs and timeouts. -/
theorem control (h : SenderRun cfg P id env acks host) (r : ℕ) :
    Relation.ReflTransGen Control.Step (Control.init cfg) (host.control r) := by
  induction h with
  | start => exact .refl
  | commands _ ih => rwa [handleInputCmds_control]
  | ack _ frame _ hack ih =>
    rw [handleAck_control hack]
    split
    · exact ih.tail (.ack _ _)
    · exact ih
  | timeout _ currTimeval ih =>
    refine ih.trans (Relation.ReflTransGen.mono ?_ _ _
      (handleTimedoutFrames_control currTimeval _ r))
    rintro c _ rfl
    exact .timeout c
  | send _ currTimeval hsend ih => rwa [handleOutgoingFrames_control hsend]
  | turn _ _ _ _ _ _ ih => exact ih
  | rest _ hsame ih =>
    obtain ⟨_, _, _, _, _, _, _, _, _, _, _, rfl⟩ := hsame
    exact ih

/-! ## The whole program -/

theorem keptInTurns (id : ℕ) (env : HostEnv) :
    KeptInTurns cfg (fun _ host => ∃ acks, SenderRun cfg (fun _ _ => True) id env acks host) where
  turn := fun ⟨_, h⟩ _ _ => ⟨_, h.turn _ _ _ _ _⟩
  commands := fun ⟨_, h⟩ => ⟨_, h.commands⟩
  ack := fun frame ⟨_, h⟩ hack => ⟨_, h.ack frame trivial hack⟩
  incoming := fun ⟨_, h⟩ _ => ⟨_, h.rest ⟨_, _, _, _, _, _, _, _, _, _, _, rfl⟩⟩
  timeout := fun ⟨_, h⟩ => ⟨_, h.timeout _⟩
  send := fun ⟨_, h⟩ hsend => ⟨_, h.send _ hsend⟩
  flags := fun ⟨_, h⟩ _ _ => ⟨_, h.turn _ _ _ _ _⟩

end SenderRun

/-- **The hosts of the program** are in such runs. -/
theorem senderRun_of_steps {hostEnv : ℕ → HostEnv} {env : WorldEnv} {n : ℕ} {s : State D}
    (h : steps cfg n ⟨.top, init cfg hostEnv env⟩ = .ok s) :
    ∀ i < cfg.numHosts, ∃ acks,
      SenderRun cfg (fun _ _ => True) i (hostEnv i) acks (s.world.hosts i) := by
  refine hosts_invariant (P := fun _ => True)
    (I := fun i host => ∃ acks, SenderRun cfg (fun _ _ => True) i (hostEnv i) acks host)
    (fun i _ => ⟨[], .start⟩) ?_ ?_ (fun _ _ _ _ => trivial) h
  · intro i host host' hsame ⟨acks, hrun⟩
    exact ⟨acks, hrun.rest hsame⟩
  · intro s i todo host' _ _ _ hrun hturn
    exact (SenderRun.keptInTurns i (hostEnv i)).runSender (host'.env.clock 0) hrun hturn

/-! ## The beginning of a run -/

/-- Host 0 has three messages for host 1. -/
def threeMessages (windowSize : ℕ) (h : 0 < windowSize) : Host ℚ :=
  { initHost (lossyConfig windowSize h) 0 .still with
    inputCmdlistHead := List.replicate 3 ⟨0, 1, [97]⟩ }

/-- It sends the first frame, -/
def firstSent (windowSize : ℕ) (h : 0 < windowSize) : Host ℚ :=
  (handleOutgoingFrames (lossyConfig windowSize h) ⟨0, 0⟩
    (handleInputCmds (threeMessages windowSize h))).toOption.getD (threeMessages windowSize h)

/-- has it acknowledged, -/
def firstAcked (windowSize : ℕ) (h : 0 < windowSize) : Host ℚ :=
  (handleAck (lossyConfig windowSize h) (ackOf 0) (firstSent windowSize h)).toOption.getD
    (firstSent windowSize h)

/-- sends the others, -/
def othersSent (windowSize : ℕ) (h : 0 < windowSize) : Host ℚ :=
  (handleOutgoingFrames (lossyConfig windowSize h) ⟨0, 0⟩
    (firstAcked windowSize h)).toOption.getD (firstAcked windowSize h)

/-- and gets `n` duplicates of the ACK. -/
def duplicated (windowSize : ℕ) (h : 0 < windowSize) : ℕ → Host ℚ
  | 0 => othersSent windowSize h
  | n + 1 => (handleAck (lossyConfig windowSize h) (ackOf 0)
      (duplicated windowSize h n)).toOption.getD (duplicated windowSize h n)

/-- A window whose frames are numbered `n` and `m`. -/
theorem exists_window {slots : List (Option Frame)} {n m : UInt8}
    (h : slots.map (Option.map (·.seqNum)) = [some n, some m]) :
    ∃ first window, slots = (first :: window).map some ∧ first.seqNum = n := by
  obtain ⟨slot, rest, rfl, hslot, hrest⟩ := List.map_eq_cons_iff.mp h
  obtain ⟨slot', hsingle, hslot'⟩ := List.map_eq_singleton_iff.mp hrest
  obtain ⟨first, rfl, hfirst⟩ := Option.map_eq_some_iff.mp hslot
  obtain ⟨second, rfl, -⟩ := Option.map_eq_some_iff.mp hslot'
  exact ⟨first, [second], by rw [hsingle]; rfl, hfirst⟩

theorem senderRun_othersSent {windowSize : ℕ} {h : 0 < windowSize} {P : Frame → Host ℚ → Prop}
    (hP : P (ackOf 0) (firstSent windowSize h))
    (hfirst : (handleOutgoingFrames (lossyConfig windowSize h) ⟨0, 0⟩
      (handleInputCmds (threeMessages windowSize h))).isOk = true)
    (hack : (handleAck (lossyConfig windowSize h) (ackOf 0) (firstSent windowSize h)).isOk = true)
    (hothers : (handleOutgoingFrames (lossyConfig windowSize h) ⟨0, 0⟩
      (firstAcked windowSize h)).isOk = true) :
    SenderRun (lossyConfig windowSize h) P 0 .still [ackOf 0] (othersSent windowSize h) := by
  have hstart : SenderRun (lossyConfig windowSize h) P 0 .still [] (threeMessages windowSize h) :=
    SenderRun.start.rest ⟨_, _, _, _, _, _, _, _, _, _, _, rfl⟩
  have hsent := hstart.commands.send _ (eq_ok_getD (threeMessages windowSize h) hfirst)
  exact (hsent.ack (ackOf 0) hP (eq_ok_getD _ hack)).send _ (eq_ok_getD _ hothers)

theorem senderRun_duplicated {windowSize : ℕ} {h : 0 < windowSize} {P : Frame → Host ℚ → Prop}
    (hstart : SenderRun (lossyConfig windowSize h) P 0 .still [ackOf 0] (othersSent windowSize h))
    (n : ℕ) (hacks : ∀ k < n, P (ackOf 0) (duplicated windowSize h k) ∧
      (handleAck (lossyConfig windowSize h) (ackOf 0) (duplicated windowSize h k)).isOk = true) :
    SenderRun (lossyConfig windowSize h) P 0 .still (List.replicate (n + 1) (ackOf 0))
      (duplicated windowSize h n) := by
  induction n with
  | zero => exact hstart
  | succ n ih =>
    obtain ⟨hP, hok⟩ := hacks n (Nat.lt_succ_self n)
    rw [List.replicate_succ']
    exact (ih fun k hk => hacks k (by omega)).ack (ackOf 0) hP (eq_ok_getD _ hok)

end NetworkSim.Tcp
