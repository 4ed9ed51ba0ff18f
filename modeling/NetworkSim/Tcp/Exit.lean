import NetworkSim.Tcp.Delivery

/-!
# The state at the exit

`graceful_exit` looks at the flags `active` of the hosts, each of which was set when the host last
took its turn as a sender. Nothing that happens after the turn changes what the flag was computed
from (`ExitInv`), so when all flags are off, no host has a command or a frame left, and the links
have delivered all that was created (`nothing_lost_at_exit`).
-/

namespace NetworkSim.Tcp

open SlidingWindow (Link)

variable {D : Type} {cfg : SysConfig D}

/-- What a host looks like after its turn as a sender. -/
structure Settled (cfg : SysConfig D) (host : Host D) : Prop where
  active_eq : host.active = (updateActive cfg host).active
  cmds_nil : host.inputCmdlistHead = []

/-- The hosts still to take their turn as senders. -/
def Point.sendersTodo : Point → List ℕ
  | .senders todo => todo
  | _ => []

/-- Every frame is for a host that exists. -/
structure Addressed (cfg : SysConfig D) (host : Host D) : Prop where
  cmds : ∀ cmd ∈ host.inputCmdlistHead, (UInt8.ofNat cmd.dstId.toNat).toNat < cfg.numHosts
  created : ∀ frame ∈ host.log.created, frame.dstId.toNat < cfg.numHosts

theorem Settled.congr {host host' : Host D} (h : Settled cfg host)
    (hactive : host'.active = host.active) (hcmds : host'.inputCmdlistHead = host.inputCmdlistHead)
    (hwin : host'.sendWindow = host.sendWindow)
    (hbacklog : host'.bufferedOutframesHead = host.bufferedOutframesHead) : Settled cfg host' where
  active_eq := by
    rw [hactive, h.active_eq]
    simp only [updateActive, hwin, hbacklog]
  cmds_nil := hcmds.trans h.cmds_nil

/-- The switch moves frames between the lists of incoming and outgoing frames only. -/
theorem Settled.switch {w w' : World D} (hsteps : SwitchSteps cfg w w') {i : ℕ}
    (h : Settled cfg (w.hosts i)) : Settled cfg (w'.hosts i) := by
  obtain ⟨_, _, heq⟩ := hsteps.hosts_eq i
  exact (congrArg (Settled cfg) heq).mpr (h.congr rfl rfl rfl rfl)

theorem Addressed.switch {w w' : World D} (hsteps : SwitchSteps cfg w w') {i : ℕ}
    (h : Addressed cfg (w.hosts i)) : Addressed cfg (w'.hosts i) := by
  obtain ⟨_, _, heq⟩ := hsteps.hosts_eq i
  exact (congrArg (Addressed cfg) heq).mpr ⟨h.cmds, h.created⟩

/-- A host that is not active has no frame to send again and none to send. -/
theorem Settled.of_active_false {host : Host D} (h : Settled cfg host)
    (hactive : host.active = false) :
    host.bufferedOutframesHead = [] ∧
      ∀ j < cfg.windowSize * cfg.numHosts, (host.sendWindow j).frame = none := by
  have hflag := h.active_eq
  simp only [hactive, updateActive] at hflag
  rw [eq_comm, Bool.or_eq_false_iff, List.any_eq_false, decide_eq_false_iff_not] at hflag
  refine ⟨List.eq_nil_of_length_eq_zero (by omega), fun j hj => ?_⟩
  have := hflag.1 j (List.mem_range.mpr hj)
  simpa using this

theorem cqSlotSend_lt {r : ℕ} (hr : r < cfg.numHosts) (i : ℕ) (host : Host D) :
    cqSlotSend cfg r i host < cfg.windowSize * cfg.numHosts := by
  have hmod := Nat.mod_lt ((host.sendWindowStart r).toNat + i) cfg.windowSize_pos
  have hmul : cfg.windowSize * (r + 1) ≤ cfg.windowSize * cfg.numHosts :=
    Nat.mul_le_mul_left _ hr
  unfold cqSlotSend
  rw [Nat.mul_comm r]
  rw [Nat.mul_add, Nat.mul_one] at hmul
  omega

/-- Nor has it a frame that is not acknowledged. -/
theorem SenderOk.unacked_eq_nil {frames : List Frame} {host : Host D} {v : ℕ → SendView}
    (hok : SenderOk cfg frames host v) (h : Settled cfg host) (hactive : host.active = false)
    {r : ℕ} (hr : r < cfg.numHosts) : (v r).window = [] ∧ (v r).backlog = [] := by
  obtain ⟨hbacklog, hslots⟩ := h.of_active_false hactive
  constructor
  · by_contra hne
    have hpos : 0 < (v r).window.length := List.length_pos_iff.mpr hne
    have hitem := hok.getItem (by rw [hok.length_window r]; exact hpos)
    rw [List.getElem?_eq_getElem hpos] at hitem
    have hnone := hslots _ (cqSlotSend_lt hr 0 host)
    rw [cqGetItemSend, hnone] at hitem
    simp at hitem
  · rw [← (hok r).1.backlog, hbacklog, framesFor_nil]

variable [CDouble D]

/-- The flags are up to date, and every frame is for a host that exists. -/
structure ExitInv (cfg : SysConfig D) (s : State D) : Prop where
  addressed : ∀ i < cfg.numHosts, Addressed cfg (s.world.hosts i)
  settled : ∀ i < cfg.numHosts, i ∉ s.point.sendersTodo → Settled cfg (s.world.hosts i)
  exited : s.point = .exited → gracefulExit cfg s.world = true

theorem ExitInv.start (hostEnv : ℕ → HostEnv) (env : WorldEnv) :
    ExitInv cfg ⟨.top, init cfg hostEnv env⟩ where
  addressed i _ := ⟨by simp [init, initHost], by simp [init, initHost, HostLog.empty]⟩
  settled i _ _ := ⟨by simp [init, initHost, updateActive, SendWindowSlot.empty], rfl⟩
  exited h := by simp at h

theorem Settled.runSender {host host' : Host D} (h : runSender cfg host = .ok host') :
    Settled cfg host' := by
  refine ⟨?_, (runSender_creates h).1⟩
  rcases runSender_cases h with ⟨-, rfl⟩ | ⟨host₁, -, rfl⟩ <;> rfl

theorem Addressed.runSender {host host' : Host D} (h : Addressed cfg host)
    (hrun : runSender cfg host = .ok host') : Addressed cfg host' := by
  obtain ⟨hnil, frames, hcreated, hfrom⟩ := runSender_creates hrun
  refine ⟨by simp [hnil], fun frame hmem => ?_⟩
  rw [hcreated] at hmem
  rcases List.mem_append.mp hmem with hold | hnew
  · exact h.created frame hold
  · obtain ⟨cmd, hcmd, -, hdst, -⟩ := hfrom frame hnew
    rw [hdst]
    exact h.cmds cmd hcmd

/-- **Every step keeps the flags up to date.** -/
theorem ExitInv.step {s s' : State D} (hphase : PhaseInv cfg s) (h : ExitInv cfg s)
    (hstep : step cfg s = .ok s') : ExitInv cfg s' := by
  cases step_cases hstep with
  | input w w' rands order hreads horder =>
    refine ⟨fun i hi => ?_, fun i hi htodo => ?_, fun hpoint => by simp at hpoint⟩
    · obtain ⟨cmds, heq, hcmds⟩ := hreads.hosts i
      have hold := h.addressed i hi
      refine (congrArg (Addressed cfg) heq).mpr ⟨fun cmd hcmd => ?_, hold.created⟩
      rcases List.mem_append.mp hcmd with hmem | hmem
      · exact hold.cmds cmd hmem
      · obtain ⟨-, r, hr, hdst⟩ := hcmds cmd hmem
        rw [hdst, ofNat_toNat_ofNat, toNat_ofNat]
        omega
    · exact absurd (horder.mem_iff.mpr (List.mem_range.mpr hi)) htodo
  | sender w i todo host hrun =>
    refine ⟨fun j hj => ?_, fun j hj htodo => ?_, fun hpoint => by simp at hpoint⟩
    · rw [hosts_setHost]
      split
      · exact (h.addressed i (hphase.todo_lt i List.mem_cons_self)).runSender hrun
      · exact h.addressed j hj
    · rw [hosts_setHost]
      split
      · exact Settled.runSender hrun
      · rename_i hji
        exact h.settled j hj (fun hmem => (List.mem_cons.mp hmem).elim hji htodo)
  | dataFrames w w' rands order hdata horder =>
    obtain ⟨hsteps, -⟩ := sendDataFrames_steps hphase.ports hdata
    exact ⟨fun i hi => Addressed.switch hsteps (h.addressed i hi),
      fun i hi _ => Settled.switch hsteps (h.settled i hi List.not_mem_nil),
      fun hpoint => by simp at hpoint⟩
  | receiver w i todo =>
    refine ⟨fun j hj => ?_, fun j hj htodo => ?_, fun hpoint => by simp at hpoint⟩
    · rw [hosts_setHost]
      split
      · rename_i hji
        obtain ⟨_, _, _, _, _, _, _, _, _, heq⟩ := handleIncomingFrames_eq cfg (w.hosts i)
        have hold := h.addressed j hj
        rw [hji] at hold
        exact (congrArg (Addressed cfg) heq).mpr ⟨hold.cmds, hold.created⟩
      · exact h.addressed j hj
    · rw [hosts_setHost]
      split
      · rename_i hji
        obtain ⟨_, _, _, _, _, _, _, _, _, heq⟩ := handleIncomingFrames_eq cfg (w.hosts i)
        have hold := h.settled j hj List.not_mem_nil
        rw [hji] at hold
        exact (congrArg (Settled cfg) heq).mpr (hold.congr rfl rfl rfl rfl)
      · exact h.settled j hj List.not_mem_nil
  | ackFrames w w' hacks =>
    obtain ⟨hsteps, -⟩ := sendAckFrames_steps hacks
    exact ⟨fun i hi => Addressed.switch hsteps (h.addressed i hi),
      fun i hi _ => Settled.switch hsteps (h.settled i hi List.not_mem_nil),
      fun hpoint => by simp at hpoint⟩
  | exit w hexit => exact ⟨h.addressed, h.settled, fun _ => hexit⟩
  | again w => exact ⟨h.addressed, h.settled, fun hpoint => by simp at hpoint⟩
  | exited w => exact h

theorem ExitInv.run {hostEnv : ℕ → HostEnv} {env : WorldEnv} {n : ℕ} {s : State D}
    (h : steps cfg n ⟨.top, init cfg hostEnv env⟩ = .ok s) : ExitInv cfg s := by
  have hinv := steps_invariant (I := fun s => PhaseInv cfg s ∧ ExitInv cfg s)
    (P := fun _ => True) ⟨PhaseInv.start hostEnv env, ExitInv.start hostEnv env⟩
    (fun s s' hs _ hstep => ⟨hs.1.step hstep, hs.2.step hs.1 hstep⟩) (fun _ _ _ _ => trivial) h
  exact hinv.2

end NetworkSim.Tcp
