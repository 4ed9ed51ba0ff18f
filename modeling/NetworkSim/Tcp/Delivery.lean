import NetworkSim.Tcp.Channels

/-!
# Delivery

Every two hosts are the ends of a link, and stay so in every step of the process (`DeliveryInv`). So
what a receiver has appended for a sender is always a prefix of what that sender has created for it
(`appended_prefix_created`).

A host number from 256 on does not fit into the byte that a frame has for it: nothing is ever
delivered to such a host, and what it sends looks as if another host had sent it. The links are
there as long as no such host has created a frame (`SmallSenders`).
-/

namespace NetworkSim.Tcp

open SlidingWindow (Link)

variable {D : Type} [CDouble D] {cfg : SysConfig D}

/-- No host has created frames whose number does not fit into a byte. -/
def SmallSenders (cfg : SysConfig D) (w : World D) : Prop :=
  ∀ i < cfg.numHosts, 256 ≤ i → (w.hosts i).log.created = []

/-- The views of a host as a sender. One whose number does not fit into a byte has had no ACK. -/
def SenderInv (cfg : SysConfig D) (i : ℕ) (host : Host D) : Prop :=
  ∃ v, SenderOk cfg host.incomingFramesHead host v ∧
    (256 ≤ i → ∀ r, (v r).unacked = (v r).created)

/-- Every two hosts are the ends of a link. -/
structure DeliveryInv (cfg : SysConfig D) (w : World D) : Prop where
  senders : ∀ i < cfg.numHosts, SenderInv cfg i (w.hosts i)
  incoming_big : ∀ i < cfg.numHosts, 256 ≤ i → (w.hosts i).incomingFramesHead = []
  outgoing_big : ∀ i < cfg.numHosts, 256 ≤ i → (w.hosts i).log.created = [] →
    (w.hosts i).outgoingFramesHead = []
  links : SmallSenders cfg w → ∀ s < cfg.numHosts, ∀ r < cfg.numHosts,
    ∃ L : Link Frame, L.Inv cfg.windowSize ∧ LinkRel cfg s r (w.hosts s) (w.hosts r) L

theorem linkRel_start (hostEnv : ℕ → HostEnv) (s r : ℕ) :
    LinkRel cfg s r (initHost cfg s (hostEnv s)) (initHost cfg r (hostEnv r))
      (Link.start Frame cfg.windowSize) where
  created := rfl
  window := rfl
  backlog := rfl
  received := by
    rw [recvView_initHost]
    rfl
  data := rfl
  acks := rfl

theorem DeliveryInv.start (hostEnv : ℕ → HostEnv) (env : WorldEnv) :
    DeliveryInv cfg (init cfg hostEnv env) where
  senders i _ := ⟨_, senderOk_initHost i (hostEnv i), fun _ _ => rfl⟩
  incoming_big _ _ _ := rfl
  outgoing_big _ _ _ _ := rfl
  links _ s _ r _ := ⟨_, Link.Inv.start, linkRel_start hostEnv s r⟩

/-! ## The switch -/

omit [CDouble D] in
theorem SwitchSteps.hosts_eq {w w' : World D} (h : SwitchSteps cfg w w') (i : ℕ) :
    ∃ incoming outgoing, w'.hosts i =
      { w.hosts i with incomingFramesHead := incoming, outgoingFramesHead := outgoing } := by
  induction h with
  | refl => exact ⟨_, _, rfl⟩
  | tail _ hstep ih =>
    obtain ⟨_, _, heq⟩ := ih
    obtain ⟨_, _, heq'⟩ := hstep.hosts_eq i
    rw [heq', heq]
    exact ⟨_, _, rfl⟩

omit [CDouble D] in
/-- Nothing is delivered to a host whose number does not fit into a byte. -/
theorem SwitchSteps.incoming_big {w w' : World D} (h : SwitchSteps cfg w w') {i : ℕ}
    (hi : 256 ≤ i) : (w'.hosts i).incomingFramesHead = (w.hosts i).incomingFramesHead := by
  induction h with
  | refl => rfl
  | tail _ hstep ih =>
    rw [← ih]
    cases hstep with
    | rand => rfl
    | drop id frame rest hid hout hcheck => rw [hosts_putOutgoing]
    | deliver id frame frame' rest hid hout hcheck harrives =>
      have hne : i ≠ frame.dstId.toNat := by
        have := frame.dstId.toNat_lt
        omega
      simp only [hosts_putIncoming, hosts_putOutgoing, if_neg hne, List.append_nil]

omit [CDouble D] in
theorem SwitchSteps.links {P : Frame → Prop} {w w' : World D} (h : SwitchSteps cfg w w')
    (hw : ∀ i < cfg.numHosts, HostInv i P P (w.hosts i))
    (hbig : ∀ i < cfg.numHosts, 256 ≤ i → (w.hosts i).outgoingFramesHead = []) {s r : ℕ}
    (hlink : ∃ L : Link Frame, L.Inv cfg.windowSize ∧
      LinkRel cfg s r (w.hosts s) (w.hosts r) L) :
    ∃ L : Link Frame, L.Inv cfg.windowSize ∧ LinkRel cfg s r (w'.hosts s) (w'.hosts r) L := by
  induction h with
  | refl => exact hlink
  | @tail w₁ w₂ hsteps hstep ih =>
    have hnamed : Named cfg w₁ := by
      intro i hi frame hmem
      have hframe := (SwitchSteps.hostInv hsteps hw i hi).holds.outgoing frame hmem
      refine ⟨hframe.valid, ?_⟩
      have hsmall : i < 256 := by
        by_contra hge
        rw [SwitchSteps.outgoing_nil hsteps (hbig i hi (by omega))] at hmem
        exact List.not_mem_nil hmem
      rw [hframe.srcId, toNat_ofNat]
      omega
    obtain ⟨L, hL, hrel⟩ := ih
    exact hrel.loss hL (hstep.hosts_eq s) (hstep.hosts_eq r) (hstep.channel_sublist hnamed s r)
      (hstep.channel_sublist hnamed r s)

omit [CDouble D] in
theorem SenderInv.relist {i : ℕ} {host host' : Host D} (h : SenderInv cfg i host)
    (hcreated : host'.log.created = host.log.created)
    (hwin : ∀ id, winFrames cfg id host' = winFrames cfg id host)
    (hbacklog : host'.bufferedOutframesHead = host.bufferedOutframesHead)
    (hcurr : host'.currSeqNum = host.currSeqNum) : SenderInv cfg i host' := by
  obtain ⟨v, hok, hbig⟩ := h
  exact ⟨_, hok.relist host'.incomingFramesHead hcreated hwin hbacklog hcurr, hbig⟩

omit [CDouble D] in
/-- The switch at work. -/
theorem DeliveryInv.switch {P : Frame → Prop} {w w' : World D} (h : DeliveryInv cfg w)
    (hw : ∀ i < cfg.numHosts, HostInv i P P (w.hosts i)) (hsteps : SwitchSteps cfg w w') :
    DeliveryInv cfg w' := by
  have hcreated (i : ℕ) : (w'.hosts i).log.created = (w.hosts i).log.created := by
    obtain ⟨_, _, heq⟩ := hsteps.hosts_eq i
    rw [heq]
  refine ⟨fun i hi => ?_, fun i hi hbig => ?_, fun i hi hbig hnil => ?_, fun hsmall s hs r hr => ?_⟩
  · obtain ⟨_, _, heq⟩ := hsteps.hosts_eq i
    rw [heq]
    exact (h.senders i hi).relist rfl (fun _ => rfl) rfl rfl
  · rw [hsteps.incoming_big hbig]
    exact h.incoming_big i hi hbig
  · rw [hcreated] at hnil
    exact hsteps.outgoing_nil (h.outgoing_big i hi hbig hnil)
  · have hsmall' : SmallSenders cfg w := fun i hi hbig => (hcreated i).symm.trans (hsmall i hi hbig)
    exact hsteps.links hw (fun i hi hbig => h.outgoing_big i hi hbig (hsmall' i hi hbig))
      (h.links hsmall' s hs r hr)

/-! ## The turns -/

omit [CDouble D] in
theorem hosts_setHost (i : ℕ) (host : Host D) (w : World D) (j : ℕ) :
    (setHost i host w).hosts j = if j = i then host else w.hosts j := Function.update_apply ..

omit [CDouble D] in
theorem eq_nil_of_framesFor {frames : List Frame} (h : ∀ id, framesFor id frames = []) :
    frames = [] := by
  apply List.eq_nil_iff_forall_not_mem.mpr
  intro frame hmem
  have hfor : frame ∈ framesFor frame.dstId.toNat frames := by
    simp only [framesFor, List.mem_filter, hmem, decide_true, and_self]
  rw [h] at hfor
  exact List.not_mem_nil hfor

/-- **A turn of a sender keeps the links.** -/
theorem DeliveryInv.senderTurn (hW : cfg.windowSize ≤ 128) {w : World D} {i : ℕ} {host' : Host D}
    (h : DeliveryInv cfg w) (hi : i < cfg.numHosts) (hinv : HostInv i IsAck NoFrame (w.hosts i))
    (hrun : runSender cfg (w.hosts i) = .ok host') : DeliveryInv cfg (setHost i host' w) := by
  have hinv' := hinv.runSender hrun
  have hincoming := runSender_incoming hrun
  obtain ⟨v, hok, hbig⟩ := h.senders i hi
  obtain ⟨v', hsteps, hok'⟩ := runSender_steps (by omega) hok hrun
  have hview : (w.hosts i).log.created <+: host'.log.created ∧
      ∀ s, recvView cfg s host' = recvView cfg s (w.hosts i) := by
    obtain ⟨_, _, _, _, _, _, _, _, _, _, _, _, _, _, _, _, _, _, _, _, hbefore, heq⟩ :=
      runSender_eq hrun
    rw [heq]
    exact ⟨hbefore, fun _ => rfl⟩
  obtain ⟨hcreated, hrecv⟩ := hview
  refine ⟨fun j hj => ?_, fun j hj hge => ?_, fun j hj hge hnil => ?_, fun hsmall s hs r hr => ?_⟩
  · rw [hosts_setHost]
    split
    · rename_i hji
      subst hji
      refine ⟨v', hok', fun hge r => ?_⟩
      -- no ACK has come, so nothing has left the front
      obtain ⟨news, handled, k, hnews, hacks, -, hunacked, hlast⟩ :=
        SendView.Steps.unacked_eq (hsteps r)
      have hnone : (v r).acks = [] := by
        rw [← (hok r).1.acks, h.incoming_big j hj hge]
        rfl
      rw [hnone, List.nil_eq_append_iff] at hacks
      have hk : k = 0 := by
        by_contra hne
        obtain ⟨_, -, hmem⟩ := hlast (Nat.pos_of_ne_zero hne)
        rw [hacks.1] at hmem
        exact List.not_mem_nil hmem
      rw [hunacked, hk, List.drop_zero, hbig hge, hnews]
    · exact h.senders j hj
  · rw [hosts_setHost]
    split
    · rename_i hji
      rw [hincoming, ← hji, h.incoming_big j hj hge, List.filter_nil]
    · exact h.incoming_big j hj hge
  · rw [hosts_setHost] at hnil ⊢
    split
    · rename_i hji
      rw [if_pos hji] at hnil
      apply eq_nil_of_framesFor
      intro r
      rw [(hok' r).1.out, SendView.Steps.out_eq (hok r).2 (hsteps r), ← (hok r).1.out,
        hinv.outgoing_eq_nil, framesFor_nil]
      rw [← (hok' r).1.created, hnil, framesFor_nil]
    · rename_i hji
      rw [if_neg hji] at hnil
      exact h.outgoing_big j hj hge hnil
  · have hsmall' : SmallSenders cfg w := by
      intro j hj hge
      have := hsmall j hj hge
      rw [hosts_setHost] at this
      split at this
      · rename_i hji
        rw [this] at hcreated
        rw [hji]
        exact List.prefix_nil.mp hcreated
      · exact this
    obtain ⟨L, hL, hrel⟩ := h.links hsmall' s hs r hr
    rw [hosts_setHost, hosts_setHost]
    by_cases hsi : s = i
    · subst hsi
      rw [if_pos rfl]
      by_cases hri : r = s
      · subst hri
        rw [if_pos rfl]
        exact hrel.runSender hW hL hinv hinv' hok hok' hsteps (hrecv _)
          (by rw [hinv'.framesFrom_noFrame, hinv.framesFrom_data])
          (by rw [hinv'.framesTo_ack, hinv.framesTo_noFrame])
      · rw [if_neg hri]
        exact hrel.runSender hW hL hinv hinv' hok hok' hsteps rfl rfl rfl
    · rw [if_neg hsi]
      refine ⟨L, hL, ?_⟩
      split
      · rename_i hri
        subst hri
        refine hrel.congr rfl rfl rfl (hrecv _) ?_ ?_
        · rw [channel, channel, hinv'.framesFrom_noFrame, hinv.framesFrom_data]
        · rw [channel, channel, hinv'.framesTo_ack, hinv.framesTo_noFrame]
      · exact hrel

omit [CDouble D] in
/-- **A turn of a receiver keeps the links.** -/
theorem DeliveryInv.receiverTurn (hW : cfg.windowSize ≤ 128) {w : World D} {i : ℕ}
    (h : DeliveryInv cfg w) (hi : i < cfg.numHosts) (hinv : HostInv i IsData NoFrame (w.hosts i)) :
    DeliveryInv cfg (setHost i (handleIncomingFrames cfg (w.hosts i)) w) := by
  have hinv' : HostInv i NoFrame IsAck (handleIncomingFrames cfg (w.hosts i)) :=
    hinv.handleIncomingFrames
  have hidle (hnil : (w.hosts i).incomingFramesHead = []) :
      (handleIncomingFrames cfg (w.hosts i)).outgoingFramesHead =
        (w.hosts i).outgoingFramesHead := by
    unfold handleIncomingFrames
    rw [hnil]
    rfl
  have hsame : (handleIncomingFrames cfg (w.hosts i)).log.created = (w.hosts i).log.created ∧
      (∀ r, winFrames cfg r (handleIncomingFrames cfg (w.hosts i)) =
        winFrames cfg r (w.hosts i)) ∧
      (handleIncomingFrames cfg (w.hosts i)).bufferedOutframesHead =
        (w.hosts i).bufferedOutframesHead ∧
      (handleIncomingFrames cfg (w.hosts i)).currSeqNum = (w.hosts i).currSeqNum ∧
      (handleIncomingFrames cfg (w.hosts i)).incomingFramesHead = [] := by
    obtain ⟨_, _, _, _, _, _, _, _, _, heq⟩ := handleIncomingFrames_eq cfg (w.hosts i)
    rw [heq]
    exact ⟨rfl, fun _ => rfl, rfl, rfl, rfl⟩
  obtain ⟨host', hhost'⟩ : ∃ host', handleIncomingFrames cfg (w.hosts i) = host' := ⟨_, rfl⟩
  rw [hhost'] at hinv' hidle hsame ⊢
  obtain ⟨hcreated, hwin, hbacklog, hcurr, hincoming⟩ := hsame
  refine ⟨fun j hj => ?_, fun j hj hge => ?_, fun j hj hge hnil => ?_, fun hsmall s hs r hr => ?_⟩
  · rw [hosts_setHost]
    split
    · rename_i hji
      subst hji
      exact (h.senders j hj).relist hcreated hwin hbacklog hcurr
    · exact h.senders j hj
  · rw [hosts_setHost]
    split
    · exact hincoming
    · exact h.incoming_big j hj hge
  · rw [hosts_setHost] at hnil ⊢
    split
    · rename_i hji
      rw [if_pos hji, hcreated] at hnil
      subst hji
      rw [hidle (h.incoming_big j hj hge)]
      exact h.outgoing_big j hj hge hnil
    · rename_i hji
      rw [if_neg hji] at hnil
      exact h.outgoing_big j hj hge hnil
  · have hsmall' : SmallSenders cfg w := by
      intro j hj hge
      have := hsmall j hj hge
      rw [hosts_setHost] at this
      split at this
      · rename_i hji
        rw [hji, ← hcreated, this]
      · exact this
    obtain ⟨L, hL, hrel⟩ := h.links hsmall' s hs r hr
    have hnum (k : ℕ) (frame : Frame) (hk : L.msgs[k]? = some frame) :
        frame.seqNum = UInt8.ofNat k := by
      obtain ⟨v, hok, -⟩ := h.senders s hs
      apply (hok r).2.created_seqNum
      rw [← (hok r).1.created, hrel.created, hk]
    rw [hosts_setHost, hosts_setHost]
    by_cases hri : r = i
    · subst hri
      rw [if_pos rfl, ← hhost']
      by_cases hsr : s = r
      · subst hsr
        rw [if_pos rfl, hhost']
        have hturn := hrel.handleIncomingFrames hW hL hinv hnum hcreated (hwin s) hbacklog
          (by rw [hinv'.framesTo_data, hinv.framesTo_noFrame])
          (by rw [hinv'.framesFrom_noFrame, hinv.framesFrom_ack])
        rwa [hhost'] at hturn
      · rw [if_neg hsr]
        exact hrel.handleIncomingFrames hW hL hinv hnum rfl rfl rfl rfl rfl
    · rw [if_neg hri]
      refine ⟨L, hL, ?_⟩
      split
      · rename_i hsi
        subst hsi
        refine hrel.congr hcreated (hwin r) hbacklog rfl ?_ ?_
        · rw [channel, channel, hinv'.framesTo_data, hinv.framesTo_noFrame]
        · rw [channel, channel, hinv'.framesFrom_noFrame, hinv.framesFrom_ack]
      · exact hrel

/-! ## Runs -/

/-- **Every step keeps the links.** -/
theorem DeliveryInv.step (hW : cfg.windowSize ≤ 128) {s s' : State D} (hphase : PhaseInv cfg s)
    (h : DeliveryInv cfg s.world) (hstep : step cfg s = .ok s') : DeliveryInv cfg s'.world := by
  cases step_cases hstep with
  | input w w' rands order hreads horder =>
    have hhost (i : ℕ) : ∃ cmds, w'.hosts i = { w.hosts i with inputCmdlistHead := cmds } := by
      obtain ⟨cmds, heq, -⟩ := hreads.hosts i
      exact ⟨_, heq⟩
    have hcreated (i : ℕ) : (w'.hosts i).log.created = (w.hosts i).log.created := by
      obtain ⟨_, heq⟩ := hhost i
      rw [heq]
    refine ⟨fun i hi => ?_, fun i hi hge => ?_, fun i hi hge hnil => ?_,
      fun hsmall s hs r hr => ?_⟩
    · obtain ⟨_, heq⟩ := hhost i
      rw [show (State.mk (.senders order) { w' with rands := rands }).world.hosts i = w'.hosts i
        from rfl, heq]
      exact (h.senders i hi).relist rfl (fun _ => rfl) rfl rfl
    · obtain ⟨_, heq⟩ := hhost i
      exact (congrArg Host.incomingFramesHead heq).trans (h.incoming_big i hi hge)
    · obtain ⟨_, heq⟩ := hhost i
      exact (congrArg Host.outgoingFramesHead heq).trans
        (h.outgoing_big i hi hge ((hcreated i).symm.trans hnil))
    · obtain ⟨L, hL, hrel⟩ :=
        h.links (fun i hi hge => (hcreated i).symm.trans (hsmall i hi hge)) s hs r hr
      obtain ⟨_, heqs⟩ := hhost s
      obtain ⟨_, heqr⟩ := hhost r
      refine ⟨L, hL, hrel.congr ?_ ?_ ?_ ?_ ?_ ?_⟩ <;> simp only [heqs, heqr] <;> rfl
  | sender w i todo host hrun =>
    have hhost := hphase.hosts i (hphase.todo_lt i List.mem_cons_self)
    simp only [Point.incoming, Point.outgoing, List.mem_cons_self, if_true] at hhost
    exact h.senderTurn hW (hphase.todo_lt i List.mem_cons_self) hhost hrun
  | dataFrames w w' rands order hdata horder =>
    obtain ⟨hsteps, -⟩ := sendDataFrames_steps hphase.ports hdata
    refine h.switch (P := IsData) (fun i hi => ?_) (hsteps.tail (.rand w' rands))
    have hhost := hphase.hosts i hi
    simp only [Point.incoming, Point.outgoing, List.not_mem_nil, if_false] at hhost
    exact hhost.mono (fun _ hf => hf.elim) (fun _ hf => hf)
  | receiver w i todo =>
    have hhost := hphase.hosts i (hphase.todo_lt i List.mem_cons_self)
    simp only [Point.incoming, Point.outgoing, List.mem_cons_self, if_true] at hhost
    exact h.receiverTurn hW (hphase.todo_lt i List.mem_cons_self) hhost
  | ackFrames w w' hacks =>
    obtain ⟨hsteps, -⟩ := sendAckFrames_steps hacks
    refine h.switch (P := IsAck) (fun i hi => ?_) hsteps
    have hhost := hphase.hosts i hi
    simp only [Point.incoming, Point.outgoing, List.not_mem_nil, if_false] at hhost
    exact hhost.mono (fun _ hf => hf.elim) (fun _ hf => hf)
  | exit w hexit => exact h
  | again w => exact h
  | exited w => exact h

theorem DeliveryInv.run (hW : cfg.windowSize ≤ 128) {hostEnv : ℕ → HostEnv} {env : WorldEnv} {n : ℕ}
    {s : State D} (h : steps cfg n ⟨.top, init cfg hostEnv env⟩ = .ok s) :
    DeliveryInv cfg s.world := by
  have hinv := steps_invariant (I := fun s => PhaseInv cfg s ∧ DeliveryInv cfg s.world)
    (P := fun _ => True) ⟨PhaseInv.start hostEnv env, DeliveryInv.start hostEnv env⟩
    (fun s s' hs _ hstep => ⟨hs.1.step hstep, hs.2.step hW hs.1 hstep⟩) (fun _ _ _ _ => trivial) h
  exact hinv.2

/-- **Reliable delivery in order.** At every point of every run, what has been appended at a
receiver for a sender is a prefix of what the sender has created for it. -/
theorem appended_prefix_created (cfg : SysConfig D) (hW : cfg.windowSize ≤ 127)
    (hhosts : cfg.numHosts ≤ 256) (hostEnv : ℕ → HostEnv) (env : WorldEnv) (n : ℕ) (state : State D)
    (h : steps cfg n ⟨.top, init cfg hostEnv env⟩ = .ok state) (s r : ℕ) (hs : s < cfg.numHosts)
    (hr : r < cfg.numHosts) :
    (state.world.hosts r).log.appended s <+:
      framesFor r (state.world.hosts s).log.created := by
  have hsmall : SmallSenders cfg state.world := fun i hi hge => by omega
  obtain ⟨L, hL, hrel⟩ := (DeliveryInv.run (by omega) h).links hsmall s hs r hr
  have happended : (state.world.hosts r).log.appended s = L.delivered :=
    congrArg RecvView.appended hrel.received
  rw [happended, hrel.created]
  exact hL.delivered_prefix

set_option maxRecDepth 10000 in
/-- The first two rounds of `helloEnv`, in which one frame is delivered. -/
theorem appended_prefix_created_hello :
    ∃ s, steps ccBasicConfig 28 ⟨.top, init ccBasicConfig (fun _ => .still) helloEnv⟩ = .ok s ∧
      (s.world.hosts 1).log.appended 0 <+: framesFor 1 (s.world.hosts 0).log.created := by
  obtain ⟨s, hs⟩ := exists_of_isOk (e := steps ccBasicConfig 28
    ⟨.top, init ccBasicConfig (fun _ => .still) helloEnv⟩) (by decide +kernel)
  exact ⟨s, hs, appended_prefix_created ccBasicConfig (by decide) (by decide) _ _ 28 s hs 0 1
    (by decide) (by decide)⟩

end NetworkSim.Tcp
