import NetworkSim.Tcp.LinkSpec
import NetworkSim.Tcp.Phases

/-!
# Pairs of hosts as links

Two hosts `s` and `r`, with the frames between them, are a link of the sliding window protocol over
which `s` sends to `r` (`LinkRel`). The frames of one sort from one host to another are a `channel`:
those that have arrived and wait to be handled, and those that wait to be sent. The turns of senders
and receivers are steps of the links (`LinkRel.runSender`, `LinkRel.handleIncomingFrames`), and all
that the switch does to a channel is to lose frames (`SwitchStep.channel_sublist`).
-/

namespace NetworkSim.Tcp

open SlidingWindow (Link)

/-! ## Channels -/

/-- Whether `frame` is a data frame. -/
def dataBit (frame : Frame) : Bool := decide (frame.isAck = 0)

/-- Whether `frame` is an acknowledgement. -/
def ackBit (frame : Frame) : Bool := decide (frame.isAck ≠ 0)

theorem dataBit_of_isData {frame : Frame} (h : IsData frame) : dataBit frame = true :=
  decide_eq_true h

theorem ackBit_of_isData {frame : Frame} (h : IsData frame) : ackBit frame = false :=
  decide_eq_false (not_not_intro h)

theorem dataBit_of_isAck {frame : Frame} (h : IsAck frame) : dataBit frame = false := by
  unfold dataBit
  rw [show frame.isAck = 1 from h]
  rfl

theorem ackBit_of_isAck {frame : Frame} (h : IsAck frame) : ackBit frame = true := by
  unfold ackBit
  rw [show frame.isAck = 1 from h]
  rfl

/-- The valid frames of a sort from host `src` among `frames`. -/
def framesFrom (P : Frame → Bool) (src : ℕ) (frames : List Frame) : List Frame :=
  frames.filter (fun frame => frameValid frame && P frame && decide (frame.srcId.toNat = src))

/-- The frames of a sort to host `dst` among `frames`. -/
def framesTo (P : Frame → Bool) (dst : ℕ) (frames : List Frame) : List Frame :=
  frames.filter (fun frame => P frame && decide (frame.dstId.toNat = dst))

variable {D : Type} {cfg : SysConfig D} {P : Frame → Bool}

@[simp] theorem framesFrom_nil (src : ℕ) : framesFrom P src [] = [] := rfl

@[simp] theorem framesFrom_append (src : ℕ) (frames frames' : List Frame) :
    framesFrom P src (frames ++ frames') = framesFrom P src frames ++ framesFrom P src frames' :=
  List.filter_append ..

@[simp] theorem framesTo_nil (dst : ℕ) : framesTo P dst [] = [] := rfl

@[simp] theorem framesTo_append (dst : ℕ) (frames frames' : List Frame) :
    framesTo P dst (frames ++ frames') = framesTo P dst frames ++ framesTo P dst frames' :=
  List.filter_append ..

theorem framesFrom_eq_nil {frames : List Frame}
    (h : ∀ frame ∈ frames, frameValid frame = true → P frame = false) (src : ℕ) :
    framesFrom P src frames = [] := by
  unfold framesFrom
  rw [List.filter_eq_nil_iff]
  intro frame hmem hframe
  simp only [Bool.and_eq_true] at hframe
  rw [h frame hmem hframe.1.1] at hframe
  exact absurd hframe.1.2 Bool.false_ne_true

theorem framesTo_eq_nil {frames : List Frame} (h : ∀ frame ∈ frames, P frame = false) (dst : ℕ) :
    framesTo P dst frames = [] := by
  unfold framesTo
  rw [List.filter_eq_nil_iff]
  intro frame hmem hframe
  rw [h frame hmem, Bool.false_and] at hframe
  exact absurd hframe Bool.false_ne_true

theorem framesTo_eq_framesFor {frames : List Frame} (h : ∀ frame ∈ frames, P frame = true)
    (dst : ℕ) : framesTo P dst frames = framesFor dst frames := by
  unfold framesTo framesFor
  apply List.filter_congr
  intro frame hmem
  rw [h frame hmem, Bool.true_and]

/-- The frames of a sort on their way from host `src`, which is `sender`, to host `dst`, which is
`receiver`. -/
def channel (P : Frame → Bool) (src dst : ℕ) (sender receiver : Host D) : List Frame :=
  framesFrom P src receiver.incomingFramesHead ++ framesTo P dst sender.outgoingFramesHead

/-! ## Sorts of frames in the phases -/

namespace HostInv

variable {i : ℕ} {A B : Frame → Prop} {host : Host D}

theorem framesFrom_data (h : HostInv i IsAck B host) (src : ℕ) :
    framesFrom dataBit src host.incomingFramesHead = [] :=
  framesFrom_eq_nil (fun frame hmem hvalid => dataBit_of_isAck (h.incoming frame hmem hvalid)) src

theorem framesFrom_ack (h : HostInv i IsData B host) (src : ℕ) :
    framesFrom ackBit src host.incomingFramesHead = [] :=
  framesFrom_eq_nil (fun frame hmem hvalid => ackBit_of_isData (h.incoming frame hmem hvalid)) src

theorem framesFrom_noFrame (h : HostInv i NoFrame B host) (src : ℕ) :
    framesFrom P src host.incomingFramesHead = [] :=
  framesFrom_eq_nil (fun frame hmem hvalid => (h.incoming frame hmem hvalid).elim) src

theorem framesTo_data (h : HostInv i A IsAck host) (dst : ℕ) :
    framesTo dataBit dst host.outgoingFramesHead = [] :=
  framesTo_eq_nil (fun frame hmem => dataBit_of_isAck (h.holds.outgoing frame hmem).sort) dst

theorem framesTo_ack (h : HostInv i A IsData host) (dst : ℕ) :
    framesTo ackBit dst host.outgoingFramesHead = [] :=
  framesTo_eq_nil (fun frame hmem => ackBit_of_isData (h.holds.outgoing frame hmem).sort) dst

theorem framesTo_noFrame (h : HostInv i A NoFrame host) (dst : ℕ) :
    framesTo P dst host.outgoingFramesHead = [] := by
  rw [h.outgoing_eq_nil, framesTo_nil]

end HostInv

/-! ## The switch -/

/-- The frames to be sent are valid and say who made them. -/
def Named (cfg : SysConfig D) (w : World D) : Prop :=
  ∀ i < cfg.numHosts, ∀ frame ∈ (w.hosts i).outgoingFramesHead,
    frameValid frame = true ∧ frame.srcId.toNat = i

/-- What arrives of a frame is that frame for its receiver, and for no other sender. -/
theorem framesFrom_arrives {frame frame' : Frame} (harrives : Arrives frame frame')
    (hvalid : frameValid frame = true) (src dst : ℕ) :
    (framesFrom P src (if dst = frame.dstId.toNat then [frame'] else [])).Sublist
      (if src = frame.srcId.toNat then framesTo P dst [frame] else []) := by
  split
  · rename_i hdst
    subst hdst
    by_cases hvalid' : frameValid frame' = true
    · obtain rfl := harrives.eq_of_valid hvalid hvalid'
      split
      · rename_i hsrc
        subst hsrc
        simp only [framesFrom, framesTo, List.filter_cons, List.filter_nil, hvalid, decide_true,
          Bool.true_and, Bool.and_true]
        exact List.Sublist.refl _
      · rename_i hsrc
        rw [framesFrom, List.filter_cons, if_neg (by simp [Ne.symm hsrc]), List.filter_nil]
    · rw [framesFrom, List.filter_cons, if_neg (by simp [hvalid']), List.filter_nil]
      exact List.nil_sublist _
  · exact List.nil_sublist _

/-- **All that the switch does to a channel is to lose frames.** -/
theorem SwitchStep.channel_sublist {w w' : World D} (h : SwitchStep cfg w w') (hw : Named cfg w)
    (src dst : ℕ) :
    (channel P src dst (w'.hosts src) (w'.hosts dst)).Sublist
      (channel P src dst (w.hosts src) (w.hosts dst)) := by
  -- without the frame taken, host `id` has the rest
  have hrest {id : ℕ} {frame : Frame} {rest : List Frame}
      (hout : (w.hosts id).outgoingFramesHead = frame :: rest) :
      (if src = id then framesTo P dst [frame] else []) ++
        framesTo P dst (if src = id then rest else (w.hosts src).outgoingFramesHead) =
      framesTo P dst (w.hosts src).outgoingFramesHead := by
    split
    · rename_i hsrc
      subst hsrc
      rw [hout, ← framesTo_append]
      rfl
    · rfl
  cases h with
  | rand => exact List.Sublist.refl _
  | drop id frame rest hid hout hcheck =>
    simp only [channel, hosts_putOutgoing, ← hrest hout]
    exact (List.Sublist.refl _).append (List.sublist_append_right _ _)
  | deliver id frame frame' rest hid hout hcheck harrives =>
    obtain ⟨hvalid, hsrc⟩ := hw id hid frame (by rw [hout]; exact List.mem_cons_self)
    simp only [channel, hosts_putIncoming, hosts_putOutgoing, ← hrest hout, framesFrom_append,
      List.append_assoc]
    refine (List.Sublist.refl _).append ((?_ : List.Sublist _ _).append (List.Sublist.refl _))
    rw [← hsrc]
    exact framesFrom_arrives harrives hvalid src dst

/-- The fields that the switch changes. -/
theorem SwitchStep.hosts_eq {w w' : World D} (h : SwitchStep cfg w w') (i : ℕ) :
    ∃ incoming outgoing, w'.hosts i =
      { w.hosts i with incomingFramesHead := incoming, outgoingFramesHead := outgoing } := by
  cases h with
  | rand => exact ⟨_, _, rfl⟩
  | drop id frame rest hid hout hcheck => exact ⟨_, _, hosts_putOutgoing ..⟩
  | deliver id frame frame' rest hid hout hcheck harrives =>
    rw [hosts_putIncoming, hosts_putOutgoing]
    exact ⟨_, _, rfl⟩

/-! ## Links -/

/-- Host `s`, which is `sender`, and host `r`, which is `receiver`, are the two ends of the
link `L`. -/
structure LinkRel (cfg : SysConfig D) (s r : ℕ) (sender receiver : Host D) (L : Link Frame) :
    Prop where
  created : framesFor r sender.log.created = L.msgs
  window : winFrames cfg r sender = ((L.msgs.drop L.base).take (L.next - L.base)).map some
  backlog : framesFor r sender.bufferedOutframesHead = L.msgs.drop L.next
  received : recvView cfg s receiver = linkView L
  data : L.data.map (L.msgs[·]?) = (channel dataBit s r sender receiver).map some
  acks : L.acks.map ackSeq = (channel ackBit r s receiver sender).map (·.seqNum)

/-- Losing frames is losing them from the link. -/
theorem LinkRel.loss {s r : ℕ} {sender receiver sender' receiver' : Host D} {L : Link Frame}
    {W : ℕ} (h : LinkRel cfg s r sender receiver L) (hL : L.Inv W)
    (hsender : ∃ incoming outgoing, sender' =
      { sender with incomingFramesHead := incoming, outgoingFramesHead := outgoing })
    (hreceiver : ∃ incoming outgoing, receiver' =
      { receiver with incomingFramesHead := incoming, outgoingFramesHead := outgoing })
    (hdata : (channel dataBit s r sender' receiver').Sublist (channel dataBit s r sender receiver))
    (hacks : (channel ackBit r s receiver' sender').Sublist (channel ackBit r s receiver sender)) :
    ∃ L', L'.Inv W ∧ LinkRel cfg s r sender' receiver' L' := by
  have hdata' := hdata.map some
  rw [← h.data, List.sublist_map_iff] at hdata'
  obtain ⟨data, hsub, hdataeq⟩ := hdata'
  have hacks' := hacks.map (·.seqNum)
  rw [← h.acks, List.sublist_map_iff] at hacks'
  obtain ⟨acks, hsub', hackseq⟩ := hacks'
  refine ⟨{ L with data := data, acks := acks }, ?_, ?_⟩
  · exact (hL.lossStep (.data L data hsub)).lossStep (.acks _ acks hsub')
  · obtain ⟨_, _, rfl⟩ := hsender
    obtain ⟨_, _, rfl⟩ := hreceiver
    exact ⟨h.created, h.window, h.backlog, h.received, hdataeq.symm, hackseq.symm⟩

/-- What a link depends on. -/
theorem LinkRel.congr {s r : ℕ} {sender receiver sender' receiver' : Host D} {L : Link Frame}
    (h : LinkRel cfg s r sender receiver L)
    (hcreated : sender'.log.created = sender.log.created)
    (hwin : winFrames cfg r sender' = winFrames cfg r sender)
    (hbacklog : sender'.bufferedOutframesHead = sender.bufferedOutframesHead)
    (hrecv : recvView cfg s receiver' = recvView cfg s receiver)
    (hdata : channel dataBit s r sender' receiver' = channel dataBit s r sender receiver)
    (hacks : channel ackBit r s receiver' sender' = channel ackBit r s receiver sender) :
    LinkRel cfg s r sender' receiver' L where
  created := hcreated ▸ h.created
  window := hwin ▸ h.window
  backlog := hbacklog ▸ h.backlog
  received := hrecv ▸ h.received
  data := hdata ▸ h.data
  acks := hacks ▸ h.acks

/-! ## The turn of the sender -/

/-- Before the turn of the sender its view is the sending end of the link. -/
theorem LinkRel.sendMatch {i r : ℕ} {host receiver : Host D} {L : Link Frame} {v : ℕ → SendView}
    (h : LinkRel cfg i r host receiver L) (hinv : HostInv i IsAck NoFrame host)
    (hok : SenderOk cfg host.incomingFramesHead host v) :
    SendMatch (framesFrom dataBit i receiver.incomingFramesHead)
      ((framesTo ackBit i receiver.outgoingFramesHead).map (·.seqNum)) (v r) L := by
  have hrel := (hok r).1
  have hnil : (v r).out = [] := by rw [← hrel.out, hinv.outgoing_eq_nil, framesFor_nil]
  exact
    { created := hrel.created.symm.trans h.created
      window := (List.map_injective_iff.mpr (Option.some_injective Frame))
        (hrel.window.symm.trans h.window)
      backlog := hrel.backlog.symm.trans h.backlog
      data := by rw [h.data, channel, hinv.framesTo_noFrame, hnil]
      acks := by
        rw [h.acks, channel, List.map_append, ← hrel.acks]
        rfl }

/-- **A turn of the sender is a sequence of steps of the link.** The receiver may be the same host,
as long as it looks the same. -/
theorem LinkRel.runSender (hW : cfg.windowSize ≤ 128) {i r : ℕ}
    {host host' receiver receiver' : Host D} {L : Link Frame} {v v' : ℕ → SendView}
    (h : LinkRel cfg i r host receiver L) (hL : L.Inv cfg.windowSize)
    (hinv : HostInv i IsAck NoFrame host) (hinv' : HostInv i NoFrame IsData host')
    (hok : SenderOk cfg host.incomingFramesHead host v)
    (hok' : SenderOk cfg host'.incomingFramesHead host' v')
    (hsteps : ∀ id, SendView.Steps cfg.windowSize (v id) (v' id))
    (hrecv : recvView cfg i receiver' = recvView cfg i receiver)
    (hin : framesFrom dataBit i receiver'.incomingFramesHead =
      framesFrom dataBit i receiver.incomingFramesHead)
    (hout : framesTo ackBit i receiver'.outgoingFramesHead =
      framesTo ackBit i receiver.outgoingFramesHead) :
    ∃ L', L'.Inv cfg.windowSize ∧ LinkRel cfg i r host' receiver' L' := by
  obtain ⟨-, hv⟩ := hok r
  obtain ⟨hrel', -⟩ := hok' r
  have hmatch := h.sendMatch hinv hok
  obtain ⟨L', hrun, hmatch'⟩ := hmatch.steps hW hv hL (hsteps r)
  obtain ⟨hdelivered, hwin⟩ := hrun.receiver_eq
  refine ⟨L', hL.run hrun.run, ?_⟩
  exact
    { created := hrel'.created.trans hmatch'.created
      window := hrel'.window.trans (congrArg (List.map some) hmatch'.window)
      backlog := hrel'.backlog.trans hmatch'.backlog
      received := by rw [hrecv, h.received, linkView, linkView, hdelivered, hwin]
      data := by
        rw [hmatch'.data, channel, hin, ← hrel'.out, framesTo_eq_framesFor fun frame hmem =>
          dataBit_of_isData (hinv'.holds.outgoing frame hmem).sort]
      acks := by
        rw [hmatch'.acks, channel, hout, List.map_append, ← hrel'.acks]
        rfl }

/-! ## The turn of the receiver -/

/-- A valid frame is answered by an ACK for what was then delivered. -/
theorem handleFrame_outgoing {frame : Frame} (hvalid : frameValid frame = true) (host : Host D) :
    ∃ ack, (handleFrame cfg host frame).outgoingFramesHead = host.outgoingFramesHead ++ [ack] ∧
      IsAckFrame (UInt8.ofNat host.id) frame.srcId
        (recvView cfg frame.srcId.toNat (handleFrame cfg host frame)).lfr ack := by
  obtain ⟨_, _, _, _, _, _, _, ack, heq, hack⟩ := handleFrame_valid cfg hvalid host
  rw [heq]
  exact ⟨ack, rfl, hack⟩

theorem framesTo_isAckFrame {srcId dstId seqNum : UInt8} {ack : Frame}
    (h : IsAckFrame srcId dstId seqNum ack) (dst : ℕ) :
    framesTo ackBit dst [ack] = if dst = dstId.toNat then [ack] else [] := by
  have hbit : ackBit ack = true := ackBit_of_isAck h.isAck
  simp only [framesTo, List.filter_cons, List.filter_nil, hbit, Bool.true_and, h.dstId,
    decide_eq_true_eq, eq_comm (a := dst)]

/-- The receiver takes frames from the link one after the other. The frames behind them are
`suffix`, and the numbers of the ACKs that have left the receiver before are `acks`. -/
theorem exists_receive {W : ℕ} (hW : W ≤ 128) (hcfg : cfg.windowSize ≤ 255) {s : ℕ}
    {frames suffix : List Frame} {acks : List UInt8} {host : Host D} {L : Link Frame}
    (hL : L.Inv W) (hrecv : recvView cfg s host = linkView L)
    (hsort : ∀ frame ∈ frames, frameValid frame = true → IsData frame)
    (hnum : ∀ k frame, L.msgs[k]? = some frame → frame.seqNum = UInt8.ofNat k)
    (hdata : L.data.map (L.msgs[·]?) = (framesFrom dataBit s frames ++ suffix).map some)
    (hacks : L.acks.map ackSeq =
      acks ++ (framesTo ackBit s host.outgoingFramesHead).map (·.seqNum)) :
    ∃ L', L'.Inv W ∧ L'.msgs = L.msgs ∧ L'.base = L.base ∧ L'.next = L.next ∧
      recvView cfg s (frames.foldl (handleFrame cfg) host) = linkView L' ∧
      L'.data.map (L'.msgs[·]?) = suffix.map some ∧
      L'.acks.map ackSeq = acks ++
        (framesTo ackBit s (frames.foldl (handleFrame cfg) host).outgoingFramesHead).map
          (·.seqNum) := by
  induction frames generalizing host L with
  | nil => exact ⟨L, hL, rfl, rfl, rfl, hrecv, hdata, hacks⟩
  | cons frame frames ih =>
    have hsort' := List.forall_mem_cons.mp hsort
    rw [List.foldl_cons]
    by_cases hvalid : frameValid frame = true
    · have hbit : dataBit frame = true := dataBit_of_isData (hsort'.1 hvalid)
      obtain ⟨ack, hout, hack⟩ := @handleFrame_outgoing _ cfg _ hvalid host
      have hview := recvView_handleFrame hcfg host frame s
      by_cases hsrc : s = frame.srcId.toNat
      · -- a frame from the sender of this link is the oldest in flight
        have hcons : framesFrom dataBit s (frame :: frames) =
            frame :: framesFrom dataBit s frames := by
          rw [framesFrom, List.filter_cons, if_pos (by simp [hvalid, hbit, hsrc])]
          rfl
        rw [hcons, List.cons_append, List.map_cons, List.map_eq_cons_iff] at hdata
        obtain ⟨k, data, hk, hmsg, hrest⟩ := hdata
        obtain ⟨L₁, hstep, haccept, hmsgs, hbase, hnext, hdata₁, hacks₁⟩ :=
          exists_receiverStep hW hL hk hmsg (hnum k frame hmsg)
        rw [if_pos ⟨hvalid, hsrc⟩, hrecv, haccept] at hview
        obtain ⟨L', hL', hmsgs', hbase', hnext', hrest'⟩ := ih (hL.receiverStep hstep) hview
          hsort'.2 (by rw [hmsgs]; exact hnum) (by rw [hdata₁, hmsgs]; exact hrest) (by
            rw [hacks₁, List.map_append, hacks, hout, framesTo_append, List.map_append,
              framesTo_isAckFrame hack, if_pos hsrc, List.append_assoc]
            rw [hsrc] at hview
            simp only [List.map_cons, List.map_nil, hack.seqNum, hview, linkView])
        exact ⟨L', hL', hmsgs'.trans hmsgs, hbase'.trans hbase, hnext'.trans hnext, hrest'⟩
      · -- one from another sender leaves the link alone
        have hskip : framesFrom dataBit s (frame :: frames) = framesFrom dataBit s frames := by
          rw [framesFrom, List.filter_cons, if_neg (by simp [Ne.symm hsrc])]
          rfl
        rw [hskip] at hdata
        rw [if_neg fun h => hsrc h.2, hrecv] at hview
        exact ih hL hview hsort'.2 hnum hdata (by
          rw [hacks, hout, framesTo_append, framesTo_isAckFrame hack, if_neg hsrc, List.append_nil])
    · have hskip : framesFrom dataBit s (frame :: frames) = framesFrom dataBit s frames := by
        rw [framesFrom, List.filter_cons, if_neg (by simp [hvalid])]
        rfl
      rw [hskip] at hdata
      rw [handleFrame_invalid (by simpa using hvalid)]
      exact ih hL hrecv hsort'.2 hnum hdata hacks

/-- **A turn of the receiver is a sequence of steps of the link.** The sender may be the same host,
as long as it looks the same. -/
theorem LinkRel.handleIncomingFrames (hW : cfg.windowSize ≤ 128) {s i : ℕ}
    {host sender sender' : Host D} {L : Link Frame} (h : LinkRel cfg s i sender host L)
    (hL : L.Inv cfg.windowSize) (hinv : HostInv i IsData NoFrame host)
    (hnum : ∀ k frame, L.msgs[k]? = some frame → frame.seqNum = UInt8.ofNat k)
    (hcreated : sender'.log.created = sender.log.created)
    (hwin : winFrames cfg i sender' = winFrames cfg i sender)
    (hbacklog : sender'.bufferedOutframesHead = sender.bufferedOutframesHead)
    (hout : framesTo dataBit i sender'.outgoingFramesHead =
      framesTo dataBit i sender.outgoingFramesHead)
    (hin : framesFrom ackBit i sender'.incomingFramesHead =
      framesFrom ackBit i sender.incomingFramesHead) :
    ∃ L', L'.Inv cfg.windowSize ∧
      LinkRel cfg s i sender' (handleIncomingFrames cfg host) L' := by
  have hacks := h.acks
  rw [channel, List.map_append] at hacks
  have hstart : recvView cfg s { host with incomingFramesHead := [] } = linkView L := h.received
  obtain ⟨L', hL', hmsgs, hbase, hnext, hrecv, hdata', hacks'⟩ :=
    exists_receive hW (by omega) hL hstart hinv.incoming hnum h.data hacks
  have hnil : (Tcp.handleIncomingFrames cfg host).incomingFramesHead = [] :=
    foldl_handleFrame_incoming _ _
  refine ⟨L', hL', ?_⟩
  exact
    { created := by rw [hcreated, hmsgs, h.created]
      window := by rw [hwin, hmsgs, hbase, hnext, h.window]
      backlog := by rw [hbacklog, hmsgs, hnext, h.backlog]
      received := hrecv
      data := by rw [hdata', channel, hnil, hout, framesFrom_nil, List.nil_append]
      acks := by
        rw [hacks', channel, List.map_append, hin]
        rfl }

end NetworkSim.Tcp
