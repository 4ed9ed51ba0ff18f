import Mathlib.Logic.Relation
import NetworkSim.Tcp.Commands
import NetworkSim.Tcp.Control
import NetworkSim.Tcp.Main

/-!
# What the sender does

A host seen as the sender to one receiver is a `SendView`: the frames created for the receiver,
those in the send window and those still in `buffered_outframes_head`, what is in
`outgoing_frames_head` for it, and the acknowledgements from it that wait to be handled.
`SendView.Step` lists what can happen to such a view, and every handler of the sender is a sequence
of these steps on the view of every receiver at once (`handleInputCmds_steps`,
`handleIncomingAcks_steps`, `handleTimedoutFrames_steps`, `handleOutgoingFrames_steps`).
-/

namespace NetworkSim.Tcp

variable {D : Type} {cfg : SysConfig D}

/-! ## The view -/

/-- A host as the sender to one receiver. -/
structure SendView where
  created : List Frame
  window : List Frame
  backlog : List Frame
  out : List Frame
  acks : List UInt8

namespace SendView

/-- How many frames leave the front of a window when `seqNum` is acknowledged: none when it is older
than the first of them, and else those up to the one that carries it. -/
def ackCount (window : List Frame) (seqNum : UInt8) : ℕ :=
  if window.head?.any (fun first => seqNumDiff first.seqNum seqNum < 0) then 0
  else ((window.findIdx? (fun frame => frame.seqNum = seqNum)).map (· + 1)).getD 0

/-- What can happen to a sender. -/
inductive Step (W : ℕ) : SendView → SendView → Prop
  | create (v : SendView) (frame : Frame)
      (hseq : frame.seqNum = UInt8.ofNat v.created.length) :
      Step W v { v with created := v.created ++ [frame], backlog := v.backlog ++ [frame] }
  | send (v : SendView) (frame : Frame) (backlog : List Frame)
      (hbacklog : v.backlog = frame :: backlog)
      (hlen : v.window.length < W) :
      Step W v
        { v with window := v.window ++ [frame], backlog := backlog, out := v.out ++ [frame] }
  | resend (v : SendView) (frame : Frame) (hframe : frame ∈ v.window) :
      Step W v { v with out := v.out ++ [frame] }
  | ack (v : SendView) (seqNum : UInt8) (acks : List UInt8) (hacks : v.acks = seqNum :: acks) :
      Step W v { v with window := v.window.drop (ackCount v.window seqNum), acks := acks }

/-- A sequence of steps. -/
abbrev Steps (W : ℕ) : SendView → SendView → Prop := Relation.ReflTransGen (Step W)

/-- The frames that are not acknowledged. -/
def unacked (v : SendView) : List Frame := v.window ++ v.backlog

/-- The invariant of the view: what is not acknowledged is the end of what was created, and the
frames are numbered in the order of their creation. -/
structure Inv (W : ℕ) (v : SendView) : Prop where
  created_seqNum : ∀ k frame, v.created[k]? = some frame → frame.seqNum = UInt8.ofNat k
  unacked_eq : ∃ base ≤ v.created.length, v.unacked = v.created.drop base
  length_window : v.window.length ≤ W

theorem ackCount_le (window : List Frame) (seqNum : UInt8) :
    ackCount window seqNum ≤ window.length := by
  rw [ackCount]
  split
  · exact Nat.zero_le _
  · cases hj : window.findIdx? (fun frame => decide (frame.seqNum = seqNum)) with
    | none => exact Nat.zero_le _
    | some j => exact (List.findIdx?_eq_some_iff_getElem.mp hj).1

/-- The last frame that leaves the window is the one acknowledged. -/
theorem getElem?_ackCount {window : List Frame} {seqNum : UInt8} (h : 0 < ackCount window seqNum) :
    ∃ frame, window[ackCount window seqNum - 1]? = some frame ∧ frame.seqNum = seqNum := by
  rw [ackCount] at h ⊢
  split
  · rename_i hold
    simp [hold] at h
  · rename_i hnew
    cases hj : window.findIdx? (fun frame => decide (frame.seqNum = seqNum)) with
    | none => simp [hnew, hj] at h
    | some j =>
      obtain ⟨hlt, hseq, -⟩ := List.findIdx?_eq_some_iff_getElem.mp hj
      exact ⟨window[j], by simp, by simpa using hseq⟩

theorem Inv.step {W : ℕ} {v v' : SendView} (h : v.Inv W) (hstep : Step W v v') : v'.Inv W := by
  obtain ⟨base, hle, hbase⟩ := h.unacked_eq
  cases hstep with
  | create frame hseq =>
    refine ⟨fun k f hk => ?_, ⟨base, ?_, ?_⟩, h.length_window⟩
    · rw [List.getElem?_append] at hk
      split at hk
      · exact h.created_seqNum k f hk
      · rename_i hlen
        rw [List.getElem?_singleton] at hk
        split at hk
        · obtain rfl : frame = f := by simpa using hk
          rw [hseq]
          congr 1
          omega
        · simp at hk
    · simp only [List.length_append]
      omega
    · rw [List.drop_append_of_le_length hle, ← hbase, unacked, unacked, List.append_assoc]
  | send frame backlog hbacklog hlen =>
    refine ⟨h.created_seqNum, ⟨base, hle, ?_⟩, by simpa using hlen⟩
    rw [← hbase, unacked, unacked, hbacklog]
    simp
  | resend frame hframe => exact ⟨h.created_seqNum, h.unacked_eq, h.length_window⟩
  | ack seqNum acks hacks =>
    have hcount := ackCount_le v.window seqNum
    refine ⟨h.created_seqNum, ⟨base + ackCount v.window seqNum, ?_, ?_⟩, ?_⟩
    · have := congrArg List.length hbase
      simp only [unacked, List.length_append, List.length_drop] at this ⊢
      omega
    · rw [← List.drop_drop, ← hbase, unacked, unacked, List.drop_append_of_le_length hcount]
    · have := h.length_window
      simp only [List.length_drop]
      omega

theorem Inv.mem_created {W : ℕ} {v : SendView} (h : v.Inv W) {frame : Frame}
    (hmem : frame ∈ v.unacked) : frame ∈ v.created := by
  obtain ⟨base, -, hbase⟩ := h.unacked_eq
  rw [hbase] at hmem
  exact List.mem_of_mem_drop hmem

theorem Inv.steps {W : ℕ} {v v' : SendView} (h : v.Inv W) (hsteps : Steps W v v') : v'.Inv W := by
  induction hsteps with
  | refl => exact h
  | tail _ hstep ih => exact ih.step hstep

theorem steps_resend (W : ℕ) (v : SendView) {frames : List Frame}
    (h : ∀ frame ∈ frames, frame ∈ v.window) : Steps W v { v with out := v.out ++ frames } := by
  induction frames using List.reverseRecOn with
  | nil => simpa using Relation.ReflTransGen.refl
  | append_singleton frames frame ih =>
    refine (ih fun f hf => h f (by simp [hf])).tail ?_
    have hstep := Step.resend (W := W) { v with out := v.out ++ frames } frame (h frame (by simp))
    simpa using hstep

theorem steps_create (W : ℕ) (v : SendView) {frames : List Frame}
    (h : ∀ k frame, frames[k]? = some frame →
      frame.seqNum = UInt8.ofNat (v.created.length + k)) :
    Steps W v
      { v with created := v.created ++ frames, backlog := v.backlog ++ frames } := by
  induction frames using List.reverseRecOn with
  | nil => simpa using Relation.ReflTransGen.refl
  | append_singleton frames frame ih =>
    refine (ih fun k f hk => h k f ?_).tail ?_
    · rw [List.getElem?_append_left (List.getElem?_eq_some_iff.mp hk).1, hk]
    · have hstep := Step.create (W := W)
        { v with created := v.created ++ frames, backlog := v.backlog ++ frames } frame
        (by simpa using h frames.length frame (by simp))
      simpa using hstep

/-- What steps do to the frames that are not acknowledged: new ones come in at the end, and some
leave at the front, the last of them named by an acknowledgement. -/
theorem Steps.unacked_eq {W : ℕ} {v v' : SendView} (h : Steps W v v') :
    ∃ news handled k, v'.created = v.created ++ news ∧ v.acks = handled ++ v'.acks ∧
      k ≤ (v.unacked ++ news).length ∧ v'.unacked = (v.unacked ++ news).drop k ∧
      (0 < k → ∃ frame, (v.unacked ++ news)[k - 1]? = some frame ∧ frame.seqNum ∈ handled) := by
  induction h with
  | refl => exact ⟨[], [], 0, by simp, by simp, by simp, by simp, by simp⟩
  | @tail v₁ _ _ hstep ih =>
    obtain ⟨news, handled, k, hcreated, hacks, hk, hunacked, hlast⟩ := ih
    cases hstep with
    | create frame hseq =>
      refine ⟨news ++ [frame], handled, k, by simp [hcreated], hacks, ?_, ?_, fun hpos => ?_⟩
      · rw [← List.append_assoc, List.length_append]
        omega
      · rw [← List.append_assoc, List.drop_append_of_le_length hk, ← hunacked]
        simp [unacked]
      · obtain ⟨f, hf, hmem⟩ := hlast hpos
        refine ⟨f, ?_, hmem⟩
        rw [← List.append_assoc, List.getElem?_append_left (by omega), hf]
    | send frame backlog hbacklog hlen =>
      refine ⟨news, handled, k, hcreated, hacks, hk, ?_, hlast⟩
      rw [← hunacked, unacked, unacked, hbacklog]
      simp
    | resend frame hframe => exact ⟨news, handled, k, hcreated, hacks, hk, hunacked, hlast⟩
    | ack seqNum acks hnext =>
      have hcount := ackCount_le v₁.window seqNum
      have hlen := congrArg List.length hunacked
      rw [unacked, List.length_append, List.length_drop] at hlen
      refine ⟨news, handled ++ [seqNum], k + ackCount v₁.window seqNum, hcreated,
        by rw [hacks, hnext, List.append_assoc]; rfl, by omega, ?_, fun hpos => ?_⟩
      · rw [← List.drop_drop, ← hunacked, unacked, unacked,
          List.drop_append_of_le_length hcount]
      · rcases Nat.eq_zero_or_pos (ackCount v₁.window seqNum) with hzero | hc
        · rw [hzero, add_zero] at hpos ⊢
          obtain ⟨f, hf, hmem⟩ := hlast hpos
          exact ⟨f, hf, List.mem_append_left _ hmem⟩
        · obtain ⟨f, hf, hseq⟩ := getElem?_ackCount hc
          refine ⟨f, ?_, by rw [hseq]; simp⟩
          have hpart := congrArg (·[ackCount v₁.window seqNum - 1]?) hunacked
          simp only [unacked, List.getElem?_drop] at hpart
          rw [List.getElem?_append_left (by omega), hf] at hpart
          rw [hpart]
          congr 1
          omega

/-- A sender that has created nothing sends nothing. -/
theorem Steps.out_eq {W : ℕ} {v v' : SendView} (hv : v.Inv W) (h : Steps W v v')
    (hnil : v'.created = []) : v'.out = v.out := by
  induction h with
  | refl => rfl
  | @tail v₁ _ hsteps hstep ih =>
    have hv₁ := hv.steps hsteps
    have hempty (frame : Frame) (hmem : frame ∈ v₁.unacked) (h₁ : v₁.created = []) : False := by
      have := hv₁.mem_created hmem
      rw [h₁] at this
      exact List.not_mem_nil this
    cases hstep with
    | create frame hseq => simp at hnil
    | send frame backlog hbacklog hlen =>
      exact (hempty frame (by simp [unacked, hbacklog]) hnil).elim
    | resend frame hframe => exact (hempty frame (List.mem_append_left _ hframe) hnil).elim
    | ack seqNum acks hacks => exact ih hnil

end SendView

variable (cfg) in
/-- The frames in the send window for `id`. -/
def winFrames (id : ℕ) (host : Host D) : List (Option Frame) :=
  (sendWin cfg id host).map (·.frame)

/-- A window that holds `window` is that long. -/
theorem length_of_winFrames {id : ℕ} {host : Host D} {window : List Frame}
    (h : winFrames cfg id host = window.map some) : cqGetLengthSend id host = window.length := by
  have := congrArg List.length h
  rwa [winFrames, List.length_map, List.length_map, length_sendWin] at this

/-- The frame in a slot of a window that holds `window`. -/
theorem getItem_of_winFrames {id : ℕ} {host : Host D} {window : List Frame}
    (h : winFrames cfg id host = window.map some) {i : ℕ} (hi : i < cqGetLengthSend id host) :
    (cqGetItemSend cfg id i host).frame = window[i]? := by
  have hslot := congrArg (·[i]?) h
  simp only [winFrames, List.getElem?_map, getElem?_sendWin hi, Option.map_some] at hslot
  rw [length_of_winFrames h] at hi
  rw [List.getElem?_eq_getElem hi] at hslot ⊢
  simpa using hslot

/-- The sequence numbers that the ACKs from `id` among `frames` name. -/
def acksFrom (id : ℕ) (frames : List Frame) : List UInt8 :=
  (frames.filter (fun frame =>
    frameValid frame && decide (frame.isAck ≠ 0) && decide (frame.srcId.toNat = id))).map (·.seqNum)

variable (cfg) in
/-- `v` is the view of `host` as the sender to `id`, with the frames `frames` still to be
handled. -/
structure SenderRel (id : ℕ) (frames : List Frame) (host : Host D) (v : SendView) : Prop where
  created : framesFor id host.log.created = v.created
  window : winFrames cfg id host = v.window.map some
  backlog : framesFor id host.bufferedOutframesHead = v.backlog
  out : framesFor id host.outgoingFramesHead = v.out
  acks : acksFrom id frames = v.acks
  curr : host.currSeqNum id = UInt8.ofNat v.created.length

variable (cfg) in
/-- The views of `host` as the sender to all receivers. -/
def SenderOk (frames : List Frame) (host : Host D) (v : ℕ → SendView) : Prop :=
  ∀ id, SenderRel cfg id frames host (v id) ∧ (v id).Inv cfg.windowSize

namespace SenderOk

variable {frames : List Frame} {host : Host D} {v : ℕ → SendView}

theorem length_window (h : SenderOk cfg frames host v) (id : ℕ) :
    cqGetLengthSend id host = (v id).window.length := length_of_winFrames (h id).1.window

theorem bound (h : SenderOk cfg frames host v) : SendWinBound cfg host := fun id => by
  rw [h.length_window id]
  exact (h id).2.length_window

theorem getItem (h : SenderOk cfg frames host v) {id i : ℕ} (hi : i < cqGetLengthSend id host) :
    (cqGetItemSend cfg id i host).frame = (v id).window[i]? :=
  getItem_of_winFrames (h id).1.window hi

/-- Only some fields matter. -/
theorem of_eq {host' : Host D} (h : SenderOk cfg frames host v)
    (hcreated : host'.log.created = host.log.created)
    (hwin : ∀ id, winFrames cfg id host' = winFrames cfg id host)
    (hbacklog : host'.bufferedOutframesHead = host.bufferedOutframesHead)
    (hout : host'.outgoingFramesHead = host.outgoingFramesHead)
    (hcurr : host'.currSeqNum = host.currSeqNum) : SenderOk cfg frames host' v := by
  intro id
  obtain ⟨hrel, hinv⟩ := h id
  exact ⟨⟨hcreated ▸ hrel.created, (hwin id).trans hrel.window, hbacklog ▸ hrel.backlog,
    hout ▸ hrel.out, hrel.acks, hcurr ▸ hrel.curr⟩, hinv⟩

/-- The frames to be sent and to be handled are free. -/
theorem relist {host' : Host D} (h : SenderOk cfg frames host v) (frames' : List Frame)
    (hcreated : host'.log.created = host.log.created)
    (hwin : ∀ id, winFrames cfg id host' = winFrames cfg id host)
    (hbacklog : host'.bufferedOutframesHead = host.bufferedOutframesHead)
    (hcurr : host'.currSeqNum = host.currSeqNum) :
    SenderOk cfg frames' host' (fun id =>
      { v id with out := framesFor id host'.outgoingFramesHead, acks := acksFrom id frames' }) := by
  intro id
  obtain ⟨hrel, hinv⟩ := h id
  exact ⟨⟨hcreated ▸ hrel.created, (hwin id).trans hrel.window, hbacklog ▸ hrel.backlog, rfl, rfl,
    hcurr ▸ hrel.curr⟩, ⟨hinv.created_seqNum, hinv.unacked_eq, hinv.length_window⟩⟩

/-- A frame in the window for `id` is addressed to `id`. -/
theorem dst_of_mem_window (h : SenderOk cfg frames host v) {id : ℕ} {frame : Frame}
    (hmem : frame ∈ (v id).window) : frame.dstId.toNat = id := by
  have hcreated := (h id).2.mem_created (List.mem_append_left (v id).backlog hmem)
  rw [← (h id).1.created, framesFor, List.mem_filter] at hcreated
  simpa using hcreated.2

end SenderOk

/-! ## Frames sent again -/

variable (cfg) in
/-- `host'` is `host` after it has sent `sent` again: no window has lost or gained a frame, and only
timers, congestion control and histories have changed besides. -/
structure Resends (sent : List Frame) (host host' : Host D) : Prop where
  eq : ∃ sendWindow latestTimeout cc dupAcksSeqNum ticks sentLog retransmits, host' =
    { host with
      outgoingFramesHead := host.outgoingFramesHead ++ sent
      sendWindow := sendWindow
      latestTimeout := latestTimeout
      cc := cc
      dupAcksSeqNum := dupAcksSeqNum
      ticks := ticks
      log := { host.log with sent := sentLog, retransmits := retransmits } }
  frames : ∀ j, (host'.sendWindow j).frame = (host.sendWindow j).frame
  sent_mem : ∀ frame ∈ sent, ∃ id i, i < cqGetLengthSend id host ∧
    (cqGetItemSend cfg id i host).frame = some frame

namespace Resends

theorem refl (host : Host D) : Resends cfg [] host host where
  eq := ⟨_, _, _, _, _, _, _, by rw [List.append_nil]⟩
  frames j := rfl
  sent_mem frame h := by simp at h

theorem trans {sent sent' : List Frame} {host host' host'' : Host D}
    (h : Resends cfg sent host host') (h' : Resends cfg sent' host' host'') :
    Resends cfg (sent ++ sent') host host'' := by
  have hframes := h.frames
  obtain ⟨sendWindow, _, _, _, _, _, _, rfl⟩ := h.eq
  refine ⟨?_, fun j => (h'.frames j).trans (hframes j), fun frame hf => ?_⟩
  · obtain ⟨a, b, c, d, e, f, g, rfl⟩ := h'.eq
    exact ⟨a, b, c, d, e, f, g, by simp only [List.append_assoc]⟩
  · rcases List.mem_append.mp hf with hf | hf
    · exact h.sent_mem frame hf
    · obtain ⟨id, i, hi, hframe⟩ := h'.sent_mem frame hf
      exact ⟨id, i, hi, (hframes _).symm.trans hframe⟩

theorem winFrames_eq {sent : List Frame} {host host' : Host D} (h : Resends cfg sent host host')
    (id : ℕ) : winFrames cfg id host' = winFrames cfg id host := by
  have hframes := h.frames
  obtain ⟨_, _, _, _, _, _, _, rfl⟩ := h.eq
  simp only [winFrames, sendWin, Ring.contents, List.map_map]
  exact List.map_congr_left fun i _ => hframes _

/-- Sending again is sending again in the view of every receiver. -/
theorem steps {sent frames : List Frame} {host host' : Host D} {v : ℕ → SendView}
    (h : Resends cfg sent host host') (hok : SenderOk cfg frames host v) :
    ∃ v', (∀ id, SendView.Steps cfg.windowSize (v id) (v' id)) ∧ SenderOk cfg frames host' v' := by
  have hsteps (id : ℕ) : SendView.Steps cfg.windowSize (v id)
      { v id with out := (v id).out ++ framesFor id sent } := by
    refine SendView.steps_resend _ _ fun frame hmem => ?_
    rw [framesFor, List.mem_filter] at hmem
    obtain ⟨id', i, hi, hframe⟩ := h.sent_mem frame hmem.1
    rw [hok.getItem hi] at hframe
    have hwin := List.mem_of_getElem? hframe
    -- the window that the frame is in is the one for its receiver
    obtain rfl : id' = id := (hok.dst_of_mem_window hwin).symm.trans (by simpa using hmem.2)
    exact hwin
  refine ⟨_, hsteps, fun id => ⟨?_, (hok id).2.steps (hsteps id)⟩⟩
  have hwin := h.winFrames_eq id
  obtain ⟨_, _, _, _, _, _, _, rfl⟩ := h.eq
  have hrel := (hok id).1
  exact ⟨hrel.created, hwin.trans hrel.window, hrel.backlog,
    (framesFor_append ..).trans (congrArg (· ++ _) hrel.out), hrel.acks, hrel.curr⟩

end Resends

theorem derefFrame_eq_ok {slot : SendWindowSlot} {frame : Frame} :
    slot.derefFrame = .ok frame ↔ slot.frame = some frame := by
  rw [SendWindowSlot.derefFrame]
  cases slot.frame <;> simp

/-- A search that succeeds has found a frame with the number looked for. -/
theorem findSeqNum_some {id : ℕ} {seqNum : UInt8} {host : Host D} {is : List ℕ} {i : ℕ}
    {frame : Frame} (h : findSeqNum cfg id seqNum host is = .ok (some (i, frame))) :
    i ∈ is ∧ (cqGetItemSend cfg id i host).frame = some frame ∧ frame.seqNum = seqNum := by
  induction is with
  | nil => simp [findSeqNum] at h
  | cons j is ih =>
    rw [findSeqNum] at h
    cases hderef : (cqGetItemSend cfg id j host).derefFrame with
    | error e => simp [hderef] at h
    | ok frame' =>
      simp only [hderef] at h
      split at h
      · rename_i hseq
        obtain ⟨rfl, rfl⟩ : j = i ∧ frame' = frame := by simpa using h
        exact ⟨List.mem_cons_self, derefFrame_eq_ok.mp hderef, hseq⟩
      · obtain ⟨hmem, hfound⟩ := ih h
        exact ⟨List.mem_cons_of_mem j hmem, hfound⟩

theorem setTimeout_resends (id i : ℕ) (timeout : Option TimeVal) (host : Host D) :
    Resends cfg [] host (setTimeout cfg id i timeout host) where
  eq := ⟨_, host.latestTimeout, host.cc, host.dupAcksSeqNum, host.ticks, host.log.sent,
    host.log.retransmits, by rw [List.append_nil]; rfl⟩
  frames j := by
    simp only [setTimeout, Function.update_apply]
    split
    · rename_i hj
      rw [hj]
      rfl
    · rfl
  sent_mem frame h := by simp at h

variable (cfg) in
theorem findSeqNum_clock (id : ℕ) (seqNum : UInt8) (host : Host D) (is : List ℕ) (ticks : ℕ)
    (latestTimeout : TimeVal) :
    findSeqNum cfg id seqNum { host with ticks := ticks, latestTimeout := latestTimeout } is =
      findSeqNum cfg id seqNum host is := by
  induction is with
  | nil => rfl
  | cons i is ih =>
    rw [findSeqNum, findSeqNum, ih]
    rfl

/-- What `retransmit_frame` can do: send the frame it found and set its timer, or, with another
frame in the window, set the timer of the last one. -/
theorem retransmitFrame_cases {dstId seqNum : UInt8} {host host' : Host D}
    (h : retransmitFrame cfg dstId seqNum host = .ok host') :
    ∃ now latestTimeout nextTimeout, now = host.env.clock host.ticks ∧
      latestTimeout =
        timevalUsecplus (afterLatestTimeout now host.latestTimeout) 10000 ∧
      nextTimeout =
        timevalUsecplus (afterLatestTimeout now host.latestTimeout) timeoutIntervalUsec ∧
      ((∃ i frame, i < cqGetLengthSend dstId.toNat host ∧
          (cqGetItemSend cfg dstId.toNat i host).frame = some frame ∧ frame.seqNum = seqNum ∧
          host' = setTimeout cfg dstId.toNat i (some nextTimeout)
            { host with
              ticks := host.ticks + 1
              latestTimeout := latestTimeout
              outgoingFramesHead := host.outgoingFramesHead ++ [frame]
              log := { host.log with
                sent := host.log.sent ++ [(frame, nextTimeout)]
                retransmits := host.log.retransmits ++ [⟨dstId, seqNum, true⟩] } }) ∨
        (0 < cqGetLengthSend dstId.toNat host ∧
          findSeqNum cfg dstId.toNat seqNum host
            (List.range (cqGetLengthSend dstId.toNat host)) = .ok none ∧
          host' =
            setTimeout cfg dstId.toNat (cqGetLengthSend dstId.toNat host - 1) (some nextTimeout)
            { host with
              ticks := host.ticks + 1
              latestTimeout := latestTimeout
              log := { host.log with
                retransmits := host.log.retransmits ++ [⟨dstId, seqNum, false⟩] } })) := by
  refine ⟨_, _, _, rfl, rfl, rfl, ?_⟩
  have hfind := findSeqNum_clock cfg dstId.toNat seqNum host
    (List.range (cqGetLengthSend dstId.toNat host)) (host.ticks + 1) (timevalUsecplus
      (afterLatestTimeout (host.env.clock host.ticks) host.latestTimeout) 10000)
  simp only [retransmitFrame, gettimeofday] at h
  split at h
  · simp at h
  · rename_i i frame hfound
    replace hfound := hfind.symm.trans hfound
    obtain ⟨hmem, hframe, hseq⟩ := findSeqNum_some hfound
    exact .inl ⟨i, frame, List.mem_range.mp hmem, hframe, hseq, (Except.ok.inj h).symm⟩
  · rename_i hnone
    replace hnone := hfind.symm.trans hnone
    change (if cqGetLengthSend dstId.toNat host = 0 then _ else _) = _ at h
    split at h
    · simp at h
    · rename_i hlen
      exact .inr ⟨Nat.pos_of_ne_zero hlen, hnone, (Except.ok.inj h).symm⟩

theorem retransmitFrame_resends {dstId seqNum : UInt8} {host host' : Host D}
    (h : retransmitFrame cfg dstId seqNum host = .ok host') :
    ∃ sent, Resends cfg sent host host' := by
  obtain ⟨now, latestTimeout, nextTimeout, -, -, -, hcases⟩ := retransmitFrame_cases h
  rcases hcases with ⟨i, frame, hi, hframe, -, rfl⟩ | ⟨-, -, rfl⟩
  · refine ⟨[frame] ++ [], Resends.trans ⟨⟨_, _, _, _, _, _, _, rfl⟩, fun j => rfl, ?_⟩
      (setTimeout_resends _ _ _ _)⟩
    intro f hf
    rw [List.mem_singleton.mp hf]
    exact ⟨_, i, hi, hframe⟩
  · have hlog : Resends cfg [] host
        { host with
          ticks := host.ticks + 1
          latestTimeout := latestTimeout
          log := { host.log with
            retransmits := host.log.retransmits ++ [⟨dstId, seqNum, false⟩] } } :=
      { eq := ⟨host.sendWindow, latestTimeout, host.cc, host.dupAcksSeqNum, host.ticks + 1,
          host.log.sent, _, by rw [List.append_nil]⟩
        frames := fun j => rfl
        sent_mem := by simp }
    exact ⟨[] ++ [], hlog.trans (setTimeout_resends _ _ _ _)⟩

variable [CDouble D]

omit [CDouble D] in
theorem setCc_resends (id : ℕ) (cc : CongestionControl D) (host : Host D) :
    Resends cfg [] host (setCc id cc host) where
  eq := ⟨host.sendWindow, host.latestTimeout, _, host.dupAcksSeqNum, host.ticks, host.log.sent,
    host.log.retransmits, by rw [List.append_nil]; rfl⟩
  frames j := rfl
  sent_mem frame h := by simp at h

theorem updateDupAcks_resends (srcId seqNum : UInt8) (host : Host D) :
    Resends cfg [] host (updateDupAcks srcId seqNum host) := by
  rw [updateDupAcks_eq]
  exact
    { eq := ⟨host.sendWindow, host.latestTimeout, _, _, host.ticks, host.log.sent,
        host.log.retransmits, by rw [List.append_nil]; rfl⟩
      frames := fun j => rfl
      sent_mem := by simp }

theorem updateCc_resends {srcId seqNum : UInt8} {host host' : Host D}
    (h : updateCc cfg srcId seqNum host = .ok host') : ∃ sent, Resends cfg sent host host' := by
  rw [updateCc_eq] at h
  split at h
  · obtain ⟨sent, hsent⟩ := retransmitFrame_resends h
    exact ⟨[] ++ sent, (setCc_resends _ _ host).trans hsent⟩
  · exact ⟨[], Except.ok.inj h ▸ setCc_resends _ _ host⟩

omit [CDouble D] in
theorem foldl_setTimeout_resends (id : ℕ) (timeout : Option TimeVal) (is : List ℕ) (host : Host D) :
    Resends cfg [] host
      (is.foldl (fun host i => setTimeout cfg id i timeout host) host) := by
  induction is generalizing host with
  | nil => exact Resends.refl host
  | cons i is ih => exact (setTimeout_resends id i timeout host).trans (ih _)

theorem handleTimedoutWindow_resends (currTimeval : TimeVal) (host : Host D) (recvId : ℕ) :
    Resends cfg [] host (handleTimedoutWindow cfg currTimeval host recvId) := by
  rw [handleTimedoutWindow]
  split
  · exact Resends.refl host
  · split
    · exact (foldl_setTimeout_resends recvId none _ host).trans (setCc_resends _ _ _)
    · exact Resends.refl host

theorem handleTimedoutFrames_resends (currTimeval : TimeVal) (host : Host D) :
    Resends cfg [] host (handleTimedoutFrames cfg currTimeval host) := by
  rw [handleTimedoutFrames]
  induction List.range cfg.numHosts generalizing host with
  | nil => exact Resends.refl host
  | cons recvId recvIds ih =>
    exact (handleTimedoutWindow_resends currTimeval host recvId).trans (ih _)

omit [CDouble D] in
theorem resendLoop_resends {recvId : ℕ} {is : List ℕ} {framesPerRtt frames : ℤ}
    {host host' : Host D}
    (h : resendLoop cfg recvId is framesPerRtt host = .ok (frames, host')) :
    ∃ sent, Resends cfg sent host host' := by
  induction is generalizing framesPerRtt host with
  | nil =>
    obtain ⟨-, rfl⟩ : framesPerRtt = frames ∧ host = host' := by simpa [resendLoop] using h
    exact ⟨[], Resends.refl host⟩
  | cons i is ih =>
    rw [resendLoop] at h
    split at h
    · split at h
      · simp at h
      · split at h
        · simp at h
        · rename_i hretransmit
          obtain ⟨sent, hsent⟩ := retransmitFrame_resends hretransmit
          obtain ⟨sent', hsent'⟩ := ih h
          exact ⟨sent ++ sent', hsent.trans hsent'⟩
    · exact ih h

omit [CDouble D] in
theorem resendWindows_resends {recvIds : List ℕ} {framesPerRtt frames : ℕ → ℤ}
    {host host' : Host D}
    (h : resendWindows cfg recvIds framesPerRtt host = .ok (frames, host')) :
    ∃ sent, Resends cfg sent host host' := by
  induction recvIds generalizing framesPerRtt host with
  | nil =>
    obtain ⟨-, rfl⟩ : framesPerRtt = frames ∧ host = host' := by simpa [resendWindows] using h
    exact ⟨[], Resends.refl host⟩
  | cons recvId recvIds ih =>
    rw [resendWindows] at h
    split at h
    · exact ih h
    · split at h
      · simp at h
      · rename_i hloop
        obtain ⟨sent, hsent⟩ := resendLoop_resends hloop
        obtain ⟨sent', hsent'⟩ := ih h
        exact ⟨sent ++ sent', hsent.trans hsent'⟩

theorem senderOk_initHost (id : ℕ) (env : HostEnv) :
    SenderOk cfg [] (initHost cfg id env) (fun _ => ⟨[], [], [], [], []⟩) := fun _ =>
  ⟨⟨rfl, rfl, rfl, rfl, rfl, rfl⟩, ⟨by simp, ⟨0, le_rfl, rfl⟩, Nat.zero_le _⟩⟩

/-! ## Commands -/

omit [CDouble D] in
/-- Creating frames is creating them in the view of every receiver. -/
theorem Creates.steps {news frames : List Frame} {host host' : Host D} {v : ℕ → SendView}
    (h : Creates news host host') (hok : SenderOk cfg frames host v) :
    ∃ v', (∀ id, SendView.Steps cfg.windowSize (v id) (v' id)) ∧ SenderOk cfg frames host' v' := by
  have hsteps (id : ℕ) : SendView.Steps cfg.windowSize (v id)
      { v id with
        created := (v id).created ++ framesFor id news
        backlog := (v id).backlog ++ framesFor id news } := by
    refine SendView.steps_create _ _ fun k frame hk => ?_
    rw [h.seqNum id k frame hk, (hok id).1.curr, UInt8.ofNat_add]
  refine ⟨_, hsteps, fun id => ⟨?_, (hok id).2.steps (hsteps id)⟩⟩
  have hcurr := h.curr id
  obtain ⟨_, _, rfl⟩ := h.eq
  have hrel := (hok id).1
  exact ⟨(framesFor_append ..).trans (congrArg (· ++ _) hrel.created), hrel.window,
    (framesFor_append ..).trans (congrArg (· ++ _) hrel.backlog), hrel.out, hrel.acks, by
      rw [hcurr, hrel.curr, List.length_append, UInt8.ofNat_add]⟩

omit [CDouble D] in
/-- **`handle_input_cmds`** creates frames. -/
theorem handleInputCmds_steps {frames : List Frame} {host : Host D} {v : ℕ → SendView}
    (hok : SenderOk cfg frames host v) :
    ∃ v', (∀ id, SendView.Steps cfg.windowSize (v id) (v' id)) ∧
      SenderOk cfg frames (handleInputCmds host) v' := by
  obtain ⟨news, hcreates, -⟩ := handleInputCmds_creates host
  refine hcreates.steps fun id => ?_
  obtain ⟨hrel, hinv⟩ := hok id
  exact ⟨⟨hrel.created, hrel.window, hrel.backlog, hrel.out, hrel.acks, hrel.curr⟩, hinv⟩

/-! ## Acknowledgements -/

omit [CDouble D] in
/-- The search of a part of the window that holds `window`. -/
theorem findSeqNum_range' {id : ℕ} (seqNum : UInt8) {host : Host D} {a : ℕ} {window : List Frame}
    (h : ∀ i < window.length, (cqGetItemSend cfg id (a + i) host).frame = window[i]?) :
    findSeqNum cfg id seqNum host (List.range' a window.length) =
      .ok ((window.findIdx? (fun frame => frame.seqNum = seqNum)).bind fun j =>
        window[j]?.map (fun frame => (a + j, frame))) := by
  induction window generalizing a with
  | nil => rfl
  | cons frame window ih =>
    have hfirst : (cqGetItemSend cfg id a host).derefFrame = .ok frame :=
      derefFrame_eq_ok.mpr (by simpa using h 0 (by simp))
    have hrest := ih (a := a + 1) fun i hi => by
      have := h (i + 1) (by simpa using hi)
      rwa [List.getElem?_cons_succ, Nat.add_comm i 1, ← Nat.add_assoc] at this
    rw [List.length_cons, List.range'_succ, findSeqNum, hfirst, List.findIdx?_cons]
    by_cases hseq : frame.seqNum = seqNum
    · simp [hseq]
    · simp only [hseq, if_false, decide_false, Bool.false_eq_true, hrest, Option.bind_map]
      congr 2
      funext j
      simp [Nat.add_comm, Nat.add_left_comm]

omit [CDouble D] in
/-- The search of a window that holds `window`. -/
theorem findSeqNum_of_winFrames {id : ℕ} {host : Host D} {window : List Frame}
    (h : winFrames cfg id host = window.map some) (seqNum : UInt8) :
    findSeqNum cfg id seqNum host (List.range (cqGetLengthSend id host)) =
      .ok ((window.findIdx? (fun frame => frame.seqNum = seqNum)).bind fun j =>
        window[j]?.map (fun frame => (j, frame))) := by
  have hitem (i : ℕ) (hi : i < window.length) :
      (cqGetItemSend cfg id (0 + i) host).frame = window[i]? := by
    rw [zero_add]
    exact getItem_of_winFrames h (by rwa [length_of_winFrames h])
  rw [length_of_winFrames h, List.range_eq_range', findSeqNum_range' seqNum hitem]
  simp only [zero_add]

omit [CDouble D] in
/-- `retransmit_frame` of a frame in a window that holds `window`. -/
theorem retransmitFrame_of_winFrames {host : Host D} {dstId seqNum : UInt8} {window : List Frame}
    (hwin : winFrames cfg dstId.toNat host = window.map some) {j : ℕ} {frame : Frame}
    (hfind : window.findIdx? (fun frame => frame.seqNum = seqNum) = some j)
    (hframe : window[j]? = some frame) :
    ∃ latestTimeout nextTimeout, retransmitFrame cfg dstId seqNum host =
      .ok (setTimeout cfg dstId.toNat j (some nextTimeout)
        { host with
          ticks := host.ticks + 1
          latestTimeout := latestTimeout
          outgoingFramesHead := host.outgoingFramesHead ++ [frame]
          log := { host.log with
            sent := host.log.sent ++ [(frame, nextTimeout)]
            retransmits := host.log.retransmits ++ [⟨dstId, seqNum, true⟩] } }) := by
  have hsearch := findSeqNum_of_winFrames hwin seqNum
  rw [hfind, Option.bind_some, hframe, Option.map_some] at hsearch
  refine ⟨timevalUsecplus (afterLatestTimeout (host.env.clock host.ticks) host.latestTimeout) 10000,
    timevalUsecplus (afterLatestTimeout (host.env.clock host.ticks) host.latestTimeout)
      timeoutIntervalUsec, ?_⟩
  have hclock : Tcp.findSeqNum cfg dstId.toNat seqNum
      { host with
        ticks := host.ticks + 1
        latestTimeout := timevalUsecplus
          (afterLatestTimeout (host.env.clock host.ticks) host.latestTimeout) 10000 }
      (List.range (cqGetLengthSend dstId.toNat
        { host with
          ticks := host.ticks + 1
          latestTimeout := timevalUsecplus
            (afterLatestTimeout (host.env.clock host.ticks) host.latestTimeout) 10000 })) =
      .ok (some (j, frame)) := (findSeqNum_clock ..).trans hsearch
  simp only [Tcp.retransmitFrame, gettimeofday, hclock]

omit [CDouble D] in
/-- What the end of `handle_incoming_acks` can do. -/
theorem dequeueAcked_cases {srcId seqNum : UInt8} {host host' : Host D}
    (h : dequeueAcked cfg srcId seqNum host = .ok host') :
    host' = host ∨ ∃ n, host' = cqNdequeueSend cfg srcId.toNat n host := by
  rw [dequeueAcked] at h
  split at h
  · exact .inl (Except.ok.inj h).symm
  · split at h
    · simp at h
    · split at h
      · exact .inl (Except.ok.inj h).symm
      · split at h
        · simp at h
        · exact .inl (Except.ok.inj h).symm
        · exact .inr ⟨_, (Except.ok.inj h).symm⟩

omit [CDouble D] in
/-- The end of `handle_incoming_acks` on a window that holds `window`. -/
theorem dequeueAcked_eq {srcId : UInt8} {host : Host D} {window : List Frame}
    (h : winFrames cfg srcId.toNat host = window.map some) (seqNum : UInt8) :
    dequeueAcked cfg srcId seqNum host =
      .ok (if SendView.ackCount window seqNum = 0 then host
        else cqNdequeueSend cfg srcId.toNat (SendView.ackCount window seqNum) host) := by
  have hlen := length_of_winFrames h
  rw [dequeueAcked]
  cases window with
  | nil =>
    have hzero : SendView.ackCount [] seqNum = 0 := rfl
    rw [if_pos (show cqGetLengthSend srcId.toNat host = 0 from hlen), if_pos hzero]
  | cons first window =>
    have hpos : 0 < cqGetLengthSend srcId.toNat host := by rw [hlen]; exact Nat.succ_pos _
    have hfirst := getItem_of_winFrames h hpos
    rw [List.getElem?_cons_zero, ← derefFrame_eq_ok] at hfirst
    rw [if_neg hpos.ne', hfirst, findSeqNum_of_winFrames h, SendView.ackCount, List.head?_cons,
      Option.any_some]
    by_cases hold : seqNumDiff first.seqNum seqNum < 0
    · simp only [hold, if_true, decide_true]
    · simp only [hold, if_false, decide_false, Bool.false_eq_true]
      cases hfind : (first :: window).findIdx? (fun frame => decide (frame.seqNum = seqNum)) with
      | none => rfl
      | some j =>
        obtain ⟨hj, -⟩ := List.findIdx?_eq_some_iff_getElem.mp hfind
        rw [Option.bind_some, List.getElem?_eq_getElem hj]
        rfl

omit [CDouble D] in
theorem SenderOk.dequeue (hW : cfg.windowSize ≤ 255) {frames frames' : List Frame} {host : Host D}
    {v : ℕ → SendView} (hok : SenderOk cfg frames host v) {id : ℕ} {seqNum : UInt8}
    (hself : acksFrom id frames = seqNum :: acksFrom id frames')
    (hother : ∀ id', id' ≠ id → acksFrom id' frames' = acksFrom id' frames) {n : ℕ}
    (hn : n = SendView.ackCount (v id).window seqNum) {host' : Host D}
    (hhost : host' = cqNdequeueSend cfg id n host ∨ n = 0 ∧ host' = host) :
    ∃ v', (∀ id', SendView.Steps cfg.windowSize (v id') (v' id')) ∧
      SenderOk cfg frames' host' v' := by
  have hwin (id' : ℕ) : winFrames cfg id' host' =
      if id' = id then (winFrames cfg id host).drop n else winFrames cfg id' host := by
    rcases hhost with rfl | ⟨rfl, rfl⟩
    · rw [winFrames, sendWin_cqNdequeueSend hW (hok.bound id)]
      split
      · rw [List.map_drop]
        rfl
      · rfl
    · split
      · rename_i hid
        rw [hid, List.drop_zero]
      · rfl
  have hsame : host'.log = host.log ∧ host'.bufferedOutframesHead = host.bufferedOutframesHead ∧
      host'.outgoingFramesHead = host.outgoingFramesHead ∧ host'.currSeqNum = host.currSeqNum := by
    rcases hhost with rfl | ⟨-, rfl⟩ <;> exact ⟨rfl, rfl, rfl, rfl⟩
  obtain ⟨hlog, hbacklog, hout, hcurr⟩ := hsame
  have hsteps (id' : ℕ) : SendView.Steps cfg.windowSize (v id')
      { v id' with
        window := if id' = id then (v id).window.drop n else (v id').window
        acks := acksFrom id' frames' } := by
    have hacks := (hok id').1.acks
    by_cases hid : id' = id
    · subst hid
      rw [if_pos rfl, hn]
      exact .single (.ack (v id') seqNum _ (hacks.symm.trans hself))
    · rw [if_neg hid, hother id' hid, hacks]
  refine ⟨_, hsteps, fun id' => ⟨?_, (hok id').2.steps (hsteps id')⟩⟩
  have hrel := (hok id').1
  refine ⟨hlog ▸ hrel.created, ?_, hbacklog ▸ hrel.backlog, hout ▸ hrel.out, rfl, hcurr ▸ hrel.curr⟩
  rw [hwin]
  split
  · rw [(hok id).1.window, ← List.map_drop]
  · exact hrel.window

omit [CDouble D] in
/-- The end of `handle_incoming_acks` takes out of the window what the ACK covers. -/
theorem dequeueAcked_steps (hW : cfg.windowSize ≤ 255) {frames frames' : List Frame}
    {host host' : Host D} {v : ℕ → SendView} (hok : SenderOk cfg frames host v)
    {srcId seqNum : UInt8}
    (hself : acksFrom srcId.toNat frames = seqNum :: acksFrom srcId.toNat frames')
    (hother : ∀ id', id' ≠ srcId.toNat → acksFrom id' frames' = acksFrom id' frames)
    (h : dequeueAcked cfg srcId seqNum host = .ok host') :
    ∃ v', (∀ id, SendView.Steps cfg.windowSize (v id) (v' id)) ∧ SenderOk cfg frames' host' v' := by
  refine hok.dequeue hW hself hother rfl ?_
  obtain rfl := Except.ok.inj ((dequeueAcked_eq (hok _).1.window seqNum).symm.trans h)
  split
  · rename_i hzero
    exact .inr ⟨hzero, rfl⟩
  · exact .inl rfl

theorem handleAck_steps (hW : cfg.windowSize ≤ 255) {frame : Frame} {frames : List Frame}
    {host host' : Host D} {v : ℕ → SendView} (hok : SenderOk cfg (frame :: frames) host v)
    (hvalid : frameValid frame = true) (hack : frame.isAck ≠ 0)
    (h : handleAck cfg frame host = .ok host') :
    ∃ v', (∀ id, SendView.Steps cfg.windowSize (v id) (v' id)) ∧ SenderOk cfg frames host' v' := by
  rw [handleAck] at h
  split at h
  · simp at h
  · rename_i host₁ hcc
    obtain ⟨v₁, hsteps₁, hok₁⟩ := (updateDupAcks_resends _ _ host).steps hok
    obtain ⟨sent, hresends⟩ := updateCc_resends hcc
    obtain ⟨v₂, hsteps₂, hok₂⟩ := hresends.steps hok₁
    have hself : acksFrom frame.srcId.toNat (frame :: frames) =
        frame.seqNum :: acksFrom frame.srcId.toNat frames := by
      simp [acksFrom, hvalid, hack]
    obtain ⟨v₃, hsteps₃, hok₃⟩ := dequeueAcked_steps hW hok₂ hself
      (fun id' hid => by simp [acksFrom, Ne.symm hid]) h
    exact ⟨v₃, fun id => ((hsteps₁ id).trans (hsteps₂ id)).trans (hsteps₃ id), hok₃⟩

theorem acksFrom_invalid {frame : Frame} (h : frameValid frame = false) (id : ℕ)
    (frames : List Frame) : acksFrom id (frame :: frames) = acksFrom id frames := by
  simp [acksFrom, h]

theorem acksFrom_data {frame : Frame} (h : frame.isAck = 0) (id : ℕ) (frames : List Frame) :
    acksFrom id (frame :: frames) = acksFrom id frames := by
  simp [acksFrom, h]

omit [CDouble D] in
theorem SenderOk.congr_acks {frames frames' : List Frame} {host : Host D} {v : ℕ → SendView}
    (hok : SenderOk cfg frames host v) (h : ∀ id, acksFrom id frames = acksFrom id frames') :
    SenderOk cfg frames' host v := fun id => by
  obtain ⟨hrel, hinv⟩ := hok id
  exact ⟨⟨hrel.created, hrel.window, hrel.backlog, hrel.out, (h id).symm.trans hrel.acks,
    hrel.curr⟩, hinv⟩

theorem handleIncomingAcksLoop_steps (hW : cfg.windowSize ≤ 255) {kept frames : List Frame}
    {host host' : Host D} {v : ℕ → SendView} (hkept : ∀ id, acksFrom id kept = [])
    (hok : SenderOk cfg frames host v)
    (h : handleIncomingAcksLoop cfg kept frames host = .ok host') :
    ∃ v', (∀ id, SendView.Steps cfg.windowSize (v id) (v' id)) ∧
      SenderOk cfg host'.incomingFramesHead host' v' := by
  induction frames generalizing kept host v with
  | nil =>
    obtain rfl : _ = host' := Except.ok.inj h
    refine ⟨v, fun id => .refl, fun id => ?_⟩
    obtain ⟨hrel, hinv⟩ := hok.congr_acks (fun id => (hkept id).symm) id
    exact ⟨⟨hrel.created, hrel.window, hrel.backlog, hrel.out, hrel.acks, hrel.curr⟩, hinv⟩
  | cons frame frames ih =>
    rw [handleIncomingAcksLoop] at h
    split at h
    · rename_i hinvalid
      exact ih hkept (hok.congr_acks fun id => acksFrom_invalid hinvalid id frames) h
    · rename_i hvalid
      split at h
      · rename_i hdata
        refine ih (fun id => ?_) (hok.congr_acks fun id => acksFrom_data hdata id frames) h
        have := hkept id
        simp only [acksFrom, List.map_eq_nil_iff] at this ⊢
        rw [List.filter_append, this]
        simp [hdata]
      · rename_i hack
        split at h
        · simp at h
        · rename_i hframe
          obtain ⟨v₁, hsteps₁, hok₁⟩ := handleAck_steps hW hok (by simpa using hvalid) hack hframe
          obtain ⟨v₂, hsteps₂, hok₂⟩ := ih hkept hok₁ h
          exact ⟨v₂, fun id => (hsteps₁ id).trans (hsteps₂ id), hok₂⟩

/-- **`handle_incoming_acks`** handles the ACKs of all receivers in the order in which they came. -/
theorem handleIncomingAcks_steps (hW : cfg.windowSize ≤ 255) {host host' : Host D}
    {v : ℕ → SendView} (hok : SenderOk cfg host.incomingFramesHead host v)
    (h : handleIncomingAcks cfg host = .ok host') :
    ∃ v', (∀ id, SendView.Steps cfg.windowSize (v id) (v' id)) ∧
      SenderOk cfg host'.incomingFramesHead host' v' :=
  handleIncomingAcksLoop_steps hW (fun _ => rfl) hok h

/-! ## Timeouts and sending -/

/-- **`handle_timedout_frames`** changes no view. -/
theorem handleTimedoutFrames_steps {frames : List Frame} {host : Host D} {v : ℕ → SendView}
    (currTimeval : TimeVal) (hok : SenderOk cfg frames host v) :
    ∃ v', (∀ id, SendView.Steps cfg.windowSize (v id) (v' id)) ∧
      SenderOk cfg frames (handleTimedoutFrames cfg currTimeval host) v' :=
  (handleTimedoutFrames_resends currTimeval host).steps hok

omit [CDouble D] in
/-- A frame that is sent for the first time moves from the front of the backlog for its receiver to
the end of the window. -/
theorem SenderOk.send (hW : cfg.windowSize ≤ 255) {incoming kept frames : List Frame}
    {frame : Frame} {host : Host D} {v : ℕ → SendView}
    (hok : SenderOk cfg incoming
      { host with bufferedOutframesHead := kept ++ frame :: frames } v)
    (hkept : framesFor frame.dstId.toNat kept = [])
    (hlen : cqGetLengthSend frame.dstId.toNat host ≠ cfg.windowSize)
    (sent : List (Frame × TimeVal)) (timeout : TimeVal) :
    ∃ v', (∀ id, SendView.Steps cfg.windowSize (v id) (v' id)) ∧
      SenderOk cfg incoming
        { cqAppendItemSend cfg frame.dstId.toNat frame timeout
            { host with
              outgoingFramesHead := host.outgoingFramesHead ++ [frame]
              log := { host.log with sent := sent } } with
          bufferedOutframesHead := kept ++ frames } v' := by
  have hlt : cqGetLengthSend frame.dstId.toNat host < cfg.windowSize :=
    lt_of_le_of_ne (hok.bound _) hlen
  have hsteps (id : ℕ) : SendView.Steps cfg.windowSize (v id)
      (if id = frame.dstId.toNat then
        { v id with
          window := (v id).window ++ [frame]
          backlog := framesFor id frames
          out := (v id).out ++ [frame] }
      else v id) := by
    split
    · rename_i hid
      subst hid
      refine .single (.send (v _) frame _ ?_ ?_)
      · rw [← (hok _).1.backlog]
        simp only [framesFor_append, framesFor_cons, if_true, hkept, List.nil_append]
      · rw [← hok.length_window]
        exact hlt
    · exact .refl
  refine ⟨_, hsteps, fun id => ⟨?_, (hok id).2.steps (hsteps id)⟩⟩
  have hrel := (hok id).1
  have hwin := @sendWin_cqAppendItemSend D cfg hW frame.dstId.toNat
    { host with
      outgoingFramesHead := host.outgoingFramesHead ++ [frame]
      log := { host.log with sent := sent } } hlt frame timeout id
  rw [cqAppendItemSend, if_neg (by exact hlen)] at hwin ⊢
  by_cases hid : id = frame.dstId.toNat
  · subst hid
    rw [if_pos rfl] at hwin ⊢
    refine ⟨hrel.created, ?_, ?_, ?_, hrel.acks, hrel.curr⟩
    · refine (congrArg (List.map SendWindowSlot.frame) hwin).trans ?_
      rw [List.map_append, List.map_append]
      exact congrArg (· ++ [some frame]) hrel.window
    · simp only [framesFor_append, hkept, List.nil_append]
    · refine (framesFor_append ..).trans ?_
      rw [framesFor_cons, if_pos rfl]
      exact congrArg (· ++ [frame]) hrel.out
  · rw [if_neg hid] at hwin ⊢
    refine ⟨hrel.created, (congrArg (List.map SendWindowSlot.frame) hwin).trans hrel.window,
      ?_, ?_, hrel.acks, hrel.curr⟩
    · refine Eq.trans ?_ hrel.backlog
      simp only [framesFor_append, framesFor_cons, if_neg (Ne.symm hid)]
    · refine (framesFor_append ..).trans ?_
      rw [framesFor_cons, if_neg (Ne.symm hid), framesFor_nil, List.append_nil]
      exact hrel.out

omit [CDouble D] in
/-- The loop over the backlog. A receiver for which a frame was kept is blocked, since its window is
full or its budget used up, and stays so; hence no frame overtakes another for the same receiver. -/
theorem sendLoop_steps (hW : cfg.windowSize ≤ 255) (currTimeval : TimeVal)
    {incoming : List Frame} (kept frames : List Frame) (framesPerRtt : ℕ → ℤ) (additionalTs : ℤ)
    {host : Host D} {v : ℕ → SendView}
    (hok : SenderOk cfg incoming { host with bufferedOutframesHead := kept ++ frames } v)
    (hblocked : ∀ id, framesFor id kept ≠ [] →
      cqGetLengthSend id host = cfg.windowSize ∨ framesPerRtt id = 0) :
    ∃ v', (∀ id, SendView.Steps cfg.windowSize (v id) (v' id)) ∧
      SenderOk cfg incoming
        (sendLoop cfg currTimeval kept frames framesPerRtt additionalTs host).2 v' := by
  induction frames generalizing kept framesPerRtt additionalTs host v with
  | nil => exact ⟨v, fun _ => .refl, by rwa [List.append_nil] at hok⟩
  | cons frame frames ih =>
    rw [sendLoop]
    split
    · rename_i hkeep
      refine ih _ _ _ (by rwa [List.append_assoc]) fun id hne => ?_
      rw [framesFor_append, framesFor_cons] at hne
      by_cases hid : frame.dstId.toNat = id
      · exact hid ▸ hkeep
      · exact hblocked id (by simpa [hid] using hne)
    · rename_i hsend
      rw [not_or] at hsend
      have hkept : framesFor frame.dstId.toNat kept = [] := by
        by_contra hne
        exact (hblocked _ hne).elim hsend.1 hsend.2
      obtain ⟨v₁, hsteps₁, hok₁⟩ := hok.send hW hkept hsend.1
        (host.log.sent ++
          [(frame, timevalUsecplus currTimeval (timeoutIntervalUsec + additionalTs))])
        (timevalUsecplus currTimeval (timeoutIntervalUsec + additionalTs))
      obtain ⟨v₂, hsteps₂, hok₂⟩ := ih kept (Function.update framesPerRtt frame.dstId.toNat
        (framesPerRtt frame.dstId.toNat - 1)) (additionalTs + 10000) hok₁ fun id hne => by
        have hid : id ≠ frame.dstId.toNat := fun hid => hne (hid ▸ hkept)
        rw [Function.update_of_ne hid]
        refine (hblocked id hne).imp (fun h => ?_) (fun h => h)
        refine Eq.trans ?_ h
        rw [cqAppendItemSend, if_neg (by exact hsend.1)]
        simp only [cqGetLengthSend, Function.update_of_ne hid]
      exact ⟨v₂, fun id => (hsteps₁ id).trans (hsteps₂ id), hok₂⟩

/-- **`handle_outgoing_frames`** sends frames of the windows again, and then new ones. -/
theorem handleOutgoingFrames_steps (hW : cfg.windowSize ≤ 255) {currTimeval : TimeVal}
    {frames : List Frame} {host host' : Host D} {v : ℕ → SendView}
    (hok : SenderOk cfg frames host v)
    (h : handleOutgoingFrames cfg currTimeval host = .ok host') :
    ∃ v', (∀ id, SendView.Steps cfg.windowSize (v id) (v' id)) ∧
      SenderOk cfg frames host' v' := by
  rw [handleOutgoingFrames] at h
  split at h
  · simp at h
  · rename_i framesPerRtt host₁ hresend
    obtain ⟨sent, hsent⟩ := resendWindows_resends hresend
    obtain ⟨v₁, hsteps₁, hok₁⟩ := hsent.steps hok
    obtain ⟨v₂, hsteps₂, hok₂⟩ := sendLoop_steps hW
      (afterLatestTimeout currTimeval host.latestTimeout) [] host₁.bufferedOutframesHead
      framesPerRtt 0 hok₁ (by simp)
    obtain rfl := Except.ok.inj h
    exact ⟨v₂, fun id => (hsteps₁ id).trans (hsteps₂ id), fun id => by
      obtain ⟨hrel, hinv⟩ := hok₂ id
      exact ⟨⟨hrel.created, hrel.window, hrel.backlog, hrel.out, hrel.acks, hrel.curr⟩, hinv⟩⟩

end NetworkSim.Tcp
