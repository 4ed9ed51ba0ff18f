import NetworkSim.Tcp.Aliasing
import NetworkSim.Tcp.Timers

/-!
# Retransmissions

The number that a sender has noted of the latest ACK of a receiver, `dup_acks_seq_num`, is that of
the last frame that has left the window (`UpToDate`). So an ACK is either for a frame of the window
or a duplicate of the latest one, and what a third duplicate makes `handle_incoming_acks` send again
is the first frame of the window; what `handle_outgoing_frames` sends again is the frame of a slot
in use. Both are found (`every_retransmission_finds_frame`), unless the window is empty when the
third duplicate comes: then `retransmit_frame` reads its local `slot` before it was assigned
(`handleAck_emptyWindow`), and this can happen (`retransmission_without_frame`).
-/

namespace NetworkSim.Tcp

open SlidingWindow (Link)

variable {D : Type} {cfg : SysConfig D}

/-! ## The latest acknowledgement -/

/-- `seqNum` is the number of the last frame that has left the window of the view `v`. -/
def UpToDate (W : ℕ) (v : SendView) (seqNum : UInt8) : Prop :=
  ∃ (inFlight : List Frame) (acks : List UInt8) (L : Link Frame),
    L.Inv W ∧ SendMatch inFlight acks v L ∧ seqNum = ackSeq L.base

namespace UpToDate

variable {W : ℕ} {v v' : SendView} {seqNum : UInt8}

/-- Nothing changes as long as no ACK is handled. -/
theorem of_acks_eq (hW : W ≤ 128) (h : UpToDate W v seqNum) (hv : v.Inv W)
    (hsteps : SendView.Steps W v v') (hacks : v'.acks = v.acks) : UpToDate W v' seqNum := by
  obtain ⟨inFlight, acks, L, hL, hmatch, hseq⟩ := h
  obtain ⟨L', hrun, hmatch'⟩ := hmatch.steps hW hv hL hsteps
  obtain ⟨handled, hhandled, hbase⟩ := hrun.base_eq
  have hlen := congrArg List.length (hmatch.acks.trans (hacks ▸ hmatch'.acks.symm))
  rw [List.length_map, List.length_map, hhandled, List.length_append] at hlen
  obtain rfl : handled = [] := List.eq_nil_of_length_eq_zero (by omega)
  exact ⟨inFlight, acks, L', hL.run hrun.run, hmatch', by rw [hbase]; exact hseq⟩

/-- The ACK that is handled becomes the latest one. -/
theorem of_ack (hW : W ≤ 128) (h : UpToDate W v seqNum) (hv : v.Inv W)
    (hsteps : SendView.Steps W v v') {ackNum : UInt8} (hacks : v.acks = ackNum :: v'.acks) :
    UpToDate W v' ackNum := by
  obtain ⟨inFlight, acks, L, hL, hmatch, -⟩ := h
  obtain ⟨L', hrun, hmatch'⟩ := hmatch.steps hW hv hL hsteps
  obtain ⟨handled, hhandled, hbase⟩ := hrun.base_eq
  have hmap := hmatch.acks
  rw [hacks, hhandled, List.map_append, hmatch'.acks, List.cons_append,
    ← List.singleton_append] at hmap
  have hone : handled.map ackSeq = [ackNum] := List.append_cancel_right hmap
  obtain ⟨a, rfl, ha⟩ := List.map_eq_singleton_iff.mp hone
  exact ⟨inFlight, acks, L', hL.run hrun.run, hmatch', by rw [hbase]; exact ha.symm⟩

/-- An ACK is newer than the latest one, or the same. -/
theorem newer_or_eq (hW : W ≤ 127) (h : UpToDate W v seqNum) {ackNum : UInt8} {acks : List UInt8}
    (hacks : v.acks = ackNum :: acks) : 0 < seqNumDiff seqNum ackNum ∨ seqNum = ackNum := by
  obtain ⟨_, _, L, hL, hmatch, rfl⟩ := h
  have hmap := hmatch.acks
  rw [hacks, List.cons_append, List.map_eq_cons_iff] at hmap
  obtain ⟨a, as, has, rfl, -⟩ := hmap
  obtain ⟨hlow, hhigh⟩ := hL.acks_mem a (by rw [has]; exact List.mem_cons_self)
  have hnext := hL.delivered_le_next
  have hbase := hL.next_le_base
  rcases Nat.eq_or_lt_of_le hlow with rfl | hlt
  · exact .inr rfl
  · left
    rw [ackSeq, ackSeq, seqNumDiff_ofNat (by omega) (by omega)]
    omega

/-- The first frame of the window is the next after the last one that has left. -/
theorem head_window (h : UpToDate W v seqNum) (hv : v.Inv W) {first : Frame} {window : List Frame}
    (hwin : v.window = first :: window) : first.seqNum = seqNum + 1 := by
  obtain ⟨_, _, L, hL, hmatch, rfl⟩ := h
  obtain ⟨-, hmsg⟩ := hmatch.getElem?_window (i := 0) (by rw [hwin]; rfl)
  rw [hv.created_seqNum _ _ (hmatch.created ▸ hmsg), ackSeq, add_zero, ← ofNat_succ]
  apply UInt8.toNat_inj.mp
  rw [toNat_ofNat, toNat_ofNat]
  omega

end UpToDate

/-! ## The sender during its turn -/

variable (cfg) in
/-- What a sender knows of its receivers, with the frames `frames` still to be handled: the views of
all receivers with the latest ACKs, and that every retransmission so far has found its frame. -/
structure SenderTracks (frames : List Frame) (host : Host D) (v : ℕ → SendView) : Prop where
  views : SenderOk cfg frames host v
  upToDate : ∀ r < cfg.numHosts, UpToDate cfg.windowSize (v r) (host.dupAcksSeqNum r)
  found : ∀ call ∈ host.log.retransmits, call.found = true

/-- A handler that handles no ACK. -/
theorem SenderTracks.steps (hW : cfg.windowSize ≤ 128) {frames : List Frame} {host host' : Host D}
    {v v' : ℕ → SendView} (h : SenderTracks cfg frames host v)
    (hsteps : ∀ id, SendView.Steps cfg.windowSize (v id) (v' id))
    (hok : SenderOk cfg frames host' v') (hdup : host'.dupAcksSeqNum = host.dupAcksSeqNum)
    (hfound : ∀ call ∈ host'.log.retransmits, call.found = true) :
    SenderTracks cfg frames host' v' where
  views := hok
  upToDate r hr := by
    have hacks : (v' r).acks = (v r).acks := (hok r).1.acks.symm.trans (h.views r).1.acks
    rw [hdup]
    exact (h.upToDate r hr).of_acks_eq hW (h.views r).2 (hsteps r) hacks
  found := hfound

/-- A retransmission of a frame in the window. -/
theorem SenderOk.retransmitFrame_found {frames : List Frame} {host : Host D} {v : ℕ → SendView}
    (hok : SenderOk cfg frames host v) {dstId seqNum : UInt8} {frame : Frame}
    (hmem : frame ∈ (v dstId.toNat).window) (hseq : frame.seqNum = seqNum)
    (hfound : ∀ call ∈ host.log.retransmits, call.found = true) :
    ∃ host', Tcp.retransmitFrame cfg dstId seqNum host = .ok host' ∧
      host'.dupAcksSeqNum = host.dupAcksSeqNum ∧
      host'.sendWindowLength = host.sendWindowLength ∧
      ∀ call ∈ host'.log.retransmits, call.found = true := by
  obtain ⟨j, hfind⟩ : ∃ j, (v dstId.toNat).window.findIdx?
      (fun frame => frame.seqNum = seqNum) = some j := by
    rw [← Option.isSome_iff_exists, List.findIdx?_isSome, List.any_eq_true]
    exact ⟨frame, hmem, decide_eq_true hseq⟩
  obtain ⟨hj, -⟩ := List.findIdx?_eq_some_iff_getElem.mp hfind
  obtain ⟨_, _, hretransmit⟩ :=
    retransmitFrame_of_winFrames (hok _).1.window hfind (List.getElem?_eq_getElem hj)
  refine ⟨_, hretransmit, rfl, rfl, fun call hcall => ?_⟩
  rcases List.mem_append.mp hcall with hold | hnew
  · exact hfound call hold
  · rw [List.mem_singleton.mp hnew]

variable [CDouble D]

/-! ## Acknowledgements -/

/-- Handling the ACK `frame` retransmits although there is nothing to retransmit: it is the third
duplicate of the latest ACK in congestion avoidance, and the window is empty. -/
def EmptyFastRetransmit (frame : Frame) (host : Host D) : Prop :=
  cqGetLengthSend frame.srcId.toNat host = 0 ∧ (host.cc frame.srcId.toNat).state = .aimd ∧
    (host.cc frame.srcId.toNat).dupAcks = 2 ∧
    host.dupAcksSeqNum frame.srcId.toNat = frame.seqNum

instance (frame : Frame) (host : Host D) : Decidable (EmptyFastRetransmit frame host) :=
  inferInstanceAs (Decidable (_ ∧ _ ∧ _ ∧ _))

omit [CDouble D] in
/-- With an empty window `retransmit_frame` reads its local `slot` before it was assigned. -/
theorem retransmitFrame_emptyWindow {dstId : UInt8} (seqNum : UInt8) {host : Host D}
    (h : cqGetLengthSend dstId.toNat host = 0) :
    retransmitFrame cfg dstId seqNum host = .error .uninitialisedSlot := by
  have hlen (ticks : ℕ) (latestTimeout : TimeVal) : cqGetLengthSend dstId.toNat
      { host with ticks := ticks, latestTimeout := latestTimeout } = 0 := h
  simp only [retransmitFrame, gettimeofday, hlen, List.range_zero, findSeqNum, if_true]

/-- So the congestion control reads it when it retransmits and the window is empty. -/
theorem updateCc_emptyWindow {srcId : UInt8} (seqNum : UInt8) {host : Host D}
    (hlen : cqGetLengthSend srcId.toNat host = 0) (hstate : (host.cc srcId.toNat).state = .aimd)
    (hdup : (host.cc srcId.toNat).dupAcks = 3) :
    updateCc cfg srcId seqNum host = .error .uninitialisedSlot := by
  rw [updateCc_eq, if_pos ⟨hstate, hdup⟩]
  exact retransmitFrame_emptyWindow _ hlen

theorem handleAck_emptyWindow {frame : Frame} {host : Host D} (h : EmptyFastRetransmit frame host) :
    handleAck cfg frame host = .error .uninitialisedSlot := by
  obtain ⟨hlen, hstate, hdup, hseq⟩ := h
  have hlen₁ : cqGetLengthSend frame.srcId.toNat
      (updateDupAcks frame.srcId frame.seqNum host) = 0 := by
    rw [updateDupAcks_eq]
    exact hlen
  rw [handleAck, updateCc_emptyWindow _ hlen₁]
  · rw [updateDupAcks_cc]
    exact hstate
  · rw [updateDupAcks_cc]
    change countDuplicate (host.dupAcksSeqNum frame.srcId.toNat) frame.seqNum _ = 3
    rw [hseq, countDuplicate_same]
    exact congrArg (· + 1) hdup

/-- The congestion control finds the frame that it retransmits, when the window begins with it. -/
theorem SenderOk.exists_updateCc {frames : List Frame} {host : Host D} {v : ℕ → SendView}
    (hok : SenderOk cfg frames host v) {srcId seqNum : UInt8}
    (hfirst : (host.cc srcId.toNat).state = .aimd → (host.cc srcId.toNat).dupAcks = 3 →
      ∃ frame ∈ (v srcId.toNat).window, frame.seqNum = seqNum + 1)
    (hfound : ∀ call ∈ host.log.retransmits, call.found = true) :
    ∃ host', updateCc cfg srcId seqNum host = .ok host' ∧
      host'.dupAcksSeqNum = host.dupAcksSeqNum ∧
      ∀ call ∈ host'.log.retransmits, call.found = true := by
  rw [updateCc_eq]
  split
  · rename_i hthird
    obtain ⟨frame, hmem, hseq⟩ := hfirst hthird.1 hthird.2
    have hok' (cc : CongestionControl D) : SenderOk cfg frames (setCc srcId.toNat cc host) v :=
      hok.of_eq rfl (fun _ => rfl) rfl rfl rfl
    obtain ⟨host', hretransmit, hdup, -, hfound'⟩ :=
      (hok' _).retransmitFrame_found hmem hseq hfound
    exact ⟨host', hretransmit, hdup, hfound'⟩
  · exact ⟨_, rfl, rfl, hfound⟩

/-- An ACK that is not older than the latest one becomes the latest; only when it is the same does
it make the count of duplicates 3. -/
theorem updateDupAcks_spec {srcId seqNum : UInt8} {host : Host D}
    (h : 0 < seqNumDiff (host.dupAcksSeqNum srcId.toNat) seqNum ∨
      host.dupAcksSeqNum srcId.toNat = seqNum) :
    (updateDupAcks srcId seqNum host).dupAcksSeqNum =
        Function.update host.dupAcksSeqNum srcId.toNat seqNum ∧
      (updateDupAcks srcId seqNum host).log = host.log ∧
      ((updateDupAcks srcId seqNum host).cc srcId.toNat).state = (host.cc srcId.toNat).state ∧
      (((updateDupAcks srcId seqNum host).cc srcId.toNat).dupAcks = 3 →
        host.dupAcksSeqNum srcId.toNat = seqNum ∧ (host.cc srcId.toNat).dupAcks = 2) := by
  have hlatest : ((host.control srcId.toNat).updateDupAcks seqNum).dupAcksSeqNum = seqNum := by
    rcases h with hnewer | hsame
    · exact if_pos hnewer
    · exact (if_neg (by rw [Host.control, hsame, seqNumDiff_self]; exact lt_irrefl 0)).trans hsame
  rw [updateDupAcks_cc, updateDupAcks_eq, hlatest]
  refine ⟨rfl, rfl, rfl, fun hthree => ?_⟩
  change countDuplicate (host.dupAcksSeqNum srcId.toNat) seqNum _ = 3 at hthree
  rcases h with hnewer | hsame
  · rw [countDuplicate_newer hnewer] at hthree
    exact absurd hthree (by decide)
  · rw [hsame, countDuplicate_same] at hthree
    refine ⟨hsame, ?_⟩
    change (host.cc srcId.toNat).dupAcks + 1 = 3 at hthree
    grind

/-- **Handling an ACK** finds the frame that it retransmits. -/
theorem SenderTracks.handleAck (hW : cfg.windowSize ≤ 127) {frame : Frame} {frames : List Frame}
    {host : Host D} {v : ℕ → SendView} (h : SenderTracks cfg (frame :: frames) host v)
    (hvalid : frameValid frame = true) (hack : frame.isAck ≠ 0)
    (hsrc : frame.srcId.toNat < cfg.numHosts) (hwindow : ¬ EmptyFastRetransmit frame host) :
    ∃ host' v', Tcp.handleAck cfg frame host = .ok host' ∧ SenderTracks cfg frames host' v' := by
  have hacks : (v frame.srcId.toNat).acks =
      frame.seqNum :: acksFrom frame.srcId.toNat frames := by
    rw [← (h.views _).1.acks]
    simp [acksFrom, hvalid, hack]
  have hlatest := h.upToDate _ hsrc
  obtain ⟨hdup₁, hlog₁, hstate₁, hthree⟩ := updateDupAcks_spec (hlatest.newer_or_eq hW hacks)
  have hok₁ : SenderOk cfg (frame :: frames)
      (updateDupAcks frame.srcId frame.seqNum host) v := by
    have hresends : Resends cfg [] host (updateDupAcks frame.srcId frame.seqNum host) :=
      updateDupAcks_resends frame.srcId frame.seqNum host
    have hwin := hresends.winFrames_eq
    obtain ⟨_, _, _, _, _, _, _, heq⟩ := hresends.eq
    exact h.views.of_eq (by rw [heq]) hwin (by rw [heq]) (by rw [heq, List.append_nil])
      (by rw [heq])
  -- the third duplicate of the latest ACK asks for the first frame of the window
  have hfirst : ((updateDupAcks frame.srcId frame.seqNum host).cc frame.srcId.toNat).state = .aimd →
      ((updateDupAcks frame.srcId frame.seqNum host).cc frame.srcId.toNat).dupAcks = 3 →
      ∃ first ∈ (v frame.srcId.toNat).window, first.seqNum = frame.seqNum + 1 := by
    intro hstate hdup
    obtain ⟨hsame, htwo⟩ := hthree hdup
    cases hwin : (v frame.srcId.toNat).window with
    | nil =>
      refine absurd ⟨?_, hstate₁.symm.trans hstate, htwo, hsame⟩ hwindow
      rw [h.views.length_window, hwin, List.length_nil]
    | cons first window =>
      refine ⟨first, List.mem_cons_self, ?_⟩
      rw [hlatest.head_window (h.views _).2 hwin, hsame]
  obtain ⟨host₂, hcc, hdup₂, hfound₂⟩ :=
    hok₁.exists_updateCc hfirst (by rw [hlog₁]; exact h.found)
  obtain ⟨_, hresends⟩ := updateCc_resends hcc
  obtain ⟨_, -, hok₂⟩ := hresends.steps hok₁
  obtain ⟨host₃, hdequeue⟩ : ∃ host₃, dequeueAcked cfg frame.srcId frame.seqNum host₂ = .ok host₃ :=
    ⟨_, dequeueAcked_eq (hok₂ _).1.window frame.seqNum⟩
  have hhandle : Tcp.handleAck cfg frame host = .ok host₃ := by
    rw [Tcp.handleAck, hcc]
    exact hdequeue
  obtain ⟨v', hsteps, hok'⟩ := handleAck_steps (by omega) h.views hvalid hack hhandle
  have hsame : host₃.dupAcksSeqNum = host₂.dupAcksSeqNum ∧ host₃.log = host₂.log := by
    rcases dequeueAcked_cases hdequeue with rfl | ⟨n, rfl⟩ <;> exact ⟨rfl, rfl⟩
  refine ⟨host₃, v', hhandle, hok', fun r hr => ?_, by rw [hsame.2]; exact hfound₂⟩
  rw [hsame.1, hdup₂, hdup₁]
  by_cases hrsrc : r = frame.srcId.toNat
  · subst hrsrc
    rw [Function.update_self]
    refine hlatest.of_ack (by omega) (h.views _).2 (hsteps _) ?_
    rw [hacks, ← (hok' _).1.acks]
  · rw [Function.update_of_ne hrsrc]
    refine (h.upToDate r hr).of_acks_eq (by omega) (h.views r).2 (hsteps r) ?_
    rw [← (hok' r).1.acks, ← (h.views r).1.acks]
    simp [acksFrom, Ne.symm hrsrc]

variable (cfg) in
/-- None of the ACKs among `frames` is for a retransmission from an empty window, when
`handle_incoming_acks` handles them one after the other. -/
def noEmptyFastRetransmit : List Frame → Host D → Bool
  | [], _ => true
  | frame :: frames, host =>
    if frameValid frame = false ∨ frame.isAck = 0 then noEmptyFastRetransmit frames host
    else !decide (EmptyFastRetransmit frame host) &&
      (match handleAck cfg frame host with
      | .error _ => true
      | .ok host => noEmptyFastRetransmit frames host)

/-- **`handle_incoming_acks`** finds every frame that it retransmits. -/
theorem SenderTracks.handleIncomingAcksLoop (hW : cfg.windowSize ≤ 127) {kept frames : List Frame}
    {host : Host D} {v : ℕ → SendView} (hkept : ∀ id, acksFrom id kept = [])
    (h : SenderTracks cfg frames host v)
    (hsrc : ∀ frame ∈ frames, frameValid frame = true → frame.srcId.toNat < cfg.numHosts)
    (hwindow : noEmptyFastRetransmit cfg frames host = true) :
    ∃ host' v', Tcp.handleIncomingAcksLoop cfg kept frames host = .ok host' ∧
      SenderTracks cfg host'.incomingFramesHead host' v' := by
  induction frames generalizing kept host v with
  | nil =>
    have hacks (id : ℕ) : acksFrom id [] = acksFrom id kept := (hkept id).symm
    have hok : SenderOk cfg kept { host with incomingFramesHead := kept } v :=
      (h.views.congr_acks hacks).of_eq rfl (fun _ => rfl) rfl rfl rfl
    exact ⟨_, v, rfl, hok, h.upToDate, h.found⟩
  | cons frame frames ih =>
    have hsrc' := List.forall_mem_cons.mp hsrc
    rw [noEmptyFastRetransmit] at hwindow
    rw [Tcp.handleIncomingAcksLoop]
    by_cases hinvalid : frameValid frame = false
    · rw [if_pos (.inl hinvalid)] at hwindow
      rw [if_pos hinvalid]
      have hok := h.views.congr_acks fun id => acksFrom_invalid hinvalid id frames
      exact ih hkept ⟨hok, h.upToDate, h.found⟩ hsrc'.2 hwindow
    · rw [if_neg hinvalid]
      by_cases hdata : frame.isAck = 0
      · rw [if_pos (.inr hdata)] at hwindow
        rw [if_pos hdata]
        have hok := h.views.congr_acks fun id => acksFrom_data hdata id frames
        refine ih (fun id => ?_) ⟨hok, h.upToDate, h.found⟩ hsrc'.2 hwindow
        have := hkept id
        simp only [acksFrom, List.map_eq_nil_iff] at this ⊢
        rw [List.filter_append, this]
        simp [hdata]
      · rw [if_neg (not_or.mpr ⟨hinvalid, hdata⟩)] at hwindow
        rw [if_neg hdata]
        have hvalid : frameValid frame = true := by simpa using hinvalid
        rw [Bool.and_eq_true, Bool.not_eq_true', decide_eq_false_iff_not] at hwindow
        obtain ⟨hnot, hrest⟩ := hwindow
        obtain ⟨host', v', hhandle, h'⟩ := h.handleAck hW hvalid hdata (hsrc'.1 hvalid) hnot
        rw [hhandle] at hrest ⊢
        exact ih hkept h' hsrc'.2 hrest

/-! ## Frames sent again -/

omit [CDouble D] in
/-- The retransmissions of a window find the frames of its slots. -/
theorem SenderTracks.resendLoop (hW : cfg.windowSize ≤ 128) {frames : List Frame} {host : Host D}
    {v : ℕ → SendView} (h : SenderTracks cfg frames host v) {recvId : ℕ} {is : List ℕ}
    (his : ∀ i ∈ is, i < cqGetLengthSend recvId host) (framesPerRtt : ℤ) :
    ∃ framesPerRtt' host' v',
      Tcp.resendLoop cfg recvId is framesPerRtt host = .ok (framesPerRtt', host') ∧
      SenderTracks cfg frames host' v' := by
  induction is generalizing framesPerRtt host v with
  | nil => exact ⟨framesPerRtt, host, v, rfl, h⟩
  | cons i is ih =>
    have his' := List.forall_mem_cons.mp his
    rw [Tcp.resendLoop]
    split
    · have hlt : i < (v recvId).window.length := by
        rw [← h.views.length_window]
        exact his'.1
      have hslot := h.views.getItem his'.1
      rw [List.getElem?_eq_getElem hlt, ← derefFrame_eq_ok] at hslot
      have hmem := List.getElem_mem hlt
      -- the number of the receiver fits into the byte that is passed on
      have hrecv : (UInt8.ofNat recvId).toNat = recvId := by
        rw [toNat_ofNat, ← h.views.dst_of_mem_window hmem]
        exact Nat.mod_eq_of_lt (UInt8.toNat_lt _)
      obtain ⟨host₁, hretransmit, hdup, hlength, hfound⟩ :=
        h.views.retransmitFrame_found (by rwa [hrecv]) rfl h.found
      obtain ⟨_, hresends⟩ := retransmitFrame_resends hretransmit
      obtain ⟨v₁, hsteps, hok⟩ := hresends.steps h.views
      have his₁ (j : ℕ) (hj : j ∈ is) : j < cqGetLengthSend recvId host₁ := by
        rw [cqGetLengthSend, hlength]
        exact his'.2 j hj
      rw [hslot]
      dsimp only
      rw [hretransmit]
      exact ih (h.steps hW hsteps hok hdup hfound) his₁ _
    · exact ih h his'.2 _

omit [CDouble D] in
theorem SenderTracks.resendWindows (hW : cfg.windowSize ≤ 128) {frames : List Frame}
    {host : Host D} {v : ℕ → SendView} (h : SenderTracks cfg frames host v) (recvIds : List ℕ)
    (framesPerRtt : ℕ → ℤ) :
    ∃ framesPerRtt' host' v',
      Tcp.resendWindows cfg recvIds framesPerRtt host = .ok (framesPerRtt', host') ∧
      SenderTracks cfg frames host' v' := by
  induction recvIds generalizing framesPerRtt host v with
  | nil => exact ⟨framesPerRtt, host, v, rfl, h⟩
  | cons recvId recvIds ih =>
    rw [Tcp.resendWindows]
    split
    · exact ih h framesPerRtt
    · obtain ⟨_, host₁, v₁, hloop, h₁⟩ :=
        h.resendLoop hW (fun i hi => List.mem_range.mp hi) (framesPerRtt recvId)
      rw [hloop]
      exact ih h₁ _

omit [CDouble D] in
theorem sendLoop_retransmits (currTimeval : TimeVal) (kept frames : List Frame)
    (framesPerRtt : ℕ → ℤ) (additionalTs : ℤ) (host : Host D) :
    (sendLoop cfg currTimeval kept frames framesPerRtt additionalTs host).2.dupAcksSeqNum =
        host.dupAcksSeqNum ∧
      (sendLoop cfg currTimeval kept frames framesPerRtt additionalTs host).2.log.retransmits =
        host.log.retransmits := by
  induction frames generalizing kept framesPerRtt additionalTs host with
  | nil => exact ⟨rfl, rfl⟩
  | cons frame frames ih =>
    rw [sendLoop]
    split
    · exact ih ..
    · constructor
      · refine (ih ..).1.trans ?_
        rw [cqAppendItemSend]
        split <;> rfl
      · refine (ih ..).2.trans ?_
        rw [cqAppendItemSend]
        split <;> rfl

/-- **`handle_outgoing_frames`** finds every frame that it retransmits. -/
theorem SenderTracks.handleOutgoingFrames (hW : cfg.windowSize ≤ 128) {frames : List Frame}
    {host : Host D} {v : ℕ → SendView} (h : SenderTracks cfg frames host v)
    (currTimeval : TimeVal) :
    ∃ host' v', Tcp.handleOutgoingFrames cfg currTimeval host = .ok host' ∧
      SenderTracks cfg frames host' v' := by
  obtain ⟨framesPerRtt, host₁, v₁, hresend, h₁⟩ := h.resendWindows hW (List.range cfg.numHosts)
    (fun i => CDouble.toInt (host.cc i).cwnd)
  obtain ⟨hdup, hretransmits⟩ := @sendLoop_retransmits _ cfg
    (afterLatestTimeout currTimeval host.latestTimeout) [] host₁.bufferedOutframesHead framesPerRtt
    0 host₁
  obtain ⟨v', hsteps, hok⟩ := sendLoop_steps (by omega)
    (afterLatestTimeout currTimeval host.latestTimeout) [] host₁.bufferedOutframesHead
    framesPerRtt 0 h₁.views (by simp)
  rw [Tcp.handleOutgoingFrames]
  dsimp only
  rw [hresend]
  refine ⟨_, v', rfl, ?_⟩
  exact h₁.steps hW hsteps (hok.of_eq rfl (fun _ => rfl) rfl rfl rfl) hdup
    (by rw [hretransmits]; exact h₁.found)

/-! ## The turn of a sender -/

/-- A host that `run_senders` wakes up, before the first handler. -/
def wokenUp (host : Host D) : Host D :=
  { host with ticks := host.ticks + 1, roundTripNum := host.roundTripNum + 1, csvOut := true }

/-- **A turn of a sender** finds every frame that it retransmits, and has no fault. -/
theorem SenderTracks.runSender (hW : cfg.windowSize ≤ 127) {host : Host D} {v : ℕ → SendView}
    (h : SenderTracks cfg host.incomingFramesHead host v)
    (hsrc : ∀ frame ∈ host.incomingFramesHead, frameValid frame = true →
      frame.srcId.toNat < cfg.numHosts)
    (hwindow : noEmptyFastRetransmit cfg host.incomingFramesHead
      (handleInputCmds (wokenUp host)) = true) :
    ∃ host' v', Tcp.runSender cfg host = .ok host' ∧
      SenderTracks cfg host'.incomingFramesHead host' v' := by
  cases hwakes : wakesUp cfg (host.env.clock host.ticks) { host with ticks := host.ticks + 1 } with
  | false =>
    simp only [Tcp.runSender, gettimeofday, hwakes, Bool.false_eq_true, if_false]
    exact ⟨_, v, rfl, h.views.of_eq rfl (fun _ => rfl) rfl rfl rfl, h.upToDate, h.found⟩
  | true =>
    have h₀ : SenderTracks cfg host.incomingFramesHead (wokenUp host) v :=
      ⟨h.views.of_eq rfl (fun _ => rfl) rfl rfl rfl, h.upToDate, h.found⟩
    obtain ⟨news, hcreates, -⟩ := handleInputCmds_creates (wokenUp host)
    obtain ⟨_, _, heq⟩ := hcreates.eq
    obtain ⟨v₁, hsteps₁, hok₁⟩ := handleInputCmds_steps h₀.views
    have h₁ : SenderTracks cfg host.incomingFramesHead (handleInputCmds (wokenUp host)) v₁ :=
      h₀.steps (by omega) hsteps₁ hok₁ (by rw [heq]) (by rw [heq]; exact h₀.found)
    obtain ⟨host₂, v₂, hacks, h₂⟩ :=
      h₁.handleIncomingAcksLoop hW (show ∀ id, acksFrom id [] = [] from fun _ => rfl) hsrc hwindow
    have hincoming : (handleInputCmds (wokenUp host)).incomingFramesHead =
        host.incomingFramesHead := by rw [heq]; rfl
    obtain ⟨v₃, hsteps₃, hok₃⟩ :=
      handleTimedoutFrames_steps (host.env.clock host.ticks) h₂.views
    obtain ⟨⟨_, _, htimeout, -⟩, -⟩ :=
      @handleTimedoutFrames_spec _ cfg _ (host.env.clock host.ticks) host₂
    have h₃ : SenderTracks cfg host₂.incomingFramesHead
        (handleTimedoutFrames cfg (host.env.clock host.ticks) host₂) v₃ :=
      h₂.steps (by omega) hsteps₃ hok₃ (by rw [htimeout]) (by rw [htimeout]; exact h₂.found)
    obtain ⟨host₄, v₄, hout, h₄⟩ :=
      h₃.handleOutgoingFrames (by omega) (host.env.clock host.ticks)
    have hround : sendRound cfg (host.env.clock host.ticks) (wokenUp host) = .ok host₄ := by
      rw [sendRound, handleIncomingAcks, hincoming, hacks]
      exact hout
    have hkept : host₄.incomingFramesHead = host₂.incomingFramesHead := by
      obtain ⟨_, _, _, _, _, _, _, _, _, _, _, hmoves⟩ := (handleOutgoingFrames_moves hout).eq
      rw [hmoves, htimeout]
    rw [← hkept] at h₄
    have hrun : Tcp.runSender cfg host = .ok (updateActive cfg host₄) := by
      unfold wokenUp at hround
      simp only [Tcp.runSender, gettimeofday, hwakes, if_true, hround]
    exact ⟨_, v₄, hrun, h₄.views.of_eq rfl (fun _ => rfl) rfl rfl rfl, h₄.upToDate, h₄.found⟩

/-! ## Who sends acknowledgements -/

/-- Every valid frame that waits to be handled says that it is from a host that there is. -/
def KnownSources (cfg : SysConfig D) (w : World D) : Prop :=
  ∀ i < cfg.numHosts, ∀ frame ∈ (w.hosts i).incomingFramesHead, frameValid frame = true →
    frame.srcId.toNat < cfg.numHosts

omit [CDouble D] in
theorem KnownSources.switch {P : Frame → Prop} {w w' : World D} (h : KnownSources cfg w)
    (hw : ∀ i < cfg.numHosts, HostInv i P P (w.hosts i)) (hsteps : SwitchSteps cfg w w') :
    KnownSources cfg w' := by
  induction hsteps with
  | refl => exact h
  | tail hsteps' hstep ih =>
    have hhosts := SwitchSteps.hostInv hsteps' hw
    cases hstep with
    | rand => exact ih
    | drop id frame rest hid hout hcheck =>
      intro i hi f hmem
      rw [hosts_putOutgoing] at hmem
      exact ih i hi f hmem
    | deliver id frame frame' rest hid hout hcheck harrives =>
      intro i hi f hmem hvalid
      rw [hosts_putIncoming, hosts_putOutgoing] at hmem
      rcases List.mem_append.mp hmem with hold | hnew
      · exact ih i hi f hold hvalid
      · obtain rfl : f = frame' := by
          split at hnew
          · exact List.mem_singleton.mp hnew
          · exact absurd hnew List.not_mem_nil
        -- it is valid, so it is as host `id` has made it
        have hframe := (hhosts id hid).holds.outgoing frame (by rw [hout]; exact List.mem_cons_self)
        rw [harrives.eq_of_valid hframe.valid hvalid, hframe.srcId, toNat_ofNat]
        omega

theorem KnownSources.step {s s' : State D} (hphase : PhaseInv cfg s)
    (h : KnownSources cfg s.world) (hstep : step cfg s = .ok s') : KnownSources cfg s'.world := by
  have hphases (point : Point) (P : Frame → Prop) (w : World D)
      (hin : ∀ i, point.incoming i = NoFrame) (hout : ∀ i, point.outgoing i = P)
      (hinv : PhaseInv cfg ⟨point, w⟩) (i : ℕ) (hi : i < cfg.numHosts) :
      HostInv i P P (w.hosts i) := by
    have hhost := hinv.hosts i hi
    simp only [hin, hout] at hhost
    exact hhost.mono (fun _ hf => hf.elim) (fun _ hf => hf)
  cases step_cases hstep with
  | input w w' rands order hreads horder =>
    intro i hi frame hmem
    obtain ⟨_, heq, -⟩ := hreads.hosts i
    exact h i hi frame (by rw [← congrArg Host.incomingFramesHead heq]; exact hmem)
  | sender w j todo host hrun =>
    intro i hi frame hmem
    rw [hosts_setHost] at hmem
    split at hmem
    · rename_i hij
      rw [runSender_incoming hrun] at hmem
      exact h j (hij ▸ hi) frame (List.mem_of_mem_filter hmem)
    · exact h i hi frame hmem
  | dataFrames w w' rands order hdata horder =>
    obtain ⟨hsteps, -⟩ := sendDataFrames_steps hphase.ports hdata
    exact h.switch (hphases (.senders []) IsData w (fun _ => rfl) (fun _ => rfl) hphase)
      (hsteps.tail (.rand w' rands))
  | receiver w j todo =>
    intro i hi frame hmem
    rw [hosts_setHost] at hmem
    split at hmem
    · obtain ⟨_, _, _, _, _, _, _, _, _, heq⟩ := handleIncomingFrames_eq cfg (w.hosts j)
      rw [heq] at hmem
      exact absurd hmem List.not_mem_nil
    · exact h i hi frame hmem
  | ackFrames w w' hacks =>
    obtain ⟨hsteps, -⟩ := sendAckFrames_steps hacks
    exact h.switch (hphases (.receivers []) IsAck w (fun _ => rfl) (fun _ => rfl) hphase) hsteps
  | exit w hexit => exact h
  | again w => exact h
  | exited w => exact h

theorem KnownSources.run {hostEnv : ℕ → HostEnv} {env : WorldEnv} {n : ℕ} {s : State D}
    (h : steps cfg n ⟨.top, init cfg hostEnv env⟩ = .ok s) : KnownSources cfg s.world := by
  have hinv := steps_invariant (I := fun s => PhaseInv cfg s ∧ KnownSources cfg s.world)
    (P := fun _ => True)
    ⟨PhaseInv.start hostEnv env, fun _ _ _ hmem => absurd hmem List.not_mem_nil⟩
    (fun s s' hs _ hstep => ⟨hs.1.step hstep, hs.2.step hs.1 hstep⟩) (fun _ _ _ _ => trivial) h
  exact hinv.2

/-! ## Runs -/

variable (cfg) in
/-- What a host has noted when it is not at work as a sender: the latest ACK of every receiver, and
that every retransmission so far has found its frame. -/
structure NotesAcks (host : Host D) : Prop where
  latest : ∀ r < cfg.numHosts, host.dupAcksSeqNum r = ackSeq (slotPosition r 0 host)
  found : ∀ call ∈ host.log.retransmits, call.found = true

omit [CDouble D] in
/-- The first frame of the window is at the position up to which frames have left it. -/
theorem SendMatch.slotPosition_eq {frames inFlight : List Frame} {acks : List UInt8} {W r : ℕ}
    {host : Host D} {v : ℕ → SendView} {L : Link Frame} (h : SendMatch inFlight acks (v r) L)
    (hL : L.Inv W) (hok : SenderOk cfg frames host v) : slotPosition r 0 host = L.base := by
  have hbase := hL.base_le_next
  have hnext := hL.next_le
  rw [slotPosition, (hok r).1.created, (hok r).1.backlog, hok.length_window, h.length_window hL,
    h.created, h.backlog, List.length_drop]
  omega

theorem NotesAcks.initHost (i : ℕ) (env : HostEnv) : NotesAcks cfg (initHost cfg i env) where
  latest _ _ := rfl
  found _ hcall := absurd hcall List.not_mem_nil

omit [CDouble D] in
theorem NotesAcks.sameSender {host host' : Host D} (h : NotesAcks cfg host)
    (hsame : SameSender host host') : NotesAcks cfg host' := by
  obtain ⟨_, _, _, _, _, _, _, _, _, _, _, rfl⟩ := hsame
  exact ⟨h.latest, h.found⟩

variable (cfg) in
/-- The host whose turn it is in `run_senders` has no ACK for a retransmission from an empty
window. -/
def AcksMeetFrames (s : State D) : Prop :=
  ∀ i ∈ s.point.sendersTodo.head?,
    noEmptyFastRetransmit cfg (s.world.hosts i).incomingFramesHead
      (handleInputCmds (wokenUp (s.world.hosts i))) = true

instance (s : State D) : Decidable (AcksMeetFrames cfg s) :=
  inferInstanceAs (Decidable (∀ _ ∈ s.point.sendersTodo.head?, _))

/-- The turn of a sender in a state of a run. -/
theorem NotesAcks.runSender (hW : cfg.windowSize ≤ 127) {s : State D} {i : ℕ} {todo : List ℕ}
    (hphase : PhaseInv cfg s) (hdelivery : DeliveryInv cfg s.world)
    (hsmall : SmallSenders cfg s.world) (hsrc : KnownSources cfg s.world)
    (hacks : AcksMeetFrames cfg s) (hpoint : s.point = .senders (i :: todo))
    (hnotes : NotesAcks cfg (s.world.hosts i)) :
    ∃ host', Tcp.runSender cfg (s.world.hosts i) = .ok host' ∧ NotesAcks cfg host' := by
  have hi : i < cfg.numHosts := hphase.todo_lt i (by rw [hpoint]; exact List.mem_cons_self)
  have hhost := hphase.hosts i hi
  simp only [hpoint, Point.incoming, Point.outgoing, List.mem_cons_self, if_true] at hhost
  obtain ⟨v, hok, -⟩ := hdelivery.senders i hi
  have htracks : SenderTracks cfg (s.world.hosts i).incomingFramesHead (s.world.hosts i) v := by
    refine ⟨hok, fun r hr => ?_, hnotes.found⟩
    obtain ⟨L, hL, hrel⟩ := hdelivery.links hsmall i hi r hr
    have hmatch := hrel.sendMatch hhost hok
    refine ⟨_, _, L, hL, hmatch, ?_⟩
    rw [hnotes.latest r hr, hmatch.slotPosition_eq hL hok]
  obtain ⟨host', v', hrun, htracks'⟩ :=
    htracks.runSender hW (hsrc i hi) (hacks i (by rw [hpoint]; rfl))
  refine ⟨host', hrun, fun r hr => ?_, htracks'.found⟩
  obtain ⟨_, _, L, hL, hmatch, hlatest⟩ := htracks'.upToDate r hr
  rw [hlatest, hmatch.slotPosition_eq hL htracks'.views]

/-- **Every retransmission finds its frame**, as long as no host whose number does not fit into a
byte has a command, and no third duplicate of an ACK is handled in congestion avoidance with the
window empty. -/
theorem every_retransmission_finds_frame (cfg : SysConfig D) (hW : cfg.windowSize ≤ 127)
    (hostEnv : ℕ → HostEnv) (env : WorldEnv) (n : ℕ)
    (hsmall : RunMeets cfg (SmallCommands cfg) n ⟨.top, init cfg hostEnv env⟩)
    (hacks : RunMeets cfg (AcksMeetFrames cfg) n ⟨.top, init cfg hostEnv env⟩) :
    (∀ e, steps cfg n ⟨.top, init cfg hostEnv env⟩ = .error e →
      e ≠ .uninitialisedSlot ∧ e ≠ .nullFrame) ∧
    ∀ state, steps cfg n ⟨.top, init cfg hostEnv env⟩ = .ok state → ∀ i < cfg.numHosts,
      ∀ call ∈ (state.world.hosts i).log.retransmits, call.found = true := by
  have hturn (m : ℕ) (hm : m < n) (s : State D)
      (hs : steps cfg m ⟨.top, init cfg hostEnv env⟩ = .ok s) (i : ℕ) (todo : List ℕ)
      (hpoint : s.point = .senders (i :: todo)) (hnotes : NotesAcks cfg (s.world.hosts i)) :
      ∃ host', runSender cfg (s.world.hosts i) = .ok host' ∧ NotesAcks cfg host' :=
    hnotes.runSender hW (PhaseInv.run hs) (DeliveryInv.run (by omega) hs)
      (SmallSenders.run (fun k hk => hsmall k (by omega)) hs) (KnownSources.run hs)
      (hacks m hm s hs) hpoint
  have hnotes (m : ℕ) (hm : m ≤ n) (s : State D)
      (hs : steps cfg m ⟨.top, init cfg hostEnv env⟩ = .ok s) :
      ∀ i < cfg.numHosts, NotesAcks cfg (s.world.hosts i) := by
    refine hosts_invariant (I := fun _ host => NotesAcks cfg host)
      (P := fun s => ∀ i todo, s.point = .senders (i :: todo) → NotesAcks cfg (s.world.hosts i) →
        ∃ host', runSender cfg (s.world.hosts i) = .ok host' ∧ NotesAcks cfg host')
      (fun i _ => NotesAcks.initHost i (hostEnv i)) (fun _ _ _ hsame h => h.sameSender hsame) ?_
      (fun k hk s hs => hturn k (by omega) s hs) hs
    intro s i todo host' _ hok hpoint h hrun
    obtain ⟨host₁, hrun₁, h₁⟩ := hok i todo hpoint h
    obtain rfl := Except.ok.inj (hrun₁.symm.trans hrun)
    exact h₁
  constructor
  · intro e herror
    obtain ⟨m, hm, s, hs, hstep⟩ := exists_of_steps_error herror
    have hphase := PhaseInv.run hs
    rcases step_error hphase.ports hstep with ⟨i, todo, hpoint, hrun⟩ | rfl | rfl
    · have hi : i < cfg.numHosts := hphase.todo_lt i (by rw [hpoint]; exact List.mem_cons_self)
      obtain ⟨host', hok, -⟩ := hturn m hm s hs i todo hpoint (hnotes m hm.le s hs i hi)
      rw [hok] at hrun
      simp at hrun
    · simp
    · simp
  · intro state hstate i hi
    exact (hnotes n le_rfl state hstate i hi).found

/-- Host 0 is told to send a message to host 1, and the frame is corrupted when it is first sent. -/
def corruptedOnceEnv : WorldEnv :=
  ⟨fun k => if k = 9 then 0 else 998,
    fun k => if k = 0 then [.scanned 4 "msg" 0 1 [97]] else []⟩

/-- A clock that advances by a second with every reading. -/
def HostEnv.ticking : HostEnv := ⟨fun k => ⟨k, 0⟩, fun _ => .zero, fun _ _ => 0⟩

set_option maxRecDepth 100000 in
/-- The first rounds of such a run: the frame times out, is found and sent again, and its ACK is
handled. -/
theorem every_retransmission_finds_frame_once :
    ∃ state, steps (lossyConfig 1 (by decide)) 20
        ⟨.top, init (lossyConfig 1 (by decide)) (fun _ => .ticking) corruptedOnceEnv⟩ = .ok state ∧
      (state.world.hosts 0).log.retransmits.length = 1 ∧
      cqGetLengthSend 1 (state.world.hosts 0) = 0 ∧
      ∀ call ∈ (state.world.hosts 0).log.retransmits, call.found = true := by
  obtain ⟨state, hstate, hlen⟩ := exists_of_map_eq (e := steps (lossyConfig 1 (by decide)) 20
      ⟨.top, init (lossyConfig 1 (by decide)) (fun _ => .ticking) corruptedOnceEnv⟩)
    (f := fun s => ((s.world.hosts 0).log.retransmits.length,
      cqGetLengthSend 1 (s.world.hosts 0))) (b := (1, 0)) (by decide +kernel)
  obtain ⟨hcalls, hempty⟩ := Prod.mk.inj hlen
  refine ⟨state, hstate, hcalls, hempty, ?_⟩
  exact (every_retransmission_finds_frame (lossyConfig 1 (by decide)) (by decide)
    (fun _ => .ticking) corruptedOnceEnv 20
    (fun _ _ _ _ i hi hge => absurd (show i < 2 from hi) (by omega))
    (RunMeets.of_all (by decide +kernel))).2 state hstate 0 (by decide)

/-! ## An empty window -/

/-- Host 0 is told to send seven messages to host 1 and later one more, and of the frames and ACKs
three are corrupted. -/
def emptyWindowEnv : WorldEnv :=
  ⟨fun k => if k = 29 ∨ k = 36 ∨ k = 61 then 0 else 998,
    fun k =>
      if k = 0 then List.replicate 7 (.scanned 4 "msg" 0 1 [97])
      else if k = 2 then [.scanned 4 "msg" 0 1 [97]]
      else []⟩

/-- A clock that stands still for five readings, and then for ever a second later. -/
def HostEnv.jumping : HostEnv :=
  ⟨fun k => if k < 5 then ⟨0, 0⟩ else ⟨1, 0⟩, fun _ => .zero, fun _ _ => 0⟩

set_option maxRecDepth 1000000 in
/-- **A retransmission without a frame.** -/
theorem retransmission_without_frame :
    steps (lossyConfig 7 (by decide)) 58
        ⟨.top, init (lossyConfig 7 (by decide)) (fun _ => .jumping) emptyWindowEnv⟩ =
      .error .uninitialisedSlot :=
  eq_error_of_tryCatch (by decide +kernel)

end NetworkSim.Tcp
