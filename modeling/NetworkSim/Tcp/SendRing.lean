import NetworkSim.Foundations.BoundedFifo
import NetworkSim.Tcp.Timers

/-!
# The send ring as a family of queues

Seen from outside, the send windows of a host are bounded queues, one for each receiver:
`cq_append_item_send` puts an item behind the others and `cq_ndequeue_send` drops items from the
front. The array, the starts and the lengths hold such queues (`HoldsQueues`) after every sequence
of calls (`ringCall_simulates`), and a slot of the array has a frame exactly when it is in use
(`FramesInUse`), which is what the scan for `awaiting_ack` relies on
(`send_ring_is_fifo`).
-/

namespace NetworkSim.Tcp

open BoundedFifo

variable {D : Type} {cfg : SysConfig D}

/-! ## Slots in use -/

variable (cfg) in
/-- The slots of the send windows that are in use hold a frame, and the others do not. -/
structure FramesInUse (host : Host D) : Prop where
  tidy : Tidy cfg host
  used : ∀ id, ∀ slot ∈ sendWin cfg id host, slot.frame ≠ none

namespace FramesInUse

variable {host : Host D}

/-- Fields that do not matter here. -/
theorem congr {host' : Host D} (h : FramesInUse cfg host)
    (hwin : host'.sendWindow = host.sendWindow)
    (hstart : host'.sendWindowStart = host.sendWindowStart)
    (hlen : host'.sendWindowLength = host.sendWindowLength) : FramesInUse cfg host' := by
  have hitem (id i : ℕ) : cqGetItemSend cfg id i host' = cqGetItemSend cfg id i host := by
    simp only [cqGetItemSend, cqSlotSend, hwin, hstart]
  have hlength (id : ℕ) : cqGetLengthSend id host' = cqGetLengthSend id host := by
    simp only [cqGetLengthSend, hlen]
  refine ⟨⟨fun id => ?_, fun id i hle hi => ?_⟩, fun id slot hslot => ?_⟩
  · rw [hlength]
    exact h.tidy.bound id
  · rw [hlength] at hle
    rw [hitem]
    exact h.tidy.unused id i hle hi
  · obtain ⟨i, hi, rfl⟩ := mem_sendWin.mp hslot
    rw [hlength] at hi
    rw [hitem]
    exact h.used id _ (mem_sendWin.mpr ⟨i, hi, rfl⟩)

/-- A slot of the array has a frame exactly when it is in use. -/
theorem frame_ne_none_iff (h : FramesInUse cfg host) (j : ℕ) :
    (host.sendWindow j).frame ≠ none ↔ ∃ i < cqGetLengthSend (j / cfg.windowSize) host,
      cqSlotSend cfg (j / cfg.windowSize) i host = j := by
  constructor
  · intro hframe
    obtain ⟨i, hi, hslot⟩ := Ring.exists_slot cfg.windowSize_pos
      (host.sendWindowStart (j / cfg.windowSize)).toNat j
    refine ⟨i, ?_, hslot⟩
    by_contra hlen
    refine hframe ?_
    rw [← hslot]
    exact h.tidy.unused _ i (not_lt.mp hlen) hi
  · rintro ⟨i, hi, hslot⟩
    rw [← hslot]
    exact h.used _ _ (mem_sendWin.mpr ⟨i, hi, rfl⟩)

/-- The scan of `run_senders` finds a frame exactly when some window is in use. -/
theorem awaitingAck_iff (h : FramesInUse cfg host) :
    (updateActive cfg host).awaitingAck = true ↔
      ∃ id < cfg.numHosts, 0 < cqGetLengthSend id host := by
  simp only [updateActive, List.any_eq_true, List.mem_range, Option.isSome_iff_ne_none]
  constructor
  · rintro ⟨j, hj, hframe⟩
    exact h.tidy.exists_window hj hframe
  · rintro ⟨id, hid, hlen⟩
    exact ⟨_, cqSlotSend_lt hid 0 host, h.used id _ (mem_sendWin.mpr ⟨0, hlen, rfl⟩)⟩

theorem senderMoves (hW : cfg.windowSize ≤ 255) {host' : Host D} (h : FramesInUse cfg host)
    (hmoves : SenderMoves cfg host host') : FramesInUse cfg host' := by
  refine ⟨h.tidy.senderMoves hW hmoves, ?_⟩
  induction hmoves with
  | refl => exact h.used
  | @tail host₁ _ hmoves hmove ih =>
    have htidy := h.tidy.senderMoves hW hmoves
    cases hmove with
    | resends host' sent hresends =>
      have hframes := hresends.frames
      obtain ⟨_, _, _, _, _, _, _, rfl⟩ := hresends.eq
      intro id slot hslot
      obtain ⟨i, hi, rfl⟩ := mem_sendWin.mp hslot
      have hold := ih id _ (mem_sendWin.mpr ⟨i, hi, rfl⟩)
      exact fun hnone => hold ((hframes _).symm.trans hnone)
    | dequeue id n =>
      intro id' slot hslot
      rw [sendWin_cqNdequeueSend hW (htidy.bound id)] at hslot
      split at hslot
      · exact ih id slot (List.mem_of_mem_drop hslot)
      · exact ih id' slot hslot
    | send frame hframe sent timeout =>
      intro id slot hslot
      by_cases hlt : cqGetLengthSend frame.dstId.toNat host₁ < cfg.windowSize
      · rw [sendWin_cqAppendItemSend hW (by exact hlt)] at hslot
        split at hslot
        · rcases List.mem_append.mp hslot with hold | hnew
          · exact ih _ slot hold
          · rw [List.mem_singleton.mp hnew]
            exact Option.some_ne_none frame
        · exact ih id slot hslot
      · have hfull := le_antisymm (htidy.bound frame.dstId.toNat) (not_lt.mp hlt)
        rw [cqAppendItemSend, if_pos (by exact hfull)] at hslot
        exact ih id slot hslot
    | backlog frames hframes latestTimeout => exact ih

variable [CDouble D]

theorem keptInTurns (hW : cfg.windowSize ≤ 255) :
    KeptInTurns cfg (fun _ host => FramesInUse cfg host) where
  turn := fun h _ _ => h.congr rfl rfl rfl
  commands := by
    intro _ host h
    obtain ⟨_, hcreates, -⟩ := handleInputCmds_creates host
    obtain ⟨_, _, heq⟩ := hcreates.eq
    rw [heq]
    exact h.congr rfl rfl rfl
  ack := fun _ h hack => h.senderMoves hW (handleAck_moves hack)
  incoming := fun h _ => h.congr rfl rfl rfl
  timeout := fun h =>
    h.senderMoves hW (.single (.resends _ _ [] (handleTimedoutFrames_resends _ _)))
  send := fun h hsend => h.senderMoves hW (handleOutgoingFrames_moves hsend)
  flags := fun h _ _ => h.congr rfl rfl rfl

/-- **In every state of a run** the slots that are in use are those with a frame. -/
theorem run (hW : cfg.windowSize ≤ 255) {hostEnv : ℕ → HostEnv} {env : WorldEnv} {n : ℕ}
    {s : State D} (h : steps cfg n ⟨.top, init cfg hostEnv env⟩ = .ok s) :
    ∀ i < cfg.numHosts, FramesInUse cfg (s.world.hosts i) := by
  refine hosts_invariant (I := fun _ host => FramesInUse cfg host) (P := fun _ => True)
    (fun i _ => ⟨⟨fun _ => Nat.zero_le _, fun _ _ _ _ => rfl⟩, fun id slot hslot => ?_⟩) ?_ ?_
    (fun _ _ _ _ => trivial) h
  · exact absurd hslot List.not_mem_nil
  · intro i host host' hsame hinv
    obtain ⟨_, _, _, _, _, _, _, _, _, _, _, rfl⟩ := hsame
    exact hinv.congr rfl rfl rfl
  · intro s i todo host' _ _ _ hinv hrun
    exact (FramesInUse.keptInTurns hW).runSender (host'.env.clock 0) hinv hrun

end FramesInUse

/-! ## Calls -/

/-- The slot that holds a frame and its timer. -/
def usedSlot (item : Frame × TimeVal) : SendWindowSlot := ⟨some item.1, some item.2⟩

variable (cfg) in
/-- A call of `cq_append_item_send` or of `cq_ndequeue_send`. -/
def ringCall (host : Host D) : Call ℕ (Frame × TimeVal) → Host D
  | .enqueue id item => cqAppendItemSend cfg id item.1 item.2 host
  | .dequeue id n => cqNdequeueSend cfg id n host

variable (cfg) in
/-- The send windows of a host hold the items of `queues`, and nothing else is in the array. -/
structure HoldsQueues (host : Host D) (queues : ℕ → List (Frame × TimeVal)) : Prop where
  tidy : Tidy cfg host
  start_lt : ∀ id, (host.sendWindowStart id).toNat < cfg.windowSize
  sendWin_eq : ∀ id, sendWin cfg id host = (queues id).map usedSlot

namespace HoldsQueues

variable {host : Host D} {queues : ℕ → List (Frame × TimeVal)}

theorem length_eq (h : HoldsQueues cfg host queues) (id : ℕ) :
    (queues id).length = cqGetLengthSend id host := by
  rw [← length_sendWin cfg, h.sendWin_eq, List.length_map]

theorem framesInUse (h : HoldsQueues cfg host queues) : FramesInUse cfg host := by
  refine ⟨h.tidy, fun id slot hslot => ?_⟩
  rw [h.sendWin_eq] at hslot
  obtain ⟨item, -, rfl⟩ := List.mem_map.mp hslot
  exact Option.some_ne_none item.1

theorem append (hW : cfg.windowSize ≤ 255) (h : HoldsQueues cfg host queues) (id : ℕ)
    (item : Frame × TimeVal) :
    HoldsQueues cfg (ringCall cfg host (.enqueue id item))
      fun k => afterCall cfg.windowSize k (queues k) (.enqueue id item) := by
  refine ⟨h.tidy.cqAppendItemSend hW id item.1 item.2, fun k => ?_, fun k => ?_⟩
  · simp only [ringCall, cqAppendItemSend]
    split <;> exact h.start_lt k
  by_cases hlt : cqGetLengthSend id host < cfg.windowSize
  · rw [ringCall, sendWin_cqAppendItemSend hW hlt]
    split
    · rename_i hk
      subst hk
      rw [afterCall_enqueue _ _ (by rwa [h.length_eq]), List.map_append, h.sendWin_eq]
      rfl
    · rename_i hk
      rw [afterCall_of_ne _ _ (Ne.symm hk), h.sendWin_eq]
  · -- the window is full, so the call only prints a message
    have hfull : cqGetLengthSend id host = cfg.windowSize :=
      le_antisymm (h.tidy.bound id) (not_lt.mp hlt)
    rw [ringCall, cqAppendItemSend, if_pos hfull, h.sendWin_eq]
    by_cases hk : id = k
    · subst hk
      rw [afterCall_full _ _ _ (by rw [h.length_eq, hfull])]
    · rw [afterCall_of_ne _ _ (show (Call.enqueue id item).key ≠ k from hk)]

theorem dequeue (hW : cfg.windowSize ≤ 255) (h : HoldsQueues cfg host queues) (id n : ℕ) :
    HoldsQueues cfg (ringCall cfg host (.dequeue id n))
      fun k => afterCall cfg.windowSize k (queues k) (.dequeue id n) := by
  refine ⟨h.tidy.cqNdequeueSend hW id n, fun k => ?_, fun k => ?_⟩
  · rw [ringCall, cqNdequeueSend_eq]
    simp only [Function.update_apply]
    split
    · rw [toNat_start hW]
      exact Nat.mod_lt _ cfg.windowSize_pos
    · exact h.start_lt k
  · rw [ringCall, sendWin_cqNdequeueSend hW (h.tidy.bound id)]
    split
    · rename_i hk
      subst hk
      rw [afterCall_dequeue, List.map_drop, h.sendWin_eq]
    · rename_i hk
      rw [afterCall_of_ne _ _ (Ne.symm hk), h.sendWin_eq]

end HoldsQueues

/-- **The windows implement the queues.** -/
theorem ringCall_simulates (hW : cfg.windowSize ≤ 255) :
    Simulates cfg.windowSize (HoldsQueues cfg) (ringCall cfg) where
  step {_ _} h c := by
    cases c with
    | enqueue id item => exact h.append hW id item
    | dequeue id n => exact h.dequeue hW id n

/-- A call for one receiver leaves the slots of the others alone, and where their windows lie. -/
theorem ringCall_other (host : Host D) (c : Call ℕ (Frame × TimeVal)) :
    (∀ j, j / cfg.windowSize ≠ c.key → (ringCall cfg host c).sendWindow j = host.sendWindow j) ∧
    ∀ id, id ≠ c.key → (ringCall cfg host c).sendWindowStart id = host.sendWindowStart id ∧
      (ringCall cfg host c).sendWindowLength id = host.sendWindowLength id := by
  cases c with
  | enqueue id item =>
    simp only [ringCall, cqAppendItemSend]
    split
    · exact ⟨fun _ _ => rfl, fun _ _ => ⟨rfl, rfl⟩⟩
    · refine ⟨fun j hj => Function.update_of_ne ?_ _ _,
        fun k hk => ⟨rfl, Function.update_of_ne hk ..⟩⟩
      rintro rfl
      exact hj (Ring.slot_div cfg.windowSize_pos id (host.sendWindowStart id).toNat _)
  | dequeue id n =>
    rw [ringCall, cqNdequeueSend_eq]
    refine ⟨fun j hj => ?_, fun k hk => ⟨Function.update_of_ne hk .., Function.update_of_ne hk ..⟩⟩
    have hsame := Ring.AgreeOn.refl cfg.windowSize (fun slot => slot) (j / cfg.windowSize)
      host.sendWindow
    exact hsame.clear_of_ne cfg.windowSize_pos hj _ _ _ j rfl

variable [CDouble D]

theorem HoldsQueues.start (i : ℕ) (env : HostEnv) :
    HoldsQueues cfg (initHost cfg i env) fun _ => [] where
  tidy := ⟨fun _ => Nat.zero_le _, fun _ _ _ _ => rfl⟩
  start_lt _ := cfg.windowSize_pos
  sendWin_eq _ := rfl

/-- **The send ring is a bounded queue for every receiver.** After any calls on the state that
`init_host` leaves, the slots of a window are the items of its queue, in their order; the starts
stay below `window_size`; a call for one receiver leaves the slots of the others alone; and a slot
of the array has a frame exactly when it is in use, so that the scan for `awaiting_ack` finds one
exactly when some window is not empty. -/
theorem send_ring_is_fifo (cfg : SysConfig D) (hW : cfg.windowSize ≤ 255) (i : ℕ) (env : HostEnv)
    (calls : List (Call ℕ (Frame × TimeVal))) :
    let host := calls.foldl (ringCall cfg) (initHost cfg i env)
    (∀ id, (List.range (cqGetLengthSend id host)).map (fun k => cqGetItemSend cfg id k host) =
      (afterCalls cfg.windowSize id calls).map usedSlot) ∧
    (∀ id, (host.sendWindowStart id).toNat < cfg.windowSize) ∧
    (∀ c j, j / cfg.windowSize ≠ c.key →
      (ringCall cfg host c).sendWindow j = host.sendWindow j) ∧
    (∀ c id, id ≠ c.key → sendWin cfg id (ringCall cfg host c) = sendWin cfg id host) ∧
    (∀ j, (host.sendWindow j).frame ≠ none ↔
      ∃ k < cqGetLengthSend (j / cfg.windowSize) host,
        cqSlotSend cfg (j / cfg.windowSize) k host = j) ∧
    ((updateActive cfg host).awaitingAck = true ↔
      ∃ id < cfg.numHosts, 0 < cqGetLengthSend id host) := by
  intro host
  have hrun : HoldsQueues cfg host fun id => afterCalls cfg.windowSize id calls :=
    (ringCall_simulates hW).run (.start i env) calls
  refine ⟨hrun.sendWin_eq, hrun.start_lt, fun c => (ringCall_other host c).1, fun c id hid => ?_,
    hrun.framesInUse.frame_ne_none_iff, hrun.framesInUse.awaitingAck_iff⟩
  rw [((ringCall_simulates hW).step hrun c).sendWin_eq, hrun.sendWin_eq,
    afterCall_of_ne _ _ (Ne.symm hid)]

/-- Two windows of two places: the third item for receiver 1 is refused, and after one has left, the
next one is put where the ring began. -/
theorem send_ring_is_fifo_wrapped :
    let calls : List (Call ℕ (Frame × TimeVal)) :=
      [.enqueue 1 (.zero, ⟨0, 0⟩), .enqueue 0 (.zero, ⟨0, 1⟩), .enqueue 1 (.zero, ⟨0, 2⟩),
        .enqueue 1 (.zero, ⟨0, 3⟩), .dequeue 1 1, .enqueue 1 (.zero, ⟨0, 4⟩)]
    let host := calls.foldl (ringCall (lossyConfig 2 Nat.two_pos))
      (initHost (lossyConfig 2 Nat.two_pos) 5 .still)
    (List.range (cqGetLengthSend 1 host)).map
        (fun k => cqGetItemSend (lossyConfig 2 Nat.two_pos) 1 k host) =
      [⟨some .zero, some ⟨0, 2⟩⟩, ⟨some .zero, some ⟨0, 4⟩⟩] := by
  exact (send_ring_is_fifo (lossyConfig 2 Nat.two_pos) (by decide) 5 .still _).1 1

end NetworkSim.Tcp
