import NetworkSim.Tcp.Rounds
import NetworkSim.Tcp.SendRing

/-!
# The diagnostics of the switch

At its end `send_data_frames` counts the slots of the host `host_send_cc_id` that have a frame, and
those whose frame has no timer, for the diagnostics of the pair `host_send_cc_id`,
`host_recv_cc_id`. The loop goes over the first `window_size` slots of the array, whatever the
receiver: these are the ring of receiver 0, in which exactly the slots in use have a frame. So the
counts are those of the window for receiver 0 (`numFilledSlots_eq`, `numTimedoutFrames_eq`), and
they describe the pair exactly when that window has the same counts as the pair's
(`diagnostics_describe_pair_iff`).
-/

namespace NetworkSim.Tcp

variable {D : Type} {cfg : SysConfig D}

/-! ## The loop -/

variable (cfg) in
/-- `num_filled_slots` after the loop at the end of `send_data_frames`. -/
def numFilledSlots (ccSender : Host D) : ℕ :=
  (List.range cfg.windowSize).foldl
    (fun numFilledSlots j =>
      if (ccSender.sendWindow j).frame ≠ none then numFilledSlots + 1 else numFilledSlots) 0

variable (cfg) in
/-- `num_timedout_frames` after the loop. -/
def numTimedoutFrames (ccSender : Host D) : ℕ :=
  (List.range cfg.windowSize).foldl
    (fun numTimedoutFrames j =>
      if (ccSender.sendWindow j).frame ≠ none ∧ (ccSender.sendWindow j).timeout = none then
        numTimedoutFrames + 1
      else numTimedoutFrames) 0

/-! ## What it counts -/

/-- A counter that goes up at the elements with a property counts them. -/
theorem foldl_count {α : Type} (p : α → Prop) [DecidablePred p] (xs : List α) (n : ℕ) :
    xs.foldl (fun n x => if p x then n + 1 else n) n = n + xs.countP (fun x => decide (p x)) := by
  induction xs generalizing n with
  | nil => rfl
  | cons x xs ih =>
    rw [List.foldl_cons, ih, List.countP_cons]
    by_cases hx : p x
    · simp [hx]
      omega
    · simp [hx]

/-- The slots with a frame that the loop finds are those in use in the window for receiver 0. -/
theorem countP_scanned {host : Host D} (h : FramesInUse cfg host) (p : SendWindowSlot → Prop)
    [DecidablePred p] (hp : ∀ slot, p slot → slot.frame ≠ none) :
    (List.range cfg.windowSize).countP (fun j => decide (p (host.sendWindow j))) =
      (sendWin cfg 0 host).countP (fun slot => decide (p slot)) := by
  have hscan : (List.range cfg.windowSize).map host.sendWindow =
      Ring.contents cfg.windowSize host.sendWindow 0 0 cfg.windowSize := by
    refine List.map_congr_left fun j hj => ?_
    rw [Ring.slot, zero_add, Nat.mod_eq_of_lt (List.mem_range.mp hj), zero_mul, zero_add]
  have hring := (Ring.contents_perm cfg.windowSize_pos host.sendWindow 0
    (host.sendWindowStart 0).toNat).symm
  have hcount := hring.countP_eq (fun slot => decide (p slot))
  -- the slots behind those in use have no frame
  have hrest : (Ring.contents cfg.windowSize host.sendWindow 0
      (((host.sendWindowStart 0).toNat + cqGetLengthSend 0 host) % cfg.windowSize)
      (cfg.windowSize - cqGetLengthSend 0 host)).countP (fun slot => decide (p slot)) = 0 := by
    refine List.countP_eq_zero.mpr fun slot hslot hpslot => ?_
    rw [decide_eq_true_eq] at hpslot
    obtain ⟨i, hi, rfl⟩ := List.mem_map.mp hslot
    rw [Ring.slot_advance] at hpslot
    refine hp _ hpslot (h.tidy.unused 0 (cqGetLengthSend 0 host + i) (Nat.le_add_right ..) ?_)
    have := List.mem_range.mp hi
    omega
  have hsplit := @Ring.contents_add _ cfg.windowSize host.sendWindow 0
    (host.sendWindowStart 0).toNat (cqGetLengthSend 0 host)
    (cfg.windowSize - cqGetLengthSend 0 host)
  rw [Nat.add_sub_cancel' (h.tidy.bound 0)] at hsplit
  have hmap : (List.range cfg.windowSize).countP (fun j => decide (p (host.sendWindow j))) =
      ((List.range cfg.windowSize).map host.sendWindow).countP (fun slot => decide (p slot)) := by
    rw [List.countP_map]
    rfl
  rw [hmap, hscan, hcount, hsplit, List.countP_append, hrest, add_zero]
  rfl

/-- The filled slots counted are those of the window for receiver 0. -/
theorem numFilledSlots_eq {host : Host D} (h : FramesInUse cfg host) :
    numFilledSlots cfg host = cqGetLengthSend 0 host := by
  rw [numFilledSlots, foldl_count (fun j => (host.sendWindow j).frame ≠ none), zero_add,
    countP_scanned h (fun slot => slot.frame ≠ none) fun _ hslot => hslot,
    List.countP_eq_length.mpr fun slot hslot => decide_eq_true (h.used 0 slot hslot),
    length_sendWin]

/-- So are the frames without a timer. -/
theorem numTimedoutFrames_eq {host : Host D} (h : FramesInUse cfg host) :
    numTimedoutFrames cfg host = (nullTimers (sendWin cfg 0 host)).length := by
  rw [numTimedoutFrames, foldl_count (fun j => (host.sendWindow j).frame ≠ none ∧
    (host.sendWindow j).timeout = none), zero_add,
    countP_scanned h (fun slot => slot.frame ≠ none ∧ slot.timeout = none) fun _ hslot => hslot.1,
    nullTimers, ← List.countP_eq_length_filter]
  refine List.countP_congr fun slot hslot => ?_
  simp [h.used 0 slot hslot]

variable [CDouble D]

/-- **The diagnostics describe the configured pair** at the end of `send_data_frames` exactly when
the receiver is host 0, or the sender's window for host 0 has as many frames, and as many without a
timer, as the one for the receiver. -/
theorem diagnostics_describe_pair_iff (cfg : SysConfig D) (hW : cfg.windowSize ≤ 255)
    (hsend : cfg.hostSendCcId < cfg.numHosts) (hostEnv : ℕ → HostEnv) (env : WorldEnv) (n : ℕ)
    (s : State D) (h : steps cfg n ⟨.top, init cfg hostEnv env⟩ = .ok s)
    (w : World D) (hdata : sendDataFrames cfg s.world = .ok w) :
    let ccSender := w.hosts cfg.hostSendCcId
    (numFilledSlots cfg ccSender = cqGetLengthSend cfg.hostRecvCcId ccSender ∧
      numTimedoutFrames cfg ccSender =
        (nullTimers (sendWin cfg cfg.hostRecvCcId ccSender)).length) ↔
    cfg.hostRecvCcId = 0 ∨
      (cqGetLengthSend 0 ccSender = cqGetLengthSend cfg.hostRecvCcId ccSender ∧
        (nullTimers (sendWin cfg 0 ccSender)).length =
          (nullTimers (sendWin cfg cfg.hostRecvCcId ccSender)).length) := by
  intro ccSender
  have hlive : FramesInUse cfg ccSender := by
    obtain ⟨hsteps, -⟩ := sendDataFrames_steps (PhaseInv.run h).ports hdata
    obtain ⟨_, _, heq⟩ := hsteps.hosts_eq cfg.hostSendCcId
    have hcc : ccSender = _ := heq
    rw [hcc]
    exact (FramesInUse.run hW h _ hsend).congr rfl rfl rfl
  rw [numFilledSlots_eq hlive, numTimedoutFrames_eq hlive]
  constructor
  · exact .inr
  · rintro (hzero | hsame)
    · rw [hzero]
      exact ⟨rfl, rfl⟩
    · exact hsame

/-- The default configuration for the pair `s`, `r`. -/
def ccPairConfig (s r : ℕ) : SysConfig ℚ :=
  { ccBasicConfig with hostSendCcId := s, hostRecvCcId := r }

/-- Host 1 is told to send "hi" to host 0. -/
def helloZeroEnv : WorldEnv := ⟨fun k => k, fun _ => [.scanned 4 "msg" 1 0 [104, 105]]⟩

set_option maxRecDepth 10000 in
/-- The pair 1, 0 in the first round, with one frame on its way. -/
theorem diagnostics_describe_pair_iff_zero :
    ∃ s w, steps (ccPairConfig 1 0) 6
        ⟨.top, init (ccPairConfig 1 0) (fun _ => .still) helloZeroEnv⟩ = .ok s ∧
      sendDataFrames (ccPairConfig 1 0) s.world = .ok w ∧
      cqGetLengthSend 0 (w.hosts 1) = 1 ∧ numFilledSlots (ccPairConfig 1 0) (w.hosts 1) = 1 := by
  obtain ⟨s, hs, hlen⟩ := exists_of_map_eq (e := steps (ccPairConfig 1 0) 6
      ⟨.top, init (ccPairConfig 1 0) (fun _ => .still) helloZeroEnv⟩)
    (f := fun s => ((sendDataFrames (ccPairConfig 1 0) s.world).map
      fun w => cqGetLengthSend 0 (w.hosts 1)).toOption) (b := some 1) (by decide +kernel)
  obtain ⟨w, hw, hlen⟩ := exists_of_map_eq hlen
  have hcounts := (diagnostics_describe_pair_iff (ccPairConfig 1 0) (by decide) (by decide)
    (fun _ => .still) helloZeroEnv 6 s hs w hw).mpr (.inl rfl)
  exact ⟨s, w, hs, hw, hlen, hcounts.1.trans hlen⟩

set_option maxRecDepth 10000 in
/-- The pair 0, 1 in the first round of `helloEnv`: the frame on its way is not counted. -/
theorem pair_not_described :
    ∃ s w, steps (ccPairConfig 0 1) 6
        ⟨.top, init (ccPairConfig 0 1) (fun _ => .still) helloEnv⟩ = .ok s ∧
      s.point = .senders [] ∧ sendDataFrames (ccPairConfig 0 1) s.world = .ok w ∧
      cqGetLengthSend 1 (w.hosts 0) = 1 ∧ numFilledSlots (ccPairConfig 0 1) (w.hosts 0) = 0 := by
  obtain ⟨s, hs, hpoint⟩ := exists_of_map_eq (e := steps (ccPairConfig 0 1) 6
      ⟨.top, init (ccPairConfig 0 1) (fun _ => .still) helloEnv⟩)
    (f := fun s => (s.point, ((sendDataFrames (ccPairConfig 0 1) s.world).map fun w =>
      (cqGetLengthSend 1 (w.hosts 0), numFilledSlots (ccPairConfig 0 1) (w.hosts 0))).toOption))
    (b := (.senders [], some (1, 0))) (by decide +kernel)
  obtain ⟨hpoint, hcounts⟩ := Prod.mk.inj hpoint
  obtain ⟨w, hw, hcounts⟩ := exists_of_map_eq hcounts
  obtain ⟨hlen, hfilled⟩ := Prod.mk.inj hcounts
  exact ⟨s, w, hs, hpoint, hw, hlen, hfilled⟩

end NetworkSim.Tcp
