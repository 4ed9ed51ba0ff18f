import Mathlib.Tactic.Positivity
import NetworkSim.Tcp.Exit
import NetworkSim.Tcp.Turns

/-!
# Timers

A host that waits for something is woken up again (`active_hosts_have_timers`). A timeout clears all
timers of a window; `handle_outgoing_frames` then sets one for the first frame at least, since the
congestion window never falls below one (`Steady`), and holds a new frame back only where an older
one waits to be acknowledged (`sendLoop_timers`). The window of a host for itself is never looked
at, so a frame that a host addresses to itself waits for ever (`active_hosts_without_timer`).
-/

namespace NetworkSim.Tcp

variable {D : Type} {cfg : SysConfig D}

/-! ## The next timer to expire -/

theorem earlierTimeout_cases (nextTimeout timeout : Option TimeVal) :
    (earlierTimeout nextTimeout timeout = none ↔ nextTimeout = none ∧ timeout = none) ∧
    ∀ next, earlierTimeout nextTimeout timeout = some next →
      (∀ t, nextTimeout = some t → 0 ≤ timevalUsecdiff next t) ∧
        ∀ t, timeout = some t → 0 ≤ timevalUsecdiff next t := by
  have hself (t : TimeVal) : timevalUsecdiff t t = 0 := by simp [timevalUsecdiff]
  cases timeout with
  | none =>
    refine ⟨by simp [earlierTimeout], fun next hnext => ⟨fun t ht => ?_, by simp⟩⟩
    obtain rfl : next = t := Option.some.inj (hnext.symm.trans ht)
    exact (hself next).ge
  | some t =>
    cases nextTimeout with
    | none =>
      refine ⟨by simp [earlierTimeout], fun next hnext => ⟨by simp, fun t' ht => ?_⟩⟩
      obtain rfl : t = t' := Option.some.inj ht
      obtain rfl : t = next := Option.some.inj hnext
      exact (hself t).ge
    | some t₀ =>
      simp only [earlierTimeout]
      split
      · rename_i hearlier
        refine ⟨by simp, fun next hnext => ?_⟩
        obtain rfl := Option.some.inj hnext
        have hadd := timevalUsecdiff_add t t₀ t
        rw [hself] at hadd
        exact ⟨fun t' ht => Option.some.inj ht ▸ by omega,
          fun t' ht => Option.some.inj ht ▸ (hself t).ge⟩
      · rename_i hlater
        refine ⟨by simp, fun next hnext => ?_⟩
        obtain rfl := Option.some.inj hnext
        exact ⟨fun t' ht => Option.some.inj ht ▸ (hself t₀).ge,
          fun t' ht => Option.some.inj ht ▸ by omega⟩

/-- The earliest of a list of timers. -/
theorem foldl_earlierTimeout (timeouts : List (Option TimeVal)) (nextTimeout : Option TimeVal) :
    (timeouts.foldl earlierTimeout nextTimeout = none ↔
      nextTimeout = none ∧ ∀ timeout ∈ timeouts, timeout = none) ∧
    ∀ next, timeouts.foldl earlierTimeout nextTimeout = some next →
      (∀ t, nextTimeout = some t → 0 ≤ timevalUsecdiff next t) ∧
        ∀ t, some t ∈ timeouts → 0 ≤ timevalUsecdiff next t := by
  induction timeouts generalizing nextTimeout with
  | nil =>
    refine ⟨by simp, fun next hnext => ⟨fun t ht => ?_, by simp⟩⟩
    obtain rfl : next = t := Option.some.inj (hnext.symm.trans ht)
    simp [timevalUsecdiff]
  | cons timeout timeouts ih =>
    obtain ⟨hnone, hsome⟩ := earlierTimeout_cases nextTimeout timeout
    obtain ⟨ihnone, ihsome⟩ := ih (earlierTimeout nextTimeout timeout)
    rw [List.foldl_cons]
    refine ⟨by rw [ihnone, hnone, List.forall_mem_cons, and_assoc], fun next hnext => ?_⟩
    obtain ⟨hacc, hrest⟩ := ihsome next hnext
    -- what the round leaves is not later than either, and the rest not later than that
    have hround (t : TimeVal) (ht : nextTimeout = some t ∨ timeout = some t) :
        0 ≤ timevalUsecdiff next t := by
      cases hearlier : earlierTimeout nextTimeout timeout with
      | none =>
        obtain ⟨rfl, rfl⟩ := hnone.mp hearlier
        simp at ht
      | some t' =>
        have hlow := hacc t' hearlier
        have hhigh : 0 ≤ timevalUsecdiff t' t :=
          ht.elim ((hsome t' hearlier).1 t) ((hsome t' hearlier).2 t)
        have := timevalUsecdiff_add next t' t
        omega
    refine ⟨fun t ht => hround t (.inl ht), fun t ht => ?_⟩
    rcases List.mem_cons.mp ht with heq | hmem
    · exact hround t (.inr heq.symm)
    · exact hrest t hmem

variable (cfg) in
/-- The timers that `host_get_next_expiring_timeval` looks at. -/
def hostTimers (host : Host D) : List (Option TimeVal) :=
  (List.range cfg.numHosts).flatMap fun recvId =>
    if recvId = host.id then [] else (sendWin cfg recvId host).map (·.timeout)

theorem hostGetNextExpiringTimeval_eq (host : Host D) :
    hostGetNextExpiringTimeval cfg host = (hostTimers cfg host).foldl earlierTimeout none := by
  unfold hostGetNextExpiringTimeval hostTimers
  rw [List.foldl_flatMap]
  congr 1
  funext nextTimeout recvId
  split
  · rfl
  · rw [sendWin, Ring.contents, List.map_map, List.foldl_map]
    rfl

theorem mem_hostTimers {host : Host D} {timeout : Option TimeVal} :
    timeout ∈ hostTimers cfg host ↔ ∃ r < cfg.numHosts, r ≠ host.id ∧
      ∃ slot ∈ sendWin cfg r host, slot.timeout = timeout := by
  unfold hostTimers
  simp only [List.mem_flatMap, List.mem_range]
  refine exists_congr fun r => and_congr_right fun _ => ?_
  split
  · rename_i hself
    simp [hself]
  · rename_i hother
    simp [hother]

/-! ## Slots not in use -/

variable (cfg) in
/-- The slots of the send windows that are not in use hold no frame. -/
structure Tidy (host : Host D) : Prop where
  bound : SendWinBound cfg host
  unused : ∀ id i, cqGetLengthSend id host ≤ i → i < cfg.windowSize →
    (cqGetItemSend cfg id i host).frame = none

namespace Tidy

variable {host : Host D}

theorem cqNdequeueSend (hW : cfg.windowSize ≤ 255) (h : Tidy cfg host) (id n : ℕ) :
    Tidy cfg (cqNdequeueSend cfg id n host) := by
  refine ⟨h.bound.cqNdequeueSend id n, fun id' i hlen hi => ?_⟩
  rw [cqGetLengthSend_cqNdequeueSend] at hlen
  rw [cqNdequeueSend_eq]
  have hcleared (j : ℕ) (hj : (host.sendWindow j).frame = none) :
      (Ring.clear cfg.windowSize host.sendWindow id (host.sendWindowStart id).toNat
        (min n (cqGetLengthSend id host)) .empty j).frame = none := by
    rcases Ring.clear_apply cfg.windowSize host.sendWindow id (host.sendWindowStart id).toNat
      (min n (cqGetLengthSend id host)) .empty j with heq | heq <;> rw [heq]
    · rfl
    · exact hj
  by_cases hid : id' = id
  · subst hid
    rw [if_pos rfl] at hlen
    have hbound := h.bound id'
    have hslot : cqSlotSend cfg id' i (Tcp.cqNdequeueSend cfg id' n host) =
        Ring.slot cfg.windowSize id' (host.sendWindowStart id').toNat
          (min n (cqGetLengthSend id' host) + i) := by
      rw [cqNdequeueSend_eq, cqSlotSend]
      simp only [Function.update_self]
      rw [toNat_start hW]
      exact Ring.slot_advance ..
    rw [cqNdequeueSend_eq] at hslot
    rw [cqGetItemSend, hslot]
    by_cases hwrap : min n (cqGetLengthSend id' host) + i < cfg.windowSize
    · exact hcleared _ (h.unused id' _ (by omega) hwrap)
    · -- the slot was one of the first
      obtain ⟨k, hk⟩ := Nat.exists_eq_add_of_le (not_lt.mp hwrap)
      rw [hk, Nat.add_comm cfg.windowSize, Ring.slot_add_size]
      exact congrArg SendWindowSlot.frame (Ring.clear_slot _ (by omega) _)
  · rw [if_neg hid] at hlen
    have hslot := hcleared _ (h.unused id' i hlen hi)
    rw [cqGetItemSend, cqSlotSend]
    simp only [Function.update_of_ne hid]
    exact hslot

theorem cqAppendItemSend (hW : cfg.windowSize ≤ 255) (h : Tidy cfg host) (id : ℕ) (frame : Frame)
    (timeout : TimeVal) : Tidy cfg (cqAppendItemSend cfg id frame timeout host) := by
  refine ⟨h.bound.cqAppendItemSend id frame timeout, fun id' i hlen hi => ?_⟩
  by_cases hlt : cqGetLengthSend id host < cfg.windowSize
  · rw [cqGetLengthSend_cqAppendItemSend hW hlt] at hlen
    have hitem : cqGetItemSend cfg id' i (Tcp.cqAppendItemSend cfg id frame timeout host) =
        cqGetItemSend cfg id' i host := by
      rw [Tcp.cqAppendItemSend, if_neg hlt.ne]
      refine Function.update_of_ne ?_ _ _
      by_cases hid : id' = id
      · subst hid
        rw [if_pos rfl] at hlen
        exact fun heq => absurd ((Ring.slot_inj hi hlt).mp heq) (by omega)
      · exact Ring.slot_ne_of_ne cfg.windowSize_pos hid (host.sendWindowStart id').toNat
          (host.sendWindowStart id).toNat i (cqGetLengthSend id host)
    rw [hitem]
    refine h.unused id' i ?_ hi
    split at hlen
    · rename_i hid
      rw [hid]
      omega
    · exact hlen
  · rw [Tcp.cqAppendItemSend, if_pos (le_antisymm (h.bound id) (not_lt.mp hlt))] at hlen ⊢
    exact h.unused id' i hlen hi

theorem senderMoves (hW : cfg.windowSize ≤ 255) {host' : Host D} (h : Tidy cfg host)
    (hmoves : SenderMoves cfg host host') : Tidy cfg host' := by
  induction hmoves with
  | refl => exact h
  | tail _ hmove ih =>
    cases hmove with
    | resends host' sent hresends =>
      have hframes := hresends.frames
      obtain ⟨_, _, _, _, _, _, _, rfl⟩ := hresends.eq
      exact ⟨ih.bound, fun id i hlen hi => (hframes _).trans (ih.unused id i hlen hi)⟩
    | dequeue id n => exact ih.cqNdequeueSend hW id n
    | send frame hframe sent timeout =>
      refine Tidy.cqAppendItemSend hW ?_ _ frame timeout
      exact ⟨ih.bound, ih.unused⟩
    | backlog frames hframes latestTimeout => exact ⟨ih.bound, ih.unused⟩

/-- A slot with a frame is in use. -/
theorem exists_window (h : Tidy cfg host) {j : ℕ} (hj : j < cfg.windowSize * cfg.numHosts)
    (hframe : (host.sendWindow j).frame ≠ none) :
    ∃ r < cfg.numHosts, 0 < cqGetLengthSend r host := by
  refine ⟨j / cfg.windowSize, Nat.div_lt_of_lt_mul hj, ?_⟩
  by_contra hlen
  obtain ⟨i, hi, hslot⟩ := Ring.exists_slot cfg.windowSize_pos
    (host.sendWindowStart (j / cfg.windowSize)).toNat j
  refine hframe ?_
  rw [← hslot]
  exact h.unused _ i (by omega) hi

end Tidy

/-! ## Timers of a window -/

theorem mem_sendWin {r : ℕ} {host : Host D} {slot : SendWindowSlot} :
    slot ∈ sendWin cfg r host ↔
      ∃ i < cqGetLengthSend r host, cqGetItemSend cfg r i host = slot := by
  rw [sendWin, Ring.contents, List.mem_map]
  simp only [List.mem_range]
  rfl

variable (cfg) in
/-- The timers of the window for `r` are later than `now`. -/
def LaterTimers (now : TimeVal) (r : ℕ) (host : Host D) : Prop :=
  ∀ slot ∈ sendWin cfg r host, ∀ t, slot.timeout = some t → 0 < timevalUsecdiff now t

variable (cfg) in
/-- The first frame of the window for `r` has a timer. -/
def Armed (r : ℕ) (host : Host D) : Prop :=
  0 < cqGetLengthSend r host → (cqGetItemSend cfg r 0 host).timeout ≠ none

/-- `host'` is `host` with some timers cleared. -/
def Disarms (host host' : Host D) : Prop :=
  ∃ sendWindow cc, host' = { host with sendWindow := sendWindow, cc := cc } ∧
    ∀ j, (sendWindow j).timeout = none ∨ sendWindow j = host.sendWindow j

theorem Disarms.refl (host : Host D) : Disarms host host := ⟨_, _, rfl, fun _ => .inr rfl⟩

theorem Disarms.trans {host host' host'' : Host D} (h : Disarms host host')
    (h' : Disarms host' host'') : Disarms host host'' := by
  obtain ⟨sendWindow, cc, rfl, hslots⟩ := h
  obtain ⟨sendWindow', cc', rfl, hslots'⟩ := h'
  refine ⟨sendWindow', cc', rfl, fun j => ?_⟩
  rcases hslots' j with hnone | heq
  · exact .inl hnone
  · rcases hslots j with hnone | heq'
    · exact .inl (heq ▸ hnone)
    · exact .inr (heq.trans heq')

theorem LaterTimers.disarms {now : TimeVal} {r : ℕ} {host host' : Host D}
    (h : LaterTimers cfg now r host) (hdisarms : Disarms host host') :
    LaterTimers cfg now r host' := by
  obtain ⟨sendWindow, cc, rfl, hslots⟩ := hdisarms
  intro slot hslot t ht
  obtain ⟨i, hi, rfl⟩ := mem_sendWin.mp hslot
  rcases hslots (cqSlotSend cfg r i host) with hnone | heq
  · exact absurd (ht.symm.trans hnone) (by simp)
  · exact h _ (mem_sendWin.mpr ⟨i, hi, rfl⟩) t ((congrArg SendWindowSlot.timeout heq).symm.trans ht)

theorem setTimeout_disarms (id i : ℕ) (host : Host D) :
    Disarms host (setTimeout cfg id i none host) := by
  refine ⟨_, host.cc, rfl, fun j => ?_⟩
  rw [Function.update_apply]
  split <;> [exact .inl rfl; exact .inr rfl]

/-- Clearing the timers of some slots. -/
theorem foldl_setTimeout_none (id : ℕ) (is : List ℕ) (host : Host D) :
    Disarms host (is.foldl (fun host i => setTimeout cfg id i none host) host) ∧
      (is.foldl (fun host i => setTimeout cfg id i none host) host).cc = host.cc ∧
      ∀ i ∈ is, (cqGetItemSend cfg id i
        (is.foldl (fun host i => setTimeout cfg id i none host) host)).timeout = none := by
  induction is generalizing host with
  | nil => exact ⟨Disarms.refl host, rfl, by simp⟩
  | cons i is ih =>
    obtain ⟨hdisarms, hcc, hnone⟩ := ih (setTimeout cfg id i none host)
    rw [List.foldl_cons]
    refine ⟨(setTimeout_disarms id i host).trans hdisarms, hcc,
      List.forall_mem_cons.mpr ⟨?_, hnone⟩⟩
    obtain ⟨sendWindow, cc, heq, hslots⟩ := hdisarms
    rw [heq]
    have hself : (setTimeout cfg id i none host).sendWindow (cqSlotSend cfg id i host) =
        { cqGetItemSend cfg id i host with timeout := none } := Function.update_self ..
    rcases hslots (cqSlotSend cfg id i host) with h | h
    · exact h
    · rw [hself] at h
      exact congrArg SendWindowSlot.timeout h

/-! ## Frames sent again -/

/-- The clock does not go back behind `now`. -/
def ClockAfter (now : TimeVal) (host : Host D) : Prop :=
  ∀ k ≥ host.ticks, 0 ≤ timevalUsecdiff now (host.env.clock k)

/-- `host'` is `host` with some timers set to times later than `now`. -/
def Rearms (now : TimeVal) (host host' : Host D) : Prop :=
  ∃ outgoing sendWindow latestTimeout ticks sent retransmits, host' =
    { host with
      outgoingFramesHead := outgoing
      sendWindow := sendWindow
      latestTimeout := latestTimeout
      ticks := ticks
      log := { host.log with sent := sent, retransmits := retransmits } } ∧ host.ticks ≤ ticks ∧
    ∀ j, sendWindow j = host.sendWindow j ∨
      ∃ t, (sendWindow j).timeout = some t ∧ 0 < timevalUsecdiff now t

namespace Rearms

variable {now : TimeVal} {host host' host'' : Host D}

theorem refl (now : TimeVal) (host : Host D) : Rearms now host host :=
  ⟨_, _, _, _, _, _, rfl, le_rfl, fun _ => .inl rfl⟩

theorem trans (h : Rearms now host host') (h' : Rearms now host' host'') :
    Rearms now host host'' := by
  obtain ⟨_, _, _, _, _, _, rfl, hticks, hslots⟩ := h
  obtain ⟨_, _, _, _, _, _, rfl, hticks', hslots'⟩ := h'
  refine ⟨_, _, _, _, _, _, rfl, hticks.trans hticks', fun j => ?_⟩
  rcases hslots' j with heq | harmed
  · rcases hslots j with heq' | ⟨t, ht, hlater⟩
    · exact .inl (heq.trans heq')
    · exact .inr ⟨t, (congrArg SendWindowSlot.timeout heq).trans ht, hlater⟩
  · exact .inr harmed

theorem clockAfter (h : Rearms now host host') (hclock : ClockAfter now host) :
    ClockAfter now host' := by
  obtain ⟨_, _, _, _, _, _, rfl, hticks, -⟩ := h
  exact fun k hk => hclock k (hticks.trans hk)

theorem laterTimers (h : Rearms now host host') {r : ℕ} (hlater : LaterTimers cfg now r host) :
    LaterTimers cfg now r host' := by
  obtain ⟨_, _, _, _, _, _, rfl, -, hslots⟩ := h
  intro slot hslot t ht
  obtain ⟨i, hi, rfl⟩ := mem_sendWin.mp hslot
  rcases hslots (cqSlotSend cfg r i host) with heq | ⟨t', ht', hlt⟩
  · exact hlater _ (mem_sendWin.mpr ⟨i, hi, rfl⟩) t
      ((congrArg SendWindowSlot.timeout heq).symm.trans ht)
  · rwa [← Option.some.inj (ht'.symm.trans ht)]

theorem armed (h : Rearms now host host') {r : ℕ} (harmed : Armed cfg r host) :
    Armed cfg r host' := by
  obtain ⟨_, _, _, _, _, _, rfl, -, hslots⟩ := h
  intro hlen hnone
  rcases hslots (cqSlotSend cfg r 0 host) with heq | ⟨t, ht, -⟩
  · exact harmed hlen ((congrArg SendWindowSlot.timeout heq).symm.trans hnone)
  · exact absurd (ht.symm.trans hnone) (by simp)

end Rearms

/-- A timer set to a time after now. -/
theorem setTimeout_rearms {now nextTimeout : TimeVal} (hlater : 0 < timevalUsecdiff now nextTimeout)
    (id i : ℕ) (host : Host D) : Rearms now host (setTimeout cfg id i (some nextTimeout) host) := by
  refine ⟨_, _, _, _, _, _, rfl, le_rfl, fun j => ?_⟩
  rw [Function.update_apply]
  split
  · exact .inr ⟨nextTimeout, rfl, hlater⟩
  · exact .inl rfl

theorem retransmitFrame_rearms {now : TimeVal} {dstId seqNum : UInt8} {host host' : Host D}
    (hclock : ClockAfter now host) (h : retransmitFrame cfg dstId seqNum host = .ok host') :
    Rearms now host host' := by
  obtain ⟨now', latestTimeout, nextTimeout, hnow', -, hnext, hcases⟩ := retransmitFrame_cases h
  have hlater : 0 < timevalUsecdiff now nextTimeout := by
    have hnow := hclock host.ticks le_rfl
    have hlatest := timevalUsecdiff_afterLatestTimeout now' host.latestTimeout
    have hadd := timevalUsecdiff_add now now' (afterLatestTimeout now' host.latestTimeout)
    rw [hnext, timevalUsecdiff_usecplus]
    rw [← hnow'] at hnow
    have : timeoutIntervalUsec = 100000 := rfl
    omega
  rcases hcases with ⟨i, frame, -, -, -, rfl⟩ | ⟨-, -, rfl⟩
  · refine Rearms.trans ?_ (setTimeout_rearms hlater _ _ _)
    exact ⟨_, _, _, _, _, _, rfl, Nat.le_succ _, fun _ => .inl rfl⟩
  · refine Rearms.trans ?_ (setTimeout_rearms hlater _ _ _)
    exact ⟨_, _, _, _, _, _, rfl, Nat.le_succ _, fun _ => .inl rfl⟩

theorem resendLoop_rearms {now : TimeVal} {recvId : ℕ} {is : List ℕ} {framesPerRtt frames : ℤ}
    {host host' : Host D} (hclock : ClockAfter now host)
    (h : resendLoop cfg recvId is framesPerRtt host = .ok (frames, host')) :
    Rearms now host host' := by
  induction is generalizing framesPerRtt host with
  | nil =>
    obtain ⟨-, rfl⟩ : framesPerRtt = frames ∧ host = host' := by simpa [resendLoop] using h
    exact Rearms.refl now host
  | cons i is ih =>
    rw [resendLoop] at h
    split at h
    · split at h
      · simp at h
      · split at h
        · simp at h
        · rename_i hretransmit
          have hfirst := retransmitFrame_rearms hclock hretransmit
          exact hfirst.trans (ih (hfirst.clockAfter hclock) h)
    · exact ih hclock h

/-- The first frame of the window has a timer after the loop: it had one before, or is the first to
be sent again. -/
theorem resendLoop_armed {now : TimeVal} {recvId : ℕ} {framesPerRtt frames : ℤ}
    {incoming : List Frame} {host host' : Host D} {v : ℕ → SendView}
    (hok : SenderOk cfg incoming host v) (hclock : ClockAfter now host) (hbudget : 0 < framesPerRtt)
    (h : resendLoop cfg recvId (List.range (cqGetLengthSend recvId host)) framesPerRtt host =
      .ok (frames, host')) :
    Armed cfg recvId host' ∧ (cqGetLengthSend recvId host = 0 → frames = framesPerRtt) := by
  have hrearms := resendLoop_rearms hclock h
  refine ⟨?_, fun hzero => ?_⟩
  · cases hitem : (cqGetItemSend cfg recvId 0 host).timeout with
    | some t => exact hrearms.armed fun _ hnone => absurd (hitem.symm.trans hnone) (by simp)
    | none =>
      by_cases hlen : 0 < cqGetLengthSend recvId host
      · obtain ⟨n, hn⟩ := Nat.exists_eq_add_of_lt hlen
        rw [zero_add] at hn
        have hwin := hok.length_window recvId
        have hframe := hok.getItem hlen
        cases hwindow : (v recvId).window with
        | nil =>
          rw [hwindow] at hwin
          exact absurd hlen (by simp [hwin])
        | cons frame window =>
          have hbyte : (UInt8.ofNat recvId).toNat = recvId := by
            have hdst := hok.dst_of_mem_window (by rw [hwindow]; exact List.mem_cons_self)
            rw [toNat_ofNat, Nat.mod_eq_of_lt (hdst ▸ frame.dstId.toNat_lt)]
          have hfind : (v (UInt8.ofNat recvId).toNat).window.findIdx?
              (fun f => f.seqNum = frame.seqNum) = some 0 := by
            rw [hbyte, hwindow]
            simp [List.findIdx?_cons]
          obtain ⟨_, _, hretransmit⟩ := retransmitFrame_of_winFrames (hok _).1.window hfind
            (by rw [hbyte, hwindow]; rfl)
          have hfirst := retransmitFrame_rearms hclock hretransmit
          rw [hwindow, List.getElem?_cons_zero, ← derefFrame_eq_ok] at hframe
          rw [hn, List.range_succ_eq_map, resendLoop, if_pos ⟨hitem, hbudget⟩, hframe] at h
          simp only [hretransmit] at h
          refine (resendLoop_rearms (hfirst.clockAfter hclock) h).armed fun _ hnone => ?_
          rw [hbyte] at hnone
          exact absurd
            ((congrArg SendWindowSlot.timeout (Function.update_self ..)).symm.trans hnone) (by simp)
      · exact hrearms.armed fun hpos => absurd hpos hlen
  · rw [hzero] at h
    exact (congrArg Prod.fst (Except.ok.inj h)).symm

/-- The first frame of every window has a timer after the loop over the receivers, and where no
frame waits the budget is not touched. -/
theorem resendWindows_armed {now : TimeVal} {recvIds : List ℕ} {framesPerRtt frames : ℕ → ℤ}
    {incoming : List Frame} {host host' : Host D} {v : ℕ → SendView}
    (hok : SenderOk cfg incoming host v) (hclock : ClockAfter now host)
    (hbudget : ∀ r ∈ recvIds, 0 < framesPerRtt r) (hnodup : recvIds.Nodup)
    (h : resendWindows cfg recvIds framesPerRtt host = .ok (frames, host')) :
    Rearms now host host' ∧ (∀ r ∈ recvIds, r ≠ host.id → Armed cfg r host') ∧
      ∀ r, cqGetLengthSend r host = 0 → frames r = framesPerRtt r := by
  induction recvIds generalizing framesPerRtt host v with
  | nil =>
    obtain ⟨rfl, rfl⟩ : framesPerRtt = frames ∧ host = host' := by simpa [resendWindows] using h
    exact ⟨Rearms.refl now host, by simp, fun _ _ => rfl⟩
  | cons recvId recvIds ih =>
    obtain ⟨hnotMem, hnodup'⟩ := List.nodup_cons.mp hnodup
    rw [resendWindows] at h
    split at h
    · rename_i hself
      obtain ⟨hrearms, harmed, hframes⟩ :=
        ih hok hclock (fun r hr => hbudget r (List.mem_cons_of_mem _ hr)) hnodup' h
      exact ⟨hrearms, List.forall_mem_cons.mpr ⟨fun hne => absurd hself hne, harmed⟩, hframes⟩
    · split at h
      · simp at h
      · rename_i frames₁ host₁ hloop
        obtain ⟨hfirst, hunused⟩ := resendLoop_armed hok hclock (hbudget _ List.mem_cons_self) hloop
        have hrearms₁ := resendLoop_rearms hclock hloop
        obtain ⟨sent, hresends⟩ := resendLoop_resends hloop
        obtain ⟨v₁, -, hok₁⟩ := hresends.steps hok
        obtain ⟨hrearms, harmed, hframes⟩ := ih hok₁ (hrearms₁.clockAfter hclock) (fun r hr => by
          have hne : r ≠ recvId := by
            rintro rfl
            exact hnotMem hr
          rw [Function.update_of_ne hne]
          exact hbudget r (List.mem_cons_of_mem _ hr)) hnodup' h
        refine ⟨hrearms₁.trans hrearms, List.forall_mem_cons.mpr
          ⟨fun _ => hrearms.armed hfirst, fun r hr hne => harmed r hr ?_⟩, fun r hzero => ?_⟩
        · obtain ⟨_, _, _, _, _, _, rfl, -⟩ := hrearms₁
          exact hne
        · have hzero₁ : cqGetLengthSend r host₁ = 0 := by
            obtain ⟨_, _, _, _, _, _, rfl, -⟩ := hrearms₁
            exact hzero
          rw [hframes r hzero₁, Function.update_apply]
          split
          · rename_i heq
            rw [heq] at hzero ⊢
            exact hunused hzero
          · rfl

/-! ## New frames -/

/-- A window that gets a frame with a timer later than `now`. -/
theorem cqAppendItemSend_timers (hW : cfg.windowSize ≤ 255) {id : ℕ} {host : Host D}
    (hlt : cqGetLengthSend id host < cfg.windowSize) (frame : Frame) (timeout : TimeVal) :
    (∀ r, Armed cfg r host → Armed cfg r (cqAppendItemSend cfg id frame timeout host)) ∧
      ∀ now, 0 < timevalUsecdiff now timeout → ∀ r, LaterTimers cfg now r host →
        LaterTimers cfg now r (cqAppendItemSend cfg id frame timeout host) := by
  refine ⟨fun r harmed hpos => ?_, fun now hlater r htimers slot hslot t ht => ?_⟩
  · have hwin := sendWin_cqAppendItemSend hW hlt frame timeout r
    have hfirst := @getElem?_sendWin _ cfg _ _ _ hpos
    rw [hwin] at hfirst
    by_cases hid : r = id
    · subst hid
      rw [if_pos rfl] at hfirst
      by_cases hold : 0 < cqGetLengthSend r host
      · rw [List.getElem?_append_left (by rwa [length_sendWin]), getElem?_sendWin hold] at hfirst
        exact Option.some.inj hfirst ▸ harmed hold
      · rw [List.getElem?_append_right (by rw [length_sendWin]; omega), length_sendWin,
          Nat.zero_sub, List.getElem?_cons_zero] at hfirst
        rw [← Option.some.inj hfirst]
        simp
    · rw [if_neg hid] at hfirst
      rw [cqGetLengthSend_cqAppendItemSend hW hlt, if_neg hid] at hpos
      rw [getElem?_sendWin hpos] at hfirst
      exact Option.some.inj hfirst ▸ harmed hpos
  · rw [sendWin_cqAppendItemSend hW hlt] at hslot
    split at hslot
    · rename_i hid
      rcases List.mem_append.mp hslot with hold | hnew
      · exact htimers slot (hid ▸ hold) t ht
      · rw [List.mem_singleton.mp hnew] at ht
        exact Option.some.inj ht ▸ hlater
    · exact htimers slot hslot t ht

/-- The loop over the backlog keeps timers, and holds back only frames for a receiver for which some
frame waits to be acknowledged. -/
theorem sendLoop_timers (hW : cfg.windowSize ≤ 255) {now currTimeval : TimeVal}
    (hcurr : 0 ≤ timevalUsecdiff now currTimeval) (kept frames : List Frame) (framesPerRtt : ℕ → ℤ)
    {additionalTs : ℤ} (hts : 0 ≤ additionalTs) {host : Host D} (hbound : SendWinBound cfg host)
    (hopen : ∀ r, cqGetLengthSend r host = 0 → framesPerRtt r ≠ 0)
    (hkept : ∀ frame ∈ kept, cqGetLengthSend frame.dstId.toNat host ≠ 0) :
    (∀ r, Armed cfg r host →
        Armed cfg r (sendLoop cfg currTimeval kept frames framesPerRtt additionalTs host).2) ∧
      (∀ r, LaterTimers cfg now r host → LaterTimers cfg now r
        (sendLoop cfg currTimeval kept frames framesPerRtt additionalTs host).2) ∧
      ∀ frame ∈ (sendLoop cfg currTimeval kept frames framesPerRtt additionalTs
          host).2.bufferedOutframesHead,
        cqGetLengthSend frame.dstId.toNat
          (sendLoop cfg currTimeval kept frames framesPerRtt additionalTs host).2 ≠ 0 := by
  induction frames generalizing kept framesPerRtt additionalTs host with
  | nil => exact ⟨fun _ h => h, fun _ h => h, hkept⟩
  | cons frame frames ih =>
    rw [sendLoop]
    split
    · rename_i hheld
      refine ih _ _ hts hbound hopen fun f hf => ?_
      rcases List.mem_append.mp hf with hold | hnew
      · exact hkept f hold
      · rw [List.mem_singleton.mp hnew]
        have hpos := cfg.windowSize_pos
        intro hzero
        exact hheld.elim (fun hfull => by omega) (hopen _ hzero)
    · rename_i hsend
      rw [not_or] at hsend
      have hlt : cqGetLengthSend frame.dstId.toNat host < cfg.windowSize :=
        lt_of_le_of_ne (hbound _) hsend.1
      have hlater : 0 < timevalUsecdiff now
          (timevalUsecplus currTimeval (timeoutIntervalUsec + additionalTs)) := by
        rw [timevalUsecdiff_usecplus]
        have : timeoutIntervalUsec = 100000 := rfl
        omega
      set host₁ : Host D :=
        { host with
          outgoingFramesHead := host.outgoingFramesHead ++ [frame]
          log := { host.log with
            sent := host.log.sent ++
              [(frame, timevalUsecplus currTimeval (timeoutIntervalUsec + additionalTs))] } }
        with hhost₁
      have hlen (r : ℕ) := @cqGetLengthSend_cqAppendItemSend D cfg hW frame.dstId.toNat host₁ hlt
        frame (timevalUsecplus currTimeval (timeoutIntervalUsec + additionalTs)) r
      have hold (r : ℕ) : cqGetLengthSend r host₁ = cqGetLengthSend r host := rfl
      obtain ⟨harmed, htimers⟩ := @cqAppendItemSend_timers D cfg hW frame.dstId.toNat host₁ hlt
        frame (timevalUsecplus currTimeval (timeoutIntervalUsec + additionalTs))
      obtain ⟨harmed', htimers', hback⟩ := ih kept
        (Function.update framesPerRtt frame.dstId.toNat (framesPerRtt frame.dstId.toNat - 1))
        (add_nonneg hts (by decide : (0 : ℤ) ≤ 10000))
        (@SendWinBound.cqAppendItemSend D cfg host₁ hbound frame.dstId.toNat frame
          (timevalUsecplus currTimeval (timeoutIntervalUsec + additionalTs)))
        (fun r hzero => by
          rw [hlen] at hzero
          split at hzero
          · omega
          · rename_i hne
            rw [Function.update_of_ne hne]
            exact hopen r hzero)
        (fun f hf => by
          rw [hlen]
          split
          · omega
          · exact hkept f hf)
      exact ⟨fun r h => harmed' r (harmed r h), fun r h => htimers' r (htimers now hlater r h),
        hback⟩

theorem sendLoop_cc (currTimeval : TimeVal) (kept frames : List Frame) (framesPerRtt : ℕ → ℤ)
    (additionalTs : ℤ) (host : Host D) :
    (sendLoop cfg currTimeval kept frames framesPerRtt additionalTs host).2.cc = host.cc := by
  induction frames generalizing kept framesPerRtt additionalTs host with
  | nil => rfl
  | cons frame frames ih =>
    rw [sendLoop]
    split
    · exact ih ..
    · refine (ih ..).trans ?_
      rw [cqAppendItemSend]
      split <;> rfl

/-! ## Timeouts -/

variable [CDouble D]

/-- In the window that the round is about no timer is left that has expired. -/
theorem handleTimedoutWindow_spec (now : TimeVal) (host : Host D) (recvId : ℕ) :
    Disarms host (handleTimedoutWindow cfg now host recvId) ∧
      (recvId ≠ host.id →
        LaterTimers cfg now recvId (handleTimedoutWindow cfg now host recvId)) := by
  rw [handleTimedoutWindow]
  split
  · rename_i hself
    exact ⟨Disarms.refl host, fun hne => absurd hself hne⟩
  · split
    · obtain ⟨hdisarms, -, hnone⟩ := @foldl_setTimeout_none _ cfg recvId
        (List.range (cqGetLengthSend recvId host)) host
      obtain ⟨sendWindow, cc, heq, hslots⟩ := hdisarms
      rw [heq] at hnone ⊢
      refine ⟨⟨sendWindow, _, rfl, hslots⟩, fun _ slot hslot t ht => ?_⟩
      obtain ⟨i, hi, rfl⟩ := mem_sendWin.mp hslot
      exact absurd (ht.symm.trans (hnone i (List.mem_range.mpr hi))) (by simp)
    · rename_i hany
      refine ⟨Disarms.refl host, fun _ slot hslot t ht => ?_⟩
      obtain ⟨i, hi, rfl⟩ := mem_sendWin.mp hslot
      rw [Bool.not_eq_true, List.any_eq_false] at hany
      have hi' := hany i (List.mem_range.mpr hi)
      rw [timedOut, ht] at hi'
      simp only [decide_eq_true_eq] at hi'
      omega

/-- **After `handle_timedout_frames`** no timer is left that has expired. -/
theorem handleTimedoutFrames_spec (now : TimeVal) (host : Host D) :
    Disarms host (handleTimedoutFrames cfg now host) ∧
      ∀ r < cfg.numHosts, r ≠ host.id →
        LaterTimers cfg now r (handleTimedoutFrames cfg now host) := by
  have hfold (recvIds : List ℕ) (host : Host D) :
      Disarms host (recvIds.foldl (handleTimedoutWindow cfg now) host) ∧
        ∀ r ∈ recvIds, r ≠ host.id →
          LaterTimers cfg now r (recvIds.foldl (handleTimedoutWindow cfg now) host) := by
    induction recvIds generalizing host with
    | nil => exact ⟨Disarms.refl host, by simp⟩
    | cons recvId recvIds ih =>
      obtain ⟨hdisarms, hlater⟩ := @handleTimedoutWindow_spec _ cfg _ now host recvId
      obtain ⟨hdisarms', hlater'⟩ := ih (handleTimedoutWindow cfg now host recvId)
      rw [List.foldl_cons]
      refine ⟨hdisarms.trans hdisarms', List.forall_mem_cons.mpr
        ⟨fun hne => (hlater hne).disarms hdisarms', fun r hr hne => hlater' r hr ?_⟩⟩
      obtain ⟨_, _, heq, -⟩ := hdisarms
      rwa [heq]
  obtain ⟨hdisarms, hlater⟩ := hfold (List.range cfg.numHosts) host
  exact ⟨hdisarms, fun r hr => hlater r (List.mem_range.mpr hr)⟩

/-! ## Congestion windows -/

/-- The congestion window lets a frame through, also when fast recovery ends. -/
structure CcOk (cc : CongestionControl ℚ) : Prop where
  cwnd : 1 ≤ cc.cwnd
  ssthresh : cc.state = .frft → 1 ≤ cc.ssthresh

/-- All congestion windows of a host do so, and the clock does not go back behind `now`. -/
structure Steady (now : TimeVal) (host : Host ℚ) : Prop where
  cc : ∀ r, CcOk (host.cc r)
  clock : ClockAfter now host

theorem CcOk.one_le_toInt {cc : CongestionControl ℚ} (h : CcOk cc) : 1 ≤ CDouble.toInt cc.cwnd := by
  have hnum : 0 ≤ cc.cwnd.num := Rat.num_nonneg.mpr (zero_le_one.trans h.cwnd)
  change 1 ≤ cc.cwnd.num.tdiv cc.cwnd.den
  rw [Int.tdiv_eq_ediv_of_nonneg hnum, ← Rat.floor_def, Rat.le_floor_iff]
  exact_mod_cast h.cwnd

theorem le_incr (q : ℚ) : q ≤ CDouble.incr q := le_add_of_nonneg_right (by decide)

theorem le_add_div {q : ℚ} (h : 0 < q) : q ≤ CDouble.add q (CDouble.div (CDouble.ofInt 1) q) := by
  refine le_add_of_nonneg_right ?_
  change 0 ≤ ((1 : ℤ) : ℚ) / q
  positivity

/-- Fast recovery starts with at least two frames. -/
theorem two_le_max (q : ℚ) : 2 ≤ CDouble.max q (CDouble.ofInt 2) := by
  unfold CDouble.max
  split
  · rename_i hge
    exact of_decide_eq_true hge
  · exact le_rfl

/-- Counting a duplicate only widens the window. -/
theorem CcOk.updateDupAcks {c : Control ℚ} (h : CcOk c.cc) (seqNum : UInt8) :
    CcOk (c.updateDupAcks seqNum).cc := by
  refine ⟨?_, h.ssthresh⟩
  rw [Control.updateDupAcks]
  dsimp only
  split
  · exact h.cwnd.trans (le_incr _)
  · exact h.cwnd

/-- Each arm of the `else if` chain. -/
theorem CcOk.updateCc {c : Control ℚ} (h : CcOk c.cc) : CcOk c.updateCc.cc := by
  have hpos : 0 < c.cc.cwnd := zero_lt_one.trans_le h.cwnd
  rw [Control.updateCc]
  dsimp only
  split
  · refine ⟨h.cwnd.trans (le_incr _), fun hstate => ?_⟩
    dsimp only at hstate
    split at hstate <;> simp at hstate
  · split
    · exact ⟨h.cwnd.trans (le_add_div hpos), h.ssthresh⟩
    · split
      · rename_i hexit
        exact ⟨h.ssthresh hexit.1, fun hstate => by simp at hstate⟩
      · split
        · have hone : (1 : ℚ) ≤ CDouble.max (CDouble.div c.cc.cwnd (CDouble.ofInt 2))
              (CDouble.ofInt 2) := le_trans (by norm_num) (two_le_max _)
          exact ⟨hone.trans (le_add_of_nonneg_right (by decide)), fun _ => hone⟩
        · exact h

variable {cfg : SysConfig ℚ} {host host' : Host ℚ}

namespace Steady

variable {now : TimeVal}

theorem setCc (h : Steady now host) {id : ℕ} {cc : CongestionControl ℚ} (hcc : CcOk cc) :
    Steady now (setCc id cc host) := by
  refine ⟨fun r => ?_, h.clock⟩
  simp only [Tcp.setCc, Function.update_apply]
  split
  · exact hcc
  · exact h.cc r

theorem updateDupAcks (h : Steady now host) (srcId seqNum : UInt8) :
    Steady now (updateDupAcks srcId seqNum host) := by
  rw [updateDupAcks_eq]
  refine Steady.setCc ?_ ((h.cc srcId.toNat).updateDupAcks (c := host.control srcId.toNat) seqNum)
  exact ⟨h.cc, h.clock⟩

theorem retransmitFrame (h : Steady now host) {dstId seqNum : UInt8}
    (hretransmit : retransmitFrame cfg dstId seqNum host = .ok host') : Steady now host' := by
  refine ⟨?_, (retransmitFrame_rearms h.clock hretransmit).clockAfter h.clock⟩
  obtain ⟨_, _, _, -, -, -, hcases⟩ := retransmitFrame_cases hretransmit
  rcases hcases with ⟨_, _, -, -, -, rfl⟩ | ⟨-, -, rfl⟩ <;> exact h.cc

theorem updateCc (h : Steady now host) {srcId seqNum : UInt8}
    (hupdate : updateCc cfg srcId seqNum host = .ok host') : Steady now host' := by
  have hset : Steady now
      (Tcp.setCc srcId.toNat (host.control srcId.toNat).updateCc.cc host) :=
    h.setCc ((h.cc srcId.toNat).updateCc (c := host.control srcId.toNat))
  rw [updateCc_eq] at hupdate
  split at hupdate
  · exact hset.retransmitFrame hupdate
  · exact Except.ok.inj hupdate ▸ hset

theorem handleAck (h : Steady now host) {frame : Frame}
    (hack : handleAck cfg frame host = .ok host') : Steady now host' := by
  rw [Tcp.handleAck] at hack
  split at hack
  · simp at hack
  · rename_i host₁ hupdate
    have h₁ := (h.updateDupAcks frame.srcId frame.seqNum).updateCc hupdate
    rcases dequeueAcked_cases hack with rfl | ⟨n, rfl⟩ <;> exact ⟨h₁.cc, h₁.clock⟩

theorem handleIncomingAcksLoop {kept frames : List Frame} (h : Steady now host)
    (hloop : handleIncomingAcksLoop cfg kept frames host = .ok host') : Steady now host' := by
  induction frames generalizing kept host with
  | nil => exact Except.ok.inj hloop ▸ ⟨h.cc, h.clock⟩
  | cons frame frames ih =>
    rw [Tcp.handleIncomingAcksLoop] at hloop
    split at hloop
    · exact ih h hloop
    · split at hloop
      · exact ih h hloop
      · split at hloop
        · simp at hloop
        · rename_i hack
          exact ih (h.handleAck hack) hloop

theorem handleTimedoutFrames (h : Steady now host) (currTimeval : TimeVal) :
    Steady now (handleTimedoutFrames cfg currTimeval host) := by
  rw [Tcp.handleTimedoutFrames]
  induction List.range cfg.numHosts generalizing host with
  | nil => exact h
  | cons recvId recvIds ih =>
    refine ih ?_
    rw [handleTimedoutWindow]
    split
    · exact h
    · split
      · obtain ⟨⟨_, _, heq, -⟩, hcc, -⟩ := @foldl_setTimeout_none _ cfg recvId
          (List.range (cqGetLengthSend recvId host)) host
        refine Steady.setCc ⟨fun r => ?_, ?_⟩ ⟨le_rfl, fun hstate => by simp at hstate⟩
        · rw [hcc]
          exact h.cc r
        · rw [heq]
          exact h.clock
      · exact h

end Steady

/-! ## A turn -/

/-- **After `handle_outgoing_frames`** the first frame of every window has a timer, and no frame is
held back for a receiver with an empty window. -/
theorem handleOutgoingFrames_timers (hW : cfg.windowSize ≤ 255) {now : TimeVal}
    {incoming : List Frame} {v : ℕ → SendView} (hok : SenderOk cfg incoming host v)
    (hsteady : Steady now host)
    (h : handleOutgoingFrames cfg now host = .ok host') :
    (∀ r < cfg.numHosts, r ≠ host.id → Armed cfg r host') ∧
      (∀ r, LaterTimers cfg now r host → LaterTimers cfg now r host') ∧
      (∀ frame ∈ host'.bufferedOutframesHead, cqGetLengthSend frame.dstId.toNat host' ≠ 0) ∧
      ∀ r, CcOk (host'.cc r) := by
  rw [handleOutgoingFrames] at h
  split at h
  · simp at h
  · rename_i framesPerRtt host₁ hresend
    obtain ⟨hrearms, harmed, hunused⟩ := resendWindows_armed hok hsteady.clock
      (fun r _ => (hsteady.cc r).one_le_toInt) List.nodup_range hresend
    obtain ⟨sent, hresends⟩ := resendWindows_resends hresend
    obtain ⟨v₁, -, hok₁⟩ := hresends.steps hok
    have hopen (r : ℕ) (hzero : cqGetLengthSend r host₁ = 0) : framesPerRtt r ≠ 0 := by
      have hzero₁ : cqGetLengthSend r host = 0 := by
        obtain ⟨_, _, _, _, _, _, rfl, -⟩ := hrearms
        exact hzero
      rw [hunused r hzero₁]
      exact (zero_lt_one.trans_le (hsteady.cc r).one_le_toInt).ne'
    obtain ⟨harmed', hlater, hback⟩ := sendLoop_timers hW
      (timevalUsecdiff_afterLatestTimeout now host.latestTimeout) [] host₁.bufferedOutframesHead
      framesPerRtt le_rfl hok₁.bound hopen (by simp)
    obtain rfl := Except.ok.inj h
    refine ⟨fun r hr hne => harmed' r (harmed r (List.mem_range.mpr hr) hne),
      fun r hr => hlater r (hrearms.laterTimers hr), hback, fun r => ?_⟩
    have hcc : host₁.cc = host.cc := by
      obtain ⟨_, _, _, _, _, _, rfl, -⟩ := hrearms
      rfl
    refine (congrArg (fun cc => CcOk (cc r)) (Eq.trans ?_ hcc)).mpr (hsteady.cc r)
    exact sendLoop_cc ..

/-- What the four handlers leave. -/
theorem sendRound_timers (hW : cfg.windowSize ≤ 255) {now : TimeVal} {v : ℕ → SendView}
    (hok : SenderOk cfg host.incomingFramesHead host v) (hsteady : Steady now host)
    (htidy : Tidy cfg host) (h : sendRound cfg now host = .ok host') :
    ((∀ r < cfg.numHosts, r ≠ host.id → Armed cfg r host') ∧
      (∀ r < cfg.numHosts, r ≠ host.id → LaterTimers cfg now r host') ∧
      (∀ frame ∈ host'.bufferedOutframesHead, cqGetLengthSend frame.dstId.toNat host' ≠ 0) ∧
      ∀ r, CcOk (host'.cc r)) ∧
    Tidy cfg host' ∧ host'.id = host.id ∧ host'.env = host.env := by
  obtain ⟨host₁, hmoves, hmoves'⟩ := sendRound_moves h
  obtain ⟨frames, hcreates, -⟩ := handleInputCmds_creates host
  obtain ⟨_, _, heq⟩ := hcreates.eq
  obtain ⟨v₁, -, hok₁⟩ := handleInputCmds_steps hok
  have hsteady₁ : Steady now (handleInputCmds host) := by
    rw [heq]
    exact ⟨hsteady.cc, hsteady.clock⟩
  have htidy₁ : Tidy cfg (handleInputCmds host) := by
    rw [heq]
    exact ⟨htidy.bound, htidy.unused⟩
  have hid : (handleInputCmds host).id = host.id ∧ (handleInputCmds host).env = host.env := by
    rw [heq]
    exact ⟨rfl, rfl⟩
  have htidy₂ := htidy₁.senderMoves hW hmoves
  have htidy' : Tidy cfg host' :=
    Tidy.senderMoves hW (by exact ⟨htidy₂.bound, htidy₂.unused⟩) hmoves'
  have hid' : host'.id = host.id ∧ host'.env = host.env := by
    obtain ⟨_, _, _, _, _, _, _, _, _, _, _, rfl⟩ := hmoves.eq
    obtain ⟨_, _, _, _, _, _, _, _, _, _, _, rfl⟩ := hmoves'.eq
    exact hid
  refine ⟨?_, htidy', hid'⟩
  rw [sendRound] at h
  split at h
  · simp at h
  · rename_i host₂ hacks
    obtain ⟨v₂, -, hok₂⟩ := handleIncomingAcks_steps hW (by rw [heq] at hok₁ ⊢; exact hok₁) hacks
    obtain ⟨v₃, -, hok₃⟩ := handleTimedoutFrames_steps now hok₂
    have hsteady₃ := @Steady.handleTimedoutFrames cfg _ _
      (hsteady₁.handleIncomingAcksLoop hacks) now
    have hid₃ : (handleTimedoutFrames cfg now host₂).id = host.id := by
      obtain ⟨_, _, _, _, _, _, _, heq₃⟩ := (@handleTimedoutFrames_resends _ cfg _ now host₂).eq
      obtain ⟨host₄, hmoves₄, heq₄⟩ := handleIncomingAcksLoop_moves hacks
      obtain ⟨_, _, _, _, _, _, _, _, _, _, _, rfl⟩ := hmoves₄.eq
      rw [heq₃, heq₄]
      exact hid.1
    obtain ⟨harmed, hlater, hback, hcc⟩ := handleOutgoingFrames_timers hW hok₃ hsteady₃ h
    rw [hid₃] at harmed
    refine ⟨harmed, fun r hr hne => hlater r ((handleTimedoutFrames_spec now host₂).2 r hr ?_),
      hback, hcc⟩
    obtain ⟨_, _, _, _, _, _, _, heq₃⟩ := (@handleTimedoutFrames_resends _ cfg _ now host₂).eq
    rw [heq₃] at hid₃
    exact fun hself => hne (hself.trans hid₃)

variable (cfg) in
/-- What holds of host `i` between its turns: only frames for other hosts, and while it waits for
anything a timer. -/
structure TimerInv (i : ℕ) (host : Host ℚ) : Prop where
  id_eq : host.id = i
  clock_mono : ∀ k, 0 ≤ timevalUsecdiff (host.env.clock k) (host.env.clock (k + 1))
  view : ∃ v, SenderOk cfg host.incomingFramesHead host v
  others : ∀ r, framesFor r host.log.created ≠ [] → r < cfg.numHosts ∧ r ≠ i
  cc : ∀ r, CcOk (host.cc r)
  tidy : Tidy cfg host
  timer : (updateActive cfg host).active = true → hostGetNextExpiringTimeval cfg host ≠ none

namespace TimerInv

variable {i : ℕ}

theorem start (i : ℕ) (env : HostEnv)
    (hclock : ∀ k, 0 ≤ timevalUsecdiff (env.clock k) (env.clock (k + 1))) :
    TimerInv cfg i (initHost cfg i env) where
  id_eq := rfl
  clock_mono := hclock
  view := ⟨_, senderOk_initHost i env⟩
  others r hne := absurd rfl hne
  cc r := ⟨le_rfl, fun hstate => by simp [initHost] at hstate⟩
  tidy := ⟨fun id => Nat.zero_le _, fun _ _ _ _ => rfl⟩
  timer hactive := by
    simp [updateActive, initHost, SendWindowSlot.empty] at hactive

theorem congr (h : TimerInv cfg i host) (hsame : SameSender host host') :
    TimerInv cfg i host' := by
  obtain ⟨v, hok⟩ := h.view
  obtain ⟨_, incoming, _, _, _, _, _, _, _, _, _, rfl⟩ := hsame
  exact ⟨h.id_eq, h.clock_mono, ⟨_, hok.relist incoming rfl (fun _ => rfl) rfl rfl⟩, h.others, h.cc,
    ⟨h.tidy.bound, h.tidy.unused⟩, h.timer⟩

/-- From now on the clock does not go back behind now. -/
theorem clockAfter (h : TimerInv cfg i host) :
    ClockAfter (host.env.clock host.ticks) host := by
  intro k hk
  induction k, hk using Nat.le_induction with
  | base => simp [timevalUsecdiff]
  | succ k hk ih =>
    have hnext := h.clock_mono k
    have hadd := timevalUsecdiff_add (host.env.clock host.ticks) (host.env.clock k)
      (host.env.clock (k + 1))
    omega

/-- A window in use is for a receiver that a frame was made for. -/
theorem created_ne_nil {frames : List Frame} {v : ℕ → SendView} (hok : SenderOk cfg frames host v)
    {r : ℕ} (hpos : 0 < cqGetLengthSend r host) : framesFor r host.log.created ≠ [] := by
  intro hnil
  have hlen := hok.length_window r
  obtain ⟨n, -, hunacked⟩ := (hok r).2.unacked_eq
  rw [(hok r).1.created] at hnil
  rw [hnil, SendView.unacked, List.drop_nil] at hunacked
  rw [(List.append_eq_nil_iff.mp hunacked).1] at hlen
  exact absurd hlen hpos.ne'

/-- A host that waits for something and has armed the first frame of every window has a timer. -/
theorem exists_timer {v : ℕ → SendView} (hok : SenderOk cfg host.incomingFramesHead host v)
    (htidy : Tidy cfg host) (hothers : ∀ r, framesFor r host.log.created ≠ [] →
      r < cfg.numHosts ∧ r ≠ host.id)
    (harmed : ∀ r < cfg.numHosts, r ≠ host.id → Armed cfg r host)
    (hback : ∀ frame ∈ host.bufferedOutframesHead, cqGetLengthSend frame.dstId.toNat host ≠ 0)
    (hactive : (updateActive cfg host).active = true) :
    hostGetNextExpiringTimeval cfg host ≠ none := by
  have hwaits : ∃ r, 0 < cqGetLengthSend r host := by
    simp only [updateActive, Bool.or_eq_true, List.any_eq_true, List.mem_range,
      decide_eq_true_eq] at hactive
    rcases hactive with ⟨j, hj, hframe⟩ | hlen
    · obtain ⟨r, -, hr⟩ := htidy.exists_window hj (Option.isSome_iff_ne_none.mp hframe)
      exact ⟨r, hr⟩
    · obtain ⟨frame, hmem⟩ := List.exists_mem_of_length_pos hlen
      exact ⟨_, Nat.pos_of_ne_zero (hback frame hmem)⟩
  obtain ⟨r, hpos⟩ := hwaits
  obtain ⟨hr, hne⟩ := hothers r (created_ne_nil hok hpos)
  intro hnone
  rw [hostGetNextExpiringTimeval_eq] at hnone
  refine harmed r hr hne hpos (((foldl_earlierTimeout _ _).1.mp hnone).2 _ ?_)
  exact mem_hostTimers.mpr ⟨r, hr, hne, _, mem_sendWin.mpr ⟨0, hpos, rfl⟩, rfl⟩

/-- The timers of a host that is not woken up are later than now. -/
theorem laterTimers_of_sleeps {now : TimeVal} (h : wakesUp cfg now host = false) {r : ℕ}
    (hr : r < cfg.numHosts) (hne : r ≠ host.id) : LaterTimers cfg now r host := by
  intro slot hslot t ht
  have hmem : some t ∈ hostTimers cfg host := mem_hostTimers.mpr ⟨r, hr, hne, slot, hslot, ht⟩
  rw [wakesUp, Bool.or_eq_false_iff] at h
  have hsleeps := h.2
  rw [hostGetNextExpiringTimeval_eq] at hsleeps
  obtain ⟨hnone, hsome⟩ := foldl_earlierTimeout (hostTimers cfg host) none
  cases hnext : (hostTimers cfg host).foldl earlierTimeout none with
  | none => exact absurd ((hnone.mp hnext).2 _ hmem) (by simp)
  | some next =>
    rw [hnext] at hsleeps
    have hlater := of_decide_eq_false hsleeps
    have hearliest := (hsome next hnext).2 t hmem
    have hadd := timevalUsecdiff_add now next t
    omega

/-- **A turn** of a host that has no command for itself. -/
theorem runSender (hW : cfg.windowSize ≤ 255) (h : TimerInv cfg i host)
    (hcmds : ∀ cmd ∈ host.inputCmdlistHead, (UInt8.ofNat cmd.dstId.toNat).toNat < cfg.numHosts ∧
      (UInt8.ofNat cmd.dstId.toNat).toNat ≠ i) (hrun : runSender cfg host = .ok host') :
    TimerInv cfg i host' ∧ ∀ r, LaterTimers cfg (host.env.clock host.ticks) r host' := by
  have hnow := h.clockAfter
  obtain ⟨v, hok⟩ := h.view
  obtain ⟨v', -, hok'⟩ := runSender_steps hW hok hrun
  have hothers : ∀ r, framesFor r host'.log.created ≠ [] → r < cfg.numHosts ∧ r ≠ i := by
    obtain ⟨-, frames, hcreated, hfrom⟩ := runSender_creates hrun
    intro r hne
    rw [hcreated, framesFor_append] at hne
    by_cases hold : framesFor r host.log.created = []
    · rw [hold, List.nil_append] at hne
      obtain ⟨frame, hmem⟩ := List.exists_mem_of_ne_nil _ hne
      rw [framesFor, List.mem_filter, decide_eq_true_eq] at hmem
      obtain ⟨cmd, hcmd, -, hdst⟩ := hfrom frame hmem.1
      rw [← hmem.2, hdst]
      exact hcmds cmd hcmd
    · exact h.others r hold
  -- only the windows for other hosts can be in use
  suffices hsuff : TimerInv cfg i host' ∧
      ∀ r < cfg.numHosts, r ≠ i → LaterTimers cfg (host.env.clock host.ticks) r host' by
    refine ⟨hsuff.1, fun r slot hslot => ?_⟩
    obtain ⟨k, hk, -⟩ := mem_sendWin.mp hslot
    obtain ⟨hr, hne⟩ := hothers r (created_ne_nil hok' (Nat.zero_lt_of_lt hk))
    exact hsuff.2 r hr hne slot hslot
  rcases runSender_cases hrun with ⟨hsleep, rfl⟩ | ⟨host₁, hround, rfl⟩
  · refine ⟨⟨h.id_eq, h.clock_mono, ⟨v', hok'⟩, hothers, h.cc, ⟨h.tidy.bound, h.tidy.unused⟩,
      h.timer⟩, fun r hr hne => ?_⟩
    exact laterTimers_of_sleeps hsleep hr (h.id_eq ▸ hne)
  · set host₀ : Host ℚ :=
      { host with
        ticks := host.ticks + 1, roundTripNum := host.roundTripNum + 1, csvOut := true }
    have hok₀ : SenderOk cfg host₀.incomingFramesHead host₀ v :=
      hok.of_eq rfl (fun _ => rfl) rfl rfl rfl
    have hsteady : Steady (host.env.clock host.ticks) host₀ :=
      ⟨h.cc, fun k hk => hnow k (Nat.le_of_succ_le hk)⟩
    obtain ⟨⟨harmed, hlater, hback, hcc⟩, htidy, hid, henv⟩ :=
      sendRound_timers hW hok₀ hsteady ⟨h.tidy.bound, h.tidy.unused⟩ hround
    have hid₁ : host₁.id = i := hid.trans h.id_eq
    have hid₀ : host₀.id = i := h.id_eq
    rw [hid₀] at harmed hlater
    refine ⟨⟨hid₁, fun k => ?_, ⟨v', hok'⟩, hothers, hcc, ⟨htidy.bound, htidy.unused⟩, ?_⟩, hlater⟩
    · change 0 ≤ timevalUsecdiff (host₁.env.clock k) (host₁.env.clock (k + 1))
      rw [henv]
      exact h.clock_mono k
    · refine exists_timer hok' ⟨htidy.bound, htidy.unused⟩ ?_ ?_ hback
      · rwa [show (updateActive cfg host₁).id = i from hid₁]
      · rwa [show (updateActive cfg host₁).id = i from hid₁]

end TimerInv

/-! ## The result -/

variable (cfg) in
/-- No host has a command whose receiver is, as the byte in a frame, the host itself. -/
def NoneForItself (s : State ℚ) : Prop :=
  ∀ i < cfg.numHosts, ∀ cmd ∈ (s.world.hosts i).inputCmdlistHead,
    (UInt8.ofNat cmd.dstId.toNat).toNat ≠ i

theorem TimerInv.run (hW : cfg.windowSize ≤ 255) {hostEnv : ℕ → HostEnv} {env : WorldEnv} {n : ℕ}
    {s : State ℚ} (hclock : ∀ i < cfg.numHosts, ∀ k,
      0 ≤ timevalUsecdiff ((hostEnv i).clock k) ((hostEnv i).clock (k + 1)))
    (hself : RunMeets cfg (NoneForItself cfg) n ⟨.top, init cfg hostEnv env⟩)
    (h : steps cfg n ⟨.top, init cfg hostEnv env⟩ = .ok s) :
    ∀ i < cfg.numHosts, TimerInv cfg i (s.world.hosts i) := by
  refine hosts_invariant (P := fun s => NoneForItself cfg s ∧ ExitInv cfg s)
    (fun i hi => TimerInv.start i _ (hclock i hi)) (fun i host host' hsame hinv => hinv.congr hsame)
    ?_ (fun m hm s' hs' => ⟨hself m hm s' hs', ExitInv.run hs'⟩) h
  intro s i todo host' hphase hs hpoint hinv hrun
  have hi : i < cfg.numHosts := hphase.todo_lt i (by rw [hpoint]; exact List.mem_cons_self)
  exact (hinv.runSender hW (fun cmd hcmd =>
    ⟨(hs.2.addressed i hi).cmds cmd hcmd, hs.1 i hi cmd hcmd⟩) hrun).1

/-- **No sender gets stuck.** After its turn in `run_senders`, a host that is active has a timer,
and its timers are later than the time at which the turn began. -/
theorem active_hosts_have_timers (cfg : SysConfig ℚ) (hW : cfg.windowSize ≤ 255)
    (hostEnv : ℕ → HostEnv) (env : WorldEnv) (n i : ℕ) (todo : List ℕ) (state state' : State ℚ)
    (hclock : ∀ i < cfg.numHosts, ∀ k,
      0 ≤ timevalUsecdiff ((hostEnv i).clock k) ((hostEnv i).clock (k + 1)))
    (hself : RunMeets cfg (NoneForItself cfg) (n + 1) ⟨.top, init cfg hostEnv env⟩)
    (h : steps cfg n ⟨.top, init cfg hostEnv env⟩ = .ok state)
    (hpoint : state.point = .senders (i :: todo)) (hstep : step cfg state = .ok state') :
    ((state'.world.hosts i).active = true →
      hostGetNextExpiringTimeval cfg (state'.world.hosts i) ≠ none) ∧
    ∀ r, LaterTimers cfg ((state.world.hosts i).env.clock (state.world.hosts i).ticks) r
      (state'.world.hosts i) := by
  have hinv := TimerInv.run hW hclock (fun m hm => hself m (by omega)) h
  have hexit := ExitInv.run h
  have hphase := PhaseInv.run h
  have hi : i < cfg.numHosts := hphase.todo_lt i (by rw [hpoint]; exact List.mem_cons_self)
  have hrun : runSender cfg (state.world.hosts i) = .ok (state'.world.hosts i) := by
    cases step_cases hstep with
    | sender w j todo' host hrun =>
      obtain ⟨rfl, rfl⟩ : j = i ∧ todo' = todo := by simpa using hpoint
      rw [hosts_setHost, if_pos rfl]
      exact hrun
    | _ => simp at hpoint
  obtain ⟨hinv', hlater⟩ := (hinv i hi).runSender hW (fun cmd hcmd =>
    ⟨(hexit.addressed i hi).cmds cmd hcmd, hself n (Nat.lt_succ_self n) state h i hi cmd hcmd⟩) hrun
  refine ⟨fun hactive => hinv'.timer ?_, hlater⟩
  rw [← (Settled.runSender hrun).active_eq]
  exact hactive

set_option maxRecDepth 10000 in
/-- The turn of host 0 in the first round of `helloEnv`. -/
theorem active_hosts_have_timers_hello :
    ∃ state state', steps ccBasicConfig 1
        ⟨.top, init ccBasicConfig (fun _ => .still) helloEnv⟩ = .ok state ∧
      step ccBasicConfig state = .ok state' ∧ (state'.world.hosts 0).active = true ∧
      hostGetNextExpiringTimeval ccBasicConfig (state'.world.hosts 0) ≠ none := by
  obtain ⟨state', hstate', hactive⟩ := exists_of_map_eq (e := steps ccBasicConfig 2
      ⟨.top, init ccBasicConfig (fun _ => .still) helloEnv⟩)
    (f := fun s => (s.world.hosts 0).active) (b := true) (by decide +kernel)
  obtain ⟨state, hstate, hstep⟩ := exists_of_steps_succ hstate'
  have hbefore : ((steps ccBasicConfig 1
      ⟨.top, init ccBasicConfig (fun _ => .still) helloEnv⟩).map
      (fun s => (s.point, (List.range 5).all fun i => (s.world.hosts i).inputCmdlistHead.all
        fun cmd => decide ((UInt8.ofNat cmd.dstId.toNat).toNat ≠ i)))).toOption =
        some (.senders [0, 3, 4, 1, 2], true) := by decide +kernel
  rw [hstate] at hbefore
  simp only [Except.map, Except.toOption, Option.some.injEq, Prod.mk.injEq] at hbefore
  obtain ⟨hpoint, hcmds⟩ := hbefore
  simp only [List.all_eq_true, List.mem_range, decide_eq_true_eq] at hcmds
  refine ⟨state, state', hstate, hstep, hactive, (active_hosts_have_timers ccBasicConfig (by decide)
    (fun _ => .still) helloEnv 1 0 _ state state' (fun i _ k => ?_) (fun m hm s hs => ?_) hstate
    hpoint hstep).1 hactive⟩
  · simp [HostEnv.still, timevalUsecdiff]
  · rcases Nat.le_one_iff_eq_zero_or_eq_one.mp (Nat.lt_succ_iff.mp hm) with rfl | rfl
    · obtain rfl := Except.ok.inj hs
      exact fun i _ cmd hcmd => absurd hcmd List.not_mem_nil
    · obtain rfl := Except.ok.inj (hstate.symm.trans hs)
      exact fun i hi cmd hcmd => hcmds i hi cmd hcmd

/-! ## Too many hosts -/

/-- More hosts than a byte can number, and windows of one place. -/
def manyHostsConfig : SysConfig ℚ where
  numHosts := 257
  windowSize := 1
  corruptProb := 0
  recvAcceptRate := 1
  hostSendCcId := 0
  hostRecvCcId := 0
  two_le_numHosts := by decide
  windowSize_pos := by decide
  recvAcceptRate_pos := by decide

/-- Host 0 is told to send a message to host 256. -/
def farCommandEnv : WorldEnv := ⟨fun _ => 0, fun _ => [.scanned 4 "msg" 0 256 [97]]⟩

set_option maxRecDepth 10000 in
/-- To the byte `dst_id` host 256 is host 0, whose window for itself is never looked at. -/
theorem active_hosts_without_timer :
    ∃ state todo state', steps manyHostsConfig 1
        ⟨.top, init manyHostsConfig (fun _ => .still) farCommandEnv⟩ = .ok state ∧
      state.point = .senders (0 :: todo) ∧
      (state.world.hosts 0).inputCmdlistHead = [⟨0, 256, [97]⟩] ∧
      step manyHostsConfig state = .ok state' ∧ (state'.world.hosts 0).active = true ∧
      hostGetNextExpiringTimeval manyHostsConfig (state'.world.hosts 0) = none := by
  obtain ⟨state', hstate', hactive⟩ := exists_of_map_eq (e := steps manyHostsConfig 2
      ⟨.top, init manyHostsConfig (fun _ => .still) farCommandEnv⟩)
    (f := fun s => ((s.world.hosts 0).active,
      hostGetNextExpiringTimeval manyHostsConfig (s.world.hosts 0))) (b := (true, none))
    (by decide +kernel)
  obtain ⟨state, hstate, hstep⟩ := exists_of_steps_succ hstate'
  have hbefore : ((steps manyHostsConfig 1
      ⟨.top, init manyHostsConfig (fun _ => .still) farCommandEnv⟩).map
      (fun s => (s.point.sendersTodo.head?, (s.world.hosts 0).inputCmdlistHead))).toOption =
        some (some 0, [⟨0, 256, [97]⟩]) := by decide +kernel
  rw [hstate] at hbefore
  simp only [Except.map, Except.toOption, Option.some.injEq, Prod.mk.injEq] at hbefore hactive
  obtain ⟨hhead, hcmds⟩ := hbefore
  obtain ⟨todo, htodo⟩ := List.head?_eq_some_iff.mp hhead
  refine ⟨state, todo, state', hstate, ?_, hcmds, hstep, hactive.1, hactive.2⟩
  cases hpoint : state.point with
  | senders todo' =>
    rw [hpoint] at htodo
    exact congrArg Point.senders htodo
  | _ => simp [hpoint, Point.sendersTodo] at htodo

end NetworkSim.Tcp
