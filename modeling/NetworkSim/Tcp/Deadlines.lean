import NetworkSim.Foundations.Pacing
import NetworkSim.Tcp.Peers
import NetworkSim.Tcp.Retransmissions
import NetworkSim.Tcp.Rounds
import NetworkSim.Tcp.SenderRuns
import NetworkSim.Tcp.Timers

/-!
# Deadlines of the frames sent

A frame is given a timeout when it is sent, `TIMEOUT_INTERVAL_USEC` after the later of the clock and
`latest_timeout`, and 10 ms after this time is the next `latest_timeout`: a step of `Pacing`. That
is what `retransmit_frame` does (`retransmitFrame_repeats`). `handle_outgoing_frames` takes the base
of its new frames before it sends frames again, and afterwards sets `latest_timeout` from this base
(`handleOutgoingFrames_paced`). So its new frames do not time out later than the frames that it
sends again (`new_frame_expires_first`), and when it only sends frames again, `latest_timeout` goes
back. The deadlines increase exactly as long as neither does harm (`KeepsPace`,
`deadlines_increase_iff`).
-/

namespace NetworkSim.Tcp

open Pacing

variable {D : Type} {cfg : SysConfig D}

/-! ## Time in microseconds -/

/-- A time in microseconds. -/
def TimeVal.usec (t : TimeVal) : ℤ := t.tvSec * 1000000 + t.tvUsec

theorem timevalUsecdiff_eq (start finish : TimeVal) :
    timevalUsecdiff start finish = finish.usec - start.usec := by
  unfold timevalUsecdiff TimeVal.usec
  ring

@[simp] theorem usec_timevalUsecplus (t : TimeVal) (usec : ℤ) :
    (timevalUsecplus t usec).usec = t.usec + usec := by
  have := timevalUsecdiff_usecplus t t usec
  rw [timevalUsecdiff_eq, timevalUsecdiff_eq] at this
  omega

@[simp] theorem usec_afterLatestTimeout (currTimeval latestTimeout : TimeVal) :
    (afterLatestTimeout currTimeval latestTimeout).usec =
      max currTimeval.usec latestTimeout.usec := by
  rw [afterLatestTimeout, timevalUsecdiff_eq]
  split
  · rw [max_eq_right (by omega)]
  · rw [max_eq_left (by omega)]

/-! ## The frames sent -/

/-- The times from which the timeouts of the frames sent are counted, in the order in which the
frames were appended to `outgoing_frames_head`. -/
def sentAt (host : Host D) : List ℤ :=
  host.log.sent.map fun sent => sent.2.usec - timeoutIntervalUsec

/-- Each frame sent times out at least 10 ms later than the one sent before it. -/
def DeadlinesIncrease (host : Host D) : Prop :=
  host.log.sent.IsChain fun sent sent' => 10000 ≤ timevalUsecdiff sent.2 sent'.2

theorem deadlinesIncrease_iff (host : Host D) :
    DeadlinesIncrease host ↔ Spaced 10000 (sentAt host) := by
  rw [DeadlinesIncrease, Spaced, sentAt, List.isChain_map]
  refine iff_of_eq (congrArg (List.IsChain · host.log.sent) ?_)
  funext sent sent'
  rw [timevalUsecdiff_eq, eq_iff_iff]
  omega

/-- The next `n` readings of the clock. -/
def readings (n : ℕ) (host : Host D) : List ℤ :=
  (List.range' host.ticks n).map fun k => (host.env.clock k).usec

/-- `host'` is `host` after `n` calls of `retransmit_frame` that have each found a frame. -/
structure Repeats (n : ℕ) (host host' : Host D) : Prop where
  env_eq : host'.env = host.env
  ticks_eq : host'.ticks = host.ticks + n
  sentAt_eq : sentAt host' = sentAt host ++ times 10000 host.latestTimeout.usec (readings n host)
  latest_eq : host'.latestTimeout.usec = after 10000 host.latestTimeout.usec (readings n host)

namespace Repeats

variable {n n' : ℕ} {host host' host'' : Host D}

theorem refl (host : Host D) : Repeats 0 host host := ⟨rfl, rfl, by simp [readings], rfl⟩

theorem trans (h : Repeats n host host') (h' : Repeats n' host' host'') :
    Repeats (n + n') host host'' := by
  have hreadings : readings (n + n') host = readings n host ++ readings n' host' := by
    rw [readings, readings, readings, h.env_eq, h.ticks_eq, ← List.map_append,
      List.range'_append_1]
  refine ⟨h'.env_eq.trans h.env_eq, ?_, ?_, ?_⟩
  · rw [h'.ticks_eq, h.ticks_eq, add_assoc]
  · rw [h'.sentAt_eq, h.sentAt_eq, h.latest_eq, hreadings, times_append, List.append_assoc]
  · rw [h'.latest_eq, h.latest_eq, hreadings, after_append]

end Repeats

/-! ## Calls of `retransmit_frame` -/

/-- The search finds the first frame with the number looked for. -/
theorem findSeqNum_first {id i j : ℕ} {host : Host D} {is : List ℕ}
    (hsorted : is.Pairwise (· < ·)) {frame frame' : Frame}
    (hframe : (cqGetItemSend cfg id i host).frame = some frame) (hi : i ∈ is)
    (h : findSeqNum cfg id frame.seqNum host is = .ok (some (j, frame'))) : j ≤ i := by
  induction is with
  | nil => simp at hi
  | cons k is ih =>
    obtain ⟨hlt, hsorted'⟩ := List.pairwise_cons.mp hsorted
    rw [findSeqNum] at h
    split at h
    · simp at h
    · rename_i found hderef
      split at h
      · obtain ⟨rfl, -⟩ : k = j ∧ found = frame' := by simpa using h
        rcases List.mem_cons.mp hi with rfl | hmem
        · exact le_rfl
        · exact (hlt i hmem).le
      · rename_i hne
        rcases List.mem_cons.mp hi with rfl | hmem
        · rw [derefFrame_eq_ok] at hderef
          rw [Option.some.inj (hderef.symm.trans hframe)] at hne
          exact absurd rfl hne
        · exact ih hsorted' hmem h

/-- The search looks at all slots before it fails. -/
theorem findSeqNum_none {id : ℕ} {seqNum : UInt8} {host : Host D} {is : List ℕ}
    (h : findSeqNum cfg id seqNum host is = .ok none) :
    ∀ i ∈ is, ∀ frame, (cqGetItemSend cfg id i host).frame = some frame →
      frame.seqNum ≠ seqNum := by
  induction is with
  | nil => simp
  | cons k is ih =>
    rw [findSeqNum] at h
    split at h
    · simp at h
    · rename_i found hderef
      split at h
      · simp at h
      · rename_i hne
        refine List.forall_mem_cons.mpr ⟨fun frame hframe => ?_, ih h⟩
        rw [derefFrame_eq_ok] at hderef
        rwa [← Option.some.inj (hderef.symm.trans hframe)]

variable (cfg) in
/-- The window for `id` holds a frame numbered `seqNum`. -/
def HoldsSeqNum (id : ℕ) (seqNum : UInt8) (host : Host D) : Prop :=
  ∃ slot ∈ sendWin cfg id host, slot.frame.any (·.seqNum = seqNum)

instance (id : ℕ) (seqNum : UInt8) (host : Host D) : Decidable (HoldsSeqNum cfg id seqNum host) :=
  inferInstanceAs (Decidable (∃ slot ∈ sendWin cfg id host, _))

theorem holdsSeqNum_iff {id : ℕ} {seqNum : UInt8} {host : Host D} :
    HoldsSeqNum cfg id seqNum host ↔ ∃ i < cqGetLengthSend id host, ∃ frame,
      (cqGetItemSend cfg id i host).frame = some frame ∧ frame.seqNum = seqNum := by
  simp only [HoldsSeqNum, mem_sendWin, exists_exists_and_eq_and, Option.any_eq_true,
    decide_eq_true_eq]

/-- **`retransmit_frame`** sends a frame when the window holds one with the number; else it sets a
timer and moves `latest_timeout` all the same. -/
theorem retransmitFrame_repeats {dstId seqNum : UInt8} {host host' : Host D}
    (h : retransmitFrame cfg dstId seqNum host = .ok host') :
    (HoldsSeqNum cfg dstId.toNat seqNum host → Repeats 1 host host') ∧
      (¬ HoldsSeqNum cfg dstId.toNat seqNum host →
        host'.env = host.env ∧ host'.ticks = host.ticks + 1 ∧ sentAt host' = sentAt host ∧
          host.latestTimeout.usec ≤ host'.latestTimeout.usec) := by
  rw [holdsSeqNum_iff]
  obtain ⟨now, latest, timeout, rfl, rfl, rfl, hcases⟩ := retransmitFrame_cases h
  rcases hcases with ⟨i, frame, hi, hframe, hseq, rfl⟩ | ⟨-, hfind, rfl⟩
  · refine ⟨fun _ => ⟨rfl, rfl, ?_, ?_⟩, fun hnone => absurd ⟨i, hi, frame, hframe, hseq⟩ hnone⟩
    · simp [sentAt, setTimeout, readings]
    · simp [setTimeout, readings]
  · refine ⟨?_, fun _ => ⟨rfl, rfl, rfl, ?_⟩⟩
    · rintro ⟨i, hi, frame, hframe, hseq⟩
      exact absurd hseq (findSeqNum_none hfind i (List.mem_range.mpr hi) frame hframe)
    · have := le_max_right (host.env.clock host.ticks).usec host.latestTimeout.usec
      simp only [setTimeout, usec_timevalUsecplus, usec_afterLatestTimeout]
      omega

/-- `retransmit_frame` on the number of the frame in slot `i` changes a slot up to there. -/
theorem retransmitFrame_sendWin {dstId : UInt8} {host host' : Host D}
    (hbound : SendWinBound cfg host) {i : ℕ} (hi : i < cqGetLengthSend dstId.toNat host)
    {frame : Frame} (hframe : (cqGetItemSend cfg dstId.toNat i host).frame = some frame)
    (h : retransmitFrame cfg dstId frame.seqNum host = .ok host') :
    ∃ j ≤ i, ∃ slot, ∀ id, sendWin cfg id host' =
      if id = dstId.toNat then (sendWin cfg dstId.toNat host).set j slot
      else sendWin cfg id host := by
  have hclock := findSeqNum_clock cfg dstId.toNat frame.seqNum host
    (List.range (cqGetLengthSend dstId.toNat host)) (host.ticks + 1) (timevalUsecplus
      (afterLatestTimeout (host.env.clock host.ticks) host.latestTimeout) 10000)
  have hmem := List.mem_range.mpr hi
  simp only [retransmitFrame, gettimeofday] at h
  split at h
  · simp at h
  · rename_i j found hfind
    have hle := findSeqNum_first List.pairwise_lt_range hframe hmem (hclock.symm.trans hfind)
    obtain rfl := Except.ok.inj h
    exact ⟨j, hle, _, sendWin_setTimeout hbound (hle.trans_lt hi) _⟩
  · rename_i hfind
    exact absurd rfl (findSeqNum_none (hclock.symm.trans hfind) i hmem frame hframe)

theorem Resends.ownWindows {sent : List Frame} {host host' : Host D}
    (h : Resends cfg sent host host') (hown : OwnWindows cfg host) : OwnWindows cfg host' :=
  hown.congr h.frames

/-- A window with a frame is named by a byte. -/
theorem OwnWindows.toNat_ofNat {host : Host D} (h : OwnWindows cfg host) {recvId i : ℕ}
    {frame : Frame} (hframe : (cqGetItemSend cfg recvId i host).frame = some frame) :
    (UInt8.ofNat recvId).toNat = recvId := by
  have hdst := h _ frame hframe
  rw [cqSlotSend, ← Ring.slot, Ring.slot_div cfg.windowSize_pos] at hdst
  rw [← hdst, UInt8.ofNat_toNat]

/-- What `handle_outgoing_frames` does with slot `i`: the slots after it are left alone. -/
theorem retransmitFrame_inSlot {recvId i : ℕ} {frame : Frame} {host host' : Host D}
    (hbound : SendWinBound cfg host) (hown : OwnWindows cfg host)
    (hi : i < cqGetLengthSend recvId host)
    (hframe : (cqGetItemSend cfg recvId i host).frame = some frame)
    (h : retransmitFrame cfg (UInt8.ofNat recvId) frame.seqNum host = .ok host') :
    Repeats 1 host host' ∧
      (sendWin cfg recvId host').drop (i + 1) = (sendWin cfg recvId host).drop (i + 1) ∧
      ∀ id ≠ recvId, sendWin cfg id host' = sendWin cfg id host := by
  have hbyte := hown.toNat_ofNat hframe
  obtain ⟨j, hj, slot, hwindows⟩ :=
    retransmitFrame_sendWin hbound (by rwa [hbyte]) (by rwa [hbyte]) h
  have hholds : HoldsSeqNum cfg (UInt8.ofNat recvId).toNat frame.seqNum host := by
    rw [hbyte]
    exact holdsSeqNum_iff.mpr ⟨i, hi, frame, hframe, rfl⟩
  rw [hbyte] at hwindows
  refine ⟨(retransmitFrame_repeats h).1 hholds, ?_, ?_⟩
  · rw [hwindows, if_pos rfl, List.drop_set_of_lt (by omega)]
  · intro id hid
    rw [hwindows, if_neg hid]

/-- **The retransmissions to one receiver**: the budget `c` bounds how many of the slots without a
timer from slot `a` on, `todo`, are looked up. -/
theorem resendLoop_repeats {recvId a : ℕ} {todo : List SendWindowSlot} {c c' : ℤ}
    {host host' : Host D} (hbound : SendWinBound cfg host) (hown : OwnWindows cfg host)
    (htodo : (sendWin cfg recvId host).drop a = todo)
    (h : resendLoop cfg recvId (List.range' a todo.length) c host = .ok (c', host')) :
    ∃ n, n = min (nullTimers todo).length c.toNat ∧ c' = c - n ∧ Repeats n host host' ∧
      ∀ id ≠ recvId, sendWin cfg id host' = sendWin cfg id host := by
  induction todo generalizing a c host with
  | nil =>
    obtain ⟨rfl, rfl⟩ : c = c' ∧ host = host' := by simpa [resendLoop] using h
    exact ⟨0, by simp [nullTimers], by simp, Repeats.refl host, fun _ _ => rfl⟩
  | cons slot todo ih =>
    have hslot : (sendWin cfg recvId host)[a]? = some slot := by
      rw [← List.head?_drop, htodo, List.head?_cons]
    have htodo' : (sendWin cfg recvId host).drop (a + 1) = todo := by
      rw [← List.tail_drop, htodo, List.tail_cons]
    have ha : a < cqGetLengthSend recvId host := by
      rw [← length_sendWin cfg]
      exact (List.getElem?_eq_some_iff.mp hslot).1
    have hitem : cqGetItemSend cfg recvId a host = slot :=
      Option.some.inj ((getElem?_sendWin ha).symm.trans hslot)
    rw [List.length_cons, List.range'_succ, resendLoop, hitem] at h
    split at h
    · rename_i hsend
      split at h
      · simp at h
      · rename_i frame hderef
        split at h
        · simp at h
        · rename_i host₁ hretransmit
          have hframe : (cqGetItemSend cfg recvId a host).frame = some frame := by
            rw [hitem, ← derefFrame_eq_ok, hderef]
          obtain ⟨hfirst, hrest, hsame⟩ :=
            retransmitFrame_inSlot hbound hown ha hframe hretransmit
          obtain ⟨_, hresends⟩ := retransmitFrame_resends hretransmit
          obtain ⟨n, hn, rfl, hrepeats, hothers⟩ :=
            ih (hresends.bound hbound) (hresends.ownWindows hown) (hrest.trans htodo') h
          refine ⟨1 + n, ?_, ?_, hfirst.trans hrepeats, ?_⟩
          · rw [nullTimers_cons_none hsend.1, List.length_cons, hn]
            omega
          · omega
          · intro id hid
            rw [hothers id hid, hsame id hid]
    · rename_i hskip
      obtain ⟨n, hn, hrest⟩ := ih hbound hown htodo' h
      refine ⟨n, ?_, hrest⟩
      by_cases hnone : slot.timeout = none
      · have hspent : c.toNat = 0 := by
          have := not_and.mp hskip hnone
          omega
        rw [hn, hspent, Nat.min_zero, Nat.min_zero]
      · rw [nullTimers_cons_some hnone, hn]

/-! ## Calls of `handle_outgoing_frames` -/

variable (cfg) in
/-- How many frames are sent again to `d` with the budget `c d`: those without a timer, but for the
window of the host for itself. -/
def repeatsTo (c : ℕ → ℤ) (host : Host D) (d : ℕ) : ℕ :=
  if d = host.id then 0 else resendCount cfg (fun d => (c d).toNat) host d

/-- **The retransmissions** to the receivers `recvIds`. -/
theorem resendWindows_repeats {recvIds : List ℕ} (hnodup : recvIds.Nodup) {c c' : ℕ → ℤ}
    {host host' : Host D} (hbound : SendWinBound cfg host) (hown : OwnWindows cfg host)
    (h : resendWindows cfg recvIds c host = .ok (c', host')) :
    Repeats (recvIds.map (repeatsTo cfg c host)).sum host host' ∧
      ∀ d, c' d = c d - if d ∈ recvIds then repeatsTo cfg c host d else 0 := by
  induction recvIds generalizing c host with
  | nil =>
    obtain ⟨rfl, rfl⟩ : c = c' ∧ host = host' := by simpa [resendWindows] using h
    exact ⟨Repeats.refl host, by simp⟩
  | cons recvId recvIds ih =>
    obtain ⟨hnotMem, hnodup'⟩ := List.nodup_cons.mp hnodup
    have hne {d : ℕ} (hd : d ∈ recvIds) : d ≠ recvId := fun heq => hnotMem (heq ▸ hd)
    rw [resendWindows] at h
    rw [List.map_cons, List.sum_cons]
    split at h
    · rename_i hself
      have hzero : repeatsTo cfg c host recvId = 0 := if_pos hself
      obtain ⟨hrepeats, hleft⟩ := ih hnodup' hbound hown h
      rw [hzero, zero_add]
      refine ⟨hrepeats, ?_⟩
      intro d
      rw [hleft]
      by_cases hd : d = recvId
      · rw [hd, if_neg hnotMem, if_pos List.mem_cons_self, hzero]
      · simp only [List.mem_cons, hd, false_or]
    · rename_i hself
      split at h
      · simp at h
      · rename_i frames host₁ hloop
        rw [List.range_eq_range', ← length_sendWin cfg] at hloop
        obtain ⟨n, hn, rfl, hfirst, hothers⟩ :=
          resendLoop_repeats hbound hown List.drop_zero hloop
        replace hn : repeatsTo cfg c host recvId = n := (if_neg hself).trans hn.symm
        obtain ⟨_, hresends⟩ := resendLoop_resends hloop
        have hid : host₁.id = host.id := by
          obtain ⟨_, _, _, _, _, _, _, rfl⟩ := hresends.eq
          rfl
        -- the other receivers have their windows and their budgets still
        have hsame {d : ℕ} (hd : d ≠ recvId) :
            repeatsTo cfg (Function.update c recvId (c recvId - n)) host₁ d =
              repeatsTo cfg c host d := by
          simp only [repeatsTo, resendCount, hid, hothers d hd, Function.update_of_ne hd]
        obtain ⟨hrepeats, hleft⟩ :=
          ih hnodup' (hresends.bound hbound) (hresends.ownWindows hown) h
        rw [List.map_congr_left fun d hd => hsame (hne hd)] at hrepeats
        refine ⟨hn ▸ hfirst.trans hrepeats, ?_⟩
        intro d
        rw [hleft]
        by_cases hd : d = recvId
        · rw [hd, Function.update_self, if_neg hnotMem, if_pos List.mem_cons_self, hn,
            Nat.cast_zero, sub_zero]
        · simp only [Function.update_of_ne hd, hsame hd, List.mem_cons, hd, false_or]

variable (cfg) in
/-- The pass over the backlog does not hold `frame` back. -/
def Sendable (c : ℕ → ℤ) (host : Host D) (frame : Frame) : Prop :=
  cqGetLengthSend frame.receiver host ≠ cfg.windowSize ∧ c frame.receiver ≠ 0

instance (c : ℕ → ℤ) (host : Host D) (frame : Frame) : Decidable (Sendable cfg c host frame) :=
  inferInstanceAs (Decidable (_ ∧ _))

/-- **The pass over the backlog** sends `n` frames, each 10 ms after the one before it; it sends any
when one of the frames is sendable at first. -/
theorem sendLoop_paced (currTimeval : TimeVal) (kept frames : List Frame) (c : ℕ → ℤ)
    {additionalTs additionalTs' : ℤ} (hts : 0 ≤ additionalTs) {host host' : Host D}
    (h : sendLoop cfg currTimeval kept frames c additionalTs host = (additionalTs', host')) :
    ∃ n, (0 < n ↔ ∃ frame ∈ frames, Sendable cfg c host frame) ∧
      host'.env = host.env ∧ host'.ticks = host.ticks ∧
      sentAt host' = sentAt host ++ times 10000 (currTimeval.usec + additionalTs)
        (List.replicate n currTimeval.usec) ∧
      currTimeval.usec + additionalTs' =
        after 10000 (currTimeval.usec + additionalTs) (List.replicate n currTimeval.usec) := by
  induction frames generalizing kept c additionalTs host with
  | nil =>
    obtain ⟨rfl, rfl⟩ := Prod.mk.inj h
    exact ⟨0, by simp, rfl, rfl, by simp [sentAt], rfl⟩
  | cons frame frames ih =>
    rw [sendLoop] at h
    split at h
    · rename_i hheld
      obtain ⟨n, hn, hrest⟩ := ih _ _ hts h
      have hnot : ¬ Sendable cfg c host frame := fun hs => hheld.elim hs.1 hs.2
      refine ⟨n, hn.trans ?_, hrest⟩
      simp only [List.mem_cons, exists_eq_or_imp, hnot, false_or]
    · rename_i hsend
      obtain ⟨n, -, henv, hticks, hsent, hlast⟩ := ih _ _ (by omega) h
      obtain ⟨_, _, happend, -⟩ := cqAppendItemSend_eq cfg frame.dstId.toNat frame
        (timevalUsecplus currTimeval (timeoutIntervalUsec + additionalTs))
        { host with
          outgoingFramesHead := host.outgoingFramesHead ++ [frame]
          log := { host.log with
            sent := host.log.sent ++
              [(frame, timevalUsecplus currTimeval (timeoutIntervalUsec + additionalTs))] } }
      rw [happend] at henv hticks hsent
      have hmax : max currTimeval.usec (currTimeval.usec + additionalTs) =
          currTimeval.usec + additionalTs := max_eq_right (by omega)
      have hfirst : (timevalUsecplus currTimeval (timeoutIntervalUsec + additionalTs)).usec -
          timeoutIntervalUsec = currTimeval.usec + additionalTs := by
        rw [usec_timevalUsecplus]
        ring
      refine ⟨n + 1, ?_, henv, hticks, ?_, ?_⟩
      · exact iff_of_true (Nat.succ_pos n) ⟨frame, List.mem_cons_self, not_or.mp hsend⟩
      · rw [hsent, List.replicate_succ, times_cons, hmax, add_assoc]
        simp only [sentAt, List.map_append, List.map_cons, List.map_nil, hfirst, List.append_assoc,
          List.singleton_append]
      · rw [hlast, List.replicate_succ, after_cons, hmax, add_assoc]

variable [CDouble D]

/-- `frames_per_rtt` as `handle_outgoing_frames` sets it. -/
def framesPerRtt (host : Host D) (d : ℕ) : ℤ := CDouble.toInt (host.cc d).cwnd

variable (cfg) in
/-- How many frames `handle_outgoing_frames` sends again. -/
def repeats (host : Host D) : ℕ :=
  ((List.range cfg.numHosts).map (repeatsTo cfg (framesPerRtt host) host)).sum

variable (cfg) in
/-- `handle_outgoing_frames` sends a frame of the backlog, with what the retransmissions leave of
the budgets. -/
def SendsNew (host : Host D) : Prop :=
  ∃ frame ∈ host.bufferedOutframesHead, Sendable cfg (fun d => framesPerRtt host d -
    if d < cfg.numHosts then repeatsTo cfg (framesPerRtt host) host d else 0) host frame

instance (host : Host D) : Decidable (SendsNew cfg host) :=
  inferInstanceAs (Decidable (∃ frame ∈ host.bufferedOutframesHead, _))

/-- **`handle_outgoing_frames`** takes the later of the clock and `latest_timeout` as the base of
the new frames before it sends frames again, and leaves in `latest_timeout` what it makes of this
base. -/
theorem handleOutgoingFrames_paced {currTimeval : TimeVal} {host host' : Host D}
    (hbound : SendWinBound cfg host) (hown : OwnWindows cfg host)
    (h : handleOutgoingFrames cfg currTimeval host = .ok host') {base : ℤ}
    (hbase : base = max currTimeval.usec host.latestTimeout.usec) :
    ∃ n, (0 < n ↔ SendsNew cfg host) ∧ host'.env = host.env ∧
      host'.ticks = host.ticks + repeats cfg host ∧
      sentAt host' = sentAt host ++
        times 10000 host.latestTimeout.usec (readings (repeats cfg host) host) ++
        times 10000 base (List.replicate n base) ∧
      host'.latestTimeout.usec = after 10000 base (List.replicate n base) := by
  rw [← usec_afterLatestTimeout] at hbase
  rw [handleOutgoingFrames] at h
  split at h
  · simp at h
  · rename_i c host₁ hresend
    obtain ⟨hrepeats, hleft⟩ := resendWindows_repeats List.nodup_range hbound hown hresend
    obtain ⟨_, hresends⟩ := resendWindows_resends hresend
    cases hloop : sendLoop cfg (afterLatestTimeout currTimeval host.latestTimeout) []
      host₁.bufferedOutframesHead c 0 host₁ with
    | mk additionalTs host₂ =>
      rw [hloop] at h
      obtain rfl := Except.ok.inj h
      obtain ⟨n, hn, henv, hticks, hsent, hlast⟩ := sendLoop_paced _ _ _ _ le_rfl hloop
      rw [add_zero, ← hbase] at hsent hlast
      refine ⟨n, hn.trans ?_, henv.trans hrepeats.env_eq, hticks.trans hrepeats.ticks_eq, ?_, ?_⟩
      · obtain ⟨_, _, _, _, _, _, _, rfl⟩ := hresends.eq
        simp only [SendsNew, Sendable, hleft, List.mem_range]
        rfl
      · refine hsent.trans ?_
        rw [hrepeats.sentAt_eq]
        rfl
      · rw [← hlast, hbase]
        exact usec_timevalUsecplus ..

/-! ## Calls of `handle_incoming_acks` -/

variable (cfg) in
/-- The ACK makes the host send a frame again: it is the third duplicate in congestion avoidance,
and the window holds the frame after the one acknowledged. -/
def ResendsOnAck (frame : Frame) (host : Host D) : Prop :=
  (host.cc frame.srcId.toNat).state = .aimd ∧
    countDuplicate (host.dupAcksSeqNum frame.srcId.toNat) frame.seqNum
      (host.cc frame.srcId.toNat).dupAcks = 3 ∧
    HoldsSeqNum cfg frame.srcId.toNat (frame.seqNum + 1) host

omit [CDouble D] in
instance (frame : Frame) (host : Host D) : Decidable (ResendsOnAck cfg frame host) :=
  inferInstanceAs (Decidable (_ ∧ _ ∧ _))

omit [CDouble D] in
theorem dequeueAcked_sentAt {srcId seqNum : UInt8} {host host' : Host D}
    (h : dequeueAcked cfg srcId seqNum host = .ok host') :
    host'.env = host.env ∧ host'.ticks = host.ticks ∧ sentAt host' = sentAt host ∧
      host'.latestTimeout = host.latestTimeout := by
  rcases dequeueAcked_cases h with rfl | ⟨n, rfl⟩ <;> exact ⟨rfl, rfl, rfl, rfl⟩

/-- **The body of `handle_incoming_acks`** is a call of `retransmit_frame` or sends nothing. -/
theorem handleAck_repeats {frame : Frame} {host host' : Host D}
    (h : handleAck cfg frame host = .ok host') :
    (ResendsOnAck cfg frame host → Repeats 1 host host') ∧
      (¬ ResendsOnAck cfg frame host →
        host'.env = host.env ∧ host.ticks ≤ host'.ticks ∧ sentAt host' = sentAt host ∧
          host.latestTimeout.usec ≤ host'.latestTimeout.usec) := by
  rw [handleAck] at h
  split at h
  · simp at h
  · rename_i host₁ hcc
    obtain ⟨henv, hticks, hsent, hlatest⟩ := dequeueAcked_sentAt h
    rw [updateCc_eq, updateDupAcks_cc] at hcc
    rw [ResendsOnAck, ← and_assoc]
    rw [updateDupAcks_eq] at hcc
    split at hcc
    · rename_i hdup
      obtain ⟨hfound, hmissed⟩ := retransmitFrame_repeats hcc
      constructor
      · intro hresends
        obtain ⟨henv₁, hticks₁, hsent₁, hlatest₁⟩ := hfound hresends.2
        exact ⟨henv.trans henv₁, hticks.trans hticks₁, hsent.trans hsent₁, hlatest ▸ hlatest₁⟩
      · intro hnot
        obtain ⟨henv₁, hticks₁, hsent₁, hlatest₁⟩ := hmissed fun hholds => hnot ⟨hdup, hholds⟩
        rw [hlatest, hticks, hticks₁]
        exact ⟨henv.trans henv₁, Nat.le_succ _, hsent.trans hsent₁, hlatest₁⟩
    · rename_i hdup
      obtain rfl := Except.ok.inj hcc
      refine ⟨fun hresends => absurd hresends.1 hdup, fun _ => ?_⟩
      exact ⟨henv, hticks.ge, hsent, hlatest ▸ le_rfl⟩

/-! ## Keeping the pace -/

/-- A call that may send data frames: one for an ACK, or `handle_outgoing_frames`. -/
inductive SendingCall
  | ack (frame : Frame)
  | send

variable (cfg) in
/-- What the call does to the host, in a turn that has begun at `currTimeval`. -/
def SendingCall.run (currTimeval : TimeVal) (host : Host D) : SendingCall → Except Fault (Host D)
  | .ack frame => handleAck cfg frame host
  | .send => handleOutgoingFrames cfg currTimeval host

/-- `t` has reached the value of `latest_timeout` that is overwritten, if any. -/
def Reached (overwritten : Option ℤ) (t : ℤ) : Prop := ∀ t' ∈ overwritten, t' ≤ t

variable (cfg) in
/-- The condition on a call: `handle_outgoing_frames` does not both send frames again and send new
ones, and the base of the first frame that a call sends has reached what is overwritten. -/
def KeepsPace (currTimeval : TimeVal) (overwritten : Option ℤ) (host : Host D) : SendingCall → Prop
  | .ack frame =>
    ResendsOnAck cfg frame host →
      Reached overwritten
        (max (host.env.clock host.ticks).usec host.latestTimeout.usec)
  | .send =>
    (0 < repeats cfg host →
      ¬ SendsNew cfg host ∧
        Reached overwritten
          (max (host.env.clock host.ticks).usec host.latestTimeout.usec)) ∧
    (SendsNew cfg host →
      Reached overwritten (max currTimeval.usec host.latestTimeout.usec))

variable (cfg) in
/-- The value that the retransmissions of a call of `handle_outgoing_frames` have given
`latest_timeout`, and that the call has then overwritten; `none` when a frame is sent after it. -/
def overwrittenAfter (overwritten : Option ℤ) (host : Host D) : SendingCall → Option ℤ
  | .ack frame => if ResendsOnAck cfg frame host then none else overwritten
  | .send =>
    if 0 < repeats cfg host then
      some (after 10000 host.latestTimeout.usec (readings (repeats cfg host) host))
    else if SendsNew cfg host then none
    else overwritten

variable (cfg) in
/-- The invariant: the frames are spaced, and the last of them 10 ms before `latest_timeout` or
before what is overwritten. -/
structure Paced (overwritten : Option ℤ) (host : Host D) : Prop where
  bound : SendWinBound cfg host
  own : OwnWindows cfg host
  spaced : Spaced 10000 (sentAt host)
  next : overwritten = none →
    ∀ last ∈ (sentAt host).getLast?, last + 10000 ≤ host.latestTimeout.usec
  last : ∀ t ∈ overwritten, ∃ last ∈ (sentAt host).getLast?, last + 10000 = t

omit [CDouble D] in
theorem SenderMoves.bound {host host' : Host D} (h : SenderMoves cfg host host')
    (hbound : SendWinBound cfg host) : SendWinBound cfg host' := by
  induction h with
  | refl => exact hbound
  | tail _ hmove ih =>
    cases hmove with
    | resends host' sent hresends => exact hresends.bound ih
    | dequeue id n => exact ih.cqNdequeueSend id n
    | send frame hframe sent timeout =>
      refine SendWinBound.cqAppendItemSend ?_ _ frame timeout
      exact ih
    | backlog frames hframes latestTimeout => exact ih

namespace Paced

variable {currTimeval : TimeVal} {overwritten : Option ℤ} {host host' : Host D}

omit [CDouble D] in
/-- The next frame is spaced when its base has reached what is overwritten. -/
theorem reached_iff (h : Paced cfg overwritten host) (t : ℤ) :
    Reached overwritten (max t host.latestTimeout.usec) ↔
      ∀ last ∈ (sentAt host).getLast?, last + 10000 ≤ max t host.latestTimeout.usec := by
  cases overwritten with
  | none =>
    refine iff_of_true (by simp [Reached]) fun last hlast => ?_
    exact (h.next rfl last hlast).trans (le_max_right ..)
  | some t' =>
    obtain ⟨last, hlast, hsum⟩ := h.last t' rfl
    rw [Option.mem_def] at hlast
    simp [Reached, hlast, hsum]

omit [CDouble D] in
/-- Nothing is sent. -/
theorem unchanged (h : Paced cfg overwritten host) (hbound : SendWinBound cfg host')
    (hown : OwnWindows cfg host') (hsent : sentAt host' = sentAt host)
    (hle : host.latestTimeout.usec ≤ host'.latestTimeout.usec) :
    Paced cfg overwritten host' := by
  refine ⟨hbound, hown, ?_, ?_, ?_⟩ <;> rw [hsent]
  · exact h.spaced
  · intro hnone last hlast
    exact (h.next hnone last hlast).trans hle
  · exact h.last

omit [CDouble D] in
/-- The frames end with a series from which `latest_timeout` goes on. -/
theorem of_times (hbound : SendWinBound cfg host') (hown : OwnWindows cfg host')
    (hspaced : Spaced 10000 (sentAt host')) {ts nows : List ℤ} {next : ℤ} (hne : nows ≠ [])
    (hsent : sentAt host' = ts ++ times 10000 next nows)
    (hlatest : host'.latestTimeout.usec = after 10000 next nows) : Paced cfg none host' := by
  refine ⟨hbound, hown, hspaced, ?_, by simp⟩
  intro _ last hlast
  obtain ⟨last', hlast', hsum⟩ := last_add_gap 10000 next ts nows hne
  rw [← hsent] at hlast'
  rw [Option.mem_unique hlast hlast', hsum, hlatest]

/-- **An ACK** leaves the frames spaced exactly when it keeps the pace. -/
theorem ack {frame : Frame} (h : Paced cfg overwritten host)
    (hack : handleAck cfg frame host = .ok host') :
    (Spaced 10000 (sentAt host') ↔ KeepsPace cfg currTimeval overwritten host (.ack frame)) ∧
      (KeepsPace cfg currTimeval overwritten host (.ack frame) →
        Paced cfg (overwrittenAfter cfg overwritten host (.ack frame)) host') := by
  obtain ⟨hrepeats, hnothing⟩ := handleAck_repeats hack
  have hbound := (handleAck_moves hack).bound h.bound
  have hown := (handleAck_moves hack).ownWindows h.own
  by_cases hresends : ResendsOnAck cfg frame host
  · have hreadings : readings 1 host = [(host.env.clock host.ticks).usec] := rfl
    obtain ⟨-, -, hsent, hlatest⟩ := hrepeats hresends
    have hiff : Spaced 10000 (sentAt host') ↔
        KeepsPace cfg currTimeval overwritten host (.ack frame) := by
      rw [hsent, spaced_append_times_iff, hreadings, and_iff_right h.spaced, KeepsPace,
        h.reached_iff]
      simp [hresends]
    refine ⟨hiff, ?_⟩
    intro hkeeps
    rw [overwrittenAfter, if_pos hresends]
    exact of_times hbound hown (hiff.mpr hkeeps) (by simp [hreadings]) hsent hlatest
  · obtain ⟨-, -, hsent, hle⟩ := hnothing hresends
    rw [overwrittenAfter, if_neg hresends, hsent]
    have hkeeps : KeepsPace cfg currTimeval overwritten host (.ack frame) :=
      fun hnot => absurd hnot hresends
    exact ⟨iff_of_true h.spaced hkeeps, fun _ => h.unchanged hbound hown hsent hle⟩

/-- Sending nothing again leaves the frames spaced exactly when it keeps the pace. -/
theorem sendNew (h : Paced cfg overwritten host)
    (hzero : repeats cfg host = 0) (hsend : handleOutgoingFrames cfg currTimeval host = .ok host') :
    (Spaced 10000 (sentAt host') ↔ KeepsPace cfg currTimeval overwritten host .send) ∧
      (KeepsPace cfg currTimeval overwritten host .send →
        Paced cfg (overwrittenAfter cfg overwritten host .send) host') := by
  have hbound := (handleOutgoingFrames_moves hsend).bound h.bound
  have hown := (handleOutgoingFrames_moves hsend).ownWindows h.own
  obtain ⟨n, hn, -, -, hsent, hlatest⟩ := handleOutgoingFrames_paced h.bound h.own hsend rfl
  rw [hzero, readings, List.range'_zero, List.map_nil, times_nil, List.append_nil] at hsent
  have hiff : Spaced 10000 (sentAt host') ↔
      KeepsPace cfg currTimeval overwritten host .send := by
    rw [hsent, spaced_append_times_iff, and_iff_right h.spaced, KeepsPace, h.reached_iff,
      h.reached_iff, ← hn, hzero]
    cases n with
    | zero => simp
    | succ n => simp [List.replicate_succ]
  refine ⟨hiff, ?_⟩
  intro hkeeps
  rw [overwrittenAfter, if_neg hzero.not_gt]
  split
  · rename_i hnew
    have hne : List.replicate n (max currTimeval.usec host.latestTimeout.usec) ≠ [] := by
      simpa using (hn.mpr hnew).ne'
    exact of_times hbound hown (hiff.mpr hkeeps) hne hsent hlatest
  · rename_i hnew
    obtain rfl : n = 0 := by
      rw [← hn] at hnew
      omega
    rw [List.replicate_zero, times_nil, List.append_nil] at hsent
    refine h.unchanged hbound hown hsent ?_
    rw [hlatest]
    exact le_max_right ..

/-- Sending frames again puts `latest_timeout` past the base of the new frames of the same call. -/
theorem sendAgain (h : Paced cfg overwritten host)
    (hpos : 0 < repeats cfg host) (hclock : currTimeval.usec ≤ (host.env.clock host.ticks).usec)
    (hsend : handleOutgoingFrames cfg currTimeval host = .ok host') :
    (Spaced 10000 (sentAt host') ↔ KeepsPace cfg currTimeval overwritten host .send) ∧
      (KeepsPace cfg currTimeval overwritten host .send →
        Paced cfg (overwrittenAfter cfg overwritten host .send) host') := by
  have hbound := (handleOutgoingFrames_moves hsend).bound h.bound
  have hown := (handleOutgoingFrames_moves hsend).ownWindows h.own
  obtain ⟨n, hn, -, -, hsent, -⟩ := handleOutgoingFrames_paced h.bound h.own hsend rfl
  obtain ⟨r, hr⟩ : ∃ r, repeats cfg host = r + 1 := ⟨_, (Nat.sub_add_cancel hpos).symm⟩
  have hreadings : readings (repeats cfg host) host = (host.env.clock host.ticks).usec ::
      (List.range' (host.ticks + 1) r).map fun k => (host.env.clock k).usec := by
    rw [hr, readings, List.range'_succ, List.map_cons]
  obtain ⟨last, hlast, hsum⟩ := last_add_gap 10000 host.latestTimeout.usec (sentAt host)
    (readings (repeats cfg host) host) (by simp [hreadings])
  have hlate : max currTimeval.usec host.latestTimeout.usec < last + 10000 := by
    have hnext := le_after 10000
      (max (host.env.clock host.ticks).usec host.latestTimeout.usec + 10000) (by decide)
      ((List.range' (host.ticks + 1) r).map fun k => (host.env.clock k).usec)
    rw [← after_cons, ← hreadings, ← hsum] at hnext
    omega
  have hiff : Spaced 10000 (sentAt host') ↔
      KeepsPace cfg currTimeval overwritten host .send := by
    rw [KeepsPace, ← hn, hsent]
    cases n with
    | zero =>
      rw [List.replicate_zero, times_nil, List.append_nil, spaced_append_times_iff,
        and_iff_right h.spaced, h.reached_iff, hreadings]
      simp [hpos]
    | succ n =>
      refine iff_of_false ?_ fun hkeeps => (hkeeps.1 hpos).1 n.succ_pos
      intro hspaced
      have hnext := ((spaced_append_times_iff _ _ _ _).mp hspaced).2 _
        (by rw [List.replicate_succ, List.head?_cons]; rfl) last hlast
      rw [max_self] at hnext
      omega
  refine ⟨hiff, ?_⟩
  intro hkeeps
  obtain rfl : n = 0 := by
    have := (hkeeps.1 hpos).1
    rw [← hn] at this
    omega
  rw [List.replicate_zero, times_nil, List.append_nil] at hsent
  rw [overwrittenAfter, if_pos hpos]
  refine ⟨hbound, hown, hiff.mpr hkeeps, by simp, ?_⟩
  intro t ht
  obtain rfl := Option.some.inj ht
  exact ⟨last, hsent ▸ hlast, hsum⟩

/-- **A call** leaves the frames spaced exactly when it keeps the pace, and it then keeps the
invariant. -/
theorem run (h : Paced cfg overwritten host)
    (hclock : currTimeval.usec ≤ (host.env.clock host.ticks).usec) {call : SendingCall}
    (hrun : call.run cfg currTimeval host = .ok host') :
    (Spaced 10000 (sentAt host') ↔ KeepsPace cfg currTimeval overwritten host call) ∧
      (KeepsPace cfg currTimeval overwritten host call →
        Paced cfg (overwrittenAfter cfg overwritten host call) host') := by
  cases call with
  | ack frame => exact h.ack hrun
  | send =>
    rcases Nat.eq_zero_or_pos (repeats cfg host) with hzero | hpos
    · exact h.sendNew hzero hrun
    · exact h.sendAgain hpos hclock hrun

omit [CDouble D] in
theorem congr (h : Paced cfg overwritten host)
    (hwin : ∀ j, (host'.sendWindow j).frame = (host.sendWindow j).frame)
    (hlength : host'.sendWindowLength = host.sendWindowLength) (hsent : sentAt host' = sentAt host)
    (hlatest : host'.latestTimeout = host.latestTimeout) : Paced cfg overwritten host' := by
  refine h.unchanged ?_ (h.own.congr hwin) hsent (by rw [hlatest])
  intro id
  rw [cqGetLengthSend, hlength]
  exact h.bound id

theorem handleTimedoutFrames (h : Paced cfg overwritten host) (now : TimeVal) :
    Paced cfg overwritten (handleTimedoutFrames cfg now host) ∧
      (Tcp.handleTimedoutFrames cfg now host).env = host.env ∧
      (Tcp.handleTimedoutFrames cfg now host).ticks = host.ticks := by
  have hresends : Resends cfg [] host (Tcp.handleTimedoutFrames cfg now host) :=
    handleTimedoutFrames_resends now host
  have hframes := hresends.frames
  have hdisarms : Disarms host (Tcp.handleTimedoutFrames cfg now host) :=
    (handleTimedoutFrames_spec now host).1
  obtain ⟨_, _, heq, -⟩ := hdisarms
  rw [heq] at hframes ⊢
  exact ⟨h.congr hframes rfl rfl rfl, rfl, rfl⟩

end Paced

/-! ## Runs -/

/-- `host` is reached from `init_host`; its last turn has begun at `currTimeval`, and `overwritten`
is what `overwrittenAfter` says. Every call on the way had the property `P` in the state in which it
was made. -/
inductive DeadlineRun (cfg : SysConfig D)
    (P : TimeVal → Option ℤ → Host D → SendingCall → Prop) (id : ℕ) (env : HostEnv) :
    TimeVal → Option ℤ → Host D → Prop
  | start : DeadlineRun cfg P id env (env.clock 0) none (initHost cfg id env)
  /-- The beginning of a turn. -/
  | turn {currTimeval : TimeVal} {overwritten : Option ℤ} {host : Host D}
      (h : DeadlineRun cfg P id env currTimeval overwritten host) (roundTripNum : ℕ)
      (csvOut : Bool) :
      DeadlineRun cfg P id env (host.env.clock host.ticks) overwritten
        { host with ticks := host.ticks + 1, roundTripNum := roundTripNum, csvOut := csvOut }
  | commands {currTimeval : TimeVal} {overwritten : Option ℤ} {host : Host D}
      (h : DeadlineRun cfg P id env currTimeval overwritten host) :
      DeadlineRun cfg P id env currTimeval overwritten (handleInputCmds host)
  | call {currTimeval : TimeVal} {overwritten : Option ℤ} {host host' : Host D}
      (h : DeadlineRun cfg P id env currTimeval overwritten host) (call : SendingCall)
      (hP : P currTimeval overwritten host call)
      (hrun : call.run cfg currTimeval host = .ok host') :
      DeadlineRun cfg P id env currTimeval (overwrittenAfter cfg overwritten host call) host'
  | timeout {currTimeval : TimeVal} {overwritten : Option ℤ} {host : Host D}
      (h : DeadlineRun cfg P id env currTimeval overwritten host) :
      DeadlineRun cfg P id env currTimeval overwritten (handleTimedoutFrames cfg currTimeval host)
  /-- The end of a turn. -/
  | flags {currTimeval : TimeVal} {overwritten : Option ℤ} {host : Host D}
      (h : DeadlineRun cfg P id env currTimeval overwritten host) (awaitingAck active : Bool) :
      DeadlineRun cfg P id env currTimeval overwritten
        { host with awaitingAck := awaitingAck, active := active }
  /-- The rest of the program. -/
  | rest {currTimeval : TimeVal} {overwritten : Option ℤ} {host host' : Host D}
      (h : DeadlineRun cfg P id env currTimeval overwritten host) (hsame : SameSender host host') :
      DeadlineRun cfg P id env currTimeval overwritten host'

theorem SendingCall.run_clock {currTimeval : TimeVal} {host host' : Host D}
    (hbound : SendWinBound cfg host) (hown : OwnWindows cfg host) {call : SendingCall}
    (h : call.run cfg currTimeval host = .ok host') :
    host'.env = host.env ∧ host.ticks ≤ host'.ticks := by
  cases call with
  | ack frame =>
    obtain ⟨hrepeats, hnothing⟩ := handleAck_repeats h
    by_cases hresends : ResendsOnAck cfg frame host
    · obtain ⟨henv, hticks, -, -⟩ := hrepeats hresends
      exact ⟨henv, hticks ▸ Nat.le_succ _⟩
    · obtain ⟨henv, hticks, -, -⟩ := hnothing hresends
      exact ⟨henv, hticks⟩
  | send =>
    obtain ⟨_, -, henv, hticks, -, -⟩ := handleOutgoingFrames_paced hbound hown h rfl
    exact ⟨henv, hticks ▸ Nat.le_add_right ..⟩

namespace DeadlineRun

variable {id : ℕ} {env : HostEnv} {currTimeval : TimeVal} {overwritten : Option ℤ}
  {host host' : Host D}

/-- **In a run that keeps the pace** the invariant holds, and a turn does not begin later than the
next reading of the clock. -/
theorem paced (hclock : ∀ k, 0 ≤ timevalUsecdiff (env.clock k) (env.clock (k + 1)))
    (h : DeadlineRun cfg (KeepsPace cfg) id env currTimeval overwritten host) :
    Paced cfg overwritten host ∧ host.env = env ∧
      ∀ k ≥ host.ticks, currTimeval.usec ≤ (env.clock k).usec := by
  have hmono : Monotone fun k => (env.clock k).usec := by
    refine monotone_nat_of_le_succ fun k => ?_
    have := hclock k
    rw [timevalUsecdiff_eq] at this
    omega
  induction h with
  | start =>
    refine ⟨⟨fun _ => Nat.zero_le _, fun _ _ hframe => ?_, .nil, fun _ _ hlast => ?_, by simp⟩, rfl,
      fun k _ => hmono (Nat.zero_le k)⟩
    · exact absurd hframe (by simp [initHost, SendWindowSlot.empty])
    · exact absurd hlast (by simp [initHost, sentAt, HostLog.empty])
  | turn _ _ _ ih =>
    obtain ⟨hpaced, rfl, -⟩ := ih
    exact ⟨hpaced.congr (fun _ => rfl) rfl rfl rfl, rfl, fun k hk => hmono (Nat.le_of_succ_le hk)⟩
  | commands _ ih =>
    obtain ⟨hpaced, henv, hnow⟩ := ih
    obtain ⟨_, hcreates, -⟩ := handleInputCmds_creates _
    obtain ⟨_, _, heq⟩ := hcreates.eq
    rw [heq]
    exact ⟨hpaced.congr (fun _ => rfl) rfl rfl rfl, henv, hnow⟩
  | call _ call hP hrun ih =>
    obtain ⟨hpaced, henv, hnow⟩ := ih
    obtain ⟨henv', hticks⟩ := call.run_clock hpaced.bound hpaced.own hrun
    exact ⟨(hpaced.run (henv ▸ hnow _ le_rfl) hrun).2 hP, henv'.trans henv,
      fun k hk => hnow k (hticks.trans hk)⟩
  | timeout _ ih =>
    obtain ⟨hpaced, henv, hnow⟩ := ih
    obtain ⟨hpaced', henv', hticks⟩ := hpaced.handleTimedoutFrames _
    exact ⟨hpaced', henv'.trans henv, hticks ▸ hnow⟩
  | flags _ _ _ ih =>
    obtain ⟨hpaced, henv, hnow⟩ := ih
    exact ⟨hpaced.congr (fun _ => rfl) rfl rfl rfl, henv, hnow⟩
  | rest _ hsame ih =>
    obtain ⟨hpaced, henv, hnow⟩ := ih
    obtain ⟨_, _, _, _, _, _, _, _, _, _, _, rfl⟩ := hsame
    exact ⟨hpaced.congr (fun _ => rfl) rfl rfl rfl, henv, hnow⟩

/-! ## The whole program -/

theorem keptInTurns (id : ℕ) (env : HostEnv) :
    KeptInTurns cfg (fun now host =>
      ∃ overwritten, DeadlineRun cfg (fun _ _ _ _ => True) id env now overwritten host) where
  turn := fun ⟨_, h⟩ _ _ => ⟨_, h.turn _ _⟩
  commands := fun ⟨_, h⟩ => ⟨_, h.commands⟩
  ack := fun frame ⟨_, h⟩ hack => ⟨_, h.call (.ack frame) trivial hack⟩
  incoming := fun ⟨_, h⟩ _ => ⟨_, h.rest ⟨_, _, _, _, _, _, _, _, _, _, _, rfl⟩⟩
  timeout := fun ⟨_, h⟩ => ⟨_, h.timeout⟩
  send := fun ⟨_, h⟩ hsend => ⟨_, h.call .send trivial hsend⟩
  flags := fun ⟨_, h⟩ _ _ => ⟨_, h.flags _ _⟩

end DeadlineRun

/-- **The hosts of the program** are in such runs. -/
theorem deadlineRun_of_steps {hostEnv : ℕ → HostEnv} {env : WorldEnv} {n : ℕ} {s : State D}
    (h : steps cfg n ⟨.top, init cfg hostEnv env⟩ = .ok s) :
    ∀ i < cfg.numHosts, ∃ currTimeval overwritten,
      DeadlineRun cfg (fun _ _ _ _ => True) i (hostEnv i) currTimeval overwritten
        (s.world.hosts i) := by
  refine hosts_invariant (P := fun _ => True)
    (I := fun i host => ∃ currTimeval overwritten,
      DeadlineRun cfg (fun _ _ _ _ => True) i (hostEnv i) currTimeval overwritten host)
    (fun i _ => ⟨_, _, .start⟩) ?_ ?_ (fun _ _ _ _ => trivial) h
  · intro i host host' hsame ⟨_, _, hrun⟩
    exact ⟨_, _, hrun.rest hsame⟩
  · intro s i todo host' _ _ _ ⟨_, hrun⟩ hturn
    exact ⟨_, (DeadlineRun.keptInTurns i (hostEnv i)).runSender _ hrun hturn⟩

instance (overwritten : Option ℤ) (t : ℤ) : Decidable (Reached overwritten t) :=
  inferInstanceAs (Decidable (∀ t' ∈ overwritten, _))

instance (currTimeval : TimeVal) (overwritten : Option ℤ) (host : Host D) (call : SendingCall) :
    Decidable (KeepsPace cfg currTimeval overwritten host call) :=
  match call with
  | .ack _ => inferInstanceAs (Decidable (_ → _))
  | .send => inferInstanceAs (Decidable (_ ∧ _))

/-- **The deadlines of the frames sent.** In every run of a host whose clock does not go back and
whose calls all keep the pace, each frame sent times out at least 10 ms later than the one before
it; and the next call leaves it so exactly when it keeps the pace too. -/
theorem deadlines_increase_iff (cfg : SysConfig D) (id : ℕ) (env : HostEnv)
    (hclock : ∀ k, 0 ≤ timevalUsecdiff (env.clock k) (env.clock (k + 1))) (currTimeval : TimeVal)
    (overwritten : Option ℤ) (host : Host D)
    (h : DeadlineRun cfg (KeepsPace cfg) id env currTimeval overwritten host) :
    DeadlinesIncrease host ∧
      ∀ call host', SendingCall.run cfg currTimeval host call = .ok host' →
        (DeadlinesIncrease host' ↔ KeepsPace cfg currTimeval overwritten host call) := by
  obtain ⟨hpaced, rfl, hnow⟩ := h.paced hclock
  refine ⟨(deadlinesIncrease_iff host).mpr hpaced.spaced, fun call host' hrun => ?_⟩
  rw [deadlinesIncrease_iff]
  exact (hpaced.run (hnow _ le_rfl) hrun).1

/-- Three hosts with windows of two places, and frames of which half are corrupted. -/
def threeHostsConfig : SysConfig ℚ :=
  { lossyConfig 2 (by decide) with numHosts := 3, two_le_numHosts := by decide }

/-- Host 0 has a message for host 1. -/
def oneMessage : Host ℚ :=
  { initHost threeHostsConfig 0 .ticking with inputCmdlistHead := [⟨0, 1, [97]⟩] }

/-- A host reads the clock at the beginning of a turn. -/
def nextTurn (host : Host ℚ) : Host ℚ := { host with ticks := host.ticks + 1 }

/-- It sends what it can. -/
def sendFrames (currTimeval : TimeVal) (host : Host ℚ) : Host ℚ :=
  (handleOutgoingFrames threeHostsConfig currTimeval host).toOption.getD host

theorem DeadlineRun.nextTurn {currTimeval : TimeVal} {overwritten : Option ℤ} {host : Host ℚ}
    (h : DeadlineRun threeHostsConfig (KeepsPace threeHostsConfig) 0 .ticking currTimeval
      overwritten host) :
    DeadlineRun threeHostsConfig (KeepsPace threeHostsConfig) 0 .ticking
      (host.env.clock host.ticks) overwritten (nextTurn host) :=
  h.turn host.roundTripNum host.csvOut

theorem DeadlineRun.sendFrames {currTimeval : TimeVal} {overwritten overwritten' : Option ℤ}
    {host : Host ℚ} (h : DeadlineRun threeHostsConfig (KeepsPace threeHostsConfig) 0 .ticking
      currTimeval overwritten host)
    (hkeeps : KeepsPace threeHostsConfig currTimeval overwritten host .send)
    (hok : (handleOutgoingFrames threeHostsConfig currTimeval host).isOk = true)
    (hafter : overwrittenAfter threeHostsConfig overwritten host .send = overwritten') :
    DeadlineRun threeHostsConfig (KeepsPace threeHostsConfig) 0 .ticking currTimeval overwritten'
      (sendFrames currTimeval host) :=
  hafter ▸ h.call .send hkeeps (eq_ok_getD host hok)

/-- The frame is sent in the first turn, -/
def sentOnce : Host ℚ :=
  sendFrames (oneMessage.env.clock oneMessage.ticks) (handleInputCmds (nextTurn oneMessage))

/-- times out in the second -/
def timedOutOnce : Host ℚ :=
  handleTimedoutFrames threeHostsConfig (sentOnce.env.clock sentOnce.ticks) (nextTurn sentOnce)

/-- and is sent again, -/
def sentTwice : Host ℚ := sendFrames (sentOnce.env.clock sentOnce.ticks) timedOutOnce

/-- and in the third turn there is a message for host 2. -/
def anotherMessage : Host ℚ :=
  handleInputCmds { nextTurn sentTwice with inputCmdlistHead := [⟨0, 2, [98]⟩] }

set_option maxRecDepth 10000 in
/-- The frames are sent at 1 s, 3 s and 4 s, and all calls keep the pace. -/
theorem deadlines_increase_iff_resent :
    sentAt (sendFrames (sentTwice.env.clock sentTwice.ticks) anotherMessage) =
        [1000000, 3000000, 4000000] ∧
      DeadlinesIncrease (sendFrames (sentTwice.env.clock sentTwice.ticks) anotherMessage) := by
  have hstart : DeadlineRun threeHostsConfig (KeepsPace threeHostsConfig) 0 .ticking
      (HostEnv.ticking.clock 0) none oneMessage :=
    DeadlineRun.start.rest ⟨_, _, _, _, _, _, _, _, _, _, _, rfl⟩
  have hsent : DeadlineRun threeHostsConfig (KeepsPace threeHostsConfig) 0 .ticking _ none
      sentOnce :=
    hstart.nextTurn.commands.sendFrames (by decide +kernel) (by decide +kernel) (by decide +kernel)
  have hresent : DeadlineRun threeHostsConfig (KeepsPace threeHostsConfig) 0 .ticking _
      (some 3010000) sentTwice :=
    hsent.nextTurn.timeout.sendFrames (by decide +kernel) (by decide +kernel) (by decide +kernel)
  have hthird : DeadlineRun threeHostsConfig (KeepsPace threeHostsConfig) 0 .ticking _ none
      (sendFrames (sentTwice.env.clock sentTwice.ticks) anotherMessage) :=
    (hresent.nextTurn.rest ⟨_, _, _, _, _, _, _, _, _, _, _, rfl⟩).commands.sendFrames
      (by decide +kernel) (by decide +kernel) (by decide +kernel)
  refine ⟨by decide +kernel, (deadlines_increase_iff threeHostsConfig 0 .ticking ?_ _ _ _ hthird).1⟩
  intro k
  simp [HostEnv.ticking, timevalUsecdiff]

/-- Host 0 is told to send a message to host 1, and in the second round one to host 2; all frames
are corrupted. -/
def twoReceiversEnv : WorldEnv :=
  ⟨fun _ => 0, fun k =>
    if k = 0 then [.scanned 4 "msg" 0 1 [97]]
    else if k = 1 then [.scanned 4 "msg" 0 2 [98]]
    else []⟩

set_option maxRecDepth 100000 in
/-- **A new frame times out before a frame sent again.** In the second round the frame for host 1 is
sent again and then the one for host 2 is sent; the one sent first times out at 3.1 s, the other at
2.1 s. -/
theorem new_frame_expires_first :
    (∀ k, 0 ≤ timevalUsecdiff (HostEnv.ticking.clock k) (HostEnv.ticking.clock (k + 1))) ∧
      ∃ state, steps threeHostsConfig 12
          ⟨.top, init threeHostsConfig (fun _ => .ticking) twoReceiversEnv⟩ = .ok state ∧
        (state.world.hosts 0).log.sent.map (fun sent => (sent.1.dstId, sent.2)) =
          [(1, ⟨1, 100000⟩), (1, ⟨3, 100000⟩), (2, ⟨2, 100000⟩)] ∧
        ¬ DeadlinesIncrease (state.world.hosts 0) := by
  refine ⟨fun k => by simp [HostEnv.ticking, timevalUsecdiff], ?_⟩
  obtain ⟨state, hstate, hsent⟩ := exists_of_map_eq (e := steps threeHostsConfig 12
      ⟨.top, init threeHostsConfig (fun _ => .ticking) twoReceiversEnv⟩)
    (f := fun s => (s.world.hosts 0).log.sent.map (fun sent => (sent.1.dstId, sent.2)))
    (b := [(1, ⟨1, 100000⟩), (1, ⟨3, 100000⟩), (2, ⟨2, 100000⟩)]) (by decide +kernel)
  refine ⟨state, hstate, hsent, fun hincrease => ?_⟩
  have hchain : ([(1, ⟨1, 100000⟩), (1, ⟨3, 100000⟩), (2, ⟨2, 100000⟩)] :
      List (UInt8 × TimeVal)).IsChain fun sent sent' => 10000 ≤ timevalUsecdiff sent.2 sent'.2 := by
    rw [← hsent, List.isChain_map]
    exact hincrease
  exact absurd hchain (by decide)

end NetworkSim.Tcp
