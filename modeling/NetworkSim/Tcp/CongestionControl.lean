import NetworkSim.Tcp.SenderRuns

/-!
# Congestion control

With exact arithmetic the congestion window stays at one frame at least and above `ssthresh` outside
slow start (`congestion_invariant`).

The code takes an ACK for a new one when its count of duplicates is zero. The count is a byte, so
this is right only until the 256th duplicate of an ACK. As long as no such duplicate comes,
`dup_acks` is the number of duplicates, and none of them widens the window in congestion avoidance
or ends fast recovery (`duplicates_no_progress_iff`). The 256th does (`duplicate_ends_recovery`).
-/

namespace NetworkSim.Tcp

open CDouble

/-! ## The invariant -/

/-- What congestion control keeps of the entry for a receiver. -/
structure CongestionInv (cc : CongestionControl ℚ) : Prop where
  one_le_cwnd : 1 ≤ cc.cwnd
  half_le_ssthresh : 1 / 2 ≤ cc.ssthresh
  frft : cc.state = .frft → 2 ≤ cc.ssthresh ∧ cc.ssthresh + 3 ≤ cc.cwnd
  aimd : cc.state = .aimd → cc.ssthresh ≤ cc.cwnd
  ss : cc.state = .ss → cc.cwnd ≤ cc.ssthresh ∨ cc.cwnd = 1

namespace CongestionInv

variable {cc : CongestionControl ℚ} {c : Control ℚ}

theorem of_frft (hstate : cc.state = .frft) (htwo : 2 ≤ cc.ssthresh)
    (hcwnd : cc.ssthresh + 3 ≤ cc.cwnd) : CongestionInv cc where
  one_le_cwnd := by linarith
  half_le_ssthresh := by linarith
  frft _ := ⟨htwo, hcwnd⟩
  aimd h := absurd (hstate.symm.trans h) (by decide)
  ss h := absurd (hstate.symm.trans h) (by decide)

theorem of_aimd (hstate : cc.state = .aimd) (hone : 1 ≤ cc.cwnd) (hhalf : 1 / 2 ≤ cc.ssthresh)
    (hcwnd : cc.ssthresh ≤ cc.cwnd) : CongestionInv cc where
  one_le_cwnd := hone
  half_le_ssthresh := hhalf
  frft h := absurd (hstate.symm.trans h) (by decide)
  aimd _ := hcwnd
  ss h := absurd (hstate.symm.trans h) (by decide)

theorem of_ss (hstate : cc.state = .ss) (hone : 1 ≤ cc.cwnd) (hhalf : 1 / 2 ≤ cc.ssthresh)
    (hcwnd : cc.cwnd ≤ cc.ssthresh ∨ cc.cwnd = 1) : CongestionInv cc where
  one_le_cwnd := hone
  half_le_ssthresh := hhalf
  frft h := absurd (hstate.symm.trans h) (by decide)
  aimd h := absurd (hstate.symm.trans h) (by decide)
  ss _ := hcwnd

theorem ofInt_one : (ofInt 1 : ℚ) = 1 := Int.cast_one

theorem incr_eq (q : ℚ) : incr q = q + 1 := congrArg (q + ·) ofInt_one

theorem init (cfg : SysConfig ℚ) : CongestionInv (Control.init cfg).cc := by
  have hW : (1 : ℚ) ≤ ((cfg.windowSize : ℤ) : ℚ) := by exact_mod_cast cfg.windowSize_pos
  refine of_ss rfl ofInt_one.ge ?_ (.inr ofInt_one)
  change (1 : ℚ) / 2 ≤ ((cfg.windowSize : ℤ) : ℚ)
  linarith

/-- Counting a duplicate only widens the window, in fast recovery. -/
theorem updateDupAcks (h : CongestionInv c.cc) (seqNum : UInt8) :
    CongestionInv (c.updateDupAcks seqNum).cc := by
  by_cases hwiden : c.dupAcksSeqNum = seqNum ∧ c.cc.state = .frft
  · have hcwnd : (c.updateDupAcks seqNum).cc.cwnd = c.cc.cwnd + 1 :=
      (if_pos hwiden).trans (incr_eq _)
    obtain ⟨htwo, hthree⟩ := h.frft hwiden.2
    refine of_frft hwiden.2 htwo (hthree.trans ?_)
    rw [hcwnd]
    linarith
  · have hcwnd : (c.updateDupAcks seqNum).cc.cwnd = c.cc.cwnd := if_neg hwiden
    exact ⟨hcwnd ▸ h.one_le_cwnd, h.half_le_ssthresh, hcwnd ▸ h.frft, hcwnd ▸ h.aimd,
      hcwnd ▸ h.ss⟩

/-- Each arm of the `else if` chain. -/
theorem updateCc (h : CongestionInv c.cc) : CongestionInv c.updateCc.cc := by
  have hone := h.one_le_cwnd
  have hpos : 0 < c.cc.cwnd := zero_lt_one.trans_le hone
  rw [Control.updateCc]
  dsimp only
  split
  · have hgrow : 1 ≤ c.cc.cwnd + 1 := by linarith
    rw [incr_eq]
    by_cases hlt : c.cc.ssthresh < c.cc.cwnd + 1
    · -- slow start ends
      have hgt : gt (c.cc.cwnd + 1) c.cc.ssthresh = true := decide_eq_true hlt
      exact of_aimd (if_pos hgt) hgrow h.half_le_ssthresh hlt.le
    · have hgt : ¬ gt (c.cc.cwnd + 1) c.cc.ssthresh = true := fun hgt => hlt (of_decide_eq_true hgt)
      exact of_ss (if_neg hgt) hgrow h.half_le_ssthresh (.inl (not_lt.mp hlt))
  · split
    · rename_i haimd
      have hstep := le_add_div hpos
      exact of_aimd haimd.1 (hone.trans hstep) h.half_le_ssthresh ((h.aimd haimd.1).trans hstep)
    · split
      · rename_i hexit
        obtain ⟨htwo, -⟩ := h.frft hexit.1
        exact of_aimd rfl (le_trans (by norm_num) htwo) h.half_le_ssthresh le_rfl
      · split
        · have hthree (q : ℚ) : q + 3 ≤ add q (ofInt 3) :=
            (congrArg (q + ·) (Int.cast_ofNat 3)).ge
          exact of_frft rfl (two_le_max _) (hthree _)
        · exact h

theorem timeout (h : CongestionInv c.cc) : CongestionInv c.timeout.cc := by
  have hone := h.one_le_cwnd
  refine of_ss rfl ofInt_one.ge ?_ (.inr ofInt_one)
  change (1 : ℚ) / 2 ≤ c.cc.cwnd / ((2 : ℤ) : ℚ)
  push_cast
  linarith

theorem step {c' : Control ℚ} (h : CongestionInv c.cc) (hstep : Control.Step c c') :
    CongestionInv c'.cc := by
  cases hstep with
  | ack seqNum => exact (h.updateDupAcks seqNum).updateCc
  | timeout => exact h.timeout

/-- **ACKs and timeouts, in any order.** -/
theorem steps {c' : Control ℚ} (h : CongestionInv c.cc)
    (hsteps : Relation.ReflTransGen Control.Step c c') : CongestionInv c'.cc := by
  induction hsteps with
  | refl => exact h
  | tail _ hstep ih => exact ih.step hstep

end CongestionInv

/-- **The congestion-control invariant** holds of every entry in every run of a host, and so do the
facts that the code relies on: at least one frame may be sent, and the division is defined. -/
theorem congestion_invariant (cfg : SysConfig ℚ) (P : Frame → Host ℚ → Prop) (id : ℕ)
    (env : HostEnv) (acks : List Frame) (host : Host ℚ) (h : SenderRun cfg P id env acks host)
    (r : ℕ) :
    CongestionInv (host.cc r) ∧ 1 ≤ toInt (host.cc r).cwnd ∧ (host.cc r).cwnd ≠ 0 := by
  have hinv : CongestionInv (host.cc r) := (CongestionInv.init cfg).steps (h.control r)
  have hok : CcOk (host.cc r) := by
    refine ⟨hinv.one_le_cwnd, fun hstate => ?_⟩
    exact le_trans (by norm_num) (hinv.frft hstate).1
  exact ⟨hinv, hok.one_le_toInt, (zero_lt_one.trans_le hinv.one_le_cwnd).ne'⟩

set_option maxRecDepth 100000 in
/-- Three new ACKs: slow start ends with the first. -/
theorem congestion_invariant_three_acks :
    ∃ host : Host ℚ, (host.cc 1).state = .aimd ∧ (host.cc 1).cwnd = 29 / 10 ∧
      CongestionInv (host.cc 1) := by
  obtain ⟨host, hloop, hcc⟩ := exists_of_map_eq
    (e := handleIncomingAcksLoop (lossyConfig 1 (by decide)) [] [ackOf 0, ackOf 1, ackOf 2]
      (initHost (lossyConfig 1 (by decide)) 0 .still))
    (f := fun host => ((host.cc 1).state, (host.cc 1).cwnd)) (b := (.aimd, 29 / 10))
    (by decide +kernel)
  obtain ⟨hstate, hcwnd⟩ := Prod.mk.inj hcc
  obtain ⟨acks, hrun⟩ := (SenderRun.keptInTurns 0 .still).handleIncomingAcksLoop ⟨0, 0⟩
    ⟨[], .start⟩ hloop
  exact ⟨host, hstate, hcwnd,
    (congestion_invariant (lossyConfig 1 (by decide)) _ 0 .still acks host hrun 1).1⟩

/-! ## Duplicates -/

variable {D : Type} [CDouble D] {cfg : SysConfig D}

/-- The numbers that the ACKs from `r` among `acks` name. -/
def ackNums (r : ℕ) (acks : List Frame) : List UInt8 :=
  (acks.filter (fun frame => frame.srcId.toNat = r)).map (·.seqNum)

/-- The latest ACK number, and how many duplicates of it came since it advanced, after one more
ACK. -/
def countAck (latest : UInt8 × ℕ) (seqNum : UInt8) : UInt8 × ℕ :=
  if 0 < seqNumDiff latest.1 seqNum then (seqNum, 0)
  else if latest.1 = seqNum then (latest.1, latest.2 + 1)
  else latest

/-- The same after all of `nums`. -/
def duplicatesOf (nums : List UInt8) : UInt8 × ℕ := nums.foldl countAck (255, 0)

/-- The ACK is not the 256th duplicate. -/
def CountsOn (frame : Frame) (host : Host D) : Prop :=
  ¬ (host.dupAcksSeqNum frame.srcId.toNat = frame.seqNum ∧
    (host.cc frame.srcId.toNat).dupAcks = 255)

instance (frame : Frame) (host : Host D) : Decidable (CountsOn frame host) :=
  inferInstanceAs (Decidable (¬ _))

/-- The window is widened in congestion avoidance, or fast recovery ends. -/
def Progresses (r : ℕ) (host host' : Host D) : Prop :=
  (host.cc r).state = .aimd ∧ (host'.cc r).state = .aimd ∧ (host'.cc r).cwnd ≠ (host.cc r).cwnd ∨
    (host.cc r).state = .frft ∧ (host'.cc r).state = .aimd

omit [CDouble D] in
theorem ackNums_append (r : ℕ) (acks : List Frame) (frame : Frame) :
    ackNums r (acks ++ [frame]) =
      if r = frame.srcId.toNat then ackNums r acks ++ [frame.seqNum] else ackNums r acks := by
  rw [ackNums, List.filter_append, List.map_append]
  by_cases hr : r = frame.srcId.toNat
  · simp [hr, ackNums]
  · simp [hr, Ne.symm hr, ackNums]

omit [CDouble D] in
theorem duplicatesOf_append (nums : List UInt8) (seqNum : UInt8) :
    duplicatesOf (nums ++ [seqNum]) = countAck (duplicatesOf nums) seqNum := by
  rw [duplicatesOf, List.foldl_append]
  rfl

/-- `dup_acks` is the number of duplicates of `dup_acks_seq_num`. -/
def Counts (nums : List UInt8) (c : Control D) : Prop :=
  duplicatesOf nums = (c.dupAcksSeqNum, c.cc.dupAcks.toNat)

theorem dupAcks_updateCc (c : Control D) :
    c.updateCc.dupAcksSeqNum = c.dupAcksSeqNum ∧ c.updateCc.cc.dupAcks = c.cc.dupAcks := by
  refine ⟨rfl, ?_⟩
  rw [Control.updateCc]
  dsimp only
  split_ifs <;> rfl

/-- **One more ACK** is counted, except as the 256th duplicate. -/
theorem Counts.ack_iff {nums : List UInt8} {c : Control D} (h : Counts nums c) (seqNum : UInt8) :
    Counts (nums ++ [seqNum]) (c.ack seqNum) ↔
      ¬ (c.dupAcksSeqNum = seqNum ∧ c.cc.dupAcks = 255) := by
  obtain ⟨hlatest, hdup⟩ := dupAcks_updateCc (c.updateDupAcks seqNum)
  rw [Counts, duplicatesOf_append, h, Control.ack, hlatest, hdup, countAck,
    Control.updateDupAcks, countDuplicate]
  dsimp only
  by_cases hnewer : 0 < seqNumDiff c.dupAcksSeqNum seqNum
  · simp [hnewer, ne_of_newer hnewer]
  · by_cases hsame : c.dupAcksSeqNum = seqNum
    · have hlt := c.cc.dupAcks.toNat_lt
      have hfull : c.cc.dupAcks = 255 ↔ c.cc.dupAcks.toNat = 255 := UInt8.toNat_inj.symm
      simp only [hsame, seqNumDiff_self, lt_irrefl, if_false, if_true, Prod.mk.injEq, true_and,
        UInt8.toNat_add, UInt8.toNat_one, hfull]
      omega
    · simp [hnewer, hsame]

/-- Timeouts lead to slow start. -/
theorem timeouts_state {c c' : Control D}
    (hsteps : Relation.ReflTransGen (fun c c' => c' = Control.timeout c) c c') :
    c' = c ∨ c'.cc.state = .ss := by
  cases hsteps with
  | refl => exact .inl rfl
  | tail _ hstep =>
    rw [hstep]
    exact .inr rfl

/-- Timeouts are not counted. -/
theorem Counts.timeouts {nums : List UInt8} {c c' : Control D} (h : Counts nums c)
    (hsteps : Relation.ReflTransGen (fun c c' => c' = Control.timeout c) c c') :
    Counts nums c' := by
  induction hsteps with
  | refl => exact h
  | tail _ hstep ih =>
    rw [hstep]
    exact ih

/-- **The count is right** as long as no 256th duplicate comes. -/
theorem SenderRun.counts {id : ℕ} {env : HostEnv} {acks : List Frame} {host : Host D}
    (h : SenderRun cfg CountsOn id env acks host) (r : ℕ) :
    Counts (ackNums r acks) (host.control r) := by
  induction h with
  | start => rfl
  | commands _ ih => rwa [handleInputCmds_control]
  | ack _ frame hP hack ih =>
    rw [handleAck_control hack, ackNums_append]
    split
    · rename_i hr
      subst hr
      exact (ih.ack_iff frame.seqNum).mpr hP
    · exact ih
  | timeout _ currTimeval ih => exact ih.timeouts (handleTimedoutFrames_control currTimeval _ r)
  | send _ currTimeval hsend ih => rwa [handleOutgoingFrames_control hsend]
  | turn _ _ _ _ _ _ ih => exact ih
  | rest _ hsame ih =>
    obtain ⟨_, _, _, _, _, _, _, _, _, _, _, rfl⟩ := hsame
    exact ih

/-- A step of the entries that counts a duplicate makes no progress. -/
theorem updateCc_of_dupAcks_ne {c : Control D} (h : c.cc.dupAcks ≠ 0) :
    (c.cc.state = .aimd → c.updateCc.cc.state = .aimd → c.updateCc.cc.cwnd = c.cc.cwnd) ∧
      (c.cc.state = .frft → c.updateCc.cc.state ≠ .aimd) := by
  constructor
  · intro hstate
    simp only [Control.updateCc, hstate, h, reduceCtorEq, if_false, and_false, ne_eq,
      not_false_eq_true, and_true]
    split
    · intro hfrft
      cases hfrft
    · intro _
      rfl
  · intro hstate
    simp only [Control.updateCc, hstate, h, reduceCtorEq, if_false, and_false, ne_eq,
      not_true_eq_false, not_false_eq_true]

/-- What an ACK that is counted does not do. -/
theorem Counts.not_progress {nums : List UInt8} {c : Control D} {seqNum : UInt8}
    (h : Counts (nums ++ [seqNum]) (c.ack seqNum)) (hne : (duplicatesOf (nums ++ [seqNum])).2 ≠ 0) :
    (c.cc.state = .aimd → (c.ack seqNum).cc.state = .aimd →
        (c.ack seqNum).cc.cwnd = c.cc.cwnd) ∧
      (c.cc.state = .frft → (c.ack seqNum).cc.state ≠ .aimd) := by
  have hdup : (c.updateDupAcks seqNum).cc.dupAcks ≠ 0 := by
    intro hzero
    apply hne
    rw [h, Control.ack, (dupAcks_updateCc _).2, hzero]
    rfl
  obtain ⟨haimd, hfrft⟩ := updateCc_of_dupAcks_ne hdup
  refine ⟨fun hstate hstate' => ?_, hfrft⟩
  have hcwnd : (c.updateDupAcks seqNum).cc.cwnd = c.cc.cwnd := by
    refine if_neg fun hwiden => ?_
    exact absurd (hstate.symm.trans hwiden.2) (by decide)
  exact (haimd hstate hstate').trans hcwnd

omit [CDouble D] in
theorem not_progresses_of_eq {r : ℕ} {host host' : Host D} (h : host'.cc r = host.cc r) :
    ¬ Progresses r host host' := by
  rintro (⟨-, -, hcwnd⟩ | ⟨hstate, hstate'⟩)
  · exact hcwnd (congrArg CongestionControl.cwnd h)
  · rw [h, hstate] at hstate'
    cases hstate'

theorem not_progresses_timeout (currTimeval : TimeVal) (r : ℕ) (host : Host D) :
    ¬ Progresses r host (handleTimedoutFrames cfg currTimeval host) := by
  rcases timeouts_state (handleTimedoutFrames_control currTimeval host r) with hsame | hss
  · exact not_progresses_of_eq (congrArg Control.cc hsame)
  · change ((handleTimedoutFrames cfg currTimeval host).cc r).state = .ss at hss
    rintro (⟨-, hstate, -⟩ | ⟨-, hstate⟩) <;> exact absurd (hss.symm.trans hstate) (by decide)

/-- What is said of a step of a host that handles the ACK `frame` after the ACKs `acks`: the window
is widened in congestion avoidance and fast recovery ends only when the ACK is newer than the latest
one or no duplicate of the latest one has been counted, and the counts are right. -/
structure NoDuplicateProgress (acks : List Frame) (frame : Frame) (host host' : Host D) : Prop where
  progress : ∀ r, Progresses r host host' →
    r = frame.srcId.toNat ∧ 0 < seqNumDiff (host.dupAcksSeqNum r) frame.seqNum ∨
      (duplicatesOf (ackNums r (acks ++ [frame]))).2 = 0
  counts : ∀ r, Counts (ackNums r (acks ++ [frame])) (host'.control r)

/-- **Duplicates never count as progress**, exactly as long as no 256th duplicate comes. -/
theorem duplicates_no_progress_iff (cfg : SysConfig D) (id : ℕ) (env : HostEnv)
    (acks : List Frame) (host host' : Host D) (hrun : SenderRun cfg CountsOn id env acks host)
    (frame : Frame) (hack : handleAck cfg frame host = .ok host') :
    (∀ r, Counts (ackNums r acks) (host.control r)) ∧
      (∀ currTimeval r, ¬ Progresses r host (handleTimedoutFrames cfg currTimeval host)) ∧
      (NoDuplicateProgress acks frame host host' ↔ CountsOn frame host) := by
  have hcontrol := handleAck_control hack
  refine ⟨hrun.counts, fun currTimeval r => not_progresses_timeout currTimeval r host,
    fun h => ?_, fun h => ?_⟩
  · have hcounts := h.counts frame.srcId.toNat
    rw [hcontrol, if_pos rfl, ackNums_append, if_pos rfl] at hcounts
    exact ((hrun.counts _).ack_iff frame.seqNum).mp hcounts
  · have hcounts := (hrun.ack frame h hack).counts
    refine ⟨fun r hprogress => ?_, hcounts⟩
    by_cases hr : r = frame.srcId.toNat
    · by_contra hnot
      rw [not_or] at hnot
      have hcounts' := hcounts r
      rw [hcontrol, if_pos hr, ackNums_append, if_pos hr] at hcounts'
      have hne := hnot.2
      rw [ackNums_append, if_pos hr] at hne
      obtain ⟨haimd, hfrft⟩ := hcounts'.not_progress hne
      have hack' : host'.control r = (host.control r).ack frame.seqNum :=
        (hcontrol r).trans (if_pos hr)
      rw [← hack'] at haimd hfrft
      rcases hprogress with ⟨hstate, hstate', hcwnd⟩ | ⟨hstate, hstate'⟩
      · exact hcwnd (haimd hstate hstate')
      · exact hfrft hstate hstate'
    · refine absurd hprogress (not_progresses_of_eq ?_)
      exact congrArg Control.cc ((hcontrol r).trans (if_neg hr))

set_option maxRecDepth 100000 in
/-- The first duplicate in such a run. -/
theorem duplicates_no_progress_iff_first :
    NoDuplicateProgress [ackOf 0] (ackOf 0) (othersSent 2 (by decide))
      (duplicated 2 (by decide) 1) :=
  (duplicates_no_progress_iff (lossyConfig 2 (by decide)) 0 .still [ackOf 0]
    (othersSent 2 (by decide)) (duplicated 2 (by decide) 1)
    (senderRun_othersSent (by decide +kernel) (by decide +kernel) (by decide +kernel)
      (by decide +kernel)) (ackOf 0) (eq_ok_getD _ (by decide +kernel))).2.2.mpr (by decide +kernel)

/-! ## The 256th duplicate -/

/-- A duplicate in fast recovery changes the entries of its receiver only. -/
theorem handleAck_duplicate {frame first : Frame} {window : List Frame} {host : Host D}
    (hwin : winFrames cfg frame.srcId.toNat host = (first :: window).map some)
    (hold : seqNumDiff first.seqNum frame.seqNum < 0)
    (hstate : (host.cc frame.srcId.toNat).state = .frft)
    (hsame : host.dupAcksSeqNum frame.srcId.toNat = frame.seqNum) :
    handleAck cfg frame host = .ok (setCc frame.srcId.toNat
      ((host.control frame.srcId.toNat).ack frame.seqNum).cc host) := by
  have hcc : updateCc cfg frame.srcId frame.seqNum
      (updateDupAcks frame.srcId frame.seqNum host) = .ok (setCc frame.srcId.toNat
        ((host.control frame.srcId.toNat).ack frame.seqNum).cc host) := by
    rw [updateCc_duplicate cfg hsame, hstate]
    exact if_neg fun h => absurd h.1 (by decide)
  have hcount : SendView.ackCount (first :: window) frame.seqNum = 0 := by
    rw [SendView.ackCount, List.head?_cons, Option.any_some, if_pos (by simpa using hold)]
  have hdequeue : dequeueAcked cfg frame.srcId frame.seqNum (setCc frame.srcId.toNat
      ((host.control frame.srcId.toNat).ack frame.seqNum).cc host) = .ok (setCc frame.srcId.toNat
        ((host.control frame.srcId.toNat).ack frame.seqNum).cc host) := by
    have hwin' : winFrames cfg frame.srcId.toNat (setCc frame.srcId.toNat
        ((host.control frame.srcId.toNat).ack frame.seqNum).cc host) =
          (first :: window).map some := hwin
    rw [dequeueAcked_eq hwin', if_pos hcount]
  rw [handleAck, hcc]
  exact hdequeue

/-- Host 0 in fast recovery after `3 + k` duplicates of the ACK 0. -/
structure Recovering (k : ℕ) (host : Host ℚ) : Prop where
  run : SenderRun (lossyConfig 2 (by decide)) ValidAck 0 .still
    (List.replicate (4 + k) (ackOf 0)) host
  valid : ValidAck (ackOf 0) host
  window : ∃ first window, winFrames (lossyConfig 2 (by decide)) 1 host =
    (first :: window).map some ∧ first.seqNum = 1
  state : (host.cc 1).state = .frft
  dupAcks : (host.cc 1).dupAcks = UInt8.ofNat (3 + k)
  latest : host.dupAcksSeqNum 1 = 0

namespace Recovering

set_option maxRecDepth 100000 in
theorem three : Recovering 0 (duplicated 2 (by decide) 3) where
  run := by
    have hstart : SenderRun (lossyConfig 2 (by decide)) ValidAck 0 .still [ackOf 0]
        (othersSent 2 (by decide)) :=
      senderRun_othersSent (by decide +kernel) (by decide +kernel) (by decide +kernel)
        (by decide +kernel)
    exact senderRun_duplicated hstart 3 (by decide +kernel)
  valid := by decide +kernel
  window := exists_window (n := 1) (m := 2) (by decide +kernel)
  state := by decide +kernel
  dupAcks := by decide +kernel
  latest := by decide +kernel

/-- One more duplicate, -/
theorem exists_handleAck {k : ℕ} {host : Host ℚ} (h : Recovering k host) :
    handleAck (lossyConfig 2 (by decide)) (ackOf 0) host =
      .ok (setCc 1 ((host.control 1).ack 0).cc host) := by
  obtain ⟨first, window, hwin, hfirst⟩ := h.window
  have hwin' : winFrames (lossyConfig 2 (by decide)) (ackOf 0).srcId.toNat host =
      (first :: window).map some := hwin
  refine handleAck_duplicate hwin' ?_ h.state h.latest
  rw [hfirst]
  decide

/-- which is counted, -/
theorem succ {k : ℕ} (hk : k < 252) {host : Host ℚ} (h : Recovering k host) :
    Recovering (k + 1) (setCc 1 ((host.control 1).ack 0).cc host) := by
  have hdup : (host.cc 1).dupAcks + 1 ≠ 0 := by
    rw [h.dupAcks]
    intro hzero
    have := congrArg UInt8.toNat hzero
    rw [UInt8.toNat_add, toNat_ofNat] at this
    simp only [UInt8.toNat_one, UInt8.toNat_zero] at this
    omega
  have hcc : (host.control 1).ack 0 =
      ⟨0, { host.cc 1 with
        dupAcks := (host.cc 1).dupAcks + 1, cwnd := incr (host.cc 1).cwnd }⟩ := by
    simp only [Control.ack, Control.updateCc, Control.updateDupAcks, countDuplicate,
      Host.control, h.latest, h.state, hdup, seqNumDiff_self, lt_irrefl, if_false, if_true,
      reduceCtorEq, and_false, and_self, ne_eq, not_true_eq_false]
  rw [hcc]
  have hself : (setCc 1 { host.cc 1 with
      dupAcks := (host.cc 1).dupAcks + 1, cwnd := incr (host.cc 1).cwnd } host).cc 1 =
      { host.cc 1 with
        dupAcks := (host.cc 1).dupAcks + 1, cwnd := incr (host.cc 1).cwnd } := by
    simp only [setCc, Function.update_self]
  refine ⟨?_, h.valid, h.window, ?_, ?_, h.latest⟩
  · have hrun := h.run.ack (ackOf 0) h.valid h.exists_handleAck
    rwa [hcc, ← List.replicate_succ'] at hrun
  · rw [hself]
    exact h.state
  · rw [hself]
    dsimp only
    rw [h.dupAcks, ← ofNat_succ]
    rfl

/-- until the 255th is. -/
theorem exists_all (k : ℕ) (hk : k ≤ 252) : ∃ host, Recovering k host := by
  induction k with
  | zero => exact ⟨_, three⟩
  | succ k ih =>
    obtain ⟨host, h⟩ := ih (by omega)
    exact ⟨_, h.succ (by omega)⟩

end Recovering

theorem duplicatesOf_replicate (n : ℕ) : duplicatesOf (List.replicate (n + 1) 0) = (0, n) := by
  induction n with
  | zero => decide
  | succ n ih =>
    rw [List.replicate_succ', duplicatesOf_append, ih]
    rfl

/-- **A duplicate that ends fast recovery**: after one ACK of the first frame and 255 duplicates of
it, one more is taken for a new one. -/
theorem duplicate_ends_recovery :
    ∃ host host', SenderRun (lossyConfig 2 (by decide)) ValidAck 0 .still
        (List.replicate 256 (ackOf 0)) host ∧
      ValidAck (ackOf 0) host ∧
      handleAck (lossyConfig 2 (by decide)) (ackOf 0) host = .ok host' ∧
      (host.cc 1).state = .frft ∧ (host'.cc 1).state = .aimd ∧ (host'.cc 1).dupAcks = 0 ∧
      ¬ NoDuplicateProgress (List.replicate 256 (ackOf 0)) (ackOf 0) host host' := by
  obtain ⟨host, h⟩ := Recovering.exists_all 252 le_rfl
  have hdup : (host.cc 1).dupAcks + 1 = 0 := by
    rw [h.dupAcks]
    decide
  have hcc : (host.control 1).ack 0 =
      ⟨0, { host.cc 1 with dupAcks := 0, cwnd := (host.cc 1).ssthresh, state := .aimd }⟩ := by
    simp only [Control.ack, Control.updateCc, Control.updateDupAcks, countDuplicate,
      Host.control, h.latest, h.state, hdup, seqNumDiff_self, lt_irrefl, if_false, if_true,
      reduceCtorEq, false_and, and_self]
  have hself : (setCc 1 ((host.control 1).ack 0).cc host).cc 1 =
      { host.cc 1 with dupAcks := 0, cwnd := (host.cc 1).ssthresh, state := .aimd } := by
    simp only [hcc, setCc, Function.update_self]
  refine ⟨host, _, h.run, h.valid, h.exists_handleAck, h.state, ?_, ?_, fun hno => ?_⟩
  · rw [hself]
  · rw [hself]
  · have hcount := hno.progress 1 (.inr ⟨h.state, by rw [hself]⟩)
    rw [← List.replicate_succ'] at hcount
    rcases hcount with ⟨-, hnewer⟩ | hzero
    · rw [h.latest] at hnewer
      exact absurd hnewer (by decide)
    · have hnums : ackNums 1 (List.replicate (256 + 1) (ackOf 0)) =
          List.replicate (256 + 1) 0 := by
        rw [ackNums, List.filter_replicate, if_pos (by decide), List.map_replicate]
        rfl
      rw [hnums, duplicatesOf_replicate] at hzero
      exact absurd hzero (by decide)

end NetworkSim.Tcp
