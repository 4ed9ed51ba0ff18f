import NetworkSim.Tcp.Windows

/-!
# The congestion control of one receiver

What a host keeps for the congestion control of a receiver, `dup_acks_seq_num` and `cc`, is the same
little machine for every receiver (`Control`), which is stepped by an ACK from the receiver or by a
timeout of a frame for it. The first two parts of what `handle_incoming_acks` does with an ACK are
steps of the machine (`updateDupAcks_eq`, `updateCc_eq`); besides, the third duplicate in congestion
avoidance is a call of `retransmit_frame`.
-/

namespace NetworkSim.Tcp

open CDouble

variable {D : Type}

/-- What a host keeps for the congestion control of one receiver: `dup_acks_seq_num` and `cc`. -/
@[ext] structure Control (D : Type) where
  dupAcksSeqNum : UInt8
  cc : CongestionControl D

/-- The entries for receiver `r`. -/
def Host.control (host : Host D) (r : ℕ) : Control D := ⟨host.dupAcksSeqNum r, host.cc r⟩

/-- The number of duplicates after an ACK. -/
def countDuplicate (dupAcksSeqNum seqNum dupAcks : UInt8) : UInt8 :=
  if 0 < seqNumDiff dupAcksSeqNum seqNum then 0
  else if dupAcksSeqNum = seqNum then dupAcks + 1
  else dupAcks

/-- An ACK cannot be newer than the latest one and the same. -/
theorem ne_of_newer {latest seqNum : UInt8} (h : 0 < seqNumDiff latest seqNum) :
    latest ≠ seqNum := by
  rintro rfl
  rw [seqNumDiff_self] at h
  exact lt_irrefl 0 h

theorem countDuplicate_newer {latest seqNum : UInt8} (h : 0 < seqNumDiff latest seqNum)
    (dupAcks : UInt8) : countDuplicate latest seqNum dupAcks = 0 := if_pos h

theorem countDuplicate_same (seqNum dupAcks : UInt8) :
    countDuplicate seqNum seqNum dupAcks = dupAcks + 1 := by
  rw [countDuplicate, if_neg (by simp [seqNumDiff_self]), if_pos rfl]

@[simp] theorem setCc_self (id : ℕ) (host : Host D) : setCc id (host.cc id) host = host := by
  rw [setCc, Function.update_eq_self]

theorem control_setCc (id : ℕ) (cc : CongestionControl D) (host : Host D) (r : ℕ) :
    (setCc id cc host).control r =
      if r = id then ⟨host.dupAcksSeqNum r, cc⟩ else host.control r := by
  simp only [Host.control, setCc, Function.update_apply]
  split <;> rfl

variable [CDouble D]

namespace Control

/-- The entries after an ACK is compared with the latest one. -/
def updateDupAcks (seqNum : UInt8) (c : Control D) : Control D where
  dupAcksSeqNum := if 0 < seqNumDiff c.dupAcksSeqNum seqNum then seqNum else c.dupAcksSeqNum
  cc :=
    { c.cc with
      dupAcks := countDuplicate c.dupAcksSeqNum seqNum c.cc.dupAcks
      cwnd := if c.dupAcksSeqNum = seqNum ∧ c.cc.state = .frft then incr c.cc.cwnd
        else c.cc.cwnd }

/-- The entries after the `else if` chain on the congestion state. -/
def updateCc (c : Control D) : Control D where
  dupAcksSeqNum := c.dupAcksSeqNum
  cc :=
    if c.cc.state = .ss then
      { c.cc with
        cwnd := incr c.cc.cwnd
        state := if gt (incr c.cc.cwnd) c.cc.ssthresh then .aimd else .ss }
    else if c.cc.state = .aimd ∧ c.cc.dupAcks = 0 then
      { c.cc with cwnd := add c.cc.cwnd (div (ofInt 1) c.cc.cwnd) }
    else if c.cc.state = .frft ∧ c.cc.dupAcks = 0 then
      { c.cc with state := .aimd, cwnd := c.cc.ssthresh }
    else if c.cc.dupAcks = 3 ∧ c.cc.state ≠ .frft then
      { c.cc with
        state := .frft
        ssthresh := CDouble.max (div c.cc.cwnd (ofInt 2)) (ofInt 2)
        cwnd := add (CDouble.max (div c.cc.cwnd (ofInt 2)) (ofInt 2)) (ofInt 3) }
    else c.cc

/-- An ACK from the receiver. -/
def ack (seqNum : UInt8) (c : Control D) : Control D := (c.updateDupAcks seqNum).updateCc

/-- A timeout of a frame for the receiver. -/
def timeout (c : Control D) : Control D where
  dupAcksSeqNum := c.dupAcksSeqNum
  cc := { c.cc with state := .ss, ssthresh := div c.cc.cwnd (ofInt 2), cwnd := ofInt 1 }

/-- The entries that `init_host` makes. -/
def init (cfg : SysConfig D) : Control D := ⟨255, ⟨ofInt 1, ofInt cfg.windowSize, 0, .ss⟩⟩

/-- What can happen to the entries. -/
inductive Step : Control D → Control D → Prop
  | ack (c : Control D) (seqNum : UInt8) : Step c (c.ack seqNum)
  | timeout (c : Control D) : Step c c.timeout

end Control

/-- Comparing an ACK with the latest one. -/
theorem updateDupAcks_eq (srcId seqNum : UInt8) (host : Host D) :
    updateDupAcks srcId seqNum host =
      setCc srcId.toNat ((host.control srcId.toNat).updateDupAcks seqNum).cc
        { host with
          dupAcksSeqNum := Function.update host.dupAcksSeqNum srcId.toNat
            ((host.control srcId.toNat).updateDupAcks seqNum).dupAcksSeqNum } := by
  simp only [updateDupAcks, Control.updateDupAcks, Host.control, countDuplicate, gt_iff_lt]
  by_cases hnewer : 0 < seqNumDiff (host.dupAcksSeqNum srcId.toNat) seqNum
  · simp only [hnewer, ne_of_newer hnewer, false_and, if_true, if_false]
  · by_cases hsame : host.dupAcksSeqNum srcId.toNat = seqNum
    · simp only [hnewer, if_false, Function.update_eq_self]
      simp only [hsame, true_and, if_true]
    · simp only [hnewer, hsame, false_and, if_false, Function.update_eq_self]
      exact (setCc_self _ host).symm

theorem updateDupAcks_cc (srcId seqNum : UInt8) (host : Host D) :
    (updateDupAcks srcId seqNum host).cc srcId.toNat =
      ((host.control srcId.toNat).updateDupAcks seqNum).cc := by
  rw [updateDupAcks_eq]
  exact Function.update_self ..

/-- The `else if` chain on the congestion state. -/
theorem updateCc_eq (cfg : SysConfig D) (srcId seqNum : UInt8) (host : Host D) :
    updateCc cfg srcId seqNum host =
      if (host.cc srcId.toNat).state = .aimd ∧ (host.cc srcId.toNat).dupAcks = 3 then
        retransmitFrame cfg srcId (seqNum + 1)
          (setCc srcId.toNat (host.control srcId.toNat).updateCc.cc host)
      else .ok (setCc srcId.toNat (host.control srcId.toNat).updateCc.cc host) := by
  have hthree : (3 : UInt8) ≠ 0 := by decide
  by_cases hss : (host.cc srcId.toNat).state = .ss
  · have hcc : (host.control srcId.toNat).updateCc.cc = _ := if_pos hss
    rw [hcc, if_neg (by simp [hss])]
    exact if_pos hss
  · by_cases haimd : (host.cc srcId.toNat).state = .aimd ∧ (host.cc srcId.toNat).dupAcks = 0
    · have hcc : (host.control srcId.toNat).updateCc.cc = _ := (if_neg hss).trans (if_pos haimd)
      rw [hcc, if_neg (by simp [haimd.2, hthree.symm])]
      exact (if_neg hss).trans (if_pos haimd)
    · by_cases hfrft : (host.cc srcId.toNat).state = .frft ∧ (host.cc srcId.toNat).dupAcks = 0
      · have hcc : (host.control srcId.toNat).updateCc.cc = _ :=
          (if_neg hss).trans ((if_neg haimd).trans (if_pos hfrft))
        rw [hcc, if_neg (by simp [hfrft.1])]
        exact (if_neg hss).trans ((if_neg haimd).trans (if_pos hfrft))
      · have hthird : ((host.cc srcId.toNat).dupAcks = 3 ∧ (host.cc srcId.toNat).state ≠ .frft) ↔
            (host.cc srcId.toNat).state = .aimd ∧ (host.cc srcId.toNat).dupAcks = 3 := by
          cases h : (host.cc srcId.toNat).state <;> simp [h] at hss ⊢
        by_cases h : (host.cc srcId.toNat).state = .aimd ∧ (host.cc srcId.toNat).dupAcks = 3
        · have hcc : (host.control srcId.toNat).updateCc.cc = _ :=
            (if_neg hss).trans ((if_neg haimd).trans ((if_neg hfrft).trans (if_pos (hthird.mpr h))))
          rw [hcc, if_pos h]
          exact (if_neg hss).trans
            ((if_neg haimd).trans ((if_neg hfrft).trans (if_pos (hthird.mpr h))))
        · have hcc : (host.control srcId.toNat).updateCc.cc = host.cc srcId.toNat :=
            (if_neg hss).trans
              ((if_neg haimd).trans ((if_neg hfrft).trans (if_neg (hthird.not.mpr h))))
          rw [hcc, if_neg h, setCc_self]
          exact (if_neg hss).trans
            ((if_neg haimd).trans ((if_neg hfrft).trans (if_neg (hthird.not.mpr h))))

/-- A duplicate of the latest ACK. -/
theorem updateCc_duplicate (cfg : SysConfig D) {srcId seqNum : UInt8} {host : Host D}
    (hsame : host.dupAcksSeqNum srcId.toNat = seqNum) :
    updateCc cfg srcId seqNum (updateDupAcks srcId seqNum host) =
      if (host.cc srcId.toNat).state = .aimd ∧ (host.cc srcId.toNat).dupAcks + 1 = 3 then
        retransmitFrame cfg srcId (seqNum + 1)
          (setCc srcId.toNat ((host.control srcId.toNat).ack seqNum).cc host)
      else .ok (setCc srcId.toNat ((host.control srcId.toNat).ack seqNum).cc host) := by
  obtain ⟨c, hc⟩ : ∃ c, (host.control srcId.toNat).updateDupAcks seqNum = c := ⟨_, rfl⟩
  have hlatest : c.dupAcksSeqNum = host.dupAcksSeqNum srcId.toNat := by
    rw [← hc]
    exact if_neg (by rw [Host.control, hsame, seqNumDiff_self]; exact lt_irrefl 0)
  have hstate : c.cc.state = (host.cc srcId.toNat).state := by
    rw [← hc]
    rfl
  have hdup : c.cc.dupAcks = (host.cc srcId.toNat).dupAcks + 1 := by
    rw [← hc, ← countDuplicate_same seqNum, ← hsame]
    rfl
  have hupdate : updateDupAcks srcId seqNum host = setCc srcId.toNat c.cc host := by
    rw [updateDupAcks_eq, hc, hlatest, Function.update_eq_self]
  have hcc : (setCc srcId.toNat c.cc host).cc srcId.toNat = c.cc := Function.update_self ..
  have hcontrol : (setCc srcId.toNat c.cc host).control srcId.toNat = c := by
    rw [control_setCc, if_pos rfl, ← hlatest]
  have hagain (cc : CongestionControl D) :
      setCc srcId.toNat cc (setCc srcId.toNat c.cc host) = setCc srcId.toNat cc host := by
    rw [setCc, setCc, setCc, Function.update_idem]
  rw [hupdate, updateCc_eq, hcc, hcontrol, hagain, hstate, hdup, Control.ack, hc]

end NetworkSim.Tcp
