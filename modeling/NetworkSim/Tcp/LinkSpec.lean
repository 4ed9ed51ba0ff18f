import NetworkSim.Tcp.ReceiverSpec
import NetworkSim.Tcp.SenderSpec

/-!
# Views as the two ends of a link

The view of a host as the sender to a receiver and the view of that receiver are the two ends of a
link of the sliding window protocol, in which frames are known by their positions and not by 8-bit
numbers. With windows of at most 128 places the steps of the views are steps of the link: an ACK
takes out of the send window exactly the frames below the position it stands for
(`ackCount_eq`, `SendMatch.step`), and a frame is put into the place of its position or ignored
(`exists_receiverStep`).
-/

namespace NetworkSim.Tcp

open SlidingWindow (Link)

/-- The sequence number of an ACK when `n` frames were delivered. -/
def ackSeq (n : ℕ) : UInt8 := UInt8.ofNat (n + 255)

theorem ackSeq_succ (n : ℕ) : ackSeq (n + 1) = UInt8.ofNat n := by
  unfold ackSeq
  apply UInt8.toNat_inj.mp
  rw [toNat_ofNat, toNat_ofNat]
  omega

/-! ## The sender -/

/-- A window of consecutive numbers from `base` to before `next`, with an ACK for `a` frames. -/
theorem ackCount_eq {window : List Frame} {base a : ℕ}
    (hnum : ∀ i frame, window[i]? = some frame → frame.seqNum = UInt8.ofNat (base + i))
    (hlen : window.length ≤ 128) (hbase : base ≤ a) (ha : a ≤ base + window.length) :
    SendView.ackCount window (ackSeq a) = a - base := by
  rw [SendView.ackCount]
  rcases Nat.eq_or_lt_of_le hbase with rfl | hlt
  · -- an ACK of the frame before the window
    cases window with
    | nil => simp
    | cons first window =>
      have hfirst : first.seqNum = UInt8.ofNat (base + 256) := by
        rw [hnum 0 first rfl]
        apply UInt8.toNat_inj.mp
        rw [toNat_ofNat, toNat_ofNat]
        omega
      have hdiff : seqNumDiff first.seqNum (ackSeq base) = -1 := by
        rw [hfirst, ackSeq, seqNumDiff_ofNat (by omega) (by omega)]
        omega
      simp [hdiff]
  · obtain ⟨j, rfl⟩ := Nat.exists_eq_add_of_lt hlt
    have hj : j < window.length := by omega
    rw [ackSeq_succ, if_neg, show base + j + 1 - base = j + 1 by omega]
    · -- the frame named is the one at place `j`, and no other has its number
      have hfind : window.findIdx? (fun frame => frame.seqNum = UInt8.ofNat (base + j)) =
          some j := by
        refine List.findIdx?_eq_some_iff_getElem.mpr ⟨hj, ?_, fun i hi => ?_⟩
        · simpa using hnum j _ (List.getElem?_eq_getElem hj)
        · have hi' : i < window.length := by omega
          rw [hnum i _ (List.getElem?_eq_getElem hi')]
          intro heq
          have := ofNat_inj_of_lt (by omega) (by omega) (of_decide_eq_true heq)
          omega
      rw [hfind]
      rfl
    · cases window with
      | nil => simp
      | cons first window =>
        have hdiff : seqNumDiff first.seqNum (UInt8.ofNat (base + j)) = j := by
          rw [hnum 0 first rfl, seqNumDiff_ofNat (by omega) (by omega)]
          omega
        simp only [List.head?_cons, Option.any_some, hdiff]
        simp

/-- The view of a sender is the sending end of a link. The frames that have left the sender are
`inFlight`, and the numbers of ACKs that have not yet reached it are `acks`. -/
structure SendMatch (inFlight : List Frame) (acks : List UInt8) (v : SendView) (L : Link Frame) :
    Prop where
  created : v.created = L.msgs
  window : v.window = (L.msgs.drop L.base).take (L.next - L.base)
  backlog : v.backlog = L.msgs.drop L.next
  data : L.data.map (L.msgs[·]?) = (inFlight ++ v.out).map some
  acks : L.acks.map ackSeq = v.acks ++ acks

namespace SendMatch

variable {W : ℕ} {inFlight : List Frame} {acks : List UInt8} {v v' : SendView} {L : Link Frame}

theorem length_window (h : SendMatch inFlight acks v L) (hL : L.Inv W) :
    v.window.length = L.next - L.base := by
  have := hL.next_le
  rw [h.window, List.length_take, List.length_drop]
  omega

theorem getElem?_window (h : SendMatch inFlight acks v L) {i : ℕ} {frame : Frame}
    (hi : v.window[i]? = some frame) :
    i < L.next - L.base ∧ L.msgs[L.base + i]? = some frame := by
  rw [h.window, List.getElem?_take] at hi
  split at hi
  · rename_i hlt
    rw [List.getElem?_drop] at hi
    exact ⟨hlt, hi⟩
  · simp at hi

/-- **A step of the sender is a step of the link.** -/
theorem step (hW : W ≤ 128) (h : SendMatch inFlight acks v L) (hv : v.Inv W) (hL : L.Inv W)
    (hstep : SendView.Step W v v') :
    ∃ L', Link.SenderStep W L L' ∧ SendMatch inFlight acks v' L' := by
  have hbase := hL.base_le_next
  have hnext := hL.next_le
  cases hstep with
  | create frame hseq =>
    refine ⟨_, .create L frame, ?_, ?_, ?_, ?_, h.acks⟩
    · rw [h.created]
    · change v.window = ((L.msgs ++ [frame]).drop L.base).take (L.next - L.base)
      rw [List.drop_append_of_le_length (by omega), h.window,
        List.take_append_of_le_length (by rw [List.length_drop]; omega)]
    · rw [List.drop_append_of_le_length hnext, h.backlog]
    · rw [← h.data]
      refine List.map_congr_left fun k hk => ?_
      exact List.getElem?_append_left ((hL.lt_next_of_mem hk).trans_le hnext)
  | send frame backlog hbacklog hlen =>
    have hdrop := h.backlog
    rw [hbacklog] at hdrop
    have hmsg : L.msgs[L.next]? = some frame := by
      have := congrArg (·[0]?) hdrop
      simpa using this.symm
    have hlt : L.next < L.msgs.length := (List.getElem?_eq_some_iff.mp hmsg).1
    have hwin : L.next < L.base + W := by
      rw [h.length_window hL] at hlen
      omega
    refine ⟨_, .send L hlt hwin, h.created, ?_, ?_, ?_, h.acks⟩
    · rw [show L.next + 1 - L.base = (L.next - L.base) + 1 by omega, List.take_add_one, ← h.window,
        List.getElem?_drop, Nat.add_sub_cancel' hbase, hmsg]
      rfl
    · have := congrArg List.tail hdrop
      rwa [List.tail_cons, List.tail_drop] at this
    · rw [List.map_append, h.data, ← List.append_assoc, @List.map_append _ _ _ (inFlight ++ v.out)]
      simp [hmsg]
  | resend frame hframe =>
    obtain ⟨i, hi⟩ := List.mem_iff_getElem?.mp hframe
    obtain ⟨hlt, hmsg⟩ := h.getElem?_window hi
    refine ⟨_, .resend L (L.base + i) (by omega) (by omega), h.created, h.window, h.backlog, ?_,
      h.acks⟩
    rw [List.map_append, h.data, ← List.append_assoc, @List.map_append _ _ _ (inFlight ++ v.out)]
    simp [hmsg]
  | ack seqNum acks' hacks =>
    have hmap := h.acks
    rw [hacks, List.cons_append, List.map_eq_cons_iff] at hmap
    obtain ⟨a, as, has, rfl, hrest⟩ := hmap
    have ha := hL.acks_mem a (by rw [has]; exact List.mem_cons_self)
    have hanext := ha.2.trans hL.delivered_le_next
    have hwinlen := h.length_window hL
    have hcount : SendView.ackCount v.window (ackSeq a) = a - L.base := by
      refine ackCount_eq (fun i frame hi => ?_) ?_ ha.1 (by omega)
      · refine hv.created_seqNum _ _ ?_
        rw [h.created]
        exact (h.getElem?_window hi).2
      · exact hv.length_window.trans hW
    refine ⟨_, .ack L a as has, h.created, ?_, h.backlog, h.data, hrest⟩
    change v.window.drop _ = (L.msgs.drop a).take (L.next - a)
    rw [hcount, h.window, List.drop_take, List.drop_drop, Nat.add_sub_cancel' ha.1,
      show L.next - L.base - (a - L.base) = L.next - a by omega]

/-- **A sequence of steps of the sender is one of the link.** -/
theorem steps (hW : W ≤ 128) (h : SendMatch inFlight acks v L) (hv : v.Inv W) (hL : L.Inv W)
    (hsteps : SendView.Steps W v v') :
    ∃ L', Link.SenderSteps W L L' ∧ SendMatch inFlight acks v' L' := by
  induction hsteps with
  | refl => exact ⟨L, .refl, h⟩
  | tail hsteps' hstep ih =>
    obtain ⟨L₁, hsteps₁, h₁⟩ := ih
    obtain ⟨L₂, hstep₂, h₂⟩ := h₁.step hW (hv.steps hsteps') (hL.run hsteps₁.run) hstep
    exact ⟨L₂, hsteps₁.tail hstep₂, h₂⟩

end SendMatch

/-! ## The receiver -/

/-- The receiving end of a link as the view of a receiver. -/
def linkView (L : Link Frame) : RecvView := ⟨L.delivered, ackSeq L.delivered.length, L.win⟩

/-- A frame arrives: the difference of its number and the last one appended is that of their
positions, unless the frame is for the last of 128 places and ignored. -/
theorem seqNumDiff_ackSeq {n k : ℕ} (h1 : n ≤ k + 128) (h2 : k < n + 128) :
    seqNumDiff (ackSeq n) (UInt8.ofNat k) = (k : ℤ) + 1 - n ∨
      (k + 1 = n + 128 ∧ seqNumDiff (ackSeq n) (UInt8.ofNat k) = -128) := by
  have hk : UInt8.ofNat k = UInt8.ofNat (k + 256) := by
    apply UInt8.toNat_inj.mp
    rw [toNat_ofNat, toNat_ofNat]
    omega
  rw [hk, ackSeq]
  rcases Nat.eq_or_lt_of_le (show k + 1 ≤ n + 128 by omega) with heq | hlt
  · rcases seqNumDiff_ofNat_of_eq (a := n + 255) (b := k + 256) (by omega) with h | h
    · left
      omega
    · exact .inr ⟨heq, h⟩
  · left
    rw [seqNumDiff_ofNat (by omega) (by omega)]
    omega

/-- **What the receiver does with the next frame in flight is a step of the link.** -/
theorem exists_receiverStep {W : ℕ} (hW : W ≤ 128) {L : Link Frame} (hL : L.Inv W) {k : ℕ}
    {data : List ℕ} (hdata : L.data = k :: data) {frame : Frame} (hmsg : L.msgs[k]? = some frame)
    (hseq : frame.seqNum = UInt8.ofNat k) :
    ∃ L', Link.ReceiverStep W L L' ∧ (linkView L).accept frame = linkView L' ∧
      L'.msgs = L.msgs ∧ L'.base = L.base ∧ L'.next = L.next ∧ L'.data = data ∧
      L'.acks = L.acks ++ [L'.delivered.length] := by
  obtain ⟨-, hlow, hhigh⟩ := hL.head_near hdata
  have hlen := hL.length_win
  rw [RecvView.accept, hseq]
  rcases seqNumDiff_ackSeq (n := L.delivered.length) (k := k) (by omega) (by omega) with
    hdiff | ⟨heq, hdiff⟩
  · by_cases hk : L.delivered.length ≤ k
    · refine ⟨_, .accept L k data frame _ hdata hmsg hk rfl, ?_, rfl, rfl, rfl, rfl, rfl⟩
      simp only [linkView, hdiff, hlen]
      rw [if_pos (by omega), RecvView.advance, RecvView.store,
        show ((k : ℤ) + 1 - L.delivered.length - 1).toNat = k - L.delivered.length by omega]
      simp only [RecvView.mk.injEq, true_and, and_true]
      rw [ackSeq, ackSeq, ← UInt8.ofNat_add, List.length_append]
      congr 1
      omega
    · refine ⟨_, .ignore L k data hdata, ?_, rfl, rfl, rfl, rfl, rfl⟩
      simp only [linkView, hdiff]
      rw [if_neg (by omega)]
  · refine ⟨_, .ignore L k data hdata, ?_, rfl, rfl, rfl, rfl, rfl⟩
    simp only [linkView, hdiff]
    rw [if_neg (by omega)]

end NetworkSim.Tcp
