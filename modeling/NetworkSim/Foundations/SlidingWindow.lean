import Mathlib.Data.List.Basic
import Mathlib.Data.List.ReduceOption
import Mathlib.Data.List.Perm.Subperm
import Mathlib.Data.Nat.ModEq
import Mathlib.Logic.Relation

/-!
# The sliding window protocol

A sender delivers a list of messages to a receiver over two lossy channels that keep the order, one
for the messages and one for the acknowledgements. Both ends have a window of `W` places: the sender
has at most `W` messages sent and not acknowledged, and the receiver keeps up to `W` messages that
came out of order in a reordering buffer (`front`, `shift`). Messages are known by their positions;
an acknowledgement is the number of messages delivered.

In every state reached (`Link.Inv`, `Link.Inv.step`) the messages delivered are a prefix of the
messages accepted, and a message that arrives is at most `W` places away from the next one expected
(`Link.Inv.head_near`), which is what allows positions to be sent modulo a power of two.
-/

namespace NetworkSim.SlidingWindow

variable {α : Type*}

/-! ## Reordering buffers -/

/-- The items at the front of a buffer, up to its first gap. -/
def front : List (Option α) → List α
  | some a :: win => a :: front win
  | _ => []

/-- The buffer after the items at its front have left it. -/
def shift (win : List (Option α)) : List (Option α) :=
  win.drop (front win).length ++ List.replicate (front win).length none

@[simp] theorem front_nil : front ([] : List (Option α)) = [] := rfl

@[simp] theorem front_none (win : List (Option α)) : front (none :: win) = [] := rfl

@[simp] theorem front_some (a : α) (win : List (Option α)) :
    front (some a :: win) = a :: front win := rfl

theorem front_append_none (win : List (Option α)) : front (win ++ [none]) = front win := by
  induction win with
  | nil => rfl
  | cons x win ih => cases x <;> simp [ih]

/-- The front is where the items are. -/
theorem getElem?_of_front {win : List (Option α)} {i : ℕ} {a : α} (h : (front win)[i]? = some a) :
    win[i]? = some (some a) := by
  induction win generalizing i with
  | nil => simp at h
  | cons x win ih =>
    cases x with
    | none => simp at h
    | some b =>
      cases i with
      | zero => simpa using h
      | succ i => simpa using ih (by simpa using h)

theorem length_front_le (win : List (Option α)) : (front win).length ≤ win.length := by
  induction win with
  | nil => simp
  | cons x win ih => cases x <;> simp [ih]

/-- The item behind the front is missing. -/
theorem getElem?_length_front {win : List (Option α)} (h : (front win).length < win.length) :
    win[(front win).length]? = some none := by
  induction win with
  | nil => simp at h
  | cons x win ih =>
    cases x with
    | none => rfl
    | some b => simpa using ih (by simpa using h)

@[simp] theorem length_shift (win : List (Option α)) : (shift win).length = win.length := by
  have := length_front_le win
  simp only [shift, List.length_append, List.length_drop, List.length_replicate]
  omega

theorem shift_none (win : List (Option α)) : shift (none :: win) = none :: win := by
  simp [shift]

/-- Items leave the buffer one by one. -/
theorem shift_some (a : α) (win : List (Option α)) :
    shift (some a :: win) = shift (win ++ [none]) := by
  simp only [shift, front_some, front_append_none, List.length_cons, List.drop_succ_cons,
    List.replicate_succ, List.drop_append_of_le_length (length_front_le win), List.append_assoc,
    List.singleton_append]

/-- What is left in the buffer has moved to the front. -/
theorem getElem?_of_shift {win : List (Option α)} {i : ℕ} {a : α}
    (h : (shift win)[i]? = some (some a)) : win[(front win).length + i]? = some (some a) := by
  rw [shift, List.getElem?_append] at h
  split at h
  · rwa [List.getElem?_drop] at h
  · rw [List.getElem?_replicate] at h
    split at h <;> simp at h

/-- The first place of a buffer that has been advanced is empty. -/
theorem getElem?_shift_zero {win : List (Option α)} (h : 0 < win.length) :
    (shift win)[0]? = some none := by
  rw [shift]
  rcases Nat.lt_or_eq_of_le (length_front_le win) with hlt | heq
  · rw [List.getElem?_append_left (by rw [List.length_drop]; omega), List.getElem?_drop, add_zero,
      getElem?_length_front hlt]
  · rw [List.drop_eq_nil_of_le heq.ge, List.nil_append, List.getElem?_replicate, if_pos (by omega)]

/-- Advancing the buffer loses nothing. -/
theorem front_append_shift (win : List (Option α)) :
    front win ++ (shift win).reduceOption = win.reduceOption := by
  induction win with
  | nil => rfl
  | cons x win ih =>
    cases x with
    | none => rw [shift_none]; rfl
    | some a =>
      rw [shift, List.reduceOption_append] at ih ⊢
      simpa [List.reduceOption_replicate_none] using ih

/-- An item put into the buffer adds itself to what is there, or takes the place of another. -/
theorem reduceOption_set_subperm (win : List (Option α)) (i : ℕ) (a : α) :
    ((win.set i (some a)).reduceOption).Subperm (a :: win.reduceOption) := by
  induction win generalizing i with
  | nil => exact List.nil_subperm
  | cons x win ih =>
    cases i with
    | zero =>
      cases x with
      | none => exact List.Subperm.refl _
      | some b =>
        simp only [List.set_cons_zero, List.reduceOption_cons_of_some]
        exact ((List.sublist_cons_self b _).cons_cons a).subperm
    | succ i =>
      cases x with
      | none => simpa using ih i
      | some b =>
        simp only [List.set_cons_succ, List.reduceOption_cons_of_some]
        exact ((List.subperm_cons b).mpr (ih i)).trans (List.Perm.swap a b _).subperm

/-! ## Messages in flight -/

/-- Of the positions sent, those in flight, in the order in which they were sent: with `hi` a bound
on the positions received before, each is no more than `W` below all that are received before it. -/
def Paced (W next : ℕ) : ℕ → List ℕ → Prop
  | hi, [] => hi ≤ next
  | hi, k :: data => k < next ∧ hi ≤ k + W ∧ Paced W next (max hi (k + 1)) data

namespace Paced

variable {W next hi hi' : ℕ} {data data' : List ℕ}

theorem le_next (h : Paced W next hi data) : hi ≤ next := by
  induction data generalizing hi with
  | nil => exact h
  | cons k data ih => exact (Nat.le_max_left ..).trans (ih h.2.2)

theorem lt_of_mem {k : ℕ} (h : Paced W next hi data) (hk : k ∈ data) : k < next := by
  induction data generalizing hi with
  | nil => exact absurd hk List.not_mem_nil
  | cons j data ih =>
    rcases List.mem_cons.mp hk with rfl | hmem
    · exact h.1
    · exact ih h.2.2 hmem

theorem mono_hi (hle : hi' ≤ hi) (h : Paced W next hi data) : Paced W next hi' data := by
  induction data generalizing hi hi' with
  | nil => exact hle.trans h
  | cons k data ih => exact ⟨h.1, hle.trans h.2.1, ih (by omega) h.2.2⟩

theorem mono_next {next' : ℕ} (hle : next ≤ next') (h : Paced W next hi data) :
    Paced W next' hi data := by
  induction data generalizing hi with
  | nil => exact Nat.le_trans h hle
  | cons k data ih => exact ⟨h.1.trans_le hle, h.2.1, ih h.2.2⟩

/-- Losing messages keeps the pace. -/
theorem sublist (hs : data'.Sublist data) (h : Paced W next hi data) : Paced W next hi data' := by
  induction hs generalizing hi with
  | slnil => exact h
  | cons k _ ih => exact ih (h.2.2.mono_hi (Nat.le_max_left ..))
  | cons_cons k _ ih => exact ⟨h.1, h.2.1, ih h.2.2⟩

/-- A message may be sent while it is no more than `W` below all that was sent. -/
theorem concat {k : ℕ} (hk : k < next) (hkW : next ≤ k + W) (h : Paced W next hi data) :
    Paced W next hi (data ++ [k]) := by
  induction data generalizing hi with
  | nil =>
    have : hi ≤ next := h
    exact ⟨hk, by omega, by change max hi (k + 1) ≤ next; omega⟩
  | cons j data ih => exact ⟨h.1, h.2.1, ih h.2.2⟩

end Paced

/-! ## The link -/

/-- A sender, a receiver and the channels between them. -/
structure Link (α : Type*) where
  /-- The messages accepted from the user. -/
  msgs : List α
  /-- The number of messages that the sender knows to be delivered. -/
  base : ℕ
  /-- The number of messages sent for the first time. -/
  next : ℕ
  /-- The messages delivered to the user. -/
  delivered : List α
  /-- The reordering buffer; its place `i` is for the message `i` places behind those delivered. -/
  win : List (Option α)
  /-- The positions of the messages in flight, oldest first. -/
  data : List ℕ
  /-- The acknowledgements in flight, oldest first. -/
  acks : List ℕ

namespace Link

/-- The link before anything was accepted. -/
def start (α : Type*) (W : ℕ) : Link α := ⟨[], 0, 0, [], List.replicate W none, [], []⟩

/-- A step of the sender. -/
inductive SenderStep (W : ℕ) : Link α → Link α → Prop
  | create (L : Link α) (a : α) : SenderStep W L { L with msgs := L.msgs ++ [a] }
  | send (L : Link α) (hmsgs : L.next < L.msgs.length) (hwin : L.next < L.base + W) :
      SenderStep W L { L with next := L.next + 1, data := L.data ++ [L.next] }
  | resend (L : Link α) (k : ℕ) (hbase : L.base ≤ k) (hnext : k < L.next) :
      SenderStep W L { L with data := L.data ++ [k] }
  | ack (L : Link α) (a : ℕ) (acks : List ℕ) (hacks : L.acks = a :: acks) :
      SenderStep W L { L with base := a, acks := acks }

/-- A step of the receiver, on the oldest message in flight: it ignores the message, or takes it in
when it is for a place of the buffer. -/
inductive ReceiverStep (W : ℕ) : Link α → Link α → Prop
  | ignore (L : Link α) (k : ℕ) (data : List ℕ) (hdata : L.data = k :: data) :
      ReceiverStep W L { L with data := data, acks := L.acks ++ [L.delivered.length] }
  | accept (L : Link α) (k : ℕ) (data : List ℕ) (a : α) (win : List (Option α))
      (hdata : L.data = k :: data) (hmsg : L.msgs[k]? = some a) (hk : L.delivered.length ≤ k)
      (hwin : win = L.win.set (k - L.delivered.length) (some a)) :
      ReceiverStep W L
        { L with
          delivered := L.delivered ++ front win
          win := shift win
          data := data
          acks := L.acks ++ [(L.delivered ++ front win).length] }

/-- The channels lose messages and acknowledgements. -/
inductive LossStep : Link α → Link α → Prop
  | data (L : Link α) (data : List ℕ) (h : data.Sublist L.data) :
      LossStep L { L with data := data }
  | acks (L : Link α) (acks : List ℕ) (h : acks.Sublist L.acks) :
      LossStep L { L with acks := acks }

/-- A step of the protocol. -/
inductive Step (W : ℕ) (L L' : Link α) : Prop
  | sender (h : SenderStep W L L')
  | receiver (h : ReceiverStep W L L')
  | loss (h : LossStep L L')

/-- The invariant of the protocol. -/
structure Inv (W : ℕ) (L : Link α) : Prop where
  delivered_prefix : L.delivered <+: L.msgs
  base_le : L.base ≤ L.delivered.length
  next_le : L.next ≤ L.msgs.length
  next_le_base : L.next ≤ L.base + W
  length_win : L.win.length = W
  win_msgs : ∀ i a, L.win[i]? = some (some a) → L.msgs[L.delivered.length + i]? = some a
  pace : ∃ hi, L.delivered.length ≤ hi ∧
    (∀ i a, L.win[i]? = some (some a) → L.delivered.length + i < hi) ∧ Paced W L.next hi L.data
  acks_sorted : L.acks.Pairwise (· ≤ ·)
  acks_mem : ∀ a ∈ L.acks, L.base ≤ a ∧ a ≤ L.delivered.length

namespace Inv

variable {W : ℕ} {L L' : Link α}

theorem start : Inv W (Link.start α W) where
  delivered_prefix := List.prefix_rfl
  base_le := le_rfl
  next_le := le_rfl
  next_le_base := Nat.zero_le _
  length_win := List.length_replicate
  win_msgs i a h := by
    rw [Link.start, List.getElem?_replicate] at h
    split at h <;> simp at h
  pace := by
    refine ⟨0, le_rfl, fun i a h => ?_, le_rfl⟩
    rw [Link.start, List.getElem?_replicate] at h
    split at h <;> simp at h
  acks_sorted := List.Pairwise.nil
  acks_mem a h := by simp [Link.start] at h

/-- What was delivered was sent. -/
theorem delivered_le_next (h : Inv W L) : L.delivered.length ≤ L.next := by
  obtain ⟨hi, hle, -, hp⟩ := h.pace
  exact hle.trans hp.le_next

theorem base_le_next (h : Inv W L) : L.base ≤ L.next := h.base_le.trans h.delivered_le_next

theorem lt_next_of_mem (h : Inv W L) {k : ℕ} (hk : k ∈ L.data) : k < L.next := by
  obtain ⟨_, -, -, hp⟩ := h.pace
  exact hp.lt_of_mem hk

/-- A message that arrives is near the next one expected, on either side. -/
theorem head_near (h : Inv W L) {k : ℕ} {data : List ℕ} (hdata : L.data = k :: data) :
    k < L.next ∧ L.delivered.length ≤ k + W ∧ k < L.delivered.length + W := by
  obtain ⟨hi, hle, -, hp⟩ := h.pace
  rw [hdata] at hp
  have := h.next_le_base
  have := h.base_le
  exact ⟨hp.1, hle.trans hp.2.1, by have := hp.1; omega⟩

theorem senderStep (h : Inv W L) (hstep : SenderStep W L L') : Inv W L' := by
  obtain ⟨hi, hle, hwin, hp⟩ := h.pace
  cases hstep with
  | create a =>
    exact { h with
      delivered_prefix := h.delivered_prefix.trans (List.prefix_append _ _)
      next_le := by have := h.next_le; simp only [List.length_append]; omega
      win_msgs := fun i b hb => by
        have := h.win_msgs i b hb
        rw [List.getElem?_append_left (List.getElem?_eq_some_iff.mp this).1, this] }
  | send hmsgs hwinW =>
    exact { h with
      next_le := hmsgs
      next_le_base := hwinW
      pace := ⟨hi, hle, hwin, (hp.mono_next (Nat.le_succ _)).concat (Nat.lt_succ_self _)
        (by have := h.base_le; have := hp.le_next; simp only; omega)⟩ }
  | resend k hbase hnext =>
    exact { h with
      pace := ⟨hi, hle, hwin, hp.concat hnext (by have := h.next_le_base; simp only; omega)⟩ }
  | ack a acks hacks =>
    have hsorted := h.acks_sorted
    rw [hacks, List.pairwise_cons] at hsorted
    have ha := h.acks_mem a (by rw [hacks]; exact List.mem_cons_self)
    exact { h with
      base_le := ha.2
      next_le_base := by have := h.next_le_base; simp only; omega
      acks_sorted := hsorted.2
      acks_mem := fun b hb =>
        ⟨hsorted.1 b hb, (h.acks_mem b (by rw [hacks]; exact List.mem_cons_of_mem a hb)).2⟩ }

theorem receiverStep (h : Inv W L) (hstep : ReceiverStep W L L') : Inv W L' := by
  obtain ⟨hi, hle, hwin, hp⟩ := h.pace
  -- an acknowledgement of all that is delivered is the latest there is
  have hacks (n : ℕ) (hn : L.delivered.length ≤ n) :
      (L.acks ++ [n]).Pairwise (· ≤ ·) ∧ ∀ a ∈ L.acks ++ [n], L.base ≤ a ∧ a ≤ n := by
    refine ⟨List.pairwise_append.mpr ⟨h.acks_sorted, List.pairwise_singleton _ _, ?_⟩, ?_⟩
    · intro a ha b hb
      rw [List.mem_singleton.mp hb]
      exact (h.acks_mem a ha).2.trans hn
    · intro a ha
      rcases List.mem_append.mp ha with ha | ha
      · exact ⟨(h.acks_mem a ha).1, (h.acks_mem a ha).2.trans hn⟩
      · rw [List.mem_singleton.mp ha]
        exact ⟨h.base_le.trans hn, le_rfl⟩
  cases hstep with
  | ignore k data hdata =>
    rw [hdata] at hp
    exact { h with
      pace := ⟨hi, hle, hwin, hp.2.2.mono_hi (Nat.le_max_left ..)⟩
      acks_sorted := (hacks _ le_rfl).1
      acks_mem := (hacks _ le_rfl).2 }
  | accept k data a win hdata hmsg hk hset =>
    rw [hdata] at hp
    -- every item of the buffer is the message of its place, and below the new bound
    have hmem (i : ℕ) (b : α) (hb : win[i]? = some (some b)) :
        L.msgs[L.delivered.length + i]? = some b ∧ L.delivered.length + i < max hi (k + 1) := by
      rw [hset, List.getElem?_set] at hb
      split at hb
      · rename_i hki
        split at hb
        · obtain rfl : a = b := by simpa using hb
          rw [← hki, Nat.add_sub_cancel' hk]
          exact ⟨hmsg, by omega⟩
        · simp at hb
      · have := hwin i b hb
        exact ⟨h.win_msgs i b hb, by omega⟩
    have hfront (i : ℕ) (hi : i < (front win).length) :
        L.msgs[L.delivered.length + i]? = some ((front win)[i]) :=
      (hmem i _ (getElem?_of_front (List.getElem?_eq_getElem hi))).1
    have hlen : (L.delivered ++ front win).length = L.delivered.length + (front win).length :=
      List.length_append
    have hhi : L.delivered.length + (front win).length ≤ max hi (k + 1) := by
      rcases Nat.eq_zero_or_pos (front win).length with h0 | hpos
      · omega
      · have hlast : (front win).length - 1 < (front win).length := by omega
        have := (hmem _ _ (getElem?_of_front (List.getElem?_eq_getElem hlast))).2
        omega
    have hprefix : L.delivered ++ front win <+: L.msgs := by
      rw [List.prefix_iff_getElem?]
      intro i hi
      rw [List.getElem_append]
      split
      · exact (List.prefix_iff_getElem?.mp h.delivered_prefix) i _
      · rw [← hfront, Nat.add_sub_cancel' (by omega)]
    exact
      { delivered_prefix := hprefix
        base_le := by have := h.base_le; simp only [hlen]; omega
        next_le := h.next_le
        next_le_base := h.next_le_base
        length_win := by simp only [length_shift, hset, List.length_set, h.length_win]
        win_msgs := fun i b hb => by
          simp only [hlen, Nat.add_assoc]
          exact (hmem _ b (getElem?_of_shift hb)).1
        pace := ⟨max hi (k + 1), by simp only [hlen]; exact hhi, fun i b hb => by
          simp only [hlen, Nat.add_assoc]
          exact (hmem _ b (getElem?_of_shift hb)).2, hp.2.2⟩
        acks_sorted := (hacks _ (by omega)).1
        acks_mem := (hacks _ (by omega)).2 }

theorem lossStep (h : Inv W L) (hstep : LossStep L L') : Inv W L' := by
  cases hstep with
  | data data hs =>
    obtain ⟨hi, hle, hwin, hp⟩ := h.pace
    exact { h with pace := ⟨hi, hle, hwin, hp.sublist hs⟩ }
  | acks acks hs =>
    exact { h with
      acks_sorted := h.acks_sorted.sublist hs
      acks_mem := fun a ha => h.acks_mem a (hs.subset ha) }

/-- **The invariant is preserved by every step.** -/
theorem step (h : Inv W L) (hstep : Step W L L') : Inv W L' := by
  cases hstep with
  | sender hs => exact h.senderStep hs
  | receiver hr => exact h.receiverStep hr
  | loss hl => exact h.lossStep hl

/-- **The invariant holds along every run.** -/
theorem run (h : Inv W L) (hrun : Relation.ReflTransGen (Step W) L L') : Inv W L' := by
  induction hrun with
  | refl => exact h
  | tail _ hstep ih => exact ih.step hstep

end Inv

/-- A sequence of steps of the sender. -/
abbrev SenderSteps (W : ℕ) : Link α → Link α → Prop := Relation.ReflTransGen (SenderStep W)

namespace SenderSteps

variable {W : ℕ} {L L' : Link α}

theorem run (h : SenderSteps W L L') : Relation.ReflTransGen (Step W) L L' :=
  Relation.ReflTransGen.mono (fun _ _ hstep => Step.sender hstep) _ _ h

/-- The sender leaves the receiving end alone. -/
theorem receiver_eq (h : SenderSteps W L L') : L'.delivered = L.delivered ∧ L'.win = L.win := by
  induction h with
  | refl => exact ⟨rfl, rfl⟩
  | tail _ hstep ih =>
    rw [← ih.1, ← ih.2]
    cases hstep <;> exact ⟨rfl, rfl⟩

/-- What the sender knows to be delivered is what the last acknowledgement said that it handled. -/
theorem base_eq (h : SenderSteps W L L') :
    ∃ handled, L.acks = handled ++ L'.acks ∧ L'.base = handled.getLast?.getD L.base := by
  induction h with
  | refl => exact ⟨[], rfl, rfl⟩
  | tail _ hstep ih =>
    obtain ⟨handled, hacks, hbase⟩ := ih
    cases hstep with
    | create a => exact ⟨handled, hacks, hbase⟩
    | send hmsgs hwin => exact ⟨handled, hacks, hbase⟩
    | resend k hlow hnext => exact ⟨handled, hacks, hbase⟩
    | ack a acks hnext =>
      refine ⟨handled ++ [a], ?_, ?_⟩
      · rw [hacks, hnext, List.append_assoc, List.singleton_append]
      · rw [List.getLast?_concat, Option.getD_some]

end SenderSteps

end Link

end NetworkSim.SlidingWindow
