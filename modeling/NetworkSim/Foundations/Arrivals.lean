import Mathlib.Data.List.Basic
import NetworkSim.Foundations.Draining

/-!
# Reading from a connection

What a connection delivers comes in pieces, and a call that asks for `n` elements gets what is
there, at most `n` of them; it may be interrupted, or fail. A loop that goes on until it has `n`
elements (`readLoop`) gives the same however the stream was cut and wherever it was interrupted
(`readLoop_eq`), as long as no call fails.
-/

namespace NetworkSim

variable {α : Type*}

/-- What a call finds. -/
inductive Arrival (α : Type*)
  /-- Elements that have come in. None of them means that there will be no more. -/
  | chunk (xs : List α)
  | interrupted
  | failed

/-- The outcome of a loop. -/
inductive ReadResult (α : Type*)
  /-- The elements asked for, and what comes after them. -/
  | done (xs : List α) (rest : List (Arrival α))
  /-- A call failed. -/
  | failed
  /-- It goes on for ever: the call does not return, or returns nothing time and again. -/
  | waiting

/-- Calls for the elements that are still missing, `n` at the moment, after those that are there. An
interrupted call is made again. -/
def readLoop : List (Arrival α) → ℕ → List α → ReadResult α
  | arrivals, 0, got => .done got arrivals
  | [], _ + 1, _ => .waiting
  | .interrupted :: arrivals, n + 1, got => readLoop arrivals (n + 1) got
  | .failed :: _, _ + 1, _ => .failed
  | .chunk xs :: arrivals, n + 1, got =>
    if n + 1 < xs.length then .done (got ++ xs.take (n + 1)) (.chunk (xs.drop (n + 1)) :: arrivals)
    else readLoop arrivals (n + 1 - xs.length) (got ++ xs)

/-- All the elements that come in. -/
def streamOf : List (Arrival α) → List α
  | [] => []
  | .chunk xs :: arrivals => xs ++ streamOf arrivals
  | _ :: arrivals => streamOf arrivals

/-- No call fails. -/
def NoFailure (arrivals : List (Arrival α)) : Prop := .failed ∉ arrivals

theorem NoFailure.tail {arrival : Arrival α} {arrivals : List (Arrival α)}
    (h : NoFailure (arrival :: arrivals)) : NoFailure arrivals :=
  fun hmem => h (List.mem_cons_of_mem _ hmem)

theorem readLoop_zero (arrivals : List (Arrival α)) (got : List α) :
    readLoop arrivals 0 got = .done got arrivals := by
  cases arrivals with
  | nil => rfl
  | cons arrival arrivals => cases arrival <;> rfl

/-- **However the stream is cut**, the loop gives its first elements, and leaves the others. -/
theorem readLoop_eq {arrivals : List (Arrival α)} (h : NoFailure arrivals) (n : ℕ) (got : List α) :
    if n ≤ (streamOf arrivals).length then
      ∃ rest, readLoop arrivals n got = .done (got ++ (streamOf arrivals).take n) rest ∧
        streamOf rest = (streamOf arrivals).drop n ∧ NoFailure rest
    else readLoop arrivals n got = .waiting := by
  induction arrivals generalizing n got with
  | nil =>
    cases n with
    | zero => exact ⟨[], by rw [readLoop_zero, List.take_zero, List.append_nil], rfl, h⟩
    | succ n => rfl
  | cons arrival arrivals ih =>
    cases n with
    | zero =>
      rw [if_pos (Nat.zero_le _)]
      exact ⟨_, by rw [readLoop_zero, List.take_zero, List.append_nil], rfl, h⟩
    | succ n =>
      cases arrival with
      | failed => exact absurd List.mem_cons_self h
      | interrupted => exact ih h.tail (n + 1) got
      | chunk xs =>
        have hstream : streamOf (.chunk xs :: arrivals) = xs ++ streamOf arrivals := rfl
        rw [readLoop, hstream, List.length_append]
        rcases Nat.lt_or_ge (n + 1) xs.length with hlt | hge
        · rw [if_pos (by omega), if_pos hlt, List.take_append_of_le_length (Nat.le_of_lt hlt),
            List.drop_append_of_le_length (Nat.le_of_lt hlt)]
          refine ⟨_, rfl, rfl, fun hmem => ?_⟩
          rcases List.mem_cons.mp hmem with heq | hmem
          · cases heq
          · exact h.tail hmem
        · have hrest := ih h.tail (n + 1 - xs.length) (got ++ xs)
          rw [if_neg (Nat.not_lt.mpr hge)]
          split at hrest
          · rw [if_pos (by omega), List.take_append, List.take_of_length_le hge,
              List.drop_append, List.drop_of_length_le hge, List.nil_append, ← List.append_assoc]
            exact hrest
          · rwa [if_neg (by omega)]

/-! ## Frames that begin with their length -/

/-- The frame at the front: a header of `size` elements, which tells how many elements follow it, or
that the frame is no good. -/
def takeFrame (size : ℕ) (bodyLength : List α → Option ℕ) (xs : List α) :
    Option (Option (List α) × List α) :=
  if size ≤ xs.length then
    match bodyLength (xs.take size) with
    | none => some (none, xs.drop size)
    | some n =>
      if size + n ≤ xs.length then some (some (xs.take (size + n)), xs.drop (size + n)) else none
  else none

/-- The outcome of reading a frame. -/
inductive FrameResult (α : Type*)
  /-- A frame, or none when its header was no good, and what comes after it. -/
  | frame (frame : Option (List α)) (rest : List (Arrival α))
  | failed
  | waiting

/-- Reads a header, and then the body of which it tells. -/
def readFrame (size : ℕ) (bodyLength : List α → Option ℕ) (arrivals : List (Arrival α)) :
    FrameResult α :=
  match readLoop arrivals size [] with
  | .waiting => .waiting
  | .failed => .failed
  | .done header arrivals =>
    match bodyLength header with
    | none => .frame none arrivals
    | some n =>
      match readLoop arrivals n [] with
      | .waiting => .waiting
      | .failed => .failed
      | .done body arrivals => .frame (some (header ++ body)) arrivals

section Frames

variable {size : ℕ} {bodyLength : List α → Option ℕ}

theorem takeFrame_of_lt {xs : List α} (h : xs.length < size) :
    takeFrame size bodyLength xs = none := if_neg (Nat.not_le.mpr h)

theorem takeFrame_bad {xs : List α} (h : size ≤ xs.length)
    (hbad : bodyLength (xs.take size) = none) :
    takeFrame size bodyLength xs = some (none, xs.drop size) := by
  rw [takeFrame, if_pos h, hbad]

theorem takeFrame_good {xs : List α} {n : ℕ} (h : size ≤ xs.length)
    (hgood : bodyLength (xs.take size) = some n) :
    takeFrame size bodyLength xs =
      if size + n ≤ xs.length then some (some (xs.take (size + n)), xs.drop (size + n))
      else none := by
  rw [takeFrame, if_pos h, hgood]

theorem frontReader_takeFrame (hsize : 0 < size) : FrontReader (takeFrame size bodyLength) where
  append {xs b rest} h ys := by
    by_cases hle : size ≤ xs.length
    · have hle' : size ≤ (xs ++ ys).length := by rw [List.length_append]; omega
      have htake : (xs ++ ys).take size = xs.take size := List.take_append_of_le_length hle
      cases hlen : bodyLength (xs.take size) with
      | none =>
        rw [takeFrame_bad hle hlen] at h
        obtain ⟨rfl, rfl⟩ := Prod.mk.inj (Option.some.inj h)
        rw [takeFrame_bad hle' (htake ▸ hlen), List.drop_append_of_le_length hle]
      | some n =>
        rw [takeFrame_good hle hlen] at h
        split at h
        · rename_i hall
          obtain ⟨rfl, rfl⟩ := Prod.mk.inj (Option.some.inj h)
          rw [takeFrame_good hle' (htake ▸ hlen), if_pos (by rw [List.length_append]; omega),
            List.take_append_of_le_length hall, List.drop_append_of_le_length hall]
        · cases h
    · rw [takeFrame_of_lt (Nat.not_le.mp hle)] at h
      cases h
  shrinks {xs b rest} h := by
    by_cases hle : size ≤ xs.length
    · cases hlen : bodyLength (xs.take size) with
      | none =>
        rw [takeFrame_bad hle hlen] at h
        obtain ⟨rfl, rfl⟩ := Prod.mk.inj (Option.some.inj h)
        rw [List.length_drop]
        omega
      | some n =>
        rw [takeFrame_good hle hlen] at h
        split at h
        · obtain ⟨rfl, rfl⟩ := Prod.mk.inj (Option.some.inj h)
          rw [List.length_drop]
          omega
        · cases h
    · rw [takeFrame_of_lt (Nat.not_le.mp hle)] at h
      cases h

/-- **However the stream is cut**, reading a frame gives the one at the front of it. -/
theorem readFrame_eq {arrivals : List (Arrival α)} (h : NoFailure arrivals) :
    match takeFrame size bodyLength (streamOf arrivals) with
    | none => readFrame size bodyLength arrivals = .waiting
    | some (frame, xs) =>
      ∃ rest, readFrame size bodyLength arrivals = .frame frame rest ∧ streamOf rest = xs ∧
        NoFailure rest := by
  have hheader := readLoop_eq h size []
  rcases Nat.lt_or_ge (streamOf arrivals).length size with hlt | hge
  · rw [if_neg (Nat.not_le.mpr hlt)] at hheader
    rw [takeFrame_of_lt hlt, readFrame, hheader]
  · rw [if_pos hge, List.nil_append] at hheader
    obtain ⟨rest, hheader, hstream, hrest⟩ := hheader
    rw [readFrame, hheader]
    cases hlen : bodyLength ((streamOf arrivals).take size) with
    | none =>
      rw [takeFrame_bad hge hlen]
      exact ⟨rest, by simp only [hlen], hstream, hrest⟩
    | some n =>
      have hbody := readLoop_eq hrest n []
      rw [hstream, List.length_drop, List.nil_append] at hbody
      rw [takeFrame_good hge hlen]
      simp only [hlen]
      by_cases hall : size + n ≤ (streamOf arrivals).length
      · rw [if_pos (by omega)] at hbody
        obtain ⟨rest', hbody, hstream', hrest'⟩ := hbody
        rw [if_pos hall, hbody]
        refine ⟨rest', ?_, ?_, hrest'⟩
        · rw [List.take_add]
        · rw [hstream', List.drop_drop]
      · rw [if_neg (by omega)] at hbody
        rw [if_neg hall, hbody]

end Frames

end NetworkSim
