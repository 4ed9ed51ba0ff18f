import Mathlib.Data.List.Induction
import Mathlib.Data.Nat.Init

/-!
# Reading values off the front of a growing list

A consumer is given a list that grows at its end, and takes values off the front as soon as they are
whole. `FrontReader take` says that a value does not depend on what follows it, and that taking it
uses something up. Then it does not matter when the consumer looks: what it has taken after one more
arrival, and what it is left with, is what it would take from all that has arrived at once
(`drained_append`).
-/

namespace NetworkSim

variable {α β : Type*}

/-- `take` reads a value off the front of a list, if one is there. -/
structure FrontReader (take : List α → Option (β × List α)) : Prop where
  append : ∀ {xs : List α} {b : β} {rest : List α}, take xs = some (b, rest) →
    ∀ ys, take (xs ++ ys) = some (b, rest ++ ys)
  shrinks : ∀ {xs : List α} {b : β} {rest : List α}, take xs = some (b, rest) →
    rest.length < xs.length

/-- The values that at most `fuel` readings give, and the rest. -/
def drain (take : List α → Option (β × List α)) : ℕ → List α → List β × List α
  | 0, xs => ([], xs)
  | fuel + 1, xs =>
    match take xs with
    | none => ([], xs)
    | some (b, rest) =>
      let (bs, rest) := drain take fuel rest
      (b :: bs, rest)

/-- All the values at the front, and the rest. -/
def drained (take : List α → Option (β × List α)) (xs : List α) : List β × List α :=
  drain take xs.length xs

/-- What has been taken so far and what is left, after one more arrival. -/
def feed (take : List α → Option (β × List α)) (state : List β × List α) (ys : List α) :
    List β × List α :=
  (state.1 ++ (drained take (state.2 ++ ys)).1, (drained take (state.2 ++ ys)).2)

variable {take : List α → Option (β × List α)}

theorem drain_of_none {xs : List α} (h : take xs = none) (fuel : ℕ) :
    drain take fuel xs = ([], xs) := by
  cases fuel with
  | zero => rfl
  | succ fuel => rw [drain, h]

theorem drain_of_some {xs rest : List α} {b : β} (h : take xs = some (b, rest)) (fuel : ℕ) :
    drain take (fuel + 1) xs = (b :: (drain take fuel rest).1, (drain take fuel rest).2) := by
  rw [drain, h]

@[simp] theorem drained_nil : drained take [] = ([], []) := rfl

theorem drained_of_none {xs : List α} (h : take xs = none) : drained take xs = ([], xs) :=
  drain_of_none h _

/-- What is left is the end of what there was. -/
theorem drain_suffix (hrest : ∀ xs b rest, take xs = some (b, rest) → rest <:+ xs) (fuel : ℕ)
    (xs : List α) : (drain take fuel xs).2 <:+ xs := by
  induction fuel generalizing xs with
  | zero => exact List.suffix_rfl
  | succ fuel ih =>
    cases hxs : take xs with
    | none => simp [drain_of_none hxs]
    | some taken =>
      obtain ⟨b, rest⟩ := taken
      rw [drain_of_some hxs]
      exact (ih rest).trans (hrest xs b rest hxs)

namespace FrontReader

variable (h : FrontReader take)
include h

/-- As much fuel as there are elements is enough. -/
theorem drain_eq {fuel : ℕ} {xs : List α} (hfuel : xs.length ≤ fuel) :
    drain take fuel xs = drained take xs := by
  induction fuel using Nat.strongRecOn generalizing xs with
  | _ fuel ih =>
    cases hxs : take xs with
    | none => rw [drain_of_none hxs, drained_of_none hxs]
    | some taken =>
      obtain ⟨b, rest⟩ := taken
      have hlt := h.shrinks hxs
      obtain ⟨fuel, rfl⟩ := Nat.exists_eq_add_of_lt (show 0 < fuel by omega)
      obtain ⟨n, hn⟩ := Nat.exists_eq_add_of_lt (show 0 < xs.length by omega)
      rw [Nat.zero_add] at hfuel ih hn ⊢
      rw [drained, hn, drain_of_some hxs, drain_of_some hxs, ih fuel (by omega) (by omega)]
      rcases Nat.lt_or_ge n (fuel + 1) with hlt' | hge
      · rw [ih n hlt' (by omega)]
      · obtain rfl : n = fuel := by omega
        rw [ih n (by omega) (by omega)]

theorem drained_of_some {xs rest : List α} {b : β} (hxs : take xs = some (b, rest)) :
    drained take xs = (b :: (drained take rest).1, (drained take rest).2) := by
  have hlt := h.shrinks hxs
  rw [← h.drain_eq (Nat.le_succ xs.length), drain_of_some hxs, h.drain_eq (Nat.le_of_lt hlt)]

/-- **It does not matter when the consumer looks.** -/
theorem drained_append (xs ys : List α) :
    drained take (xs ++ ys) = feed take (drained take xs) ys := by
  induction hn : xs.length using Nat.strongRecOn generalizing xs with
  | _ n ih =>
    cases hxs : take xs with
    | none => rw [feed, drained_of_none hxs, List.nil_append]
    | some taken =>
      obtain ⟨b, rest⟩ := taken
      have hlt := h.shrinks hxs
      rw [h.drained_of_some (h.append hxs ys), h.drained_of_some hxs, ih _ (hn ▸ hlt) rest rfl]
      rfl

/-- Nothing is whole in what is left. -/
theorem take_rest (xs : List α) : take (drained take xs).2 = none := by
  induction hn : xs.length using Nat.strongRecOn generalizing xs with
  | _ n ih =>
    cases hxs : take xs with
    | none => rw [drained_of_none hxs, hxs]
    | some taken =>
      obtain ⟨b, rest⟩ := taken
      rw [h.drained_of_some hxs]
      exact ih _ (hn ▸ h.shrinks hxs) rest rfl

end FrontReader

/-! ## Blocks of one size -/

/-- The first `size` elements, once there are so many. -/
def takeBlock (size : ℕ) (xs : List α) : Option (List α × List α) :=
  if size ≤ xs.length then some (xs.splitAt size) else none

/-- The whole blocks at the front. -/
def blocks (size : ℕ) (xs : List α) : List (List α) := (drained (takeBlock size) xs).1

/-- What is left behind the whole blocks. -/
def partialBlock (size : ℕ) (xs : List α) : List α := (drained (takeBlock size) xs).2

section Blocks

variable {size : ℕ}

theorem takeBlock_of_le {xs : List α} (h : size ≤ xs.length) :
    takeBlock size xs = some (xs.take size, xs.drop size) := by
  rw [takeBlock, if_pos h, List.splitAt_eq]

theorem takeBlock_of_lt {xs : List α} (h : xs.length < size) : takeBlock size xs = none :=
  if_neg (Nat.not_le.mpr h)

theorem takeBlock_append (block xs : List α) :
    takeBlock block.length (block ++ xs) = some (block, xs) := by
  rw [takeBlock_of_le (by simp), List.take_left, List.drop_left]

theorem frontReader_takeBlock (hsize : 0 < size) : FrontReader (takeBlock (α := α) size) where
  append {xs b rest} h ys := by
    by_cases hle : size ≤ xs.length
    · rw [takeBlock_of_le hle] at h
      obtain ⟨rfl, rfl⟩ := Prod.mk.inj (Option.some.inj h)
      rw [takeBlock_of_le (by rw [List.length_append]; omega), List.take_append_of_le_length hle,
        List.drop_append_of_le_length hle]
    · rw [takeBlock_of_lt (Nat.not_le.mp hle)] at h
      cases h
  shrinks {xs b rest} h := by
    by_cases hle : size ≤ xs.length
    · rw [takeBlock_of_le hle] at h
      obtain ⟨rfl, rfl⟩ := Prod.mk.inj (Option.some.inj h)
      rw [List.length_drop]
      omega
    · rw [takeBlock_of_lt (Nat.not_le.mp hle)] at h
      cases h

theorem partialBlock_lt (hsize : 0 < size) (xs : List α) :
    (partialBlock size xs).length < size := by
  by_contra hge
  have hrest := (frontReader_takeBlock hsize).take_rest xs
  rw [show (drained (takeBlock size) xs).2 = partialBlock size xs from rfl,
    takeBlock_of_le (Nat.not_lt.mp hge)] at hrest
  cases hrest

theorem blocks_append (hsize : 0 < size) (xs ys : List α) :
    blocks size (xs ++ ys) = blocks size xs ++ blocks size (partialBlock size xs ++ ys) :=
  congrArg Prod.fst ((frontReader_takeBlock hsize).drained_append xs ys)

theorem partialBlock_append (hsize : 0 < size) (xs ys : List α) :
    partialBlock size (xs ++ ys) = partialBlock size (partialBlock size xs ++ ys) :=
  (congrArg Prod.snd ((frontReader_takeBlock hsize).drained_append xs ys) :)

theorem blocks_of_lt {xs : List α} (h : xs.length < size) : blocks size xs = [] :=
  congrArg Prod.fst (drained_of_none (takeBlock_of_lt h))

theorem partialBlock_of_lt {xs : List α} (h : xs.length < size) : partialBlock size xs = xs :=
  congrArg Prod.snd (drained_of_none (takeBlock_of_lt h))

theorem drained_block_append (hsize : 0 < size) {block : List α} (h : block.length = size)
    (xs : List α) :
    drained (takeBlock size) (block ++ xs) = (block :: blocks size xs, partialBlock size xs) := by
  subst h
  exact (frontReader_takeBlock hsize).drained_of_some (takeBlock_append block xs)

theorem blocks_block_append (hsize : 0 < size) {block : List α} (h : block.length = size)
    (xs : List α) : blocks size (block ++ xs) = block :: blocks size xs :=
  congrArg Prod.fst (drained_block_append hsize h xs)

theorem blocks_block (hsize : 0 < size) {block : List α} (h : block.length = size) :
    blocks size block = [block] := by
  rw [← List.append_nil block, blocks_block_append hsize h, List.append_nil,
    blocks_of_lt (by exact hsize)]

theorem partialBlock_block_append (hsize : 0 < size) {block : List α} (h : block.length = size)
    (xs : List α) : partialBlock size (block ++ xs) = partialBlock size xs :=
  (congrArg Prod.snd (drained_block_append hsize h xs) :)

theorem length_partialBlock (hsize : 0 < size) (xs : List α) :
    (partialBlock size xs).length = xs.length % size := by
  induction hn : xs.length using Nat.strongRecOn generalizing xs with
  | _ n ih =>
    subst hn
    rcases Nat.lt_or_ge xs.length size with hlt | hge
    · rw [partialBlock_of_lt hlt, Nat.mod_eq_of_lt hlt]
    · conv_lhs => rw [← List.take_append_drop size xs]
      rw [partialBlock_block_append hsize (List.length_take_of_le hge),
        ih _ (by rw [List.length_drop]; omega) _ rfl, List.length_drop, ← Nat.mod_eq_sub_mod hge]

variable {σ : Type*}

/-- One more element, for a consumer that processes each block as soon as it is full. -/
def absorb (size : ℕ) (process : σ → List α → σ) (state : σ × List α) (x : α) : σ × List α :=
  if state.2.length + 1 = size then (process state.1 (state.2 ++ [x]), [])
  else (state.1, state.2 ++ [x])

/-- **A consumer that processes each block as soon as it is full** has processed the whole blocks of
what it was given, and holds the rest. -/
theorem foldl_absorb (hsize : 0 < size) (process : σ → List α → σ) (init : σ) (xs : List α) :
    xs.foldl (absorb size process) (init, []) =
      ((blocks size xs).foldl process init, partialBlock size xs) := by
  induction xs using List.reverseRecOn with
  | nil => rfl
  | append_singleton xs x ih =>
    have hlt := partialBlock_lt hsize xs
    rw [List.foldl_append, ih, List.foldl_cons, List.foldl_nil, absorb, blocks_append hsize,
      partialBlock_append hsize]
    split
    · rename_i hfull
      have hblock : (partialBlock size xs ++ [x]).length = size := by
        rw [List.length_append, List.length_singleton, hfull]
      have hrest := partialBlock_block_append hsize hblock []
      rw [List.append_nil] at hrest
      rw [blocks_block hsize hblock, hrest, List.foldl_append]
      rfl
    · rename_i hpart
      have hlt' : (partialBlock size xs ++ [x]).length < size := by
        have hpart : (partialBlock size xs).length + 1 ≠ size := hpart
        rw [List.length_append, List.length_singleton]
        omega
      rw [blocks_of_lt hlt', partialBlock_of_lt hlt', List.append_nil]

end Blocks

end NetworkSim
