import Mathlib.Data.List.Basic
import Mathlib.Logic.Function.Basic
import Mathlib.Data.Nat.ModEq

/-!
# Rings in one array

Several circular buffers of one size stored next to each other in a flat array, here a function on
`ℕ`: item `i` of ring `id`, whose first item is at offset `start`, lives at
`id * size + (start + i) % size`. What the operations on the array do is said of the list of a
ring's items (`contents`): a write changes one item of one ring (`contents_update`), a write behind
the last item appends (`contents_append`), and clearing the first items and moving the start drops
them (`contents_clear`, `contents_advance`); the other rings stay as they are. Two arrays can be
compared on one ring (`AgreeOn`): the same operation on both keeps the agreement, and so does any on
another ring.
-/

namespace NetworkSim.Ring

variable {α : Type*} {size : ℕ}

/-- The index of item `i` of ring `id`. -/
def slot (size id start i : ℕ) : ℕ := id * size + (start + i) % size

/-- The first `n` items of ring `id`. -/
def contents (size : ℕ) (mem : ℕ → α) (id start n : ℕ) : List α :=
  (List.range n).map (fun i => mem (slot size id start i))

/-- The array with the first `n` items of ring `id` set to `x`. -/
def clear (size : ℕ) (mem : ℕ → α) (id start n : ℕ) (x : α) : ℕ → α :=
  (List.range n).foldl (fun mem i => Function.update mem (slot size id start i) x) mem

/-! ## Slots -/

theorem slot_div (hsize : 0 < size) (id start i : ℕ) : slot size id start i / size = id := by
  rw [slot, Nat.mul_comm, Nat.mul_add_div hsize, Nat.div_eq_of_lt (Nat.mod_lt _ hsize), add_zero]

theorem slot_ne_of_ne (hsize : 0 < size) {id id' : ℕ} (h : id ≠ id') (start start' i j : ℕ) :
    slot size id start i ≠ slot size id' start' j := by
  intro heq
  rw [← slot_div hsize id start i, heq, slot_div hsize] at h
  exact h rfl

theorem slot_inj {id start i j : ℕ} (hi : i < size) (hj : j < size) :
    slot size id start i = slot size id start j ↔ i = j := by
  refine ⟨fun h => ?_, fun h => h ▸ rfl⟩
  have hmod : (start + i) % size = (start + j) % size := Nat.add_left_cancel h
  have := Nat.ModEq.add_left_cancel' start hmod
  rwa [Nat.ModEq, Nat.mod_eq_of_lt hi, Nat.mod_eq_of_lt hj] at this

/-- Every place of the array is one of the places of its ring. -/
theorem exists_slot (hsize : 0 < size) (start j : ℕ) :
    ∃ i < size, slot size (j / size) start i = j := by
  refine ⟨(j % size + (size - start % size)) % size, Nat.mod_lt _ hsize, ?_⟩
  have hstart := Nat.mod_lt start hsize
  rw [slot, Nat.add_mod_mod, ← Nat.mod_add_mod,
    show start % size + (j % size + (size - start % size)) = j % size + size by omega,
    Nat.add_mod_right, Nat.mod_mod, Nat.mul_comm]
  exact Nat.div_add_mod j size

/-- The places behind the last one are the first ones. -/
theorem slot_add_size (id start i : ℕ) : slot size id start (i + size) = slot size id start i := by
  rw [slot, slot, ← add_assoc, Nat.add_mod_right]

theorem slot_advance (id start n i : ℕ) :
    slot size id ((start + n) % size) i = slot size id start (n + i) := by
  rw [slot, slot, Nat.mod_add_mod, add_assoc]

/-! ## Items -/

@[simp] theorem length_contents (mem : ℕ → α) (id start n : ℕ) :
    (contents size mem id start n).length = n := by simp [contents]

theorem getElem?_contents (mem : ℕ → α) (id start n i : ℕ) :
    (contents size mem id start n)[i]? =
      if i < n then some (mem (slot size id start i)) else none := by
  rw [contents, List.getElem?_map]
  split_ifs with h
  · rw [List.getElem?_range h, Option.map_some]
  · rw [List.getElem?_eq_none (by simpa using h), Option.map_none]

theorem getElem_contents (mem : ℕ → α) (id start n i : ℕ)
    (h : i < (contents size mem id start n).length) :
    (contents size mem id start n)[i] = mem (slot size id start i) := by simp [contents]

theorem contents_congr {mem mem' : ℕ → α} {id start n : ℕ}
    (h : ∀ i < n, mem (slot size id start i) = mem' (slot size id start i)) :
    contents size mem id start n = contents size mem' id start n :=
  List.map_congr_left fun i hi => h i (List.mem_range.mp hi)

theorem contents_succ (mem : ℕ → α) (id start n : ℕ) :
    contents size mem id start (n + 1) =
      contents size mem id start n ++ [mem (slot size id start n)] := by
  rw [contents, List.range_succ, List.map_append]
  rfl

theorem contents_add (mem : ℕ → α) (id start n m : ℕ) :
    contents size mem id start (n + m) =
      contents size mem id start n ++ contents size mem id ((start + n) % size) m := by
  induction m with
  | zero => simp [contents]
  | succ m ih => rw [← add_assoc, contents_succ, contents_succ, ih, slot_advance, List.append_assoc]

/-- Moving the start drops items. -/
theorem contents_advance (mem : ℕ → α) (id start n m : ℕ) :
    contents size mem id ((start + n) % size) m =
      (contents size mem id start (n + m)).drop n := by
  rw [contents_add, List.drop_left' (length_contents mem id start n)]

/-- The places of a ring are the same from wherever they are read, up to their order. -/
theorem contents_perm (hsize : 0 < size) (mem : ℕ → α) (id start : ℕ) :
    (contents size mem id start size).Perm (contents size mem id 0 size) := by
  have hstart := Nat.mod_lt start hsize
  have hmod : contents size mem id start size = contents size mem id (start % size) size := by
    simp only [contents, slot, Nat.mod_add_mod]
  have hfrom := @contents_add α size mem id (start % size) (size - start % size) (start % size)
  have hzero := @contents_add α size mem id 0 (start % size) (size - start % size)
  rw [Nat.sub_add_cancel hstart.le, Nat.add_sub_cancel' hstart.le, Nat.mod_self] at hfrom
  rw [Nat.add_sub_cancel' hstart.le, zero_add, Nat.mod_mod] at hzero
  rw [hmod, hfrom, hzero]
  exact List.perm_append_comm

/-! ## Writes -/

theorem contents_update_of_ne (hsize : 0 < size) (mem : ℕ → α) {id id' : ℕ} (h : id ≠ id')
    (start start' i n : ℕ) (x : α) :
    contents size (Function.update mem (slot size id' start' i) x) id start n =
      contents size mem id start n :=
  contents_congr fun j _ => Function.update_of_ne (slot_ne_of_ne hsize h start start' j i) x mem

theorem contents_update (mem : ℕ → α) {id start i n : ℕ} (hn : n ≤ size) (hi : i < n) (x : α) :
    contents size (Function.update mem (slot size id start i) x) id start n =
      (contents size mem id start n).set i x := by
  refine List.ext_getElem (by simp) fun j hj _ => ?_
  rw [length_contents] at hj
  rw [getElem_contents, List.getElem_set, Function.update_apply, getElem_contents]
  simp only [slot_inj (show j < size by omega) (show i < size by omega), eq_comm]

/-- A write behind the last item appends. -/
theorem contents_append (mem : ℕ → α) {id start n : ℕ} (hn : n < size) (x : α) :
    contents size (Function.update mem (slot size id start n) x) id start (n + 1) =
      contents size mem id start n ++ [x] := by
  rw [contents_succ, Function.update_self]
  congr 1
  refine contents_congr fun i hi => Function.update_of_ne ?_ x mem
  rw [Ne, slot_inj (by omega) hn]
  omega

theorem clear_succ (mem : ℕ → α) (id start n : ℕ) (x : α) :
    clear size mem id start (n + 1) x =
      Function.update (clear size mem id start n x) (slot size id start n) x := by
  rw [clear, List.range_succ, List.foldl_append]
  rfl

variable (size) in
theorem clear_apply (mem : ℕ → α) (id start n : ℕ) (x : α) (j : ℕ) :
    clear size mem id start n x j = x ∨ clear size mem id start n x j = mem j := by
  induction n with
  | zero => exact .inr rfl
  | succ n ih =>
    rw [clear_succ, Function.update_apply]
    split <;> [exact .inl rfl; exact ih]

theorem clear_slot (mem : ℕ → α) {id start n i : ℕ} (hi : i < n) (x : α) :
    clear size mem id start n x (slot size id start i) = x := by
  induction n with
  | zero => exact absurd hi (Nat.not_lt_zero i)
  | succ n ih =>
    rw [clear_succ, Function.update_apply]
    split
    · rfl
    · rename_i hne
      refine ih ?_
      rcases Nat.lt_succ_iff_lt_or_eq.mp hi with hlt | rfl
      · exact hlt
      · exact absurd rfl hne

theorem contents_clear_of_ne (hsize : 0 < size) (mem : ℕ → α) {id id' : ℕ} (h : id ≠ id')
    (start start' k n : ℕ) (x : α) :
    contents size (clear size mem id' start' k x) id start n = contents size mem id start n := by
  induction k with
  | zero => rfl
  | succ k ih => rw [clear_succ, contents_update_of_ne hsize _ h, ih]

/-- Clearing the first items sets them. -/
theorem contents_clear (mem : ℕ → α) {id start k n : ℕ} (hk : k ≤ n) (hn : n ≤ size) (x : α) :
    contents size (clear size mem id start k x) id start n =
      List.replicate k x ++ (contents size mem id start n).drop k := by
  induction k with
  | zero => rfl
  | succ k ih =>
    rw [clear_succ, contents_update _ hn (by omega), ih (by omega), List.replicate_succ',
      List.set_append_right _ _ (by simp), List.length_replicate, Nat.sub_self,
      List.drop_eq_getElem_cons (by rw [length_contents]; omega), List.set_cons_zero,
      List.append_assoc]
    rfl

/-! ## Agreement -/

variable {β : Type*}

/-- Two arrays have the same items in the places of ring `id`, as far as `f` shows them. -/
def AgreeOn (size : ℕ) (f : α → β) (id : ℕ) (mem mem' : ℕ → α) : Prop :=
  ∀ j, j / size = id → f (mem j) = f (mem' j)

namespace AgreeOn

variable {f : α → β} {id id' : ℕ} {mem mem' mem'' : ℕ → α}

theorem refl (size : ℕ) (f : α → β) (id : ℕ) (mem : ℕ → α) : AgreeOn size f id mem mem :=
  fun _ _ => rfl

theorem symm (h : AgreeOn size f id mem mem') : AgreeOn size f id mem' mem :=
  fun j hj => (h j hj).symm

theorem trans (h : AgreeOn size f id mem mem') (h' : AgreeOn size f id mem' mem'') :
    AgreeOn size f id mem mem'' :=
  fun j hj => (h j hj).trans (h' j hj)

theorem slot (hsize : 0 < size) (h : AgreeOn size f id mem mem') (start i : ℕ) :
    f (mem (Ring.slot size id start i)) = f (mem' (Ring.slot size id start i)) :=
  h _ (slot_div hsize id start i)

theorem update (h : AgreeOn size f id mem mem') (k : ℕ) {x x' : α} (hx : f x = f x') :
    AgreeOn size f id (Function.update mem k x) (Function.update mem' k x') := by
  intro j hj
  rw [Function.update_apply, Function.update_apply]
  split
  · exact hx
  · exact h j hj

theorem clear (h : AgreeOn size f id mem mem') (id' start n : ℕ) (x : α) :
    AgreeOn size f id (Ring.clear size mem id' start n x) (Ring.clear size mem' id' start n x) := by
  induction n with
  | zero => exact h
  | succ n ih =>
    rw [clear_succ, clear_succ]
    exact ih.update _ rfl

/-- A write to another ring. -/
theorem update_of_ne (hsize : 0 < size) (h : AgreeOn size f id mem mem') (hid : id ≠ id')
    (start i : ℕ) (x : α) :
    AgreeOn size f id (Function.update mem (Ring.slot size id' start i) x) mem' := by
  intro j hj
  rw [Function.update_of_ne]
  · exact h j hj
  · rintro rfl
    exact hid (hj.symm.trans (slot_div hsize id' start i))

theorem clear_of_ne (hsize : 0 < size) (h : AgreeOn size f id mem mem') (hid : id ≠ id')
    (start n : ℕ) (x : α) : AgreeOn size f id (Ring.clear size mem id' start n x) mem' := by
  induction n with
  | zero => exact h
  | succ n ih =>
    rw [clear_succ]
    exact ih.update_of_ne hsize hid start n x

end AgreeOn

end NetworkSim.Ring
