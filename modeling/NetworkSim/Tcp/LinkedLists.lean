import NetworkSim.Foundations.CircularList
import NetworkSim.Tcp.Common

/-!
# The linked lists in memory

The list functions of `tcp/src/util.c` on a heap. Elsewhere a list is modelled by its values; here
a node has an address, and a pointer that is `NULL` or leads to memory that is not allocated cannot
be followed. `IsList heap head nodes` says that `head` is the first of `nodes`, that these are
linked in a circle and that each holds its value. Every operation keeps it (`llAppendNode_spec`,
`llPopNode_spec`, `llPopNode_cursor`), so it holds after any sequence of them (`runListOps_spec`).
-/

namespace NetworkSim.Tcp

variable {α : Type}

/-! ## The heap -/

/-- `struct LLnode_t`. -/
structure LLnode (α : Type) where
  prev : Option ℕ
  next : Option ℕ
  value : α

/-- What the addresses hold. -/
abbrev Heap (α : Type) := ℕ → Option (LLnode α)

namespace Heap

/-- An update of the node at `a`. -/
def modify (a : ℕ) (f : LLnode α → LLnode α) (heap : Heap α) : Heap α :=
  Function.update heap a ((heap a).map f)

/-- An assignment through a pointer. -/
def assign (p : Option ℕ) (f : LLnode α → LLnode α) (heap : Heap α) : Option (Heap α) :=
  match p with
  | none => none
  | some a => if (heap a).isSome then some (heap.modify a f) else none

/-- `malloc`, and `node->value = value`; the links are not set yet. -/
def alloc (a : ℕ) (value : α) (heap : Heap α) : Heap α :=
  Function.update heap a (some ⟨none, none, value⟩)

/-- `free`. -/
def free (a : ℕ) (heap : Heap α) : Heap α := Function.update heap a none

/-- `next` of the node at `a`. -/
def next (heap : Heap α) (a : ℕ) : Option ℕ := (heap a).bind LLnode.next

/-- `prev` of the node at `a`. -/
def prev (heap : Heap α) (a : ℕ) : Option ℕ := (heap a).bind LLnode.prev

/-- `value` of the node at `a`. -/
def value (heap : Heap α) (a : ℕ) : Option α := (heap a).bind fun node => some node.value

end Heap

/-- `node->next = p`. -/
def LLnode.setNext (p : Option ℕ) (node : LLnode α) : LLnode α := { node with next := p }

/-- `node->prev = p`. -/
def LLnode.setPrev (p : Option ℕ) (node : LLnode α) : LLnode α := { node with prev := p }

/-! ## The functions -/

/-- The loop of `ll_get_length`. -/
def lengthLoop (head : ℕ) (heap : Heap α) : ℕ → Option ℕ → ℕ → Option ℕ
  | 0, tmp, count => if tmp = some head then some count else none
  | fuel + 1, tmp, count =>
    if tmp = some head then some count
    else (tmp.bind heap).bind fun node => lengthLoop head heap fuel node.next (count + 1)

/-- `ll_get_length`. -/
def llGetLength (fuel : ℕ) (head : Option ℕ) (heap : Heap α) : Option ℕ :=
  match head with
  | none => some 0
  | some a => (heap a).bind fun node => lengthLoop a heap fuel node.next 1

/-- `ll_append_node`: the head after it, and the heap. The address of the new node is given by
`malloc`. -/
def llAppendNode (newNode : ℕ) (value : α) (head : Option ℕ) (heap : Heap α) :
    Option (Option ℕ × Heap α) := do
  let heap := heap.alloc newNode value
  match head with
  | none =>
    let heap ← heap.assign (some newNode) (.setPrev (some newNode))
    let heap ← heap.assign (some newNode) (.setNext (some newNode))
    return (some newNode, heap)
  | some a =>
    let prevLastNode := (← heap a).prev
    let heap ← heap.assign (some a) (.setPrev (some newNode))
    let heap ← heap.assign prevLastNode (.setNext (some newNode))
    let heap ← heap.assign (some newNode) (.setNext (some a))
    let heap ← heap.assign (some newNode) (.setPrev prevLastNode)
    return (some a, heap)

/-- `ll_pop_node`: the node, the head after it, and the heap. -/
def llPopNode (head : Option ℕ) (heap : Heap α) : Option (Option ℕ × Option ℕ × Heap α) :=
  match head with
  | none => return (none, none, heap)
  | some prevHead => do
    let lastNode := (← heap prevHead).prev
    let newHead := (← heap prevHead).next
    if lastNode = some prevHead then
      let heap ← heap.assign (some prevHead) (.setNext none)
      let heap ← heap.assign (some prevHead) (.setPrev none)
      return (some prevHead, none, heap)
    else
      let heap ← heap.assign lastNode (.setNext newHead)
      let heap ← heap.assign newHead (.setPrev lastNode)
      let heap ← heap.assign (some prevHead) (.setNext none)
      let heap ← heap.assign (some prevHead) (.setPrev none)
      return (some prevHead, newHead, heap)

/-! ## Updates and links -/

namespace Heap

variable (heap : Heap α) (a : ℕ) (p : Option ℕ)

@[simp] theorem modify_isSome (f : LLnode α → LLnode α) (c : ℕ) :
    (heap.modify a f c).isSome = (heap c).isSome := by
  rw [modify, Function.update_apply]
  split
  · rename_i h
    rw [h, Option.isSome_map]
  · rfl

theorem assign_some {heap : Heap α} {a : ℕ} (h : (heap a).isSome) (f : LLnode α → LLnode α) :
    heap.assign (some a) f = some (heap.modify a f) := by
  rw [assign, if_pos h]

theorem next_setNext {heap : Heap α} {a : ℕ} (h : (heap a).isSome) (c : ℕ) :
    (heap.modify a (.setNext p)).next c = if c = a then p else heap.next c := by
  obtain ⟨node, hnode⟩ := Option.isSome_iff_exists.mp h
  rw [next, modify, Function.update_apply, hnode]
  split <;> rfl

theorem prev_setPrev {heap : Heap α} {a : ℕ} (h : (heap a).isSome) (c : ℕ) :
    (heap.modify a (.setPrev p)).prev c = if c = a then p else heap.prev c := by
  obtain ⟨node, hnode⟩ := Option.isSome_iff_exists.mp h
  rw [prev, modify, Function.update_apply, hnode]
  split <;> rfl

theorem bind_modify {β : Type} (f : LLnode α → LLnode α) (g : LLnode α → Option β)
    (h : ∀ node, g (f node) = g node) (c : ℕ) : (heap.modify a f c).bind g = (heap c).bind g := by
  rw [modify, Function.update_apply]
  split
  · rename_i hc
    rw [hc]
    cases heap a with
    | none => rfl
    | some node => exact h node
  · rfl

@[simp] theorem next_setPrev (c : ℕ) : (heap.modify a (.setPrev p)).next c = heap.next c :=
  heap.bind_modify a (.setPrev p) LLnode.next (fun _ => rfl) c

@[simp] theorem prev_setNext (c : ℕ) : (heap.modify a (.setNext p)).prev c = heap.prev c :=
  heap.bind_modify a (.setNext p) LLnode.prev (fun _ => rfl) c

@[simp] theorem value_setPrev (c : ℕ) : (heap.modify a (.setPrev p)).value c = heap.value c :=
  heap.bind_modify a (.setPrev p) (fun node => some node.value) (fun _ => rfl) c

@[simp] theorem value_setNext (c : ℕ) : (heap.modify a (.setNext p)).value c = heap.value c :=
  heap.bind_modify a (.setNext p) (fun node => some node.value) (fun _ => rfl) c

theorem exists_of_value {heap : Heap α} {a : ℕ} {v : α} (h : heap.value a = some v) :
    ∃ node, heap a = some node ∧ node.value = v := by
  obtain ⟨node, hnode, hv⟩ := Option.bind_eq_some_iff.mp h
  exact ⟨node, hnode, Option.some.inj hv⟩

end Heap

/-! ## Lists in a heap -/

/-- `head` leads to a circular list with the given addresses and values. -/
structure IsList (heap : Heap α) (head : Option ℕ) (nodes : List (ℕ × α)) : Prop where
  head_eq : head = (nodes.map Prod.fst).head?
  circular : Circular heap.next heap.prev (nodes.map Prod.fst)
  value_eq : ∀ node ∈ nodes, heap.value node.1 = some node.2

namespace IsList

variable {heap : Heap α} {head : Option ℕ} {nodes : List (ℕ × α)}

theorem nil (heap : Heap α) : IsList heap none [] := ⟨rfl, .nil, by simp⟩

theorem exists_node (h : IsList heap head nodes) {a : ℕ} (ha : a ∈ nodes.map Prod.fst) :
    ∃ node, heap a = some node := by
  obtain ⟨⟨_, v⟩, hmem, rfl⟩ := List.mem_map.mp ha
  obtain ⟨node, hnode, -⟩ := Heap.exists_of_value (h.value_eq _ hmem)
  exact ⟨node, hnode⟩

theorem isSome (h : IsList heap head nodes) {a : ℕ} (ha : a ∈ nodes.map Prod.fst) :
    (heap a).isSome := Option.isSome_iff_exists.mpr (h.exists_node ha)

/-- The same list, from another element on. -/
theorem rotate {front back : List (ℕ × α)} (h : IsList heap head (front ++ back)) :
    IsList heap ((back ++ front).map Prod.fst).head? (back ++ front) where
  head_eq := rfl
  circular := by
    rw [List.map_append]
    exact (List.map_append ▸ h.circular).rotate_append
  value_eq node hnode := h.value_eq node (by
    simp only [List.mem_append] at hnode ⊢
    exact hnode.symm)

/-- A list does not depend on the rest of the heap. -/
theorem congr {heap' : Heap α} (h : IsList heap head nodes)
    (heq : ∀ a ∈ nodes.map Prod.fst, heap' a = heap a) : IsList heap' head nodes where
  head_eq := h.head_eq
  circular := h.circular.congr (fun a ha => by rw [Heap.next, heq a ha]; rfl)
    fun a ha => by rw [Heap.prev, heq a ha]; rfl
  value_eq node hnode := by
    rw [Heap.value, heq _ (List.mem_map_of_mem hnode)]
    exact h.value_eq node hnode

theorem free (h : IsList heap head nodes) {a : ℕ} (ha : a ∉ nodes.map Prod.fst) :
    IsList (heap.free a) head nodes :=
  h.congr fun c hc => Function.update_of_ne (show c ≠ a from fun heq => ha (heq ▸ hc)) ..

end IsList

/-! ## Removal -/

theorem llPopNode_single {heap : Heap α} {a : ℕ} (ha : (heap a).isSome)
    (hprev : heap.prev a = some a) :
    llPopNode (some a) heap =
      some (some a, none, (heap.modify a (.setNext none)).modify a (.setPrev none)) := by
  obtain ⟨node, hnode⟩ := Option.isSome_iff_exists.mp ha
  rw [Heap.prev, hnode] at hprev
  have hlast : node.prev = some a := hprev
  simp [llPopNode, hnode, hlast, Heap.assign_some]

/-- The heap after the node at `a`, which lies between those at `z` and `b`, has been taken out. -/
def Heap.splice (z a b : ℕ) (heap : Heap α) : Heap α :=
  (((heap.modify z (.setNext (some b))).modify b (.setPrev (some z))).modify a
    (.setNext none)).modify a (.setPrev none)

section Splice

variable {heap : Heap α} {a b z : ℕ} (ha : (heap a).isSome) (hb : (heap b).isSome)
  (hz : (heap z).isSome)

include ha hz in
theorem Heap.next_splice (c : ℕ) :
    (heap.splice z a b).next c =
      if c = a then none else if c = z then some b else heap.next c := by
  rw [Heap.splice, Heap.next_setPrev, Heap.next_setNext none (by simpa using ha),
    Heap.next_setPrev, Heap.next_setNext _ hz]

include ha hb in
theorem Heap.prev_splice (c : ℕ) :
    (heap.splice z a b).prev c =
      if c = a then none else if c = b then some z else heap.prev c := by
  rw [Heap.splice, Heap.prev_setPrev none (by simpa using ha), Heap.prev_setNext,
    Heap.prev_setPrev _ (by simpa using hb), Heap.prev_setNext]

include ha hb hz in
theorem llPopNode_splice (hprev : heap.prev a = some z) (hnext : heap.next a = some b)
    (hne : z ≠ a) : llPopNode (some a) heap = some (some a, some b, heap.splice z a b) := by
  obtain ⟨node, hnode⟩ := Option.isSome_iff_exists.mp ha
  rw [Heap.prev, hnode] at hprev
  rw [Heap.next, hnode] at hnext
  have hlast : node.prev = some z := hprev
  have hnew : node.next = some b := hnext
  simp [llPopNode, hnode, hlast, hnew, Heap.assign_some, hb, hz, hne, Heap.splice]

@[simp] theorem Heap.value_splice (heap : Heap α) (z a b c : ℕ) :
    (heap.splice z a b).value c = heap.value c := by simp [Heap.splice]

end Splice

/-- **`ll_pop_node`** takes the first node out. -/
theorem llPopNode_spec {heap : Heap α} {head : Option ℕ} {a : ℕ} {v : α} {nodes : List (ℕ × α)}
    (h : IsList heap head ((a, v) :: nodes)) :
    ∃ heap', llPopNode head heap = some (some a, (nodes.map Prod.fst).head?, heap') ∧
      heap'.value a = some v ∧ IsList heap' (nodes.map Prod.fst).head? nodes := by
  obtain rfl : head = some a := h.head_eq
  have hmem {c : ℕ} (hc : c ∈ ((a, v) :: nodes).map Prod.fst) : (heap c).isSome := h.isSome hc
  have hcircular : Circular heap.next heap.prev (a :: nodes.map Prod.fst) := h.circular
  have hvalue := h.value_eq (a, v) List.mem_cons_self
  cases nodes with
  | nil =>
    have hlink := Circular.singleton_iff.mp hcircular
    exact ⟨_, llPopNode_single (hmem (by simp)) hlink.2, by simpa using hvalue, .nil _⟩
  | cons node nodes =>
    obtain ⟨b, w⟩ := node
    simp only [List.map_cons] at hcircular
    obtain ⟨hnotin, hnodup⟩ := List.nodup_cons.mp hcircular.nodup
    have hnext : heap.next a = some b := hcircular.next_head
    have hprev := hcircular.prev_head
    rw [List.getLast_cons (List.cons_ne_nil b _)] at hprev
    generalize hz : (b :: nodes.map Prod.fst).getLast (List.cons_ne_nil b _) = z at hprev
    have hzmem : z ∈ b :: nodes.map Prod.fst := hz ▸ List.getLast_mem _
    have hza : z ≠ a := fun heq => hnotin (heq ▸ hzmem)
    have hasome : (heap a).isSome := hmem (by simp)
    have hbsome : (heap b).isSome := hmem (by simp)
    have hzsome : (heap z).isSome := hmem (List.mem_cons_of_mem a hzmem)
    refine ⟨_, llPopNode_splice hasome hbsome hzsome hprev hnext hza, by simpa using hvalue, rfl,
      hcircular.tail ⟨?_, ?_⟩ (fun c hc => ?_) fun c hc => ?_,
      fun c hc => by simpa using h.value_eq c (List.mem_cons_of_mem _ hc)⟩
    · rw [hz, Heap.next_splice hasome hzsome, if_neg hza, if_pos rfl]
    · rw [hz, Heap.prev_splice hasome hbsome, if_neg (fun heq => hnotin (by simp [heq])),
        if_pos rfl]
    · have hca : c ≠ a := fun heq => hnotin (heq ▸ List.mem_of_mem_dropLast hc)
      have hcz : c ≠ z := by
        rintro rfl
        exact getLast_notMem_dropLast hnodup (List.cons_ne_nil _ _) (hz.symm ▸ hc)
      rw [Heap.next_splice hasome hzsome, if_neg hca, if_neg hcz]
    · have hca : c ≠ a := fun heq => hnotin (heq ▸ List.mem_cons_of_mem b hc)
      have hcb : c ≠ b := fun heq => (List.nodup_cons.mp hnodup).1 (heq ▸ hc)
      rw [Heap.prev_splice hasome hbsome, if_neg hca, if_neg hcb]

/-- **Removal through a cursor**: the node at the cursor leaves the list, seen from the same
head. -/
theorem llPopNode_cursor {heap : Heap α} {head : Option ℕ} {a : ℕ} {v : α}
    {front back : List (ℕ × α)} (h : IsList heap head (front ++ (a, v) :: back))
    (hfront : front ≠ []) :
    ∃ heap', llPopNode (some a) heap =
        some (some a, ((back ++ front).map Prod.fst).head?, heap') ∧
      heap'.value a = some v ∧ IsList heap' head (front ++ back) := by
  have hrot : IsList heap (some a) ((a, v) :: (back ++ front)) := h.rotate
  obtain ⟨heap', hpop, hvalue, hlist⟩ := llPopNode_spec hrot
  refine ⟨heap', hpop, hvalue, ?_⟩
  obtain ⟨node, front, rfl⟩ := List.exists_cons_of_ne_nil hfront
  obtain rfl : head = some node.1 := h.head_eq
  exact hlist.rotate

/-! ## Insertion -/

section Alloc

variable {heap : Heap α} (a : ℕ) (value : α)

theorem Heap.alloc_self : heap.alloc a value a = some ⟨none, none, value⟩ :=
  Function.update_self ..

theorem Heap.alloc_of_ne {a c : ℕ} (h : c ≠ a) : heap.alloc a value c = heap c :=
  Function.update_of_ne h ..

theorem Heap.value_alloc_self : (heap.alloc a value).value a = some value := by
  rw [Heap.value, Heap.alloc_self]
  rfl

end Alloc

theorem llAppendNode_empty (newNode : ℕ) (value : α) (heap : Heap α) :
    ∃ heap', llAppendNode newNode value none heap = some (some newNode, heap') ∧
      IsList heap' (some newNode) [(newNode, value)] := by
  have hnew : (heap.alloc newNode value newNode).isSome := by rw [Heap.alloc_self]; rfl
  refine ⟨((heap.alloc newNode value).modify newNode (.setPrev (some newNode))).modify newNode
    (.setNext (some newNode)), ?_, rfl, Circular.singleton_iff.mpr ⟨?_, ?_⟩, fun node hnode => ?_⟩
  · simp [llAppendNode, Heap.assign_some, hnew]
  · simp [Heap.next_setNext, hnew]
  · simp [Heap.prev_setPrev, hnew]
  · obtain rfl := List.mem_singleton.mp hnode
    simp [Heap.value_alloc_self]

/-- The heap after the node at `n` has been put between those at `z` and `a`. -/
def Heap.link (z n a : ℕ) (heap : Heap α) : Heap α :=
  (((heap.modify a (.setPrev (some n))).modify z (.setNext (some n))).modify n
    (.setNext (some a))).modify n (.setPrev (some z))

section Link

variable {heap : Heap α} {z n a : ℕ} (hz : (heap z).isSome) (hn : (heap n).isSome)
  (ha : (heap a).isSome)

include hz hn in
theorem Heap.next_link (c : ℕ) :
    (heap.link z n a).next c = if c = n then some a else if c = z then some n else heap.next c := by
  rw [Heap.link, Heap.next_setPrev, Heap.next_setNext _ (by simpa using hn),
    Heap.next_setNext _ (by simpa using hz), Heap.next_setPrev]

include hn ha in
theorem Heap.prev_link (c : ℕ) :
    (heap.link z n a).prev c = if c = n then some z else if c = a then some n else heap.prev c := by
  rw [Heap.link, Heap.prev_setPrev _ (by simpa using hn), Heap.prev_setNext, Heap.prev_setNext,
    Heap.prev_setPrev _ ha]

@[simp] theorem Heap.value_link (heap : Heap α) (z n a c : ℕ) :
    (heap.link z n a).value c = heap.value c := by simp [Heap.link]

end Link

/-- **`ll_append_node`** puts a new node at the end. -/
theorem llAppendNode_spec {heap : Heap α} {head : Option ℕ} {nodes : List (ℕ × α)}
    (h : IsList heap head nodes) {newNode : ℕ} (hnew : heap newNode = none) (value : α) :
    ∃ head' heap', llAppendNode newNode value head heap = some (head', heap') ∧
      IsList heap' head' (nodes ++ [(newNode, value)]) := by
  cases nodes with
  | nil =>
    obtain rfl : head = none := h.head_eq
    obtain ⟨heap', happend, hlist⟩ := llAppendNode_empty newNode value heap
    exact ⟨_, _, happend, hlist⟩
  | cons node nodes =>
    obtain ⟨a, w⟩ := node
    obtain rfl : head = some a := h.head_eq
    -- the new node is not one of the list
    have hne {c : ℕ} (hc : c ∈ ((a, w) :: nodes).map Prod.fst) : c ≠ newNode := by
      rintro rfl
      have hsome := h.isSome hc
      rw [hnew] at hsome
      simp at hsome
    have hlist : IsList (heap.alloc newNode value) (some a) ((a, w) :: nodes) :=
      h.congr fun c hc => Heap.alloc_of_ne value (hne hc)
    have hcircular : Circular (heap.alloc newNode value).next (heap.alloc newNode value).prev
        (a :: nodes.map Prod.fst) := hlist.circular
    have hprev := hcircular.prev_head
    generalize hz : (a :: nodes.map Prod.fst).getLast (List.cons_ne_nil a _) = z at hprev
    have hzmem : z ∈ ((a, w) :: nodes).map Prod.fst := hz ▸ List.getLast_mem _
    have hnsome : (heap.alloc newNode value newNode).isSome := by rw [Heap.alloc_self]; rfl
    have hasome : (heap.alloc newNode value a).isSome := hlist.isSome (by simp)
    have hzsome : (heap.alloc newNode value z).isSome := hlist.isSome hzmem
    refine ⟨some a, (heap.alloc newNode value).link z newNode a, ?_, rfl, ?_, fun c hc => ?_⟩
    · obtain ⟨first, hfirst⟩ := Option.isSome_iff_exists.mp hasome
      rw [Heap.prev, hfirst] at hprev
      have hlast : first.prev = some z := hprev
      simp [llAppendNode, hfirst, hlast, Heap.assign_some, hnsome, hzsome, Heap.link]
    · rw [List.map_append]
      refine hcircular.append (fun hmem => hne hmem rfl) ⟨?_, ?_⟩ ⟨?_, ?_⟩ (fun c hc => ?_)
        fun c hc => ?_
      · rw [hz, Heap.next_link hzsome hnsome, if_neg (hne hzmem), if_pos rfl]
      · rw [hz, Heap.prev_link hnsome hasome, if_pos rfl]
      · rw [Heap.next_link hzsome hnsome, if_pos rfl]
      · rw [Heap.prev_link hnsome hasome, if_neg (hne (by simp)), if_pos rfl]
      · have hcz : c ≠ z := by
          rintro rfl
          exact getLast_notMem_dropLast hcircular.nodup (List.cons_ne_nil _ _) (hz.symm ▸ hc)
        rw [Heap.next_link hzsome hnsome, if_neg (hne (List.mem_of_mem_dropLast hc)), if_neg hcz]
      · have hca : c ≠ a := fun heq => (List.nodup_cons.mp hcircular.nodup).1 (heq ▸ hc)
        rw [Heap.prev_link hnsome hasome, if_neg (hne (List.mem_cons_of_mem a hc)), if_neg hca]
    · rw [Heap.value_link]
      rcases List.mem_append.mp hc with hold | hnew
      · exact hlist.value_eq c hold
      · rw [List.mem_singleton.mp hnew]
        exact Heap.value_alloc_self newNode value

/-! ## Length -/

/-- The loop of `ll_get_length` on its way round to the head. -/
theorem lengthLoop_chain {heap : Heap α} {head : ℕ} {addresses : List ℕ}
    (hchain : (addresses ++ [head]).IsChain (Linked heap.next heap.prev))
    (hhead : head ∉ addresses) {fuel : ℕ} (hfuel : addresses.length ≤ fuel) (count : ℕ) :
    lengthLoop head heap fuel (addresses ++ [head]).head? count =
      some (count + addresses.length) := by
  induction addresses generalizing fuel count with
  | nil => cases fuel <;> simp [lengthLoop]
  | cons a addresses ih =>
    obtain ⟨hne, hhead⟩ := not_or.mp (mt List.mem_cons.mpr hhead)
    obtain ⟨fuel, rfl⟩ := Nat.exists_eq_succ_of_ne_zero (show fuel ≠ 0 by
      rintro rfl
      simp at hfuel)
    rw [List.cons_append, List.isChain_cons] at hchain
    obtain ⟨first, hfirst⟩ : ∃ first, (addresses ++ [head]).head? = some first :=
      ⟨_, List.head?_eq_some_head (by simp)⟩
    obtain ⟨node, hnode, hnext⟩ := Option.bind_eq_some_iff.mp (hchain.1 first hfirst).1
    rw [List.cons_append, List.head?_cons, lengthLoop, if_neg (by simpa using Ne.symm hne)]
    simp only [Option.bind_some, hnode, hnext, ← hfirst]
    rw [ih hchain.2 hhead (by simpa using hfuel), List.length_cons]
    congr 1
    omega

/-- **`ll_get_length`** counts the nodes. -/
theorem llGetLength_spec {heap : Heap α} {head : Option ℕ} {nodes : List (ℕ × α)}
    (h : IsList heap head nodes) {fuel : ℕ} (hfuel : nodes.length ≤ fuel) :
    llGetLength fuel head heap = some nodes.length := by
  cases nodes with
  | nil =>
    obtain rfl : head = none := h.head_eq
    rfl
  | cons node nodes =>
    obtain ⟨a, v⟩ := node
    obtain rfl : head = some a := h.head_eq
    have hcircular : Circular heap.next heap.prev (a :: nodes.map Prod.fst) := h.circular
    have hchain := (Cycle.chain_coe_cons _ _ _).mp hcircular.links
    obtain ⟨first, hnode, hnext⟩ := Option.bind_eq_some_iff.mp hcircular.next_head
    have hloop := lengthLoop_chain (List.isChain_cons.mp hchain).2
      (List.nodup_cons.mp hcircular.nodup).1
      (show (nodes.map Prod.fst).length ≤ fuel by
        rw [List.length_map]
        exact (Nat.le_succ _).trans hfuel) 1
    rw [List.head?_eq_some_head (by simp), List.length_map] at hloop
    simp only [llGetLength, hnode, Option.bind_some, hnext]
    rw [hloop, List.length_cons, Nat.add_comm]

/-! ## Sequences of operations -/

/-- A call of one of the functions on a list, or `free`. The new node of `append` is the one that
`malloc` returns; `popAt` is a call of `ll_pop_node` on a cursor. -/
inductive ListOp (α : Type)
  | append (newNode : ℕ) (value : α)
  | pop
  | popAt (cursor : ℕ)
  | free (node : ℕ)

/-- A heap and the head pointer of a list in it. -/
structure ListState (α : Type) where
  head : Option ℕ
  heap : Heap α

namespace ListOp

/-- What the call does. -/
def run : ListOp α → ListState α → Option (ListState α)
  | append newNode value, s => (llAppendNode newNode value s.head s.heap).map fun r => ⟨r.1, r.2⟩
  | pop, s => (llPopNode s.head s.heap).map fun r => ⟨r.2.1, r.2.2⟩
  | popAt cursor, s => (llPopNode (some cursor) s.heap).map fun r => ⟨s.head, r.2.2⟩
  | free node, s => some ⟨s.head, s.heap.free node⟩

/-- What the call is to do to the nodes of the list. -/
def effect : ListOp α → List (ℕ × α) → List (ℕ × α)
  | append newNode value, nodes => nodes ++ [(newNode, value)]
  | pop, nodes => nodes.tail
  | popAt cursor, nodes => nodes.eraseP (fun node => node.1 = cursor)
  | free _, nodes => nodes

/-- When the call is made: `malloc` returns memory that is not in use, a cursor leads to a node of
the list other than the first, and a node of the list is not freed. -/
def Allowed (s : ListState α) (nodes : List (ℕ × α)) : ListOp α → Prop
  | append newNode _ => s.heap newNode = none
  | pop => True
  | popAt cursor => cursor ∈ nodes.map Prod.fst ∧ s.head ≠ some cursor
  | free node => node ∉ nodes.map Prod.fst

/-- **One operation.** -/
theorem run_spec {s : ListState α} {nodes : List (ℕ × α)} (h : IsList s.heap s.head nodes)
    {op : ListOp α} (hop : op.Allowed s nodes) :
    ∃ s', op.run s = some s' ∧ IsList s'.heap s'.head (op.effect nodes) := by
  cases op with
  | append newNode value =>
    obtain ⟨head', heap', happend, hlist⟩ := llAppendNode_spec h hop value
    exact ⟨⟨head', heap'⟩, by rw [run, happend]; rfl, hlist⟩
  | pop =>
    cases nodes with
    | nil =>
      obtain hnil : s.head = none := h.head_eq
      exact ⟨⟨none, s.heap⟩, by rw [run, hnil]; rfl, .nil s.heap⟩
    | cons node nodes =>
      obtain ⟨heap', hpop, -, hlist⟩ := llPopNode_spec h
      exact ⟨⟨_, heap'⟩, by rw [run, hpop]; rfl, hlist⟩
  | popAt cursor =>
    obtain ⟨hmem, hhead⟩ := hop
    obtain ⟨⟨_, v⟩, hnode, rfl⟩ := List.mem_map.mp hmem
    obtain ⟨front, back, rfl⟩ := List.append_of_mem hnode
    have hfront : front ≠ [] := by
      rintro rfl
      exact hhead h.head_eq
    obtain ⟨heap', hpop, -, hlist⟩ := llPopNode_cursor h hfront
    refine ⟨⟨s.head, heap'⟩, by rw [run, hpop]; rfl, ?_⟩
    have hnodup := h.circular.nodup
    rw [List.map_append, List.nodup_append] at hnodup
    rw [effect, List.eraseP_append_right _ fun node hnode => ?_, List.eraseP_cons_of_pos (by simp)]
    · exact hlist
    · simpa using hnodup.2.2 _ (List.mem_map_of_mem hnode) _ (by simp)
  | free node => exact ⟨⟨s.head, s.heap.free node⟩, rfl, h.free hop⟩

end ListOp

/-- A sequence of calls. -/
def runListOps : List (ListOp α) → ListState α → Option (ListState α)
  | [], s => some s
  | op :: ops, s => (op.run s).bind (runListOps ops)

/-- All calls of the sequence are allowed when they are made. -/
def AllAllowed : List (ListOp α) → ListState α → List (ℕ × α) → Prop
  | [], _, _ => True
  | op :: ops, s, nodes =>
    op.Allowed s nodes ∧ ∀ s', op.run s = some s' → AllAllowed ops s' (op.effect nodes)

/-- The nodes of the list after a sequence of calls. -/
def effects (ops : List (ListOp α)) (nodes : List (ℕ × α)) : List (ℕ × α) :=
  ops.foldl (fun nodes op => op.effect nodes) nodes

/-- **All operations.** -/
theorem runListOps_spec {ops : List (ListOp α)} {s : ListState α} {nodes : List (ℕ × α)}
    (h : IsList s.heap s.head nodes) (hops : AllAllowed ops s nodes) :
    ∃ s', runListOps ops s = some s' ∧ IsList s'.heap s'.head (effects ops nodes) := by
  induction ops generalizing s nodes with
  | nil => exact ⟨s, rfl, h⟩
  | cons op ops ih =>
    obtain ⟨hop, hrest⟩ := hops
    obtain ⟨s₁, hrun, h₁⟩ := op.run_spec h hop
    obtain ⟨s', hs', h'⟩ := ih h₁ (hrest s₁ hrun)
    exact ⟨s', by rw [runListOps, hrun]; exact hs', h'⟩

/-- The middle one of three nodes is taken out and its memory is used again. -/
example : (runListOps
    [.append 5 'a', .append 7 'b', .append 6 'c', .popAt 7, .free 7, .append 7 'd']
    ⟨none, fun _ => none⟩).map (fun s => (llGetLength 3 s.head s.heap, s.heap.next 5, s.heap.prev 5,
      s.heap.next 6)) = some (some 3, some 6, some 7, some 7) := by decide

end NetworkSim.Tcp
