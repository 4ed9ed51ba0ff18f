import Mathlib.Data.List.Cycle

/-!
# Circular doubly linked lists

A heap gives every address a link forward and a link back, each of which may lead nowhere. The
addresses of a list are `Circular` when they are distinct and each is linked, both ways, to the one
after it, and the last to the first. Where such a list begins does not matter (`Circular.rotate`),
so what is shown of its first element holds of each: two links put a new element before the first
(`Circular.append`), two take the first out (`Circular.tail`), and no other link matters.
-/

namespace NetworkSim

variable {κ : Type*}

/-- `b` comes after `a`, and `a` before `b`. -/
def Linked (next prev : κ → Option κ) (a b : κ) : Prop := next a = some b ∧ prev b = some a

/-- The elements of a circular list, from one of them on. -/
structure Circular (next prev : κ → Option κ) (nodes : List κ) : Prop where
  nodup : nodes.Nodup
  links : (nodes : Cycle κ).Chain (Linked next prev)

variable {next prev next' prev' : κ → Option κ}

theorem getLast_notMem_dropLast {nodes : List κ} (h : nodes.Nodup) (hne : nodes ≠ []) :
    nodes.getLast hne ∉ nodes.dropLast := by
  rw [← List.dropLast_append_getLast hne, List.nodup_append] at h
  exact fun hmem => h.2.2 _ hmem _ (List.mem_singleton_self _) rfl

/-- A chain needs the links forward of all elements but the last and the links back of all but the
first. -/
theorem isChain_linked_congr {nodes : List κ} (h : nodes.IsChain (Linked next prev))
    (hnext : ∀ a ∈ nodes.dropLast, next' a = next a) (hprev : ∀ a ∈ nodes.tail, prev' a = prev a) :
    nodes.IsChain (Linked next' prev') := by
  induction nodes with
  | nil => exact .nil
  | cons a nodes ih =>
    cases nodes with
    | nil => exact .singleton a
    | cons b nodes =>
      obtain ⟨⟨hab, hba⟩, hchain⟩ := List.isChain_cons_cons.mp h
      refine .cons_cons ⟨(hnext a (by simp)).trans hab, (hprev b (by simp)).trans hba⟩
        (ih hchain (fun c hc => hnext c ?_) fun c hc => hprev c (List.mem_cons_of_mem b hc))
      rw [List.dropLast_cons_cons]
      exact List.mem_cons_of_mem a hc

namespace Circular

theorem nil : Circular next prev [] := ⟨List.nodup_nil, Cycle.Chain.nil _⟩

theorem singleton_iff {a : κ} : Circular next prev [a] ↔ Linked next prev a a :=
  ⟨fun h => (Cycle.chain_singleton _ a).mp h.links,
    fun h => ⟨List.nodup_singleton a, (Cycle.chain_singleton _ a).mpr h⟩⟩

/-- A list is circular when it is a chain and its last element is linked to its first. -/
theorem cons_iff {a : κ} {nodes : List κ} :
    Circular next prev (a :: nodes) ↔ (a :: nodes).Nodup ∧
      Linked next prev ((a :: nodes).getLast (List.cons_ne_nil a nodes)) a ∧
      (a :: nodes).IsChain (Linked next prev) := by
  have hchain := Cycle.chain_ne_nil (Linked next prev) (List.cons_ne_nil a nodes)
  rw [List.isChain_cons_cons] at hchain
  exact ⟨fun h => ⟨h.nodup, hchain.mp h.links⟩, fun h => ⟨h.1, hchain.mpr h.2⟩⟩

/-- **Where a circular list begins** does not matter. -/
theorem rotate {nodes nodes' : List κ} (h : Circular next prev nodes) (hrot : nodes ~r nodes') :
    Circular next prev nodes' where
  nodup := hrot.nodup_iff.mp h.nodup
  links := Cycle.coe_eq_coe.mpr hrot ▸ h.links

theorem rotate_append {front back : List κ} (h : Circular next prev (front ++ back)) :
    Circular next prev (back ++ front) := h.rotate List.isRotated_append

/-- Links of elements that are not in the list do not matter. -/
theorem congr {nodes : List κ} (h : Circular next prev nodes)
    (hnext : ∀ a ∈ nodes, next' a = next a) (hprev : ∀ a ∈ nodes, prev' a = prev a) :
    Circular next' prev' nodes := by
  cases nodes with
  | nil => exact nil
  | cons a nodes =>
    obtain ⟨hnodup, ⟨hlast, hfirst⟩, hchain⟩ := cons_iff.mp h
    refine cons_iff.mpr ⟨hnodup, ⟨?_, ?_⟩, ?_⟩
    · rw [hnext _ (List.getLast_mem _), hlast]
    · rw [hprev a List.mem_cons_self, hfirst]
    · exact isChain_linked_congr hchain (fun b hb => hnext b (List.mem_of_mem_dropLast hb))
        fun b hb => hprev b (List.mem_of_mem_tail hb)

/-- **A new last element**: it is linked to the last element and to the first one. -/
theorem append {a b : κ} {nodes : List κ} (h : Circular next prev (a :: nodes))
    (hb : b ∉ a :: nodes)
    (hlast : Linked next' prev' ((a :: nodes).getLast (List.cons_ne_nil a nodes)) b)
    (hfirst : Linked next' prev' b a) (hnext : ∀ c ∈ (a :: nodes).dropLast, next' c = next c)
    (hprev : ∀ c ∈ nodes, prev' c = prev c) : Circular next' prev' (a :: nodes ++ [b]) := by
  obtain ⟨hnodup, -, hchain⟩ := cons_iff.mp h
  rw [List.cons_append, cons_iff]
  refine ⟨?_, ?_, ?_⟩
  · rw [← List.cons_append, List.nodup_append]
    refine ⟨hnodup, List.nodup_singleton b, fun c hc d hd => ?_⟩
    rw [List.mem_singleton.mp hd]
    exact fun heq => hb (heq ▸ hc)
  · simpa using hfirst
  · rw [← List.cons_append, List.isChain_append]
    refine ⟨isChain_linked_congr hchain hnext hprev, .singleton b, fun c hc d hd => ?_⟩
    obtain rfl : b = d := by simpa using hd
    rw [List.getLast?_eq_some_getLast (List.cons_ne_nil a nodes)] at hc
    obtain rfl := Option.some.inj hc
    exact hlast

/-- **The first element taken out**: the last element is linked to the second one. -/
theorem tail {a b : κ} {nodes : List κ} (h : Circular next prev (a :: b :: nodes))
    (hlink : Linked next' prev' ((b :: nodes).getLast (List.cons_ne_nil b nodes)) b)
    (hnext : ∀ c ∈ (b :: nodes).dropLast, next' c = next c)
    (hprev : ∀ c ∈ nodes, prev' c = prev c) : Circular next' prev' (b :: nodes) := by
  obtain ⟨hnodup, -, hchain⟩ := cons_iff.mp h
  exact cons_iff.mpr ⟨hnodup.of_cons, hlink,
    isChain_linked_congr (List.isChain_cons_cons.mp hchain).2 hnext hprev⟩

/-- The element after the first one, which is the first one itself if it is alone. -/
theorem next_head {a : κ} {nodes : List κ} (h : Circular next prev (a :: nodes)) :
    next a = some ((nodes ++ [a]).head (by simp)) := by
  obtain ⟨-, hlast, hchain⟩ := cons_iff.mp h
  cases nodes with
  | nil => exact hlast.1
  | cons b nodes => exact (List.isChain_cons_cons.mp hchain).1.1

/-- The element before the first one. -/
theorem prev_head {a : κ} {nodes : List κ} (h : Circular next prev (a :: nodes)) :
    prev a = some ((a :: nodes).getLast (List.cons_ne_nil a nodes)) := (cons_iff.mp h).2.1.2

/-- **The two links are inverse to each other.** -/
theorem inverse {nodes : List κ} (h : Circular next prev nodes) {a : κ} (ha : a ∈ nodes) :
    (∃ b ∈ nodes, Linked next prev a b) ∧ ∃ b ∈ nodes, Linked next prev b a := by
  obtain ⟨front, back, rfl⟩ := List.append_of_mem ha
  have hrot : Circular next prev (a :: (back ++ front)) := h.rotate_append
  have hmem {b : κ} (hb : b ∈ a :: (back ++ front)) : b ∈ front ++ a :: back := by
    simp only [List.mem_cons, List.mem_append] at hb ⊢
    tauto
  obtain ⟨-, hlast, hchain⟩ := cons_iff.mp hrot
  refine ⟨?_, _, hmem (List.getLast_mem _), hlast⟩
  cases hrest : back ++ front with
  | nil =>
    simp only [hrest, List.getLast_singleton] at hlast
    exact ⟨a, ha, hlast⟩
  | cons b rest =>
    rw [hrest] at hchain
    exact ⟨b, hmem (by simp [hrest]), (List.isChain_cons_cons.mp hchain).1⟩

end Circular

end NetworkSim
