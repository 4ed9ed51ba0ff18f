import NetworkSim.Router.EmittedSums

/-!
# Slices

A field of a header is known from the slice of bytes that it takes up, and a slice from the lists
that a buffer was put together from.
-/

namespace NetworkSim.Router

/-! ## Slices of lists -/

theorem slice_middle {front middle : List UInt8} {off n : ℕ} (hoff : front.length = off)
    (hn : middle.length = n) (rest : List UInt8) (beyond : ℕ → UInt8) :
    (Buf.mk (front ++ (middle ++ rest)) beyond).slice off n = middle := by
  subst hoff hn
  rw [slice_eq_take_drop (by simp [Buf.len]), List.drop_left, List.take_left]

/-- One of the pieces that a buffer was put together from. -/
theorem slice_flatten {pieces : List (List UInt8)} {k off : ℕ} {piece : List UInt8}
    (hpiece : pieces[k]? = some piece) (hoff : ((pieces.take k).map List.length).sum = off)
    (beyond : ℕ → UInt8) : (Buf.mk pieces.flatten beyond).slice off piece.length = piece := by
  obtain ⟨hk, rfl⟩ := List.getElem?_eq_some_iff.mp hpiece
  have hsplit : pieces.flatten =
      (pieces.take k).flatten ++ (pieces[k] ++ (pieces.drop (k + 1)).flatten) := by
    rw [← List.flatten_cons, ← List.drop_eq_getElem_cons hk, ← List.flatten_append,
      List.take_append_drop]
  rw [hsplit]
  refine slice_middle ?_ rfl _ _
  rw [List.length_flatten, hoff]

theorem slice_add (b : Buf) (off m n : ℕ) :
    b.slice off (m + n) = b.slice off m ++ b.slice (off + m) n := by
  rw [Buf.slice, List.range_add, List.map_append, List.map_map]
  refine congrArg (_ ++ ·) (List.map_congr_left fun i _ => ?_)
  rw [Function.comp_apply, Nat.add_assoc]

theorem slice_set {off n : ℕ} {news : List UInt8} (hn : news.length = n) {b : Buf}
    (h : off + n ≤ b.len) : (b.set off news).slice off n = news := by
  subst hn
  apply List.ext_getElem?
  intro i
  rw [Buf.getElem?_slice]
  split
  · rename_i hi
    rw [Buf.get_set_of_mem hi (by omega), List.getElem?_eq_getElem hi]
  · rename_i hi
    rw [List.getElem?_eq_none (not_lt.mp hi)]

/-! ## Fields -/

theorem get32_of_slice {b : Buf} {off : ℕ} {x : UInt32} (h : b.slice off 4 = bytes32 x) :
    b.get32 off = x := by
  have hbytes : [b.get off, b.get (off + 1), b.get (off + 2), b.get (off + 3)] = bytes32 x := h
  simp only [bytes32, List.cons.injEq, and_true] at hbytes
  obtain ⟨h0, h1, h2, h3⟩ := hbytes
  rw [Buf.get32, h0, h1, h2, h3, word32_bytes32]

theorem get16_of_slice {b : Buf} {off : ℕ} {x : UInt16} (h : b.slice off 2 = bytes16 x) :
    b.get16 off = x := by
  have hbytes : [b.get off, b.get (off + 1)] = bytes16 x := h
  simp only [bytes16, List.cons.injEq, and_true] at hbytes
  obtain ⟨h0, h1⟩ := hbytes
  rw [Buf.get16, h0, h1]
  exact word16_bytes16 x

theorem getMac_of_slice {b : Buf} {off : ℕ} {mac : MacAddr} (h : b.slice off 6 = mac.toList) :
    b.getMac off = mac := by
  apply List.Vector.toList_injective
  rw [← h, Buf.getMac, List.Vector.toList_ofFn]
  rfl

/-- Equal slices have equal bytes. -/
theorem get_of_slice_eq {b b' : Buf} {off off' n : ℕ} (h : b.slice off n = b'.slice off' n) {i : ℕ}
    (hi : i < n) : b.get (off + i) = b'.get (off' + i) := by
  have hget := congrArg (·[i]?) h
  simp only [Buf.getElem?_slice, if_pos hi] at hget
  exact Option.some.inj hget

theorem get32_of_slice_eq {b b' : Buf} {off off' n : ℕ} (h : b.slice off n = b'.slice off' n)
    (hn : 4 ≤ n) : b.get32 off = b'.get32 off' := by
  have hget (i : ℕ) (hi : i < 4) := get_of_slice_eq h (show i < n by omega)
  rw [Buf.get32, Buf.get32, hget 1 (by decide), hget 2 (by decide), hget 3 (by decide)]
  rw [← Nat.add_zero off, ← Nat.add_zero off', hget 0 (by decide)]

theorem getMac_of_slice_eq {b b' : Buf} {off off' n : ℕ} (h : b.slice off n = b'.slice off' n)
    (hn : 6 ≤ n) : b.getMac off = b'.getMac off' := by
  rw [Buf.getMac, Buf.getMac]
  exact congrArg _ (funext fun i => get_of_slice_eq h (by omega))

/-- Bytes that are there do not depend on what is behind them. -/
theorem get_of_bytes_eq {b b' : Buf} (h : b.bytes = b'.bytes) {i : ℕ} (hi : i < b.len) :
    b.get i = b'.get i := by
  have hlt : i < b'.bytes.length := h ▸ hi
  rw [Buf.get, Buf.get, h, List.getD_eq_getElem?_getD, List.getD_eq_getElem?_getD,
    List.getElem?_eq_getElem hlt]
  rfl

theorem get16_of_get_eq {b b' : Buf} {off : ℕ}
    (h : ∀ i, off ≤ i → i < off + 2 → b.get i = b'.get i) :
    b.get16 off = b'.get16 off := by
  rw [Buf.get16, Buf.get16, h off le_rfl (by omega), h (off + 1) (by omega) (by omega)]

theorem get32_of_get_eq {b b' : Buf} {off : ℕ}
    (h : ∀ i, off ≤ i → i < off + 4 → b.get i = b'.get i) :
    b.get32 off = b'.get32 off := by
  rw [Buf.get32, Buf.get32, h off le_rfl (by omega), h (off + 1) (by omega) (by omega),
    h (off + 2) (by omega) (by omega), h (off + 3) (by omega) (by omega)]

theorem getMac_of_get_eq {b b' : Buf} {off : ℕ}
    (h : ∀ i, off ≤ i → i < off + 6 → b.get i = b'.get i) :
    b.getMac off = b'.getMac off := by
  rw [Buf.getMac, Buf.getMac]
  exact congrArg _ (funext fun i => h _ (by omega) (by omega))

end NetworkSim.Router
