import Mathlib.Data.List.Induction
import NetworkSim.Router.Rt

/-!
# Longest prefixes

`sr_rt_lookup_ip` finds the first of the matching routes with the longest mask, if one with a mask
other than 0.0.0.0 matches (`srRtLookupIp_longest_iff`): a route has to have more bits than the
initial `match_bits`, which is zero.
-/

namespace NetworkSim.Router

/-- `mask` is the mask of the prefixes of length `k`. -/
def IsPrefixMask (mask : UInt32) (k : ℕ) : Prop := k ≤ 32 ∧ mask.toNat = 2 ^ 32 - 2 ^ (32 - k)

/-- `entry` is the first of the routes for `ip` in a table that have the longest mask. -/
structure IsLongestMatch (routingTable : List SrRt) (ip : UInt32) (entry : SrRt) : Prop where
  matches_ip : entry.Matches ip
  longest : ∀ other ∈ routingTable, other.Matches ip → popcount other.mask ≤ popcount entry.mask
  first : ∃ before after, routingTable = before ++ entry :: after ∧
    ∀ other ∈ before, other.Matches ip → popcount other.mask < popcount entry.mask

theorem IsLongestMatch.mem {routingTable : List SrRt} {ip : UInt32} {entry : SrRt}
    (h : IsLongestMatch routingTable ip entry) : entry ∈ routingTable := by
  obtain ⟨before, after, rfl, -⟩ := h.first
  exact List.mem_append_right before List.mem_cons_self

/-- The bits of a prefix mask are as many as the prefix is long. -/
theorem popcount_prefixMask {mask : UInt32} {k : ℕ} (h : IsPrefixMask mask k) :
    popcount mask = k := by
  have hall : ∀ k : Fin 33, popcount (UInt32.ofNat (2 ^ 32 - 2 ^ (32 - k.val))) = k.val := by
    decide
  have hmask : mask = UInt32.ofNat (2 ^ 32 - 2 ^ (32 - k)) := by
    rw [← h.2, UInt32.ofNat_toNat]
  rw [hmask]
  exact hall ⟨k, Nat.lt_succ_of_le h.1⟩

theorem popcount_eq_zero_iff {mask : UInt32} {k : ℕ} (h : IsPrefixMask mask k) :
    popcount mask = 0 ↔ mask = 0 := by
  rw [popcount_prefixMask h, ← UInt32.toNat_inj, h.2, UInt32.toNat_zero]
  constructor
  · rintro rfl
    rfl
  · intro hzero
    by_contra hk
    have hlt : 2 ^ (32 - k) < 2 ^ 32 := Nat.pow_lt_pow_right (by decide) (by have := h.1; omega)
    omega

/-- What the loop of `sr_rt_lookup_ip` has found in the routes it has passed. -/
theorem lookupRound_foldl (ip : UInt32) (routingTable : List SrRt) :
    (routingTable.foldl (lookupRound ip) (0, none) = (0, none) ∧
      ∀ entry ∈ routingTable, entry.Matches ip → popcount entry.mask = 0) ∨
    ∃ entry, routingTable.foldl (lookupRound ip) (0, none) = (popcount entry.mask, some entry) ∧
      0 < popcount entry.mask ∧ IsLongestMatch routingTable ip entry := by
  induction routingTable using List.reverseRecOn with
  | nil => exact .inl ⟨rfl, by simp⟩
  | append_singleton passed rtWalker ih =>
    rw [List.foldl_append, List.foldl_cons, List.foldl_nil]
    rcases ih with ⟨heq, hzero⟩ | ⟨entry, heq, hpos, hlongest⟩
    · simp only [heq, lookupRound]
      split
      · rename_i hmatches
        split
        · rename_i hlt
          refine .inr ⟨rtWalker, rfl, hlt, hmatches, fun other hmem hother => ?_,
            passed, [], rfl, fun other hmem hother => ?_⟩
          · rcases List.mem_append.mp hmem with hold | hnew
            · rw [hzero other hold hother]
              exact Nat.zero_le _
            · rw [List.mem_singleton.mp hnew]
          · rw [hzero other hmem hother]
            exact hlt
        · rename_i hnot
          refine .inl ⟨rfl, fun other hmem hother => ?_⟩
          rcases List.mem_append.mp hmem with hold | hnew
          · exact hzero other hold hother
          · rw [List.mem_singleton.mp hnew]
            exact Nat.eq_zero_of_not_pos hnot
      · rename_i hnot
        refine .inl ⟨rfl, fun other hmem hother => ?_⟩
        rcases List.mem_append.mp hmem with hold | hnew
        · exact hzero other hold hother
        · exact absurd (List.mem_singleton.mp hnew ▸ hother) hnot
    · simp only [heq, lookupRound]
      obtain ⟨before, after, hsplit, hbefore⟩ := hlongest.first
      -- the route found before stays the longest unless the new one is longer
      have hkeep (hshort : rtWalker.Matches ip → popcount rtWalker.mask ≤ popcount entry.mask) :
          IsLongestMatch (passed ++ [rtWalker]) ip entry := by
        refine ⟨hlongest.matches_ip, fun other hmem hother => ?_,
          before, after ++ [rtWalker], by rw [hsplit, List.append_assoc]; rfl, hbefore⟩
        rcases List.mem_append.mp hmem with hold | hnew
        · exact hlongest.longest other hold hother
        · obtain rfl := List.mem_singleton.mp hnew
          exact hshort hother
      split
      · rename_i hmatches
        split
        · rename_i hlt
          have hlt' (other : SrRt) (hmem : other ∈ passed) (hother : other.Matches ip) :
              popcount other.mask < popcount rtWalker.mask :=
            (hlongest.longest other hmem hother).trans_lt hlt
          refine .inr ⟨rtWalker, rfl, hpos.trans hlt, hmatches, fun other hmem hother => ?_,
            passed, [], rfl, hlt'⟩
          rcases List.mem_append.mp hmem with hold | hnew
          · exact (hlt' other hold hother).le
          · rw [List.mem_singleton.mp hnew]
        · rename_i hnot
          exact .inr ⟨entry, rfl, hpos, hkeep fun _ => not_lt.mp hnot⟩
      · rename_i hnot
        exact .inr ⟨entry, rfl, hpos, hkeep fun hmatches => absurd hmatches hnot⟩

/-- **`sr_rt_lookup_ip` finds a route just when one with a mask other than 0.0.0.0 matches**, and
then the first of the longest. -/
theorem srRtLookupIp_cases (routingTable : List SrRt) (ip : UInt32) :
    (srRtLookupIp routingTable ip = none ∧
      ∀ entry ∈ routingTable, entry.Matches ip → popcount entry.mask = 0) ∨
    ∃ entry, srRtLookupIp routingTable ip = some entry ∧ 0 < popcount entry.mask ∧
      IsLongestMatch routingTable ip entry := by
  unfold srRtLookupIp
  rcases lookupRound_foldl ip routingTable with ⟨heq, hzero⟩ | ⟨entry, heq, hpos, hlongest⟩
  · exact .inl ⟨congrArg Prod.snd heq, hzero⟩
  · exact .inr ⟨entry, congrArg Prod.snd heq, hpos, hlongest⟩

/-- **Longest-prefix match.** In a table of prefixes, `sr_rt_lookup_ip` returns the first of the
longest routes for `ip`, and `NULL` only if there is none, just when a route with a mask other than
0.0.0.0 matches if any does. -/
theorem srRtLookupIp_longest_iff (routingTable : List SrRt) (ip : UInt32)
    (hmasks : ∀ entry ∈ routingTable, ∃ k, IsPrefixMask entry.mask k) :
    (((∃ entry ∈ routingTable, entry.Matches ip) →
        ∃ entry, srRtLookupIp routingTable ip = some entry ∧
          IsLongestMatch routingTable ip entry) ∧
      (srRtLookupIp routingTable ip = none → ∀ entry ∈ routingTable, ¬ entry.Matches ip)) ↔
    ((∃ entry ∈ routingTable, entry.Matches ip) →
      ∃ entry ∈ routingTable, entry.Matches ip ∧ entry.mask ≠ 0) := by
  have hmask {entry : SrRt} (hmem : entry ∈ routingTable) :
      popcount entry.mask = 0 ↔ entry.mask = 0 := by
    obtain ⟨k, hk⟩ := hmasks entry hmem
    exact popcount_eq_zero_iff hk
  rcases srRtLookupIp_cases routingTable ip with ⟨hnone, hzero⟩ | ⟨entry, hsome, hpos, hlongest⟩
  · rw [hnone]
    constructor
    · rintro ⟨-, hno⟩ ⟨entry, hmem, hmatches⟩
      exact absurd hmatches (hno rfl entry hmem)
    · intro h
      have hno : ∀ entry ∈ routingTable, ¬ entry.Matches ip := by
        intro entry hmem hmatches
        obtain ⟨other, hmem', hmatches', hne⟩ := h ⟨entry, hmem, hmatches⟩
        exact hne ((hmask hmem').mp (hzero other hmem' hmatches'))
      exact ⟨fun ⟨entry, hmem, hmatches⟩ => absurd hmatches (hno entry hmem), fun _ => hno⟩
  · rw [hsome]
    refine iff_of_true ⟨fun _ => ⟨entry, rfl, hlongest⟩, by simp⟩ fun _ => ?_
    exact ⟨entry, hlongest.mem, hlongest.matches_ip, fun h => hpos.ne' ((hmask hlongest.mem).mpr h)⟩

/-- The routing table of `rtables/rtable2`: a host, and a /16 prefix. -/
def rtable2 : List SrRt :=
  [⟨0xc0a80102, 0xc0a80102, 0xffffffff, "eth1"⟩, ⟨0xc0a80000, 0xc0a80001, 0xffff0000, "eth2"⟩]

/-- 192.168.1.2 has two routes. -/
theorem srRtLookupIp_longest_iff_rtable2 :
    ∃ entry, srRtLookupIp rtable2 0xc0a80102 = some entry ∧
      IsLongestMatch rtable2 0xc0a80102 entry := by
  refine ((srRtLookupIp_longest_iff rtable2 0xc0a80102 fun entry hmem => ?_).mpr fun _ =>
    ⟨⟨0xc0a80102, 0xc0a80102, 0xffffffff, "eth1"⟩, by decide, by decide, by decide⟩).1
    ⟨⟨0xc0a80102, 0xc0a80102, 0xffffffff, "eth1"⟩, by decide, by decide⟩
  simp only [rtable2, List.mem_cons, List.not_mem_nil, or_false] at hmem
  rcases hmem with rfl | rfl
  · exact ⟨32, by decide, by decide⟩
  · exact ⟨16, by decide, by decide⟩

/-- A default route, which matches every address, is never found. -/
theorem default_route_not_found :
    (∃ k, IsPrefixMask (⟨0, 0x0a000001, 0, "eth1"⟩ : SrRt).mask k) ∧
      (⟨0, 0x0a000001, 0, "eth1"⟩ : SrRt).Matches 0x08080808 ∧
      srRtLookupIp [⟨0, 0x0a000001, 0, "eth1"⟩] 0x08080808 = none :=
  ⟨⟨0, by decide, by decide⟩, by decide, by decide⟩

end NetworkSim.Router
