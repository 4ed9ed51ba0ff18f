import Mathlib.Logic.Function.Basic

/-!
# Runs over interleaved inputs

A system with a part of its state for each of several peers handles a list of inputs, each of which
comes from one peer. It keeps its peers apart (`Separated`) when an input does to the part of its
own peer what it would do in any other state that agrees on this part, and does nothing to the other
parts. Then only the order of the inputs of each peer matters (`Separated.interleave`): two lists
that have, for each peer, the same inputs in the same order lead to states that agree on all parts,
and either both runs fail or none does.
-/

namespace NetworkSim

variable {ε α σ κ : Type} [DecidableEq κ]

/-- `step` keeps the peers apart: `agree p` relates states with the same part for `p`, and an input
is from the peer `peer a`. -/
structure Separated (agree : κ → σ → σ → Prop) (peer : α → κ) (step : σ → α → Except ε σ) :
    Prop where
  symm : ∀ {p s t}, agree p s t → agree p t s
  trans : ∀ {p s t u}, agree p s t → agree p t u → agree p s u
  own : ∀ {a s t s'}, agree (peer a) s t → step s a = .ok s' →
    ∃ t', step t a = .ok t' ∧ agree (peer a) s' t'
  other : ∀ {a s t s' p}, p ≠ peer a → agree p s t → step s a = .ok s' → agree p s' t

namespace Separated

variable {agree : κ → σ → σ → Prop} {peer : α → κ} {step : σ → α → Except ε σ}

/-- A run of `a :: as` is a step and a run. -/
theorem foldlM_cons_ok {a : α} {as : List α} {s s' : σ} :
    (a :: as).foldlM step s = .ok s' ↔ ∃ s₁, step s a = .ok s₁ ∧ as.foldlM step s₁ = .ok s' := by
  rw [List.foldlM_cons]
  cases step s a with
  | error e => exact ⟨fun h => absurd h (by rintro ⟨⟩), fun ⟨_, h, _⟩ => absurd h (by rintro ⟨⟩)⟩
  | ok s₁ => exact ⟨fun h => ⟨s₁, rfl, h⟩, fun ⟨s₂, h, h'⟩ => Except.ok.inj h ▸ h'⟩

/-- What a run does to the part of one peer, the run of this peer's inputs does. -/
theorem project (h : Separated agree peer step) {p : κ} {as : List α} {s t s' : σ}
    (hst : agree p s t) (hs : as.foldlM step s = .ok s') :
    ∃ t', (as.filter (peer · = p)).foldlM step t = .ok t' ∧ agree p s' t' := by
  induction as generalizing s t with
  | nil =>
    cases hs
    exact ⟨t, rfl, hst⟩
  | cons a as ih =>
    obtain ⟨s₁, hstep, hs⟩ := foldlM_cons_ok.mp hs
    by_cases ha : peer a = p
    · subst ha
      obtain ⟨t₁, hstep', hst₁⟩ := h.own hst hstep
      obtain ⟨t', ht, hst'⟩ := ih hst₁ hs
      rw [List.filter_cons_of_pos (by simp)]
      exact ⟨t', foldlM_cons_ok.mpr ⟨t₁, hstep', ht⟩, hst'⟩
    · rw [List.filter_cons_of_neg (by simpa using ha)]
      exact ih (h.other (Ne.symm ha) hst hstep) hs

/-- A run does not fail if the runs of the inputs of each peer do not. -/
theorem assemble (h : Separated agree peer step) {as : List α} {s : σ} {t : κ → σ}
    (hst : ∀ p, agree p s (t p))
    (ht : ∀ p, ∃ t', (as.filter (peer · = p)).foldlM step (t p) = .ok t') :
    ∃ s', as.foldlM step s = .ok s' := by
  induction as generalizing s t with
  | nil => exact ⟨s, rfl⟩
  | cons a as ih =>
    obtain ⟨t', hrun⟩ := ht (peer a)
    rw [List.filter_cons_of_pos (by simp)] at hrun
    obtain ⟨t₁, hstep, hrun⟩ := foldlM_cons_ok.mp hrun
    obtain ⟨s₁, hstep', hst₁⟩ := h.own (h.symm (hst (peer a))) hstep
    -- the inputs of the peer of `a` go on from `t₁`, those of the others where they were
    have hrest : ∃ s', as.foldlM step s₁ = .ok s' := by
      refine ih (t := Function.update t (peer a) t₁) (fun p => ?_) fun p => ?_
      · by_cases hp : p = peer a
        · subst hp
          rw [Function.update_self]
          exact h.symm hst₁
        · rw [Function.update_of_ne hp]
          exact h.other hp (hst p) hstep'
      · by_cases hp : p = peer a
        · subst hp
          rw [Function.update_self]
          exact ⟨t', hrun⟩
        · obtain ⟨t'', hrun'⟩ := ht p
          rw [List.filter_cons_of_neg (by simpa using Ne.symm hp)] at hrun'
          rw [Function.update_of_ne hp]
          exact ⟨t'', hrun'⟩
    obtain ⟨s', hs'⟩ := hrest
    exact ⟨s', foldlM_cons_ok.mpr ⟨s₁, hstep', hs'⟩⟩

/-- **Only the order of each peer's inputs matters.** -/
theorem interleave (h : Separated agree peer step) {as bs : List α}
    (hab : ∀ p, as.filter (peer · = p) = bs.filter (peer · = p)) {s t s' : σ}
    (hst : ∀ p, agree p s t) (hs : as.foldlM step s = .ok s') :
    ∃ t', bs.foldlM step t = .ok t' ∧ ∀ p, agree p s' t' := by
  have hpart (p : κ) : ∃ u, (bs.filter (peer · = p)).foldlM step t = .ok u ∧ agree p s' u := by
    rw [← hab p]
    exact h.project (hst p) hs
  have hrefl (p : κ) : agree p t t := h.trans (h.symm (hst p)) (hst p)
  obtain ⟨t', ht'⟩ := h.assemble hrefl fun p => (hpart p).imp fun _ hu => hu.1
  refine ⟨t', ht', fun p => ?_⟩
  obtain ⟨u, hu, hagree⟩ := hpart p
  obtain ⟨u', hu', hagree'⟩ := h.project (hrefl p) ht'
  obtain rfl : u = u' := Except.ok.inj (hu.symm.trans hu')
  exact h.trans hagree (h.symm hagree')

end Separated

end NetworkSim
