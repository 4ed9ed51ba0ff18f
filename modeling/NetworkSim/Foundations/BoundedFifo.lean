import Mathlib.Data.List.Induction

/-!
# Families of bounded queues

For every key there is a queue that holds at most `cap` elements. A `Call` names the key of the
queue it is for: an element is put behind the others as long as there is room, or a number of
elements is dropped from the front, as far as there are so many (`afterCall`). A state of any other
kind implements the family when it stays related to the queues under every call (`Simulates`); then
it is related to them after every sequence of calls (`Simulates.run`).
-/

namespace NetworkSim.BoundedFifo

variable {κ α σ : Type*}

/-- A call on the queue for a key. -/
inductive Call (κ α : Type*)
  | enqueue (key : κ) (x : α)
  | dequeue (key : κ) (n : ℕ)

/-- The key of the queue that a call is for. -/
def Call.key : Call κ α → κ
  | enqueue key _ => key
  | dequeue key _ => key

variable [DecidableEq κ]

/-- What a call does to the queue for `k`. -/
def afterCall (cap : ℕ) (k : κ) (queue : List α) : Call κ α → List α
  | .enqueue key x => if key = k ∧ queue.length < cap then queue ++ [x] else queue
  | .dequeue key n => if key = k then queue.drop n else queue

/-- The queue for `k` after a sequence of calls, from the empty queue on. -/
def afterCalls (cap : ℕ) (k : κ) (calls : List (Call κ α)) : List α :=
  calls.foldl (afterCall cap k) []

theorem afterCall_enqueue (cap : ℕ) (k : κ) {queue : List α} (h : queue.length < cap) (x : α) :
    afterCall cap k queue (.enqueue k x) = queue ++ [x] := if_pos ⟨rfl, h⟩

theorem afterCall_full (cap : ℕ) (k k' : κ) {queue : List α} (h : cap ≤ queue.length) (x : α) :
    afterCall cap k queue (.enqueue k' x) = queue :=
  if_neg fun hlt => absurd hlt.2 (Nat.not_lt.mpr h)

theorem afterCall_dequeue (cap : ℕ) (k : κ) (queue : List α) (n : ℕ) :
    afterCall cap k queue (.dequeue k n) = queue.drop n := if_pos rfl

/-- A call on another queue. -/
theorem afterCall_of_ne (cap : ℕ) {k : κ} (queue : List α) {call : Call κ α} (h : call.key ≠ k) :
    afterCall cap k queue call = queue := by
  cases call with
  | enqueue key x => exact if_neg fun hkey => h hkey.1
  | dequeue key n => exact if_neg h

/-- The states of `σ` related to the queues stay related to them under every call. -/
structure Simulates (cap : ℕ) (rel : σ → (κ → List α) → Prop) (call : σ → Call κ α → σ) : Prop where
  step : ∀ {s queues}, rel s queues →
    ∀ c, rel (call s c) fun k => afterCall cap k (queues k) c

/-- **Every sequence of calls** on a state that implements empty queues. -/
theorem Simulates.run {cap : ℕ} {rel : σ → (κ → List α) → Prop} {call : σ → Call κ α → σ}
    (h : Simulates cap rel call) {s : σ} (hs : rel s fun _ => []) (calls : List (Call κ α)) :
    rel (calls.foldl call s) fun k => afterCalls cap k calls := by
  induction calls using List.reverseRecOn with
  | nil => exact hs
  | append_singleton calls c ih =>
    simp only [afterCalls, List.foldl_append]
    exact h.step ih c

end NetworkSim.BoundedFifo
