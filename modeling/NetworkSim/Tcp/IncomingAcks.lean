import NetworkSim.Tcp.LinkedLists
import NetworkSim.Tcp.Main

/-!
# The loop of `handle_incoming_acks` in memory

`handle_incoming_acks` goes over the list of incoming frames with a cursor, and takes nodes out of
the list on its way. The loop is given here as the source has it, on the nodes in a heap; on the
values it is `handleIncomingAcksLoop`. As long as there are nodes to visit, the cursor is at the
first of them, whatever has been taken out before it (`acksLoop_spec`), so the loop visits every
node once and does what the loop on the values does (`cursor_edits_are_safe`).
-/

namespace NetworkSim.Tcp

variable {D : Type} [CDouble D] (cfg : SysConfig D)

/-! ## The loop -/

/-- The state of the loop; `visited` and `acks` are history, the nodes it has come to and the ACKs
it has handled. -/
structure AcksState (D : Type) where
  list : ListState Frame
  node : Option ℕ
  host : Host D
  visited : List ℕ
  acks : List Frame

omit [CDouble D] cfg in
/-- `ll_destroy_node`. -/
def llDestroyNode {α : Type} (node : Option ℕ) (heap : Heap α) : Option (Heap α) :=
  match node with
  | none => none
  | some a => if (heap a).isSome then some (heap.free a) else none

omit [CDouble D] cfg in
/-- The node at the cursor is taken out of the list and destroyed: through the head if the cursor is
there, else through the cursor. The new cursor comes first. -/
def takeNode {α : Type} (node : ℕ) (s : ListState α) : Option (Option ℕ × ListState α) := do
  if s.head = some node then
    let (popped, head, heap) ← llPopNode s.head s.heap
    let heap ← llDestroyNode popped heap
    return (head, ⟨head, heap⟩)
  else
    let (popped, node, heap) ← llPopNode (some node) s.heap
    let heap ← llDestroyNode popped heap
    return (node, ⟨s.head, heap⟩)

/-- The loop `for (i = 0; i < length && node != NULL; i++)` of `handle_incoming_acks`, with the
rounds still allowed by `length`. -/
def acksLoop : ℕ → AcksState D → Option (Except Fault (AcksState D))
  | 0, s => some (.ok s)
  | rounds + 1, s =>
    match s.node with
    | none => some (.ok s)
    | some node => do
      let frame ← s.list.heap.value node
      let visited := s.visited ++ [node]
      if frameValid frame = false then
        let (node, list) ← takeNode node s.list
        acksLoop rounds { s with list := list, node := node, visited := visited }
      else if frame.isAck = 0 then
        acksLoop rounds { s with node := s.list.heap.next node, visited := visited }
      else
        let (node, list) ← takeNode node s.list
        match handleAck cfg frame s.host with
        | .error e => return .error e
        | .ok host => acksLoop rounds ⟨list, node, host, visited, s.acks ++ [frame]⟩

/-- `handle_incoming_acks` on the list in memory. -/
def handleIncomingAcksInHeap (fuel : ℕ) (list : ListState Frame) (host : Host D) :
    Option (Except Fault (AcksState D)) := do
  let length ← llGetLength fuel list.head list.heap
  acksLoop cfg length ⟨list, list.head, host, [], []⟩

/-! ## One node -/

omit [CDouble D] cfg in
/-- The node that the cursor has come to is taken out, and the cursor is at the next one. -/
theorem takeNode_spec {α : Type} {s : ListState α} {a : ℕ} {v : α} {kept rest : List (ℕ × α)}
    (h : IsList s.heap s.head (kept ++ (a, v) :: rest)) :
    ∃ node s', takeNode a s = some (node, s') ∧ IsList s'.heap s'.head (kept ++ rest) ∧
      (rest ≠ [] → node = (rest.map Prod.fst).head?) := by
  have hnodup := h.circular.nodup
  rw [List.map_append, List.map_cons, List.nodup_middle, List.nodup_cons, ← List.map_append]
    at hnodup
  cases kept with
  | nil =>
    have hhead : s.head = some a := h.head_eq
    obtain ⟨heap', hpop, hvalue, hlist⟩ := llPopNode_spec h
    obtain ⟨cell, hcell, -⟩ := Heap.exists_of_value hvalue
    refine ⟨(rest.map Prod.fst).head?, ⟨(rest.map Prod.fst).head?, heap'.free a⟩, ?_,
      hlist.free hnodup.1, fun _ => rfl⟩
    rw [takeNode, if_pos hhead, hpop]
    simp only [Option.bind_eq_bind, Option.bind_some, llDestroyNode, hcell, Option.isSome_some,
      if_true]
    rfl
  | cons first kept =>
    have hhead : s.head = some first.1 := h.head_eq
    have hne : first.1 ≠ a := fun heq => hnodup.1 (by simp [heq])
    obtain ⟨heap', hpop, hvalue, hlist⟩ := llPopNode_cursor h (List.cons_ne_nil first kept)
    obtain ⟨cell, hcell, -⟩ := Heap.exists_of_value hvalue
    refine ⟨((rest ++ first :: kept).map Prod.fst).head?, ⟨s.head, heap'.free a⟩, ?_,
      hlist.free hnodup.1, fun hrest => ?_⟩
    · rw [takeNode, if_neg (by simpa [hhead] using hne), hpop]
      simp only [Option.bind_eq_bind, Option.bind_some, llDestroyNode, hcell, Option.isSome_some,
        if_true]
      rfl
    · obtain ⟨next, rest, rfl⟩ := List.exists_cons_of_ne_nil hrest
      rfl

/-! ## All nodes -/

omit [CDouble D] cfg in
/-- Whether a node stays in the list: it holds a valid data frame. -/
def stays (node : ℕ × Frame) : Bool := frameValid node.2 && decide (node.2.isAck = 0)

omit [CDouble D] cfg in
/-- Whether a frame is handled: it is a valid ACK. -/
def handled (frame : Frame) : Bool := frameValid frame && decide (frame.isAck ≠ 0)

/-- The results `r` of the loop in memory and `r'` of the loop on the values agree. The loop in
memory starts with the nodes `kept` and `rest` in the list and is at the first of `rest`. -/
def AcksAgree (kept rest : List (ℕ × Frame)) (s : AcksState D)
    (r : Except Fault (AcksState D)) (r' : Except Fault (Host D)) : Prop :=
  match r, r' with
  | .ok s', .ok host' =>
    host' = { s'.host with
      incomingFramesHead := (kept ++ rest.filter stays).map Prod.snd } ∧
    IsList s'.list.heap s'.list.head (kept ++ rest.filter stays) ∧
    s'.visited = s.visited ++ rest.map Prod.fst ∧
    s'.acks = s.acks ++ (rest.map Prod.snd).filter handled
  | .error e, .error e' => e = e'
  | _, _ => False

omit [CDouble D] cfg in
/-- One node more at the front. -/
theorem AcksAgree.cons {kept kept₁ rest : List (ℕ × Frame)} {a : ℕ} {frame : Frame}
    {s s₁ : AcksState D} {r : Except Fault (AcksState D)} {r' : Except Fault (Host D)}
    (h : AcksAgree kept₁ rest s₁ r r')
    (hkept : kept₁ ++ rest.filter stays = kept ++ ((a, frame) :: rest).filter stays)
    (hvisited : s₁.visited = s.visited ++ [a])
    (hacks : s₁.acks = s.acks ++ [frame].filter handled) :
    AcksAgree kept ((a, frame) :: rest) s r r' := by
  cases r with
  | error e => cases r' <;> exact h
  | ok s' =>
    cases r' with
    | error e => exact h
    | ok host' =>
      obtain ⟨hhost, hlist, hvisited', hacks'⟩ := h
      refine ⟨hkept ▸ hhost, hkept ▸ hlist, ?_, ?_⟩
      · rw [hvisited', hvisited, List.append_assoc]
        rfl
      · rw [hacks', hacks, List.append_assoc, ← List.filter_append]
        rfl

variable {cfg}

/-- **The loop in memory** does what the loop on the values does. -/
theorem acksLoop_spec {kept rest : List (ℕ × Frame)} {s : AcksState D}
    (h : IsList s.list.heap s.list.head (kept ++ rest))
    (hnode : rest ≠ [] → s.node = (rest.map Prod.fst).head?) :
    ∃ r, acksLoop cfg rest.length s = some r ∧ AcksAgree kept rest s r
      (handleIncomingAcksLoop cfg (kept.map Prod.snd) (rest.map Prod.snd) s.host) := by
  induction rest generalizing kept s with
  | nil =>
    refine ⟨.ok s, rfl, ?_⟩
    simpa [AcksAgree, handleIncomingAcksLoop] using h
  | cons node rest ih =>
    obtain ⟨a, frame⟩ := node
    have hcursor : s.node = some a := hnode (List.cons_ne_nil _ _)
    have hvalue : s.list.heap.value a = some frame :=
      h.value_eq (a, frame) (List.mem_append_right _ List.mem_cons_self)
    obtain ⟨node', list', htake, hlist', hnode'⟩ := takeNode_spec h
    rw [List.length_cons, acksLoop, hcursor]
    simp only [hvalue, Option.bind_eq_bind, Option.bind_some, List.map_cons,
      handleIncomingAcksLoop]
    by_cases hvalid : frameValid frame = false
    · -- a corrupted frame is taken out
      obtain ⟨r, hr, hagree⟩ := ih (s := { s with
        list := list', node := node', visited := s.visited ++ [a] }) hlist' hnode'
      simp only [hvalid, if_true, htake, Option.bind_some, hr]
      exact ⟨r, rfl, hagree.cons (by simp [stays, hvalid]) rfl (by simp [handled, hvalid])⟩
    · by_cases hack : frame.isAck = 0
      · -- a data frame stays, and the cursor moves on
        have happend : kept ++ [(a, frame)] ++ rest = kept ++ (a, frame) :: rest := by simp
        have hnext (hrest : rest ≠ []) :
            s.list.heap.next a = (rest.map Prod.fst).head? := by
          obtain ⟨next, rest, rfl⟩ := List.exists_cons_of_ne_nil hrest
          have hrot : IsList s.list.heap (some a) ((a, frame) :: next :: (rest ++ kept)) :=
            h.rotate
          exact hrot.circular.next_head
        obtain ⟨r, hr, hagree⟩ := ih (s := { s with
          node := s.list.heap.next a, visited := s.visited ++ [a] }) (happend ▸ h) hnext
        simp only [hvalid, hack, if_true, hr]
        rw [List.map_append] at hagree
        exact ⟨r, rfl, hagree.cons (by simp [stays, hvalid, hack]) rfl
          (by simp [handled, hack])⟩
      · -- an ACK is taken out and handled
        simp only [hvalid, hack, if_false, htake, Option.bind_some]
        cases hhandle : handleAck cfg frame s.host with
        | error e => exact ⟨.error e, rfl, rfl⟩
        | ok host =>
          obtain ⟨r, hr, hagree⟩ := ih
            (s := ⟨list', node', host, s.visited ++ [a], s.acks ++ [frame]⟩) hlist' hnode'
          exact ⟨r, hr, hagree.cons (by simp [stays, hack]) rfl
            (by simp [handled, hvalid, hack])⟩

variable (cfg) in
/-- **`handle_incoming_acks` on the list in memory** does what it does on the values. -/
theorem handleIncomingAcksInHeap_spec {list : ListState Frame} {nodes : List (ℕ × Frame)}
    (h : IsList list.heap list.head nodes) {host : Host D}
    (hhost : host.incomingFramesHead = nodes.map Prod.snd) {fuel : ℕ}
    (hfuel : nodes.length ≤ fuel) :
    ∃ r, handleIncomingAcksInHeap cfg fuel list host = some r ∧
      AcksAgree [] nodes ⟨list, list.head, host, [], []⟩ r (handleIncomingAcks cfg host) := by
  rw [handleIncomingAcksInHeap, llGetLength_spec h hfuel, handleIncomingAcks, hhost]
  have hstart : IsList list.heap list.head ([] ++ nodes) := h
  exact acksLoop_spec hstart fun _ => h.head_eq

/-- **Editing a circular list through a cursor is safe.** After any calls of the functions no
pointer dangles, the links are inverse to each other, the length is the number of nodes, and a node
is taken out at the head or at a cursor as it should be. So `handle_incoming_acks` visits every node
of the list once, takes out the corrupted frames and the ACKs, which it handles in the order of the
list, and leaves the valid data frames in theirs. -/
theorem cursor_edits_are_safe :
    (∀ {α : Type} (ops : List (ListOp α)) (heap : Heap α), AllAllowed ops ⟨none, heap⟩ [] →
      ∃ s, runListOps ops ⟨none, heap⟩ = some s ∧ IsList s.heap s.head (effects ops []) ∧
        (∀ a ∈ (effects ops []).map Prod.fst,
          (∃ b ∈ (effects ops []).map Prod.fst, s.heap.next a = some b ∧ s.heap.prev b = some a) ∧
            ∃ b ∈ (effects ops []).map Prod.fst,
              s.heap.prev a = some b ∧ s.heap.next b = some a) ∧
        (∀ fuel ≥ (effects ops []).length,
          llGetLength fuel s.head s.heap = some (effects ops []).length) ∧
        (∀ a v rest, effects ops [] = (a, v) :: rest →
          ∃ head' heap', llPopNode s.head s.heap = some (some a, head', heap') ∧
            heap'.value a = some v ∧ IsList heap' head' rest) ∧
        ∀ a v front back, effects ops [] = front ++ (a, v) :: back → front ≠ [] →
          ∃ cursor heap', llPopNode (some a) s.heap = some (some a, cursor, heap') ∧
            heap'.value a = some v ∧ IsList heap' s.head (front ++ back)) ∧
    ∀ (cfg : SysConfig D) (list : ListState Frame) (nodes : List (ℕ × Frame)) (host : Host D)
      (fuel : ℕ), IsList list.heap list.head nodes →
        host.incomingFramesHead = nodes.map Prod.snd → nodes.length ≤ fuel →
        (∀ s', handleIncomingAcksInHeap cfg fuel list host = some (.ok s') →
          s'.visited = nodes.map Prod.fst ∧
          s'.acks = (nodes.map Prod.snd).filter handled ∧
          IsList s'.list.heap s'.list.head (nodes.filter stays) ∧
          handleIncomingAcks cfg host = .ok { s'.host with
            incomingFramesHead := (nodes.filter stays).map Prod.snd }) ∧
        (∀ e, handleIncomingAcksInHeap cfg fuel list host = some (.error e) →
          handleIncomingAcks cfg host = .error e) ∧
        handleIncomingAcksInHeap cfg fuel list host ≠ none := by
  refine ⟨fun ops heap hops => ?_, fun cfg list nodes host fuel h hhost hfuel => ?_⟩
  · obtain ⟨s, hs, h⟩ := runListOps_spec (.nil heap) hops
    refine ⟨s, hs, h, fun a ha => ?_, fun fuel hfuel => llGetLength_spec h hfuel,
      fun a v rest heq => ?_, fun a v front back heq hfront => ?_⟩
    · obtain ⟨hafter, b, hb, hnext, hprev⟩ := h.circular.inverse ha
      exact ⟨hafter, b, hb, hprev, hnext⟩
    · obtain ⟨heap', hpop, hvalue, hlist⟩ := llPopNode_spec (heq ▸ h)
      exact ⟨_, heap', hpop, hvalue, hlist⟩
    · obtain ⟨heap', hpop, hvalue, hlist⟩ := llPopNode_cursor (heq ▸ h) hfront
      exact ⟨_, heap', hpop, hvalue, hlist⟩
  · obtain ⟨r, hr, hagree⟩ := handleIncomingAcksInHeap_spec cfg h hhost hfuel
    refine ⟨fun s' hs' => ?_, fun e he => ?_, by simp [hr]⟩
    · obtain rfl := Option.some.inj (hr.symm.trans hs')
      cases hloop : handleIncomingAcks cfg host with
      | error e =>
        rw [hloop] at hagree
        exact hagree.elim
      | ok host' =>
        rw [hloop] at hagree
        obtain ⟨rfl, hlist, hvisited, hacks⟩ := hagree
        exact ⟨hvisited, hacks, hlist, rfl⟩
    · obtain rfl := Option.some.inj (hr.symm.trans he)
      cases hloop : handleIncomingAcks cfg host with
      | error e' =>
        rw [hloop] at hagree
        obtain rfl : e = e' := hagree
        rfl
      | ok host' =>
        rw [hloop] at hagree
        exact hagree.elim

set_option maxRecDepth 100000 in
/-- A corrupted frame, an ACK and a data frame are appended, and `handle_incoming_acks` goes over
them. -/
theorem cursor_edits_are_safe_three :
    let data := setChecksum { Frame.zero with srcId := 1 }
    let ack := setChecksum { Frame.zero with srcId := 1, isAck := 1 }
    let corrupted := { data with seqNum := 1 }
    let ops : List (ListOp Frame) := [.append 5 corrupted, .append 7 ack, .append 6 data]
    ∃ list, runListOps ops ⟨none, fun _ => none⟩ = some list ∧
      IsList list.heap list.head [(5, corrupted), (7, ack), (6, data)] ∧
      ∃ s', handleIncomingAcksInHeap ccBasicConfig 3 list
          { initHost ccBasicConfig 0 .still with incomingFramesHead := [corrupted, ack, data] } =
            some (.ok s') ∧
        s'.visited = [5, 7, 6] ∧ s'.acks = [ack] ∧
          IsList s'.list.heap s'.list.head [(6, data)] := by
  intro data ack corrupted ops
  have hallowed : AllAllowed ops ⟨none, fun _ => none⟩ [] := by
    refine ⟨rfl, fun s hs => ?_⟩
    obtain rfl := Option.some.inj hs
    refine ⟨rfl, fun s hs => ?_⟩
    obtain rfl := Option.some.inj hs
    exact ⟨rfl, fun _ _ => trivial⟩
  obtain ⟨hlists, hloop⟩ := cursor_edits_are_safe (D := ℚ)
  obtain ⟨list, hlist, hnodes, -⟩ := hlists ops _ hallowed
  obtain ⟨hok, herror, hsome⟩ := hloop ccBasicConfig list _
    { initHost ccBasicConfig 0 .still with incomingFramesHead := [corrupted, ack, data] } 3 hnodes
    rfl (by decide)
  refine ⟨list, hlist, hnodes, ?_⟩
  obtain ⟨r, hr⟩ := Option.ne_none_iff_exists'.mp hsome
  cases r with
  | error e =>
    have hfault := herror e hr
    have hruns : (handleIncomingAcks ccBasicConfig { initHost ccBasicConfig 0 .still with
        incomingFramesHead := [corrupted, ack, data] }).isOk = true := by decide +kernel
    rw [hfault] at hruns
    cases hruns
  | ok s' =>
    obtain ⟨hvisited, hacks, hstays, -⟩ := hok s' hr
    refine ⟨s', hr, hvisited, ?_, ?_⟩
    · have hhandled : [corrupted, ack, data].filter handled = [ack] := by decide +kernel
      exact hacks.trans hhandled
    · have hkept : ([(5, corrupted), (7, ack), (6, data)] : List (ℕ × Frame)).filter stays =
          [(6, data)] := by decide +kernel
      exact hkept ▸ hstays

end NetworkSim.Tcp
