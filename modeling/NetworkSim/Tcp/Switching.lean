import Mathlib.Logic.Relation
import NetworkSim.Tcp.ChecksumSpec
import NetworkSim.Tcp.Main

/-!
# What the switch does

`get_rand_seq` returns an order of all hosts (`getRandSeq_perm`). `send_data_frames` and
`send_ack_frames` are sequences of steps (`SwitchStep`) in each of which the oldest frame of some
host is taken, and lost or delivered, whole or with one byte complemented; they end when nothing is
left to be sent (`sendDataFrames_steps`, `sendAckFrames_steps`). The service loop of
`send_data_frames` ends, since every round of it takes a frame or is the last one
(`sendDataFrames_ne_outOfFuel`).
-/

namespace NetworkSim.Tcp

variable {D : Type} [CDouble D] {cfg : SysConfig D}

/-! ## Random orders -/

omit [CDouble D] in
theorem shuffle_perm {len : ℕ} {is hostOrder : List ℕ} (w : World D)
    (hlen : hostOrder.length = len) (his : ∀ i ∈ is, i < len) :
    ((shuffle len is hostOrder w).1).Perm hostOrder := by
  induction is generalizing hostOrder w with
  | nil => exact .refl _
  | cons i is ih =>
    have hi := his i List.mem_cons_self
    simp only [shuffle, rand]
    generalize ha : w.env.rand w.rands % len = a
    generalize hb : w.env.rand (w.rands + 1) % (i + 1) = b
    have halt : a < hostOrder.length := by
      rw [hlen, ← ha]
      exact Nat.mod_lt _ (by omega)
    have hblt : b < hostOrder.length := by
      have := Nat.mod_lt (w.env.rand (w.rands + 1)) (show 0 < i + 1 by omega)
      omega
    refine (ih _ (by simpa using hlen) fun j hj => his j (List.mem_cons_of_mem i hj)).trans ?_
    simp only [List.getD_eq_getElem?_getD, List.getElem?_eq_getElem halt,
      List.getElem?_eq_getElem hblt, Option.getD_some]
    exact List.set_set_perm halt hblt

omit [CDouble D] in
/-- The order of hosts that `get_rand_seq` returns has each of them once. -/
theorem getRandSeq_perm (len : ℕ) (w : World D) :
    ((getRandSeq len w).1).Perm (List.range len) :=
  shuffle_perm w List.length_range fun _ hi => List.mem_range.mp hi

omit [CDouble D] in
theorem shuffle_world (len : ℕ) (is hostOrder : List ℕ) (w : World D) :
    ∃ rands, (shuffle len is hostOrder w).2 = { w with rands := rands } := by
  induction is generalizing hostOrder w with
  | nil => exact ⟨w.rands, rfl⟩
  | cons i is ih => exact ih _ _

omit [CDouble D] in
theorem getRandSeq_world (len : ℕ) (w : World D) :
    ∃ rands, (getRandSeq len w).2 = { w with rands := rands } := shuffle_world ..

/-! ## Steps -/

/-- What may arrive of a frame. -/
def Arrives (frame frame' : Frame) : Prop :=
  frame' = frame ∨ ∃ index < maxFrameSize, frame' = complementByte index frame

/-- `frame` is appended to `incoming_frames_head` of host `id`. -/
def putIncoming (id : ℕ) (frame : Frame) (w : World D) : World D :=
  setHost id
    { w.hosts id with incomingFramesHead := (w.hosts id).incomingFramesHead ++ [frame] } w

/-- `outgoing_frames_head` of host `id` becomes `frames`. -/
def putOutgoing (id : ℕ) (frames : List Frame) (w : World D) : World D :=
  setHost id { w.hosts id with outgoingFramesHead := frames } w

variable (cfg) in
/-- The oldest frame of a host is lost or delivered. -/
inductive SwitchStep : World D → World D → Prop
  | rand (w : World D) (rands : ℕ) : SwitchStep w { w with rands := rands }
  | drop (w : World D) (id : ℕ) (frame : Frame) (rest : List Frame) (hid : id < cfg.numHosts)
      (hout : (w.hosts id).outgoingFramesHead = frame :: rest)
      (hcheck : frameSanityCheck cfg frame = .ok ()) : SwitchStep w (putOutgoing id rest w)
  | deliver (w : World D) (id : ℕ) (frame frame' : Frame) (rest : List Frame)
      (hid : id < cfg.numHosts) (hout : (w.hosts id).outgoingFramesHead = frame :: rest)
      (hcheck : frameSanityCheck cfg frame = .ok ()) (harrives : Arrives frame frame') :
      SwitchStep w (putIncoming frame.dstId.toNat frame' (putOutgoing id rest w))

/-- A sequence of steps. -/
abbrev SwitchSteps (cfg : SysConfig D) : World D → World D → Prop :=
  Relation.ReflTransGen (SwitchStep cfg)

omit [CDouble D] in
@[simp] theorem putIncoming_outgoing (id : ℕ) (frame : Frame) (w : World D) (id' : ℕ) :
    ((putIncoming id frame w).hosts id').outgoingFramesHead =
      (w.hosts id').outgoingFramesHead := by
  simp only [putIncoming, setHost, Function.update_apply]
  split
  · rename_i hid
    rw [hid]
  · rfl

omit [CDouble D] in
@[simp] theorem putOutgoing_outgoing (id : ℕ) (frames : List Frame) (w : World D) (id' : ℕ) :
    ((putOutgoing id frames w).hosts id').outgoingFramesHead =
      if id' = id then frames else (w.hosts id').outgoingFramesHead := by
  simp only [putOutgoing, setHost, Function.update_apply]
  split <;> rfl

omit [CDouble D] in
theorem SwitchSteps.outgoing_nil {w w' : World D} (h : SwitchSteps cfg w w') {id : ℕ}
    (hnil : (w.hosts id).outgoingFramesHead = []) : (w'.hosts id).outgoingFramesHead = [] := by
  induction h with
  | refl => exact hnil
  | tail _ hstep ih =>
    cases hstep with
    | rand => exact ih
    | drop id' frame rest hid hout hcheck =>
      rw [putOutgoing_outgoing, if_neg, ih]
      rintro rfl
      simp [ih] at hout
    | deliver id' frame frame' rest hid hout hcheck harrives =>
      rw [putIncoming_outgoing, putOutgoing_outgoing, if_neg, ih]
      rintro rfl
      simp [ih] at hout

/-- The ingress ports are empty and can hold nothing, as `init` leaves them. -/
def PortsEmpty (w : World D) : Prop :=
  (∀ id, w.ingressPorts id = ⟨[], 0⟩) ∧ w.ingressPortQueueCapacity = 0

omit [CDouble D] in
theorem SwitchSteps.portsEmpty {w w' : World D} (h : SwitchSteps cfg w w') (hw : PortsEmpty w) :
    PortsEmpty w' := by
  induction h with
  | refl => exact hw
  | tail _ hstep ih => cases hstep <;> exact ih

/-! ## The functions as sequences of steps -/

variable (cfg) in
theorem sendFrame_eq (frame : Frame) (w : World D) :
    ∃ frame' rands, Arrives frame frame' ∧
      sendFrame cfg frame w = putIncoming frame.dstId.toNat frame' { w with rands := rands } := by
  by_cases hcorrupt : (w.env.rand (w.rands + 1) : ℤ) % 1000 <
      CDouble.toInt (CDouble.mul (CDouble.ofInt 1000) cfg.corruptProb)
  · refine ⟨_, w.rands + 3,
      .inr ⟨w.env.rand (w.rands + 2) % maxFrameSize, Nat.mod_lt _ (by decide), rfl⟩, ?_⟩
    simp only [sendFrame, rand, hcorrupt, if_true]
    rfl
  · refine ⟨_, w.rands + 2, .inl rfl, ?_⟩
    simp only [sendFrame, rand, hcorrupt, if_false]
    rfl

theorem sendFrame_steps {w : World D} {id : ℕ} (hid : id < cfg.numHosts) {frame : Frame}
    {rest : List Frame} (hout : (w.hosts id).outgoingFramesHead = frame :: rest)
    (hcheck : frameSanityCheck cfg frame = .ok ()) :
    SwitchSteps cfg w (sendFrame cfg frame (putOutgoing id rest w)) := by
  obtain ⟨frame', rands, harrives, heq⟩ := sendFrame_eq cfg frame (putOutgoing id rest w)
  rw [heq]
  exact (Relation.ReflTransGen.single (.rand w rands)).tail
    (.deliver { w with rands := rands } id frame frame' rest hid hout hcheck harrives)

theorem serviceFrame_steps {w : World D} (hports : PortsEmpty w) {id : ℕ}
    (hid : id < cfg.numHosts) {frame : Frame} {rest : List Frame}
    (hout : (w.hosts id).outgoingFramesHead = frame :: rest)
    (hcheck : frameSanityCheck cfg frame = .ok ()) (accept : ℕ → ℕ) :
    SwitchSteps cfg w (serviceFrame cfg frame accept (putOutgoing id rest w)).2 := by
  rw [serviceFrame]
  split
  · rw [if_neg]
    · exact .single (.drop w id frame rest hid hout hcheck)
    · change ¬ (w.ingressPorts _).bufferQueueSize < w.ingressPortQueueCapacity
      rw [hports.2]
      exact Nat.not_lt_zero _
  · exact sendFrame_steps hid hout hcheck

theorem sendFrame_outgoing (frame : Frame) (w : World D) (id : ℕ) :
    ((sendFrame cfg frame w).hosts id).outgoingFramesHead = (w.hosts id).outgoingFramesHead := by
  obtain ⟨frame', rands, -, heq⟩ := sendFrame_eq cfg frame w
  rw [heq, putIncoming_outgoing]

theorem serviceFrame_outgoing (frame : Frame) (accept : ℕ → ℕ) (w : World D) (id : ℕ) :
    ((serviceFrame cfg frame accept w).2.hosts id).outgoingFramesHead =
      (w.hosts id).outgoingFramesHead := by
  rw [serviceFrame]
  split
  · split <;> rfl
  · exact sendFrame_outgoing frame w id

/-- A pass over the hosts. -/
theorem servicePass_steps {order : List ℕ} (horder : ∀ id ∈ order, id < cfg.numHosts)
    {numEmpty numEmpty' : ℕ} {accept accept' : ℕ → ℕ}
    {w w' : World D} (hports : PortsEmpty w)
    (h : servicePass cfg order numEmpty accept w = .ok (numEmpty', accept', w')) :
    SwitchSteps cfg w w' ∧ numEmpty' ≤ numEmpty + order.length ∧
      (numEmpty' = numEmpty + order.length →
        w' = w ∧ ∀ id ∈ order, (w.hosts id).outgoingFramesHead = []) := by
  induction order generalizing numEmpty accept w with
  | nil =>
    obtain ⟨rfl, rfl, rfl⟩ : numEmpty = numEmpty' ∧ accept = accept' ∧ w = w' := by
      simpa [servicePass] using h
    exact ⟨.refl, by simp, by simp⟩
  | cons senderId order ih =>
    have horder' := List.forall_mem_cons.mp horder
    rw [servicePass] at h
    rw [List.length_cons]
    split at h
    · rename_i hnil
      obtain ⟨hsteps, hle, hall⟩ := ih horder'.2 hports h
      refine ⟨hsteps, by omega, fun heq => ?_⟩
      obtain ⟨rfl, hids⟩ := hall (by omega)
      exact ⟨rfl, List.forall_mem_cons.mpr ⟨hnil, hids⟩⟩
    · rename_i frame rest hout
      simp only at h
      split at h
      · simp at h
      · rename_i hcheck
        have hstep := serviceFrame_steps hports horder'.1 hout hcheck accept
        obtain ⟨hsteps, hle, -⟩ := ih horder'.2 (hstep.portsEmpty hports) h
        exact ⟨hstep.trans hsteps, by omega, by omega⟩

theorem serviceLoop_steps {fuel : ℕ} {accept : ℕ → ℕ} {w w' : World D} (hports : PortsEmpty w)
    (h : serviceLoop cfg fuel accept w = .ok w') :
    SwitchSteps cfg w w' ∧ ∀ id < cfg.numHosts, (w'.hosts id).outgoingFramesHead = [] := by
  induction fuel generalizing accept w with
  | zero => simp [serviceLoop] at h
  | succ fuel ih =>
    have hperm := getRandSeq_perm cfg.numHosts w
    have horder (id : ℕ) (h : id ∈ (getRandSeq cfg.numHosts w).1) : id < cfg.numHosts :=
      List.mem_range.mp (hperm.mem_iff.mp h)
    obtain ⟨rands, hworld⟩ := getRandSeq_world cfg.numHosts w
    simp only [serviceLoop] at h
    rw [hworld] at h
    split at h
    · simp at h
    · rename_i numEmpty accept₁ w₁ hpass
      obtain ⟨hsteps, -, hall⟩ :=
        servicePass_steps (w := { w with rands := rands }) horder hports hpass
      have hrand : SwitchSteps cfg w { w with rands := rands } := .single (.rand w rands)
      split at h
      · rename_i hempty
        obtain rfl := Except.ok.inj h
        obtain ⟨rfl, hids⟩ := hall (by rw [hperm.length_eq, List.length_range, hempty, zero_add])
        exact ⟨hrand, fun id hid => hids id (hperm.mem_iff.mpr (List.mem_range.mpr hid))⟩
      · obtain ⟨hsteps', hnil⟩ := ih (hsteps.portsEmpty hports) h
        exact ⟨(hrand.trans hsteps).trans hsteps', hnil⟩

theorem serviceIngressPorts_empty {w : World D} (hports : PortsEmpty w) (is : List ℕ)
    (accept : ℕ → ℕ) : serviceIngressPorts cfg is accept w = .ok (accept, w) := by
  induction is generalizing accept with
  | nil => rfl
  | cons i is ih =>
    rw [serviceIngressPorts, hports.1 i, serviceIngressPort]
    simp only [Function.update_eq_self, ih]

/-- **`send_data_frames`** loses or delivers every frame that was to be sent. -/
theorem sendDataFrames_steps {w w' : World D} (hports : PortsEmpty w)
    (h : sendDataFrames cfg w = .ok w') :
    SwitchSteps cfg w w' ∧ ∀ id < cfg.numHosts, (w'.hosts id).outgoingFramesHead = [] := by
  rw [sendDataFrames, serviceIngressPorts_empty hports] at h
  exact serviceLoop_steps hports h

theorem sendAckFramesOf_steps {id : ℕ} (hid : id < cfg.numHosts) {frames : List Frame}
    {w w' : World D} (hout : (w.hosts id).outgoingFramesHead = frames)
    (h : sendAckFramesOf cfg id frames w = .ok w') :
    SwitchSteps cfg w w' ∧ (w'.hosts id).outgoingFramesHead = [] := by
  induction frames generalizing w with
  | nil => exact Except.ok.inj h ▸ ⟨.refl, hout⟩
  | cons frame rest ih =>
    simp only [sendAckFramesOf] at h
    split at h
    · simp at h
    · rename_i hcheck
      obtain ⟨hsteps, hnil⟩ := ih (by
        refine (sendFrame_outgoing frame (putOutgoing id rest w) id).trans ?_
        rw [putOutgoing_outgoing, if_pos rfl]) h
      exact ⟨(sendFrame_steps hid hout hcheck).trans hsteps, hnil⟩

theorem sendAckFramesLoop_steps {ids : List ℕ} (hids : ∀ id ∈ ids, id < cfg.numHosts)
    {w w' : World D} (h : sendAckFramesLoop cfg ids w = .ok w') :
    SwitchSteps cfg w w' ∧ ∀ id ∈ ids, (w'.hosts id).outgoingFramesHead = [] := by
  induction ids generalizing w with
  | nil => exact Except.ok.inj h ▸ ⟨.refl, by simp⟩
  | cons id ids ih =>
    rw [sendAckFramesLoop] at h
    split at h
    · simp at h
    · rename_i hof
      have hids' := List.forall_mem_cons.mp hids
      obtain ⟨hsteps, hnil⟩ := sendAckFramesOf_steps hids'.1 rfl hof
      obtain ⟨hsteps', hnils⟩ := ih hids'.2 h
      exact ⟨hsteps.trans hsteps', List.forall_mem_cons.mpr ⟨hsteps'.outgoing_nil hnil, hnils⟩⟩

/-- **`send_ack_frames`** delivers every frame that was to be sent. -/
theorem sendAckFrames_steps {w w' : World D} (h : sendAckFrames cfg w = .ok w') :
    SwitchSteps cfg w w' ∧ ∀ id < cfg.numHosts, (w'.hosts id).outgoingFramesHead = [] := by
  obtain ⟨hsteps, hnil⟩ := sendAckFramesLoop_steps (fun id => List.mem_range.mp) h
  exact ⟨hsteps, fun id hid => hnil id (List.mem_range.mpr hid)⟩

/-! ## The service loop ends -/

theorem sum_range_succ_of_ne {f g : ℕ → ℕ} {id n : ℕ} (hid : id < n) (hself : f id = g id + 1)
    (hother : ∀ id', id' ≠ id → f id' = g id') :
    ((List.range n).map f).sum = ((List.range n).map g).sum + 1 := by
  induction n with
  | zero => omega
  | succ n ih =>
    simp only [List.range_succ, List.map_append, List.map_singleton, List.sum_append,
      List.sum_singleton]
    rcases Nat.lt_succ_iff_lt_or_eq.mp hid with hlt | rfl
    · rw [ih hlt, hother n (by omega)]
      omega
    · have hsame : (List.range id).map f = (List.range id).map g :=
        List.map_congr_left fun id' h => hother id' (List.mem_range.mp h).ne
      rw [hsame, hself]
      omega

omit [CDouble D] in
theorem outgoingTotal_congr {w w' : World D}
    (h : ∀ id, (w'.hosts id).outgoingFramesHead = (w.hosts id).outgoingFramesHead) :
    outgoingTotal cfg w' = outgoingTotal cfg w := by simp only [outgoingTotal, h]

omit [CDouble D] in
theorem outgoingTotal_putOutgoing {w : World D} {id : ℕ} (hid : id < cfg.numHosts) {frame : Frame}
    {rest : List Frame} (hout : (w.hosts id).outgoingFramesHead = frame :: rest) :
    outgoingTotal cfg w = outgoingTotal cfg (putOutgoing id rest w) + 1 := by
  refine sum_range_succ_of_ne hid ?_ fun id' hne => ?_
  · simp only [putOutgoing_outgoing, if_true, hout, List.length_cons]
  · simp only [putOutgoing_outgoing, if_neg hne]

/-- A pass takes one frame from each host that has one. -/
theorem servicePass_total {order : List ℕ} (horder : ∀ id ∈ order, id < cfg.numHosts)
    {numEmpty numEmpty' : ℕ} {accept accept' : ℕ → ℕ} {w w' : World D}
    (h : servicePass cfg order numEmpty accept w = .ok (numEmpty', accept', w')) :
    outgoingTotal cfg w' + numEmpty + order.length = outgoingTotal cfg w + numEmpty' := by
  induction order generalizing numEmpty accept w with
  | nil =>
    obtain ⟨rfl, rfl, rfl⟩ : numEmpty = numEmpty' ∧ accept = accept' ∧ w = w' := by
      simpa [servicePass] using h
    rfl
  | cons senderId order ih =>
    have horder' := List.forall_mem_cons.mp horder
    rw [servicePass] at h
    rw [List.length_cons]
    split at h
    · have := ih horder'.2 h
      omega
    · rename_i frame rest hout
      simp only at h
      split at h
      · simp at h
      · have hpass := ih horder'.2 h
        rw [outgoingTotal_congr (serviceFrame_outgoing frame accept _)] at hpass
        have hput := outgoingTotal_putOutgoing horder'.1 hout
        change _ = outgoingTotal cfg (putOutgoing senderId rest w) + numEmpty' at hpass
        omega

omit [CDouble D] in
theorem frameSanityCheck_error {frame : Frame} {e : Fault}
    (h : frameSanityCheck cfg frame = .error e) : e = .sanityCheck := by
  rw [frameSanityCheck] at h
  split_ifs at h <;> simpa using h.symm

theorem servicePass_error {order : List ℕ} {numEmpty : ℕ} {accept : ℕ → ℕ} {w : World D} {e : Fault}
    (h : servicePass cfg order numEmpty accept w = .error e) : e = .sanityCheck := by
  induction order generalizing numEmpty accept w with
  | nil => simp [servicePass] at h
  | cons senderId order ih =>
    rw [servicePass] at h
    split at h
    · exact ih h
    · simp only at h
      split at h
      · rename_i hcheck
        obtain rfl := Except.error.inj h
        exact frameSanityCheck_error hcheck
      · exact ih h

theorem serviceLoop_error {fuel : ℕ} {accept : ℕ → ℕ} {w : World D} {e : Fault}
    (h : serviceLoop cfg fuel accept w = .error e) : e = .sanityCheck ∨ e = .outOfFuel := by
  induction fuel generalizing accept w with
  | zero => exact .inr (Except.error.inj h).symm
  | succ fuel ih =>
    simp only [serviceLoop] at h
    split at h
    · rename_i hpass
      obtain rfl := Except.error.inj h
      exact .inl (servicePass_error hpass)
    · split at h
      · simp at h
      · exact ih h

/-- The service loop ends by itself: with a frame for each round there is always a round left. -/
theorem serviceLoop_ne_outOfFuel {fuel : ℕ} {accept : ℕ → ℕ} {w : World D}
    (hports : PortsEmpty w) (hfuel : outgoingTotal cfg w < fuel) :
    serviceLoop cfg fuel accept w ≠ .error .outOfFuel := by
  induction fuel generalizing accept w with
  | zero => omega
  | succ fuel ih =>
    have hperm := getRandSeq_perm cfg.numHosts w
    have horder (id : ℕ) (h : id ∈ (getRandSeq cfg.numHosts w).1) : id < cfg.numHosts :=
      List.mem_range.mp (hperm.mem_iff.mp h)
    have hlen : (getRandSeq cfg.numHosts w).1.length = cfg.numHosts := by
      rw [hperm.length_eq, List.length_range]
    obtain ⟨rands, hworld⟩ := getRandSeq_world cfg.numHosts w
    simp only [serviceLoop]
    rw [hworld]
    intro h
    split at h
    · rename_i e hpass
      rw [servicePass_error hpass] at h
      simp at h
    · rename_i numEmpty accept₁ w₁ hpass
      split at h
      · simp at h
      · rename_i hne
        obtain ⟨hsteps, hle, -⟩ :=
          servicePass_steps (w := { w with rands := rands }) horder hports hpass
        have htotal := servicePass_total horder hpass
        have hsame : outgoingTotal cfg { w with rands := rands } = outgoingTotal cfg w := rfl
        exact ih (hsteps.portsEmpty hports) (by omega) h

/-- **The loop of `send_data_frames` ends.** -/
theorem sendDataFrames_ne_outOfFuel {w : World D} (hports : PortsEmpty w) :
    sendDataFrames cfg w ≠ .error .outOfFuel := by
  rw [sendDataFrames, serviceIngressPorts_empty hports]
  exact serviceLoop_ne_outOfFuel hports (Nat.lt_succ_self _)

theorem sendDataFrames_error {w : World D} (hports : PortsEmpty w) {e : Fault}
    (h : sendDataFrames cfg w = .error e) : e = .sanityCheck := by
  have hfuel : e ≠ .outOfFuel := fun he => sendDataFrames_ne_outOfFuel hports (he ▸ h)
  rw [sendDataFrames, serviceIngressPorts_empty hports] at h
  exact (serviceLoop_error h).resolve_right hfuel

theorem sendAckFramesOf_error {id : ℕ} {frames : List Frame} {w : World D} {e : Fault}
    (h : sendAckFramesOf cfg id frames w = .error e) : e = .sanityCheck := by
  induction frames generalizing w with
  | nil => simp [sendAckFramesOf] at h
  | cons frame rest ih =>
    simp only [sendAckFramesOf] at h
    split at h
    · rename_i hcheck
      obtain rfl := Except.error.inj h
      exact frameSanityCheck_error hcheck
    · exact ih h

theorem sendAckFrames_error {w : World D} {e : Fault} (h : sendAckFrames cfg w = .error e) :
    e = .sanityCheck := by
  rw [sendAckFrames] at h
  generalize List.range cfg.numHosts = ids at h
  induction ids generalizing w with
  | nil => simp [sendAckFramesLoop] at h
  | cons id ids ih =>
    rw [sendAckFramesLoop] at h
    split at h
    · rename_i hof
      obtain rfl := Except.error.inj h
      exact sendAckFramesOf_error hof
    · exact ih h

end NetworkSim.Tcp
