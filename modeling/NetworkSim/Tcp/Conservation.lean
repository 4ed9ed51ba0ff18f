import NetworkSim.Tcp.Commands
import NetworkSim.Tcp.Switching

/-!
# The switch conserves frames

`send_data_frames` as a list of services, one for each frame taken from a queue, with what has
arrived of it, if anything. `Conserves services accept accept' w w'` says that the frames served are
those that have left the queues, that what has arrived of them is what has been added to the lists
of incoming frames, and that each receiver has accepted frames up to its rate and no further. It
holds of one service and composes, so it holds of a pass over the hosts and of the whole loop
(`sendDataFrames_conserves`). That the loop ends without a fault when all frames pass
`frame_sanity_check` is `sendDataFrames_ok`.
-/

namespace NetworkSim.Tcp

variable {D : Type} [CDouble D] {cfg : SysConfig D}

/-- A frame taken from the queue of `sender`, and what has arrived of it at its receiver. -/
structure Service where
  sender : ℕ
  frame : Frame
  arrived : Option Frame

/-- The services of the frames of host `id`. -/
def servicesOf (id : ℕ) (services : List Service) : List Service :=
  services.filter (fun s => s.sender = id)

/-- The services of the frames addressed to host `id`. -/
def servicesTo (id : ℕ) (services : List Service) : List Service :=
  services.filter (fun s => s.frame.dstId.toNat = id)

/-- What has arrived at host `id`. -/
def arrivedAt (id : ℕ) (services : List Service) : List Frame :=
  (servicesTo id services).filterMap Service.arrived

/-- The frames of `sender` that have been delivered to `receiver`, as they were sent. -/
def deliveredFrom (sender receiver : ℕ) (services : List Service) : List Frame :=
  ((servicesTo receiver (servicesOf sender services)).filter (·.arrived.isSome)).map Service.frame

@[simp] theorem servicesOf_append (id : ℕ) (xs ys : List Service) :
    servicesOf id (xs ++ ys) = servicesOf id xs ++ servicesOf id ys := List.filter_append ..

@[simp] theorem servicesTo_append (id : ℕ) (xs ys : List Service) :
    servicesTo id (xs ++ ys) = servicesTo id xs ++ servicesTo id ys := List.filter_append ..

@[simp] theorem arrivedAt_append (id : ℕ) (xs ys : List Service) :
    arrivedAt id (xs ++ ys) = arrivedAt id xs ++ arrivedAt id ys := by
  rw [arrivedAt, servicesTo_append, List.filterMap_append]
  rfl

variable (cfg) in
/-- `w'` is `w` after `services`, which take the numbers of accepted frames from `accept` to
`accept'`. -/
structure Conserves (services : List Service) (accept accept' : ℕ → ℕ) (w w' : World D) :
    Prop where
  sender_lt : ∀ s ∈ services, s.sender < cfg.numHosts
  arrives : ∀ s ∈ services, ∀ frame ∈ s.arrived, Arrives s.frame frame
  outgoing : ∀ id, (w.hosts id).outgoingFramesHead =
    (servicesOf id services).map Service.frame ++ (w'.hosts id).outgoingFramesHead
  incoming : ∀ id, (w'.hosts id).incomingFramesHead =
    (w.hosts id).incomingFramesHead ++ arrivedAt id services
  delivered : ∀ id, accept' id = accept id + (arrivedAt id services).length
  accepted : ∀ id, accept id ≤ cfg.recvAcceptRate →
    accept' id = min cfg.recvAcceptRate (accept id + (servicesTo id services).length)
  ports : w'.ingressPorts = w.ingressPorts ∧
    w'.ingressPortQueueCapacity = w.ingressPortQueueCapacity

namespace Conserves

omit [CDouble D] in
/-- No service, with values of `rand()` taken. -/
theorem refl (accept : ℕ → ℕ) (w : World D) (rands : ℕ) :
    Conserves cfg [] accept accept w { w with rands := rands } where
  sender_lt s h := by simp at h
  arrives s h := by simp at h
  outgoing id := rfl
  incoming id := by simp [arrivedAt, servicesTo]
  delivered id := rfl
  accepted id h := (min_eq_right h).symm
  ports := ⟨rfl, rfl⟩

omit [CDouble D] in
theorem trans {xs ys : List Service} {accept accept' accept'' : ℕ → ℕ} {w w' w'' : World D}
    (h : Conserves cfg xs accept accept' w w') (h' : Conserves cfg ys accept' accept'' w' w'') :
    Conserves cfg (xs ++ ys) accept accept'' w w'' where
  sender_lt s hs := (List.mem_append.mp hs).elim (h.sender_lt s) (h'.sender_lt s)
  arrives s hs := (List.mem_append.mp hs).elim (h.arrives s) (h'.arrives s)
  outgoing id := by
    rw [h.outgoing, h'.outgoing, servicesOf_append, List.map_append, List.append_assoc]
  incoming id := by rw [h'.incoming, h.incoming, arrivedAt_append, List.append_assoc]
  delivered id := by
    rw [h'.delivered, h.delivered, arrivedAt_append, List.length_append, Nat.add_assoc]
  accepted id hid := by
    have hmid := h.accepted id hid
    rw [h'.accepted id (by rw [hmid]; exact min_le_left ..), hmid, servicesTo_append,
      List.length_append]
    omega
  ports := ⟨h'.ports.1.trans h.ports.1, h'.ports.2.trans h.ports.2⟩

omit [CDouble D] in
theorem portsEmpty {services : List Service} {accept accept' : ℕ → ℕ} {w w' : World D}
    (h : Conserves cfg services accept accept' w w') (hw : PortsEmpty w) : PortsEmpty w' := by
  rw [PortsEmpty, h.ports.1, h.ports.2]
  exact hw

end Conserves

/-! ## One service -/

omit [CDouble D] in
theorem putIncoming_incoming (id : ℕ) (frame : Frame) (w : World D) (id' : ℕ) :
    ((putIncoming id frame w).hosts id').incomingFramesHead =
      (w.hosts id').incomingFramesHead ++ if id = id' then [frame] else [] := by
  simp only [putIncoming, setHost, Function.update_apply]
  by_cases h : id = id'
  · subst h
    simp
  · simp [h, Ne.symm h]

omit [CDouble D] in
theorem putOutgoing_incoming (id : ℕ) (frames : List Frame) (w : World D) (id' : ℕ) :
    ((putOutgoing id frames w).hosts id').incomingFramesHead =
      (w.hosts id').incomingFramesHead := by
  simp only [putOutgoing, setHost, Function.update_apply]
  split
  · rename_i h
    rw [h]
  · rfl

omit [CDouble D] in
/-- A frame whose receiver has accepted its share is dropped. -/
theorem putOutgoing_conserves {w : World D} {id : ℕ} (hid : id < cfg.numHosts) {frame : Frame}
    {rest : List Frame} (hout : (w.hosts id).outgoingFramesHead = frame :: rest) {accept : ℕ → ℕ}
    (hfull : cfg.recvAcceptRate ≤ accept frame.dstId.toNat) :
    Conserves cfg [⟨id, frame, none⟩] accept accept w (putOutgoing id rest w) where
  sender_lt s hs := by
    obtain rfl := List.mem_singleton.mp hs
    exact hid
  arrives s hs frame' h := by
    obtain rfl := List.mem_singleton.mp hs
    simp at h
  outgoing id' := by
    rw [putOutgoing_outgoing]
    by_cases h : id = id'
    · subst h
      simpa [servicesOf] using hout
    · simp [servicesOf, h, Ne.symm h]
  incoming id' := by
    have hnone : arrivedAt id' [⟨id, frame, none⟩] = [] := by
      by_cases h : frame.dstId.toNat = id' <;> simp [arrivedAt, servicesTo, h]
    rw [hnone, List.append_nil, putOutgoing_incoming]
  delivered id' := by
    by_cases h : frame.dstId.toNat = id' <;> simp [arrivedAt, servicesTo, h]
  accepted id' hle := by
    by_cases h : frame.dstId.toNat = id'
    · subst h
      simp only [servicesTo, decide_true, List.filter_cons_of_pos, List.filter_nil,
        List.length_singleton]
      omega
    · simp [servicesTo, h, hle]
  ports := ⟨rfl, rfl⟩

theorem sendFrame_conserves {w : World D} {id : ℕ} (hid : id < cfg.numHosts) {frame : Frame}
    {rest : List Frame} (hout : (w.hosts id).outgoingFramesHead = frame :: rest) {accept : ℕ → ℕ}
    (hroom : accept frame.dstId.toNat < cfg.recvAcceptRate) :
    ∃ frame', Conserves cfg [⟨id, frame, some frame'⟩] accept
      (Function.update accept frame.dstId.toNat (accept frame.dstId.toNat + 1)) w
      (sendFrame cfg frame (putOutgoing id rest w)) := by
  obtain ⟨frame', rands, harrives, heq⟩ := sendFrame_eq cfg frame (putOutgoing id rest w)
  refine ⟨frame', ?_⟩
  rw [heq]
  have harrived (id' : ℕ) : arrivedAt id' [⟨id, frame, some frame'⟩] =
      if frame.dstId.toNat = id' then [frame'] else [] := by
    by_cases h : frame.dstId.toNat = id' <;> simp [arrivedAt, servicesTo, h]
  have hto (id' : ℕ) : (servicesTo id' [⟨id, frame, some frame'⟩]).length =
      if frame.dstId.toNat = id' then 1 else 0 := by
    by_cases h : frame.dstId.toNat = id' <;> simp [servicesTo, h]
  exact
    { sender_lt := fun s hs => by
        obtain rfl := List.mem_singleton.mp hs
        exact hid
      arrives := fun s hs frame'' h => by
        obtain rfl := List.mem_singleton.mp hs
        obtain rfl : frame' = frame'' := by simpa using h
        exact harrives
      outgoing := fun id' => by
        rw [putIncoming_outgoing]
        change _ = _ ++ ((putOutgoing id rest w).hosts id').outgoingFramesHead
        rw [putOutgoing_outgoing]
        by_cases h : id = id'
        · subst h
          simpa [servicesOf] using hout
        · simp [servicesOf, h, Ne.symm h]
      incoming := fun id' => by
        rw [harrived, putIncoming_incoming]
        exact congrArg (· ++ _) (putOutgoing_incoming id rest w id')
      delivered := fun id' => by
        rw [harrived, Function.update_apply]
        by_cases h : frame.dstId.toNat = id'
        · simp [h]
        · simp [h, Ne.symm h]
      accepted := fun id' hle => by
        rw [hto, Function.update_apply]
        by_cases h : frame.dstId.toNat = id'
        · subst h
          simp only [if_true]
          omega
        · simp [h, Ne.symm h, hle]
      ports := ⟨rfl, rfl⟩ }

theorem serviceFrame_conserves {w : World D} (hports : PortsEmpty w) {id : ℕ}
    (hid : id < cfg.numHosts) {frame : Frame} {rest : List Frame}
    (hout : (w.hosts id).outgoingFramesHead = frame :: rest) (accept : ℕ → ℕ) :
    ∃ s : Service, s.sender = id ∧ Conserves cfg [s] accept
      (serviceFrame cfg frame accept (putOutgoing id rest w)).1 w
      (serviceFrame cfg frame accept (putOutgoing id rest w)).2 := by
  rw [serviceFrame]
  split
  · rename_i hfull
    rw [if_neg]
    · exact ⟨_, rfl, putOutgoing_conserves hid hout hfull⟩
    · change ¬ (w.ingressPorts _).bufferQueueSize < w.ingressPortQueueCapacity
      rw [hports.2]
      exact Nat.not_lt_zero _
  · rename_i hroom
    obtain ⟨frame', h⟩ := sendFrame_conserves hid hout (Nat.lt_of_not_le hroom)
    exact ⟨_, rfl, h⟩

/-! ## Passes -/

theorem servicePass_conserves {order : List ℕ} (horder : ∀ id ∈ order, id < cfg.numHosts)
    {numEmpty numEmpty' : ℕ} {accept accept' : ℕ → ℕ} {w w' : World D} (hports : PortsEmpty w)
    (h : servicePass cfg order numEmpty accept w = .ok (numEmpty', accept', w')) :
    ∃ services, Conserves cfg services accept accept' w w' := by
  induction order generalizing numEmpty accept w with
  | nil =>
    obtain ⟨rfl, rfl, rfl⟩ : numEmpty = numEmpty' ∧ accept = accept' ∧ w = w' := by
      simpa [servicePass] using h
    exact ⟨[], .refl accept w w.rands⟩
  | cons senderId order ih =>
    have horder' := List.forall_mem_cons.mp horder
    rw [servicePass] at h
    split at h
    · exact ih horder'.2 hports h
    · rename_i frame rest hout
      simp only at h
      split at h
      · simp at h
      · obtain ⟨s, -, hs⟩ := serviceFrame_conserves hports horder'.1 hout accept
        obtain ⟨services, hservices⟩ := ih horder'.2 (hs.portsEmpty hports) h
        exact ⟨[s] ++ services, hs.trans hservices⟩

/-- A pass takes the oldest frame of every host that it goes over. -/
theorem servicePass_outgoing {order : List ℕ} (hnodup : order.Nodup) {numEmpty numEmpty' : ℕ}
    {accept accept' : ℕ → ℕ} {w w' : World D}
    (h : servicePass cfg order numEmpty accept w = .ok (numEmpty', accept', w')) (id : ℕ) :
    (w'.hosts id).outgoingFramesHead =
      if id ∈ order then (w.hosts id).outgoingFramesHead.tail
      else (w.hosts id).outgoingFramesHead := by
  induction order generalizing numEmpty accept w with
  | nil =>
    obtain ⟨rfl, rfl, rfl⟩ : numEmpty = numEmpty' ∧ accept = accept' ∧ w = w' := by
      simpa [servicePass] using h
    rfl
  | cons senderId order ih =>
    obtain ⟨hnot, hnodup⟩ := List.nodup_cons.mp hnodup
    rw [servicePass] at h
    split at h
    · rename_i hnil
      rw [ih hnodup h]
      by_cases hid : id = senderId
      · subst hid
        rw [if_neg hnot, if_pos List.mem_cons_self, hnil]
        rfl
      · simp only [List.mem_cons, hid, false_or]
    · rename_i frame rest hout
      simp only at h
      split at h
      · simp at h
      · rw [ih hnodup h, serviceFrame_outgoing]
        change (if id ∈ order then
          ((putOutgoing senderId rest w).hosts id).outgoingFramesHead.tail else
          ((putOutgoing senderId rest w).hosts id).outgoingFramesHead) = _
        rw [putOutgoing_outgoing]
        by_cases hid : id = senderId
        · subst hid
          rw [if_neg hnot, if_pos rfl, if_pos List.mem_cons_self, hout]
          rfl
        · simp only [List.mem_cons, hid, false_or, if_false]

/-! ## The loop -/

omit [CDouble D] in
theorem getRandSeq_lt {w : World D} {id : ℕ} (h : id ∈ (getRandSeq cfg.numHosts w).1) :
    id < cfg.numHosts :=
  List.mem_range.mp ((getRandSeq_perm cfg.numHosts w).mem_iff.mp h)

theorem serviceLoop_conserves {fuel : ℕ} {accept : ℕ → ℕ} {w w' : World D} (hports : PortsEmpty w)
    (h : serviceLoop cfg fuel accept w = .ok w') :
    ∃ services accept', Conserves cfg services accept accept' w w' := by
  induction fuel generalizing accept w with
  | zero => simp [serviceLoop] at h
  | succ fuel ih =>
    obtain ⟨rands, hworld⟩ := getRandSeq_world cfg.numHosts w
    simp only [serviceLoop] at h
    rw [hworld] at h
    split at h
    · simp at h
    · rename_i numEmpty accept₁ w₁ hpass
      obtain ⟨xs, hxs⟩ := servicePass_conserves (w := { w with rands := rands })
        (fun id => getRandSeq_lt) hports hpass
      have hfirst := (Conserves.refl accept w rands).trans hxs
      split at h
      · exact Except.ok.inj h ▸ ⟨_, _, hfirst⟩
      · obtain ⟨ys, accept', hys⟩ := ih (hxs.portsEmpty hports) h
        exact ⟨_, _, hfirst.trans hys⟩

/-- **`send_data_frames`** is a list of services. -/
theorem sendDataFrames_conserves {w w' : World D} (hports : PortsEmpty w)
    (h : sendDataFrames cfg w = .ok w') :
    ∃ services accept', Conserves cfg services (fun _ => 0) accept' w w' := by
  rw [sendDataFrames, serviceIngressPorts_empty hports] at h
  exact serviceLoop_conserves hports h

/-! ## The loop ends without a fault -/

variable (cfg) in
/-- All frames to be sent pass `frame_sanity_check`. -/
def OutgoingPass (w : World D) : Prop :=
  ∀ id < cfg.numHosts, ∀ frame ∈ (w.hosts id).outgoingFramesHead,
    frameSanityCheck cfg frame = .ok ()

omit [CDouble D] in
theorem Conserves.outgoingPass {services : List Service} {accept accept' : ℕ → ℕ} {w w' : World D}
    (h : Conserves cfg services accept accept' w w') (hw : OutgoingPass cfg w) :
    OutgoingPass cfg w' := fun id hid frame hframe =>
  hw id hid frame (h.outgoing id ▸ List.mem_append_right _ hframe)

theorem servicePass_ok {order : List ℕ} (horder : ∀ id ∈ order, id < cfg.numHosts)
    (numEmpty : ℕ) (accept : ℕ → ℕ) {w : World D} (hports : PortsEmpty w)
    (hpass : OutgoingPass cfg w) : ∃ r, servicePass cfg order numEmpty accept w = .ok r := by
  induction order generalizing numEmpty accept w with
  | nil => exact ⟨_, rfl⟩
  | cons senderId order ih =>
    have horder' := List.forall_mem_cons.mp horder
    rw [servicePass]
    split
    · exact ih horder'.2 _ _ hports hpass
    · rename_i frame rest hout
      have hcheck := hpass senderId horder'.1 frame (hout ▸ List.mem_cons_self)
      obtain ⟨s, -, hs⟩ := serviceFrame_conserves hports horder'.1 hout accept
      simp only [hcheck]
      exact ih horder'.2 _ _ (hs.portsEmpty hports) (hs.outgoingPass hpass)

theorem serviceLoop_ok {fuel : ℕ} {accept : ℕ → ℕ} {w : World D} (hports : PortsEmpty w)
    (hpass : OutgoingPass cfg w) {e : Fault} (h : serviceLoop cfg fuel accept w = .error e) :
    e = .outOfFuel := by
  induction fuel generalizing accept w with
  | zero => exact (Except.error.inj h).symm
  | succ fuel ih =>
    obtain ⟨rands, hworld⟩ := getRandSeq_world cfg.numHosts w
    obtain ⟨⟨numEmpty, accept₁, w₁⟩, hok⟩ := servicePass_ok (w := { w with rands := rands })
      (fun id => getRandSeq_lt (w := w)) 0 accept hports hpass
    simp only [serviceLoop] at h
    rw [hworld, hok] at h
    obtain ⟨services, hservices⟩ := servicePass_conserves (w := { w with rands := rands })
      (fun id => getRandSeq_lt) hports hok
    simp only at h
    split at h
    · simp at h
    · exact ih (hservices.portsEmpty hports) (hservices.outgoingPass hpass) h

/-- **`send_data_frames`** ends without a fault when all frames pass the check. -/
theorem sendDataFrames_ok {w : World D} (hports : PortsEmpty w) (hpass : OutgoingPass cfg w) :
    ∃ w', sendDataFrames cfg w = .ok w' := by
  cases h : sendDataFrames cfg w with
  | ok w' => exact ⟨w', rfl⟩
  | error e =>
    have hfuel : sendDataFrames cfg w ≠ .error .outOfFuel := sendDataFrames_ne_outOfFuel hports
    rw [h] at hfuel
    rw [sendDataFrames, serviceIngressPorts_empty hports] at h
    exact absurd (congrArg Except.error (serviceLoop_ok hports hpass h)) hfuel

/-! ## Conservation -/

/-- The services of all hosts are all services. -/
theorem sum_servicesOf {n : ℕ} {services : List Service} (h : ∀ s ∈ services, s.sender < n) :
    ((List.range n).map (fun id => (servicesOf id services).length)).sum = services.length := by
  induction services with
  | nil => simp [servicesOf]
  | cons s services ih =>
    obtain ⟨hs, hservices⟩ := List.forall_mem_cons.mp h
    have hself : (servicesOf s.sender (s :: services)).length =
        (servicesOf s.sender services).length + 1 := by simp [servicesOf]
    have hother (id : ℕ) (hne : id ≠ s.sender) :
        (servicesOf id (s :: services)).length = (servicesOf id services).length := by
      simp [servicesOf, Ne.symm hne]
    rw [sum_range_succ_of_ne hs hself hother, ih hservices, List.length_cons]

theorem servicesOf_servicesTo (sender receiver : ℕ) (services : List Service) :
    servicesOf sender (servicesTo receiver services) =
      servicesTo receiver (servicesOf sender services) := by
  simp only [servicesOf, servicesTo, List.filter_filter, Bool.and_comm]

theorem map_frame_servicesTo (id : ℕ) (services : List Service) :
    (servicesTo id services).map Service.frame = framesFor id (services.map Service.frame) := by
  rw [framesFor, List.filter_map]
  rfl

/-- The frames of `sender` that reach `receiver` are some of those queued, in their order. -/
theorem deliveredFrom_sublist (sender receiver : ℕ) (services : List Service) :
    (deliveredFrom sender receiver services).Sublist
      (framesFor receiver ((servicesOf sender services).map Service.frame)) := by
  rw [← map_frame_servicesTo]
  exact List.filter_sublist.map _

/-- **The switch conserves frames.** The random orders are orders of all hosts, so each pass takes
the oldest frame of every host; and `send_data_frames` ends with all queues empty, having delivered
or dropped each frame, and to each receiver as many as it accepts. -/
theorem switch_conserves_frames {w : World D} (hports : PortsEmpty w)
    (hpass : OutgoingPass cfg w) :
    (∀ len (w : World D), ((getRandSeq len w).1).Perm (List.range len)) ∧
    (∀ (w₁ w₂ : World D) accept accept' numEmpty,
      servicePass cfg (getRandSeq cfg.numHosts w₁).1 0 accept (getRandSeq cfg.numHosts w₁).2 =
          .ok (numEmpty, accept', w₂) →
        ∀ id < cfg.numHosts,
          (w₂.hosts id).outgoingFramesHead = (w₁.hosts id).outgoingFramesHead.tail) ∧
    ∃ w' services, sendDataFrames cfg w = .ok w' ∧ PortsEmpty w' ∧
      (∀ id < cfg.numHosts, (w'.hosts id).outgoingFramesHead = []) ∧
      (∀ id < cfg.numHosts,
        (servicesOf id services).map Service.frame = (w.hosts id).outgoingFramesHead) ∧
      (∀ s ∈ services, s.sender < cfg.numHosts ∧ ∀ frame ∈ s.arrived, Arrives s.frame frame) ∧
      (∀ id, (w'.hosts id).incomingFramesHead =
        (w.hosts id).incomingFramesHead ++ arrivedAt id services) ∧
      (∀ receiver, (arrivedAt receiver services).length = min cfg.recvAcceptRate
        ((List.range cfg.numHosts).map fun sender =>
          (framesFor receiver (w.hosts sender).outgoingFramesHead).length).sum) ∧
      ∀ sender < cfg.numHosts, ∀ receiver, (deliveredFrom sender receiver services).Sublist
        (framesFor receiver (w.hosts sender).outgoingFramesHead) := by
  refine ⟨getRandSeq_perm, fun w₁ w₂ accept accept' numEmpty h id hid => ?_, ?_⟩
  · have hperm := getRandSeq_perm cfg.numHosts w₁
    obtain ⟨rands, hworld⟩ := getRandSeq_world cfg.numHosts w₁
    rw [servicePass_outgoing (hperm.nodup_iff.mpr List.nodup_range) h id,
      if_pos (hperm.mem_iff.mpr (List.mem_range.mpr hid)), hworld]
  · obtain ⟨w', hw'⟩ := sendDataFrames_ok hports hpass
    obtain ⟨services, accept', h⟩ := sendDataFrames_conserves hports hw'
    have hempty := (sendDataFrames_steps hports hw').2
    have hqueue (id : ℕ) (hid : id < cfg.numHosts) :
        (servicesOf id services).map Service.frame = (w.hosts id).outgoingFramesHead := by
      rw [h.outgoing id, hempty id hid, List.append_nil]
    refine ⟨w', services, hw', h.portsEmpty hports, hempty, hqueue,
      fun s hs => ⟨h.sender_lt s hs, h.arrives s hs⟩, h.incoming, fun receiver => ?_,
      fun sender hsender receiver => hqueue sender hsender ▸ deliveredFrom_sublist ..⟩
    have hnumber : (servicesTo receiver services).length =
        ((List.range cfg.numHosts).map fun sender =>
          (framesFor receiver (w.hosts sender).outgoingFramesHead).length).sum := by
      have hlt (s : Service) (hs : s ∈ servicesTo receiver services) : s.sender < cfg.numHosts :=
        h.sender_lt s (List.mem_of_mem_filter hs)
      rw [← sum_servicesOf hlt]
      refine congrArg List.sum (List.map_congr_left fun sender hsender => ?_)
      rw [← hqueue sender (List.mem_range.mp hsender), ← map_frame_servicesTo,
        servicesOf_servicesTo, List.length_map]
    have hdelivered := h.delivered receiver
    have haccepted := h.accepted receiver (Nat.zero_le _)
    rw [hnumber] at haccepted
    omega

/-- Five frames from host 0 to host 1, which accepts four. -/
def fiveFrames : World ℚ :=
  putOutgoing 0 (List.replicate 5 { Frame.zero with dstId := 1 })
    (init ccBasicConfig (fun _ => .still) helloEnv)

theorem switch_conserves_frames_five :
    ∃ w' services, sendDataFrames ccBasicConfig fiveFrames = .ok w' ∧
      (servicesOf 0 services).length = 5 ∧ (arrivedAt 1 services).length = 4 := by
  have hports : PortsEmpty fiveFrames := ⟨fun _ => rfl, rfl⟩
  have hpass : OutgoingPass ccBasicConfig fiveFrames := by
    have hframe : frameSanityCheck ccBasicConfig { Frame.zero with dstId := 1 } = .ok () := by
      decide
    intro id hid frame hmem
    rw [fiveFrames, putOutgoing_outgoing] at hmem
    split at hmem
    · rw [(List.mem_replicate.mp hmem).2, hframe]
    · simp [init, initHost] at hmem
  obtain ⟨-, -, w', services, hw', -, -, hqueue, -, -, hnumber, -⟩ :=
    switch_conserves_frames hports hpass
  refine ⟨w', services, hw', ?_, (hnumber 1).trans (by decide)⟩
  have hlen := congrArg List.length (hqueue 0 (by decide))
  rw [List.length_map] at hlen
  exact hlen.trans (by decide)

end NetworkSim.Tcp
