import NetworkSim.Tcp.Switching

/-!
# Runs

A run is a number of steps from the state after `init`. What holds at the start and is kept by every
step holds in every state of a run (`steps_invariant`); the steps may be required to start only in
states with some property. The rounds of the loop of `main` are runs (`mainLoop_steps`), and what
`handle_input` does to a run is to hand commands to hosts (`handleInput_spec`).
-/

namespace NetworkSim.Tcp

variable {D : Type} [CDouble D] {cfg : SysConfig D}

/-! ## Steps -/

theorem steps_add (m n : ℕ) (s : State D) :
    steps cfg (m + n) s =
      match steps cfg m s with
      | .error e => .error e
      | .ok s => steps cfg n s := by
  induction m generalizing s with
  | zero => rw [zero_add]; rfl
  | succ m ih =>
    rw [Nat.succ_add, steps, steps]
    cases step cfg s with
    | error e => rfl
    | ok s' => exact ih s'

theorem steps_trans {m n : ℕ} {s s' s'' : State D} (h : steps cfg m s = .ok s')
    (h' : steps cfg n s' = .ok s'') : steps cfg (m + n) s = .ok s'' := by
  rw [steps_add, h]
  exact h'

theorem steps_one {s s' : State D} (h : step cfg s = .ok s') : steps cfg 1 s = .ok s' := by
  rw [steps, h]
  rfl

/-- The last step of a run. -/
theorem exists_of_steps_succ {n : ℕ} {s s'' : State D} (h : steps cfg (n + 1) s = .ok s'') :
    ∃ s', steps cfg n s = .ok s' ∧ step cfg s' = .ok s'' := by
  rw [steps_add] at h
  cases hn : steps cfg n s with
  | error e => simp [hn] at h
  | ok s' =>
    refine ⟨s', rfl, ?_⟩
    simp only [hn, steps] at h
    cases hstep : step cfg s' with
    | error e => simp [hstep] at h
    | ok s₁ =>
      rw [hstep] at h
      exact h

variable (cfg) in
/-- The steps of the run of length `n` from `s` all start in states with the property `P`. -/
def RunMeets (P : State D → Prop) (n : ℕ) (s : State D) : Prop :=
  ∀ m < n, ∀ s', steps cfg m s = .ok s' → P s'

/-- A property of states that can be evaluated can be evaluated along a run. -/
theorem RunMeets.of_all {P : State D → Prop} [DecidablePred P] {n : ℕ} {s : State D}
    (h : (List.range n).all (fun m => (steps cfg m s).toOption.all (fun s' => decide (P s'))) =
      true) : RunMeets cfg P n s := by
  intro m hm s' hs'
  have hall := List.all_eq_true.mp h m (List.mem_range.mpr hm)
  rw [hs'] at hall
  exact of_decide_eq_true hall

/-- **Invariants of runs.** -/
theorem steps_invariant {I P : State D → Prop} {n : ℕ} {s s' : State D} (hstart : I s)
    (hstep : ∀ s s', I s → P s → step cfg s = .ok s' → I s') (hP : RunMeets cfg P n s)
    (h : steps cfg n s = .ok s') : I s' := by
  induction n generalizing s' with
  | zero => exact Except.ok.inj h ▸ hstart
  | succ n ih =>
    obtain ⟨s₁, hn, hlast⟩ := exists_of_steps_succ h
    exact hstep s₁ s' (ih (fun m hm => hP m (by omega)) hn) (hP n (Nat.lt_succ_self n) s₁ hn) hlast

/-! ## The loop of `main` -/

theorem runSendersLoop_steps {order : List ℕ} {w w' : World D}
    (h : runSendersLoop cfg order w = .ok w') :
    steps cfg order.length ⟨.senders order, w⟩ = .ok ⟨.senders [], w'⟩ := by
  induction order generalizing w with
  | nil => rw [← Except.ok.inj h]; rfl
  | cons i order ih =>
    rw [runSendersLoop] at h
    split at h
    · simp at h
    · rename_i w₁ hturn
      rw [List.length_cons, add_comm]
      exact steps_trans (steps_one (by simp only [step, hturn])) (ih h)

theorem runReceivers_steps (order : List ℕ) (w : World D) :
    steps cfg order.length ⟨.receivers order, w⟩ =
      .ok ⟨.receivers [], order.foldl (fun w i => runReceiverTurn cfg i w) w⟩ := by
  induction order generalizing w with
  | nil => rfl
  | cons i order ih =>
    rw [List.length_cons, add_comm]
    have hone : steps cfg 1 ⟨.receivers (i :: order), w⟩ =
        .ok ⟨.receivers order, runReceiverTurn cfg i w⟩ := steps_one rfl
    exact steps_trans hone (ih _)

/-- **A round of the loop of `main`** is a run from the top of the loop to its bottom. -/
theorem mainLoop_steps {w w' : World D} (h : mainLoop cfg w = .ok w') :
    ∃ n, steps cfg n ⟨.top, w⟩ = .ok ⟨.bottom, w'⟩ := by
  rw [mainLoop] at h
  split at h
  · simp at h
  · rename_i w₁ hinput
    rw [runHosts, runSenders] at h
    split at h
    · simp at h
    · rename_i w₂ hsenders
      split at h
      · simp at h
      · rename_i w₃ hdata
        have htop : step cfg ⟨.top, w⟩ =
            .ok ⟨.senders (getRandSeq cfg.numHosts w₁).1, (getRandSeq cfg.numHosts w₁).2⟩ := by
          simp only [step, hinput]
        have hswitch : step cfg ⟨.senders [], w₂⟩ =
            .ok ⟨.receivers (getRandSeq cfg.numHosts w₃).1, (getRandSeq cfg.numHosts w₃).2⟩ := by
          simp only [step, hdata]
        have hacks : step cfg ⟨.receivers [], runReceivers cfg w₃⟩ = .ok ⟨.bottom, w'⟩ := by
          simp only [step, h]
        exact ⟨_, steps_trans (steps_trans (steps_trans (steps_trans (steps_one htop)
          (runSendersLoop_steps hsenders)) (steps_one hswitch)) (runReceivers_steps _ _))
          (steps_one hacks)⟩

/-! ## Input -/

/-- `host'` is `host`, the host number `i`, with more commands from host `i` to other hosts. -/
def GetsCommands (cfg : SysConfig D) (i : ℕ) (host host' : Host D) : Prop :=
  ∃ cmds, host' = { host with inputCmdlistHead := host.inputCmdlistHead ++ cmds } ∧
    ∀ cmd ∈ cmds, cmd.srcId = UInt16.ofNat i ∧ ∃ r < cfg.numHosts, cmd.dstId = UInt16.ofNat r

omit [CDouble D] in
theorem GetsCommands.refl (i : ℕ) (host : Host D) : GetsCommands cfg i host host :=
  ⟨[], by rw [List.append_nil], by simp⟩

omit [CDouble D] in
theorem GetsCommands.trans {i : ℕ} {host host' host'' : Host D} (h : GetsCommands cfg i host host')
    (h' : GetsCommands cfg i host' host'') : GetsCommands cfg i host host'' := by
  obtain ⟨cmds, rfl, hcmds⟩ := h
  obtain ⟨cmds', rfl, hcmds'⟩ := h'
  exact ⟨cmds ++ cmds', by simp only [List.append_assoc], fun cmd hcmd =>
    (List.mem_append.mp hcmd).elim (hcmds cmd) (hcmds' cmd)⟩

/-- What reading input does to the global variables. -/
structure ReadsInput (cfg : SysConfig D) (w w' : World D) : Prop where
  hosts : ∀ i, GetsCommands cfg i (w.hosts i) (w'.hosts i)
  rest : ∃ hosts exitMain inputs,
    w' = { w with hosts := hosts, exitMain := exitMain, inputs := inputs }

omit [CDouble D] in
theorem ReadsInput.trans {w w' w'' : World D} (h : ReadsInput cfg w w')
    (h' : ReadsInput cfg w' w'') : ReadsInput cfg w w'' where
  hosts i := (h.hosts i).trans (h'.hosts i)
  rest := by
    obtain ⟨_, _, _, rfl⟩ := h.rest
    obtain ⟨_, _, _, rfl⟩ := h'.rest
    exact ⟨_, _, _, rfl⟩

omit [CDouble D] in
theorem ReadsInput.of_hosts_eq {w : World D} (exitMain : Bool) (inputs : ℕ) :
    ReadsInput cfg w { w with exitMain := exitMain, inputs := inputs } where
  hosts i := GetsCommands.refl i _
  rest := ⟨_, _, _, rfl⟩

theorem ofInt_eq_ofNat {z : ℤ} (hz : 0 ≤ z) : UInt16.ofInt z = UInt16.ofNat z.toNat := by
  obtain ⟨n, rfl⟩ := Int.eq_ofNat_of_zero_le hz
  apply UInt16.toNat_inj.mp
  simp only [UInt16.ofInt, UInt16.toNat_ofNat', Int.toNat_natCast]
  omega

omit [CDouble D] in
theorem checkCommand_spec (inputCommand : String) (senderId receiverId : ℤ)
    (inputMessage : List UInt8) (w : World D) :
    ReadsInput cfg w (checkCommand cfg inputCommand senderId receiverId inputMessage w) := by
  rw [checkCommand]
  split
  · rename_i h
    refine ⟨fun i => ?_, ⟨_, _, _, rfl⟩⟩
    simp only [setHost, Function.update_apply]
    split
    · rename_i hi
      subst hi
      refine ⟨[_], rfl, fun cmd hcmd => ?_⟩
      rw [List.mem_singleton.mp hcmd]
      exact ⟨ofInt_eq_ofNat h.2.2.2.1, receiverId.toNat, by omega, ofInt_eq_ofNat h.2.2.2.2⟩
    · exact GetsCommands.refl i _
  · exact ReadsInput.of_hosts_eq w.exitMain w.inputs

omit [CDouble D] in
theorem checkInputLoop_spec (lines : List InputLine) (w : World D) :
    ReadsInput cfg w (checkInputLoop cfg lines w).2 := by
  induction lines generalizing w with
  | nil => exact ReadsInput.of_hosts_eq w.exitMain w.inputs
  | cons line lines ih =>
    cases line with
    | eof => exact ReadsInput.of_hosts_eq w.exitMain w.inputs
    | scanned sscanfRes inputCommand senderId receiverId inputMessage =>
      rw [checkInputLoop]
      split
      · split
        · exact ReadsInput.of_hosts_eq w.exitMain w.inputs
        · exact ih w
      · exact (checkCommand_spec ..).trans (ih _)

omit [CDouble D] in
/-- **`handle_input`** hands commands to hosts. -/
theorem handleInput_spec {w w' : World D} (h : handleInput cfg w = .ok w') :
    ReadsInput cfg w w' := by
  have hloop : ReadsInput cfg w (checkInput cfg w).2 :=
    (ReadsInput.of_hosts_eq w.exitMain (w.inputs + 1)).trans (checkInputLoop_spec _ _)
  rw [handleInput] at h
  split at h
  · simp at h
  · rename_i w₁ hexit
    rw [hexit] at hloop
    exact Except.ok.inj h ▸ hloop.trans (ReadsInput.of_hosts_eq true w₁.inputs)
  · rename_i w₁ hdone
    rw [hdone] at hloop
    exact Except.ok.inj h ▸ hloop

/-! ## The steps of the loop -/

variable (cfg) in
/-- What a step can be, by the point at which it starts. -/
inductive StepOf : State D → State D → Prop
  | input (w w' : World D) (rands : ℕ) (order : List ℕ) (h : ReadsInput cfg w w')
      (horder : order.Perm (List.range cfg.numHosts)) :
      StepOf ⟨.top, w⟩ ⟨.senders order, { w' with rands := rands }⟩
  | sender (w : World D) (i : ℕ) (todo : List ℕ) (host : Host D)
      (h : runSender cfg (w.hosts i) = .ok host) :
      StepOf ⟨.senders (i :: todo), w⟩ ⟨.senders todo, setHost i host w⟩
  | dataFrames (w w' : World D) (rands : ℕ) (order : List ℕ) (h : sendDataFrames cfg w = .ok w')
      (horder : order.Perm (List.range cfg.numHosts)) :
      StepOf ⟨.senders [], w⟩ ⟨.receivers order, { w' with rands := rands }⟩
  | receiver (w : World D) (i : ℕ) (todo : List ℕ) :
      StepOf ⟨.receivers (i :: todo), w⟩
        ⟨.receivers todo, setHost i (handleIncomingFrames cfg (w.hosts i)) w⟩
  | ackFrames (w w' : World D) (h : sendAckFrames cfg w = .ok w') :
      StepOf ⟨.receivers [], w⟩ ⟨.bottom, w'⟩
  | exit (w : World D) (h : gracefulExit cfg w = true) : StepOf ⟨.bottom, w⟩ ⟨.exited, w⟩
  | again (w : World D) : StepOf ⟨.bottom, w⟩ ⟨.top, w⟩
  | exited (w : World D) : StepOf ⟨.exited, w⟩ ⟨.exited, w⟩

/-- **Every step is one of these.** -/
theorem step_cases {s s' : State D} (h : step cfg s = .ok s') : StepOf cfg s s' := by
  obtain ⟨point, w⟩ := s
  cases point with
  | top =>
    simp only [step] at h
    cases hinput : (if w.exitMain = true then .ok w else handleInput cfg w) with
    | error e => simp [hinput] at h
    | ok w₁ =>
      have hreads : ReadsInput cfg w w₁ := by
        split at hinput
        · exact Except.ok.inj hinput ▸ ReadsInput.of_hosts_eq w.exitMain w.inputs
        · exact handleInput_spec hinput
      obtain ⟨rands, hworld⟩ := getRandSeq_world cfg.numHosts w₁
      simp only [hinput, hworld] at h
      exact Except.ok.inj h ▸ .input w w₁ rands _ hreads (getRandSeq_perm cfg.numHosts w₁)
  | senders todo =>
    cases todo with
    | nil =>
      simp only [step] at h
      cases hdata : sendDataFrames cfg w with
      | error e => simp [hdata] at h
      | ok w₁ =>
        obtain ⟨rands, hworld⟩ := getRandSeq_world cfg.numHosts w₁
        simp only [hdata, hworld] at h
        exact Except.ok.inj h ▸ .dataFrames w w₁ rands _ hdata (getRandSeq_perm cfg.numHosts w₁)
    | cons i todo =>
      simp only [step, runSenderTurn] at h
      cases hturn : runSender cfg (w.hosts i) with
      | error e => simp [hturn] at h
      | ok host =>
        simp only [hturn] at h
        exact Except.ok.inj h ▸ .sender w i todo host hturn
  | receivers todo =>
    cases todo with
    | nil =>
      simp only [step] at h
      cases hacks : sendAckFrames cfg w with
      | error e => simp [hacks] at h
      | ok w₁ =>
        simp only [hacks] at h
        exact Except.ok.inj h ▸ .ackFrames w w₁ hacks
    | cons i todo => exact Except.ok.inj h ▸ .receiver w i todo
  | bottom =>
    simp only [step] at h
    split at h
    · rename_i hexit
      exact Except.ok.inj h ▸ .exit w hexit
    · exact Except.ok.inj h ▸ .again w
  | exited => exact Except.ok.inj h ▸ .exited w

/-- A step that fails is the turn of a sender, or input or a frame is rejected. -/
theorem step_error {s : State D} (hports : PortsEmpty s.world) {e : Fault}
    (h : step cfg s = .error e) :
    (∃ i todo, s.point = .senders (i :: todo) ∧ runSender cfg (s.world.hosts i) = .error e) ∨
      e = .inputError ∨ e = .sanityCheck := by
  obtain ⟨point, w⟩ := s
  cases point with
  | top =>
    simp only [step] at h
    split at h
    · rename_i hinput
      obtain rfl := Except.error.inj h
      split at hinput
      · simp at hinput
      · rw [handleInput] at hinput
        split at hinput
        · exact .inr (.inl (Except.error.inj hinput).symm)
        · simp at hinput
        · simp at hinput
    · simp at h
  | senders todo =>
    cases todo with
    | nil =>
      simp only [step] at h
      split at h
      · rename_i hdata
        obtain rfl := Except.error.inj h
        exact .inr (.inr (sendDataFrames_error hports hdata))
      · simp at h
    | cons i todo =>
      simp only [step, runSenderTurn] at h
      cases hturn : runSender cfg (w.hosts i) with
      | error e' =>
        rw [hturn] at h
        obtain rfl := Except.error.inj h
        exact .inl ⟨i, todo, rfl, hturn⟩
      | ok host =>
        rw [hturn] at h
        simp at h
  | receivers todo =>
    cases todo with
    | nil =>
      simp only [step] at h
      split at h
      · rename_i hacks
        obtain rfl := Except.error.inj h
        exact .inr (.inr (sendAckFrames_error hacks))
      · simp at h
    | cons i todo => simp [step] at h
  | bottom =>
    simp only [step] at h
    split at h <;> simp at h
  | exited => simp [step] at h

/-- The step at which a run fails. -/
theorem exists_of_steps_error {n : ℕ} {s : State D} {e : Fault} (h : steps cfg n s = .error e) :
    ∃ m < n, ∃ s', steps cfg m s = .ok s' ∧ step cfg s' = .error e := by
  induction n generalizing s with
  | zero => simp [steps] at h
  | succ n ih =>
    rw [steps] at h
    split at h
    · rename_i hstep
      obtain rfl := Except.error.inj h
      exact ⟨0, Nat.succ_pos n, s, rfl, hstep⟩
    · rename_i s₁ hstep
      obtain ⟨m, hm, s', hs', herror⟩ := ih h
      refine ⟨m + 1, by omega, s', ?_, herror⟩
      rw [steps, hstep]
      exact hs'

end NetworkSim.Tcp
