import NetworkSim.Router.Sending
import NetworkSim.Router.Sessions
import NetworkSim.Router.SlowPath

/-!
# Serving packets

Once the client is in its loop and has its interfaces, what its messages and its threads do to the
state of the router is a run of the router (`client_runs_router`): a message with a packet makes it
receive the packet, unless it is an ARP request for somebody else, and other messages do nothing.
-/

namespace NetworkSim.Router

variable {env : ClientEnv}

/-! ## What a message makes the router do -/

/-- What the router does with a message. -/
def actsOfMessage (ifList : List SrIf) (m : Buf) : List Act :=
  if m.get32 4 = vnsPacket then
    match (srArpReqNotForUs ifList (packetOf m) (m.readName baseSize).val).val with
    | .ok false => [.receive (packetOf m) (m.readName baseSize).val]
    | _ => []
  else []

/-- What the router does when the main thread reads. -/
def actsOfRead (env : ClientEnv) (p : Process) : List Act :=
  match p.phase, p.client.state.main with
  | .ready, .idle =>
    match readFrame 4 bodyLength p.socket with
    | .frame (some bytes) _ =>
      actsOfMessage p.client.state.sr.ifList (messageBuf (env.heap p.heard.length) bytes)
    | _ => []
  | _, _ => []

/-- What the router does when something happens to the process. -/
def actsOf (env : ClientEnv) (event : Event) (p : Process) : List Act :=
  match event with
  | .arrive _ => []
  | .read => actsOfRead env p
  | .main => if p.phase = .ready then [.main] else []
  | .sweep => if p.phase = .ready then [.sweep] else []
  | .wait usec => [.wait usec]

/-- What the router does during a run of the process. -/
def actsOfRun (env : ClientEnv) : List Event → Process → List Act
  | [], _ => []
  | event :: events, p =>
    actsOf env event p ++
      match clientStep env event p with
      | .ok p' => actsOfRun env events p'
      | .error _ => []

/-- A message that is not about interfaces, and brings no packet over one that does not exist. -/
def Ordinary (ifList : List SrIf) (m : Buf) : Prop :=
  m.get32 4 ≠ vnsHwinfo ∧
    (m.get32 4 = vnsPacket → srGetInterface ifList (m.readName baseSize).val ≠ none)

/-- Every message that is read during the run is ordinary. -/
def ReadsOrdinary (env : ClientEnv) : List Event → Process → Prop
  | [], _ => True
  | event :: events, p =>
    (event = .read → ∀ bytes socket, readFrame 4 bodyLength p.socket = .frame (some bytes) socket →
      Ordinary p.client.state.sr.ifList (messageBuf (env.heap p.heard.length) bytes)) ∧
    ∀ p', clientStep env event p = .ok p' → ReadsOrdinary env events p'

/-! ## Messages -/

theorem val_passPacket (packet : Buf) (interface : String) (s : State) :
    (passPacket packet interface s).val =
      match (srArpReqNotForUs s.sr.ifList packet interface).val with
      | .error fault => .error fault
      | .ok true => .ok s
      | .ok false => s.handled (srHandlepacket s.sr packet interface).val := by
  rw [passPacket, Traced.val_bind, val_orFault]
  cases (srArpReqNotForUs s.sr.ifList packet interface).val with
  | error fault => rfl
  | ok notForUs =>
    cases notForUs with
    | true => rfl
    | false =>
      change (do orFault (← srHandlepacket s.sr packet interface) fun result =>
        return .ok { s.record result.1 with main := result.2 } : Reads (Except Fault State)).val = _
      rw [val_bind_orFault]
      cases (srHandlepacket s.sr packet interface).val <;> rfl

/-- A message without a packet and without interfaces leaves the router alone. -/
theorem srReadFromServerExpect_state {m : Buf} (hpacket : m.get32 4 ≠ vnsPacket)
    (hhwinfo : m.get32 4 ≠ vnsHwinfo) (c : Client) :
    ∃ ret c', (srReadFromServerExpect env 0 m c).val = .ok (ret, c') ∧ c'.state = c.state := by
  have hrtable : (srHandleRtable env m c).val.2.state = c.state := by
    simp only [srHandleRtable, Traced.val_bind, Traced.val_ite]
    split <;> rfl
  have hauth : (srHandleAuthRequest env m c).val.2.state = c.state := by
    rcases Classical.em (env.authKey = none ∨ env.authKey = some []) with hkey | hkey
    · rw [val_srHandleAuthRequest_of_no_key hkey]
    · obtain ⟨file, hfile⟩ := Option.ne_none_iff_exists'.mp fun h => hkey (.inl h)
      rw [val_srHandleAuthRequest hfile fun h => hkey (.inr (h ▸ hfile))]
      rfl
  rw [val_srReadFromServerExpect, if_neg fun h => h.1 rfl, if_neg hpacket, if_neg hhwinfo]
  split_ifs
  all_goals first
    | exact ⟨_, _, rfl, rfl⟩
    | exact ⟨_, _, rfl, hrtable⟩
    | exact ⟨_, _, rfl, hauth⟩

theorem srArpReqNotForUs_ok {ifList : List SrIf} {interface : String}
    (h : srGetInterface ifList interface ≠ none) (packet : Buf) :
    ∃ notForUs, (srArpReqNotForUs ifList packet interface).val = .ok notForUs := by
  obtain ⟨iface, hiface⟩ := Option.ne_none_iff_exists'.mp h
  rw [srArpReqNotForUs, hiface]
  simp only [Traced.val_bind, Traced.val_ite, Traced.val_pure]
  split_ifs <;> exact ⟨_, rfl⟩

theorem afterMessage_ready (ret : ℤ) (c : Client) : (afterMessage env .ready ret c).2 = c := by
  by_cases hret : ret = 1
  · have hafter : afterMessage env .ready ret c = (.ready, c) := if_neg fun hne => hne hret
    rw [hafter]
  · rw [afterMessage_of_ne hret]

/-- What happens to the state when an ordinary message is handled. -/
theorem map_handleMessage {beyond : ℕ → UInt8} {bytes : List UInt8} {c : Client} :
    (handleMessage env .ready beyond (some bytes) c).map (fun result => result.2.state) =
      (srReadFromServerExpect env 0 (messageBuf beyond bytes) c).val.map
        fun result => result.2.state := by
  rw [handleMessage]
  change (Except.map _ (Except.map _ (srReadFromServerExpect env 0 _ c).val)) = _
  cases (srReadFromServerExpect env 0 (messageBuf beyond bytes) c).val with
  | error fault => rfl
  | ok result => exact congrArg (fun c : Client => Except.ok c.state) (afterMessage_ready _ _)

/-- Handling an ordinary message is a run of the router. -/
theorem handleMessage_ready {beyond : ℕ → UInt8} {bytes : List UInt8} {c : Client}
    (hidle : c.state.main = .idle)
    (hordinary : Ordinary c.state.sr.ifList (messageBuf beyond bytes)) :
    (handleMessage env .ready beyond (some bytes) c).map (fun result => result.2.state) =
      runActs (actsOfMessage c.state.sr.ifList (messageBuf beyond bytes)) c.state := by
  rw [map_handleMessage]
  generalize messageBuf beyond bytes = m at hordinary
  obtain ⟨hhwinfo, hknown⟩ := hordinary
  by_cases hpacket : m.get32 4 = vnsPacket
  · obtain ⟨notForUs, hfilter⟩ := srArpReqNotForUs_ok (hknown hpacket) (packetOf m)
    have hread : (srReadPacket m c.state).val =
        (passPacket (packetOf m) (m.readName baseSize).val c.state).val := Traced.val_bind _ _
    rw [actsOfMessage, if_pos hpacket, val_srReadFromServerExpect, if_neg fun h => h.1 rfl,
      if_pos hpacket, hread, val_passPacket, hfilter]
    cases notForUs with
    | true => rfl
    | false =>
      have hrun : runActs [.receive (packetOf m) (m.readName baseSize).val] c.state =
          receive (packetOf m) (m.readName baseSize).val c.state := by
        rw [runActs, step]
        cases receive (packetOf m) (m.readName baseSize).val c.state <;> rfl
      rw [hrun, receive_of_idle hidle]
      generalize c.state.handled _ = result
      cases result <;> rfl
  · obtain ⟨ret, c', hval, hstate⟩ := @srReadFromServerExpect_state env m hpacket hhwinfo c
    rw [actsOfMessage, if_neg hpacket, hval]
    exact congrArg Except.ok hstate

/-! ## Runs -/

theorem runActs_single (act : Act) (s : State) : runActs [act] s = step act s := by
  rw [runActs]
  cases step act s <;> rfl

theorem map_threadStep (act : Act) {p : Process} (hphase : p.phase = .ready ∨ p.phase = .ended) :
    (threadStep act p).map (fun p' => p'.client.state) =
      runActs (if p.phase = .ready then [act] else []) p.client.state := by
  rcases hphase with hphase | hphase
  · rw [threadStep, hphase, if_pos rfl, runActs_single]
    generalize step act p.client.state = result
    cases result <;> rfl
  · rw [threadStep, hphase]
    rfl

theorem map_readMessage {p : Process} (hphase : p.phase = .ready ∨ p.phase = .ended)
    (hordinary : ∀ bytes socket, readFrame 4 bodyLength p.socket = .frame (some bytes) socket →
      Ordinary p.client.state.sr.ifList (messageBuf (env.heap p.heard.length) bytes)) :
    (readMessage env p).map (fun p' => p'.client.state) =
      runActs (actsOfRead env p) p.client.state := by
  rcases hphase with hphase | hphase
  · by_cases hidle : p.client.state.main = .idle
    · rw [readMessage, actsOfRead, hphase, hidle]
      cases hframe : readFrame 4 bodyLength p.socket with
      | waiting => rfl
      | failed => rfl
      | frame message socket =>
        cases message with
        | none => rfl
        | some bytes =>
          have hready := @handleMessage_ready env _ _ _ hidle (hordinary bytes socket hframe)
          simp only
          rw [← hready]
          cases handleMessage env .ready (env.heap p.heard.length) (some bytes) p.client <;> rfl
    · have hread : readMessage env p = .ok p := by
        unfold readMessage
        split
        · rfl
        · exact absurd ‹_› hidle
        · rfl
      have hnone : actsOfRead env p = [] := by
        unfold actsOfRead
        split
        · exact absurd ‹_› hidle
        · rfl
      rw [hread, hnone]
      rfl
  · rw [readMessage, actsOfRead, hphase]
    rfl

/-- A step of the process is a run of the router. -/
theorem map_clientStep {event : Event} {p : Process} (hphase : p.phase = .ready ∨ p.phase = .ended)
    (hordinary : event = .read → ∀ bytes socket,
      readFrame 4 bodyLength p.socket = .frame (some bytes) socket →
        Ordinary p.client.state.sr.ifList (messageBuf (env.heap p.heard.length) bytes)) :
    (clientStep env event p).map (fun p' => p'.client.state) =
      runActs (actsOf env event p) p.client.state := by
  cases event with
  | arrive arrival => rfl
  | read => exact map_readMessage hphase (hordinary rfl)
  | main => exact map_threadStep .main hphase
  | sweep => exact map_threadStep .sweep hphase
  | wait usec => rfl

/-- The loop of `main` is not left but for the end. -/
theorem phase_clientStep {event : Event} {p p' : Process}
    (hphase : p.phase = .ready ∨ p.phase = .ended) (hstep : clientStep env event p = .ok p') :
    p'.phase = .ready ∨ p'.phase = .ended := by
  have hthread (act : Act) (hthread : threadStep act p = .ok p') :
      p'.phase = .ready ∨ p'.phase = .ended := by
    rcases threadStep_cases hthread with rfl | ⟨s, -, -, rfl⟩ <;> exact hphase
  cases event with
  | arrive arrival => exact Except.ok.inj hstep ▸ hphase
  | main => exact hthread .main hstep
  | sweep => exact hthread .sweep hstep
  | wait usec => exact Except.ok.inj hstep ▸ hphase
  | read =>
    rcases readMessage_cases hstep with rfl | ⟨-, rfl⟩ |
      ⟨message, socket, result, hover, -, -, hhandle, rfl⟩
    · exact hphase
    · exact .inr rfl
    · rw [hphase.resolve_right hover] at hhandle
      rcases handleMessage_cases hhandle with ⟨-, rfl⟩ | ⟨bytes, ret, c', -, -, rfl⟩
      · exact .inr rfl
      · by_cases hret : ret = 1
        · have hafter : afterMessage env .ready ret c' = (.ready, c') :=
            if_neg fun hne => hne hret
          exact .inl (congrArg Prod.fst hafter)
        · exact .inr (congrArg Prod.fst (afterMessage_of_ne hret _ _))

/-- **What a client does to its router is a run of the router**, from where the loop of `main` is
reached on: in the same order, to the same state, or to the same fault. -/
theorem client_runs_router (env : ClientEnv) (events : List Event) (p : Process)
    (hphase : p.phase = .ready ∨ p.phase = .ended) (hordinary : ReadsOrdinary env events p) :
    (runClient env events p).map (fun p' => p'.client.state) =
      runActs (actsOfRun env events p) p.client.state := by
  induction events generalizing p with
  | nil => rfl
  | cons event events ih =>
    obtain ⟨hread, hnext⟩ := hordinary
    rw [runClient, actsOfRun, runActs_append, ← map_clientStep hphase hread]
    cases hstep : clientStep env event p with
    | error fault => rfl
    | ok p' => exact ih p' (phase_clientStep hphase hstep) (hnext p' hstep)

theorem ReadsOrdinary.of_no_read {events : List Event} (h : .read ∉ events) (p : Process) :
    ReadsOrdinary env events p := by
  induction events generalizing p with
  | nil => trivial
  | cons event events ih =>
    refine ⟨fun heq => absurd (heq ▸ List.mem_cons_self) h, fun p' _ => ih (fun hmem => ?_) p'⟩
    exact h (List.mem_cons_of_mem _ hmem)

/-- A client in its loop that has `eth1`. -/
def readyClient : Process :=
  ⟨.ready, { (startClient [] [] [] 0 0).client with
    state := srInit oneInterface.ifList oneInterface.routingTable 0 }, [], []⟩

/-- A ping comes in, and is forwarded. -/
def servePing : List Event :=
  [.arrive (.chunk (packetMessage (pingPacket 64 0x66 0xdd).bytes "eth1")), .read, .main, .main]

theorem client_runs_router_ping :
    (runClient noKey servePing readyClient).map (fun p => p.client.state) =
      runActs (actsOfRun noKey servePing readyClient) readyClient.client.state := by
  obtain ⟨message, hmessage⟩ :
      ∃ message, packetMessage (pingPacket 64 0x66 0xdd).bytes "eth1" = message := ⟨_, rfl⟩
  have hwell : WellFormed message := by
    rw [← hmessage]
    exact wellFormed_packetMessage "eth1" (by decide)
  refine client_runs_router noKey servePing readyClient (.inl rfl) ⟨?_, fun p hp => ?_⟩
  · rintro ⟨⟩
  · rw [← Except.ok.inj hp]
    refine ⟨fun _ bytes socket hframe => ?_, fun p' _ => .of_no_read (by simp) p'⟩
    change readFrame 4 bodyLength
      [.chunk (packetMessage (pingPacket 64 0x66 0xdd).bytes "eth1")] = _
      at hframe
    rw [hmessage] at hframe
    have hno : NoFailure [Arrival.chunk message] := by simp [NoFailure]
    have heq := @readFrame_eq UInt8 4 bodyLength _ hno
    rw [streamOf, streamOf, hwell.takeFrame_append, hframe] at heq
    obtain ⟨rest, heq, -⟩ := heq
    obtain rfl : bytes = message := Option.some.inj (FrameResult.frame.inj heq).1
    rw [messageBuf_of_wellFormed hwell, ← hmessage]
    refine ⟨?_, fun _ => ?_⟩
    · change (commandOf (packetMessageBuf _ _ _)).val ≠ _
      rw [commandOf_packetMessageBuf]
      decide
    · change srGetInterface _ ((packetMessageBuf _ _ _).readName baseSize).val ≠ none
      rw [readName_packetMessageBuf _ _ _ ⟨by decide, by simp⟩]
      decide

end NetworkSim.Router
