import NetworkSim.Tcp.Switch

/-!
# The main loop

`run_config`, `init`, `init_host`, `check_input`, `handle_input`, `graceful_exit`, `run_hosts` and
the loop of `main`. The run is given one step at a time (`step`): a step is the turn of one host in
`run_senders` or `run_receivers`, or one of the other calls of the loop, and a `Point` says where in
the loop the process stands. `mainLoop` composes the calls as the source does; it is a sequence of
steps (`mainLoop_steps`).
-/

namespace NetworkSim.Tcp

variable {D : Type} [CDouble D]

/-! ## Configuration -/

/-- The values that `run_config` has after reading the file, before it checks them. -/
structure RawConfig (D : Type) where
  numHosts : ℤ
  windowSize : ℤ
  corruptProb : D
  recvAcceptRate : ℤ
  hostSendCcId : ℕ
  hostRecvCcId : ℕ

/-- `run_config`: `none` when it calls `exit(1)`. -/
def runConfig (raw : RawConfig D) : Option (SysConfig D) :=
  if h : 0 < raw.recvAcceptRate ∧ 2 ≤ raw.numHosts ∧
      CDouble.gt (CDouble.ofInt 0) raw.corruptProb = false ∧
      CDouble.gt raw.corruptProb (CDouble.ofInt 1) = false ∧ 0 < raw.windowSize then
    some
      { numHosts := raw.numHosts.toNat
        windowSize := raw.windowSize.toNat
        corruptProb := raw.corruptProb
        recvAcceptRate := raw.recvAcceptRate.toNat
        hostSendCcId := raw.hostSendCcId
        hostRecvCcId := raw.hostRecvCcId
        two_le_numHosts := by omega
        windowSize_pos := by omega
        recvAcceptRate_pos := by omega }
  else none

/-- The values that a configuration was made of. -/
def SysConfig.raw (cfg : SysConfig D) : RawConfig D where
  numHosts := cfg.numHosts
  windowSize := cfg.windowSize
  corruptProb := cfg.corruptProb
  recvAcceptRate := cfg.recvAcceptRate
  hostSendCcId := cfg.hostSendCcId
  hostRecvCcId := cfg.hostRecvCcId

/-- **What `run_config` accepts**: the values of the configurations whose corruption probability is
a probability. -/
theorem runConfig_eq_some_iff (raw : RawConfig D) (cfg : SysConfig D) :
    runConfig raw = some cfg ↔
      raw = cfg.raw ∧ CDouble.gt (CDouble.ofInt 0) cfg.corruptProb = false ∧
        CDouble.gt cfg.corruptProb (CDouble.ofInt 1) = false := by
  constructor
  · intro h
    rw [runConfig] at h
    split at h
    · rename_i haccepted
      obtain ⟨hrate, hhosts, hge, hle, hwindow⟩ := haccepted
      obtain rfl := Option.some.inj h
      refine ⟨?_, hge, hle⟩
      rw [SysConfig.raw]
      simp only [Int.toNat_of_nonneg hrate.le, Int.toNat_of_nonneg hwindow.le,
        Int.toNat_of_nonneg ((by decide : (0 : ℤ) ≤ 2).trans hhosts)]
    · cases h
  · rintro ⟨rfl, hge, hle⟩
    have hhosts := cfg.two_le_numHosts
    have hwindow := cfg.windowSize_pos
    have hrate := cfg.recvAcceptRate_pos
    have haccepted : 0 < cfg.raw.recvAcceptRate ∧ 2 ≤ cfg.raw.numHosts ∧
        CDouble.gt (CDouble.ofInt 0) cfg.raw.corruptProb = false ∧
        CDouble.gt cfg.raw.corruptProb (CDouble.ofInt 1) = false ∧ 0 < cfg.raw.windowSize :=
      ⟨Int.natCast_pos.mpr hrate, Int.ofNat_le.mpr hhosts, hge, hle, Int.natCast_pos.mpr hwindow⟩
    rw [runConfig, dif_pos haccepted]
    rfl

/-- The configuration of `test_suite/cc_basic.cfg`, the default one. -/
def ccBasicConfig : SysConfig ℚ where
  numHosts := 5
  windowSize := 8
  corruptProb := 0
  recvAcceptRate := 4
  hostSendCcId := 0
  hostRecvCcId := 0
  two_le_numHosts := by decide
  windowSize_pos := by decide
  recvAcceptRate_pos := by decide

example : runConfig ⟨5, 8, (0 : ℚ), 4, 0, 0⟩ = some ccBasicConfig := rfl

/-- Two hosts with windows of `windowSize` places, and frames of which half are corrupted. -/
def lossyConfig (windowSize : ℕ) (h : 0 < windowSize) : SysConfig ℚ where
  numHosts := 2
  windowSize := windowSize
  corruptProb := 1 / 2
  recvAcceptRate := 10
  hostSendCcId := 0
  hostRecvCcId := 0
  two_le_numHosts := le_rfl
  windowSize_pos := h
  recvAcceptRate_pos := by decide

variable (cfg : SysConfig D)

/-! ## Initialisation -/

/-- `init_host`. -/
def initHost (id : ℕ) (env : HostEnv) : Host D where
  id := id
  awaitingAck := false
  active := false
  roundTripNum := 0
  csvOut := false
  inputCmdlistHead := []
  incomingFramesHead := []
  bufferedOutframesHead := []
  outgoingFramesHead := []
  sendWindow := fun _ => .empty
  latestTimeout := env.clock 0
  sendWindowStart := fun _ => 0
  sendWindowLength := fun _ => 0
  recvWindow := fun _ => none
  recvWindowStart := fun _ => 0
  recvLfr := fun _ => 255
  recvMsgHead := fun _ => []
  currSeqNum := fun _ => 0
  cc := fun _ => ⟨CDouble.ofInt 1, CDouble.ofInt cfg.windowSize, 0, .ss⟩
  dupAcksSeqNum := fun _ => 255
  env := env
  ticks := 1
  mallocs := 0
  copies := 0
  log := .empty

/-- `init`. -/
def init (hostEnv : ℕ → HostEnv) (env : WorldEnv) : World D where
  hosts i := initHost cfg i (hostEnv i)
  ingressPorts := fun _ => ⟨[], 0⟩
  ingressPortQueueCapacity := 0
  exitMain := false
  env := env
  rands := 0
  inputs := 0

/-! ## Input -/

/-- The result of `check_input`: it read all there was, the command `exit`, or the end of the
file. -/
inductive InputRes
  | done
  | exit
  | error

/-- The body of the loop of `check_input` on a line that names a command with its arguments. -/
def checkCommand (inputCommand : String) (senderId receiverId : ℤ) (inputMessage : List UInt8)
    (w : World D) : World D :=
  if inputCommand = "msg" ∧ senderId < cfg.numHosts ∧ receiverId < cfg.numHosts ∧
      0 ≤ senderId ∧ 0 ≤ receiverId then
    let cmd : Cmd := ⟨UInt16.ofInt senderId, UInt16.ofInt receiverId, inputMessage⟩
    let sender := w.hosts senderId.toNat
    setHost senderId.toNat
      { sender with inputCmdlistHead := sender.inputCmdlistHead ++ [cmd] } w
  else w

/-- The loop of `check_input`. -/
def checkInputLoop : List InputLine → World D → InputRes × World D
  | [], w => (.done, w)
  | .eof :: _, w => (.error, w)
  | .scanned sscanfRes inputCommand senderId receiverId inputMessage :: lines, w =>
    if sscanfRes < 4 then
      if inputCommand = "exit" then (.exit, w) else checkInputLoop lines w
    else
      checkInputLoop lines (checkCommand cfg inputCommand senderId receiverId inputMessage w)

/-- `check_input`. -/
def checkInput (w : World D) : InputRes × World D :=
  checkInputLoop cfg (w.env.stdin w.inputs) { w with inputs := w.inputs + 1 }

/-- `handle_input`. -/
def handleInput (w : World D) : Except Fault (World D) :=
  match checkInput cfg w with
  | (.error, _) => .error .inputError
  | (.exit, w) => .ok { w with exitMain := true }
  | (.done, w) => .ok w

/-! ## The loop of `main` -/

/-- Whether `graceful_exit` calls `exit(0)`. -/
def gracefulExit (w : World D) : Bool :=
  w.exitMain && (List.range cfg.numHosts).all (fun i => !(w.hosts i).active)

/-- The turn of host `i` in `run_senders`. -/
def runSenderTurn (i : ℕ) (w : World D) : Except Fault (World D) :=
  match runSender cfg (w.hosts i) with
  | .error e => .error e
  | .ok host => .ok (setHost i host w)

/-- The turn of host `i` in `run_receivers`. -/
def runReceiverTurn (i : ℕ) (w : World D) : World D :=
  setHost i (handleIncomingFrames cfg (w.hosts i)) w

/-- Where in the loop of `main` the process stands. -/
inductive Point
  /-- At the top of the loop. -/
  | top
  /-- In `run_senders`, with the hosts still to take their turn. -/
  | senders (todo : List ℕ)
  /-- In `run_receivers`, with the hosts still to take their turn. -/
  | receivers (todo : List ℕ)
  /-- Before `graceful_exit`. -/
  | bottom
  /-- After `exit(0)`. -/
  | exited
  deriving DecidableEq

/-- A state of the process. -/
structure State (D : Type) where
  point : Point
  world : World D

/-- One step of the process. -/
def step (s : State D) : Except Fault (State D) :=
  match s.point with
  | .top =>
    match if s.world.exitMain then .ok s.world else handleInput cfg s.world with
    | .error e => .error e
    | .ok w =>
      let (senderOrder, w) := getRandSeq cfg.numHosts w
      .ok ⟨.senders senderOrder, w⟩
  | .senders (i :: todo) =>
    match runSenderTurn cfg i s.world with
    | .error e => .error e
    | .ok w => .ok ⟨.senders todo, w⟩
  | .senders [] =>
    match sendDataFrames cfg s.world with
    | .error e => .error e
    | .ok w =>
      let (recvOrder, w) := getRandSeq cfg.numHosts w
      .ok ⟨.receivers recvOrder, w⟩
  | .receivers (i :: todo) => .ok ⟨.receivers todo, runReceiverTurn cfg i s.world⟩
  | .receivers [] =>
    match sendAckFrames cfg s.world with
    | .error e => .error e
    | .ok w => .ok ⟨.bottom, w⟩
  | .bottom => if gracefulExit cfg s.world then .ok ⟨.exited, s.world⟩ else .ok ⟨.top, s.world⟩
  | .exited => .ok s

/-- `n` steps. -/
def steps : ℕ → State D → Except Fault (State D)
  | 0, s => .ok s
  | n + 1, s =>
    match step cfg s with
    | .error e => .error e
    | .ok s => steps n s

/-- A run in which host 0 is told to send "hi" to host 1, and then the simulator to exit. -/
def helloEnv : WorldEnv :=
  ⟨fun k => k, fun k =>
    if k = 0 then [.scanned 4 "msg" 0 1 [104, 105]] else [.scanned 1 "exit" 0 0 []]⟩

set_option maxRecDepth 10000 in
/-- With the default configuration it does so after two rounds, with the message printed. -/
example : ((steps ccBasicConfig 28 ⟨.top, init ccBasicConfig (fun _ => .still) helloEnv⟩).map
    (fun s => (s.point, (s.world.hosts 1).log.printed))).toOption =
      some (.exited, [[104, 105, 0]]) := by decide +kernel

/-! ## The calls as the source nests them -/

/-- The loop of `run_senders`. -/
def runSendersLoop : List ℕ → World D → Except Fault (World D)
  | [], w => .ok w
  | i :: is, w =>
    match runSenderTurn cfg i w with
    | .error e => .error e
    | .ok w => runSendersLoop is w

/-- `run_senders`. -/
def runSenders (w : World D) : Except Fault (World D) :=
  let (senderOrder, w) := getRandSeq cfg.numHosts w
  runSendersLoop cfg senderOrder w

/-- `run_receivers`. -/
def runReceivers (w : World D) : World D :=
  let (recvOrder, w) := getRandSeq cfg.numHosts w
  recvOrder.foldl (fun w i => runReceiverTurn cfg i w) w

/-- `run_hosts`. -/
def runHosts (w : World D) : Except Fault (World D) :=
  match runSenders cfg w with
  | .error e => .error e
  | .ok w =>
    match sendDataFrames cfg w with
    | .error e => .error e
    | .ok w => sendAckFrames cfg (runReceivers cfg w)

/-- The body of the loop of `main` up to `graceful_exit`. -/
def mainLoop (w : World D) : Except Fault (World D) :=
  match if w.exitMain then .ok w else handleInput cfg w with
  | .error e => .error e
  | .ok w => runHosts cfg w

end NetworkSim.Tcp
