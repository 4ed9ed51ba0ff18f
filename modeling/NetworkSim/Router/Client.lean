import NetworkSim.Router.VnsComm

/-!
# The client

`main` of `router/sr_main.c` with `sr_connect_to_server`: the client authenticates itself, asks for
its topology, and handles messages until the server closes the session or something goes wrong. The
server's bytes come in at any time, and between two steps of the main thread the sweeper may run,
once `sr_init` has started it. The socket is connected at the start, and the routing table is loaded
by the second call of `sr_load_rt_wrap`.
-/

namespace NetworkSim.Router

/-- Where `main` is. -/
inductive Phase
  /-- In `sr_connect_to_server`, before `VNS_AUTH_REQUEST`. -/
  | authRequest
  /-- In `sr_connect_to_server`, before `VNS_AUTH_STATUS`. -/
  | authStatus
  /-- In `sr_connect_to_server`, before `VNS_RTABLE`. -/
  | rtable
  /-- In the loop of `main`. -/
  | ready
  /-- The process has ended. -/
  | ended
  deriving DecidableEq

/-- The message that is expected, or 0. -/
def Phase.expectedCmd : Phase → UInt32
  | .authRequest => vnsAuthRequest
  | .authStatus => vnsAuthStatus
  | .rtable => vnsRtable
  | .ready => 0
  | .ended => 0

/-- The client with its connection. -/
structure Process where
  phase : Phase
  client : Client
  /-- What has come in and was not read. -/
  socket : List (Arrival UInt8)
  /-- History: the messages that were read, in order, and none for one whose length was not
  accepted. -/
  heard : List (Option (List UInt8))

/-- The message that `sr_connect_to_server` sends when the server has accepted the client. -/
def openMessage (c : Client) : List UInt8 :=
  if c.template ≠ [] then
    bytes32 (UInt32.ofNat openTemplateSize) ++ bytes32 vnsOpenTemplate ++ strncpy 30 c.template ++
      strncpy idSize c.host
  else
    bytes32 (UInt32.ofNat openSize) ++ bytes32 vnsOpen ++ bytes16 c.topoId ++ bytes16 0 ++
      strncpy idSize c.host ++ strncpy idSize c.user ++ List.replicate idSize 0

/-- `main` after `sr_connect_to_server`, up to its loop. -/
def enterLoop (env : ClientEnv) (c : Client) : Phase × Client :=
  match env.routingTable with
  | none => (.ended, c)
  | some routingTable =>
    (.ready, { c with state := srInit c.state.sr.ifList routingTable c.state.now })

/-- What follows when `sr_read_from_server_expect` returns. -/
def afterMessage (env : ClientEnv) (phase : Phase) (ret : ℤ) (c : Client) : Phase × Client :=
  if ret ≠ 1 then (.ended, c)
  else
    match phase with
    | .authRequest => (.authStatus, c)
    | .authStatus =>
      let (sent, c) := c.send env (openMessage c)
      if !sent then (.ended, c)
      else if c.template ≠ [] then (.rtable, c)
      else enterLoop env c
    | .rtable => enterLoop env c
    | phase => (phase, c)

/-- A message is handled, up to where the main thread takes the lock of the cache. -/
def handleMessage (env : ClientEnv) (phase : Phase) (beyond : ℕ → UInt8)
    (message : Option (List UInt8)) (c : Client) : Except Fault (Phase × Client) :=
  match message with
  | none => .ok (afterMessage env phase (-1) c)
  | some bytes =>
    (srReadFromServerExpect env phase.expectedCmd (messageBuf beyond bytes) c).val.map
      fun (ret, c) => afterMessage env phase ret c

/-- The main thread reads a message, when it has nothing else to do. As long as the message is not
there, it stays in `recv` or `read`. -/
def readMessage (env : ClientEnv) (p : Process) : Except Fault Process :=
  match p.phase, p.client.state.main with
  | .ended, _ => .ok p
  | phase, .idle =>
    match readFrame 4 bodyLength p.socket with
    | .waiting => .ok p
    | .failed => .ok { p with phase := .ended }
    | .frame message socket =>
      match handleMessage env phase (env.heap p.heard.length) message p.client with
      | .error fault => .error fault
      | .ok (phase, client) => .ok ⟨phase, client, socket, p.heard ++ [message]⟩
  | _, _ => .ok p

/-- A step of the threads, which run once the client is in its loop. -/
def threadStep (act : Act) (p : Process) : Except Fault Process :=
  match p.phase with
  | .ready =>
    match step act p.client.state with
    | .error fault => .error fault
    | .ok s => .ok { p with client := { p.client with state := s } }
  | _ => .ok p

/-- What can happen next. -/
inductive Event
  /-- Something comes in from the server. -/
  | arrive (arrival : Arrival UInt8)
  /-- The main thread reads a message. -/
  | read
  /-- A step of the main thread with a packet. -/
  | main
  /-- A turn of the sweeper. -/
  | sweep
  /-- Time passes. -/
  | wait (usec : ℕ)

/-- One step of the process. -/
def clientStep (env : ClientEnv) (event : Event) (p : Process) : Except Fault Process :=
  match event with
  | .arrive arrival => .ok { p with socket := p.socket ++ [arrival] }
  | .read => readMessage env p
  | .main => threadStep .main p
  | .sweep => threadStep .sweep p
  | .wait usec =>
    let s := p.client.state
    .ok { p with client := { p.client with state := { s with now := s.now + usec } } }

/-- A run. -/
def runClient (env : ClientEnv) : List Event → Process → Except Fault Process
  | [], p => .ok p
  | event :: events, p =>
    match clientStep env event p with
    | .error fault => .error fault
    | .ok p => runClient env events p

/-- `main` before it connects, at the time `now`. -/
def startClient (user host template : List UInt8) (topoId : UInt16) (now : ℕ) : Process :=
  ⟨.authRequest, ⟨srInit [] [] now, user, host, template, topoId, [], []⟩, [], []⟩

end NetworkSim.Router
