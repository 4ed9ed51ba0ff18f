import NetworkSim.Tcp.Receiver

/-!
# The switch

The functions of `tcp/src/switch.c` on the array of all hosts. `rand()` is a stream of values, read
one after the other. The endless service loop of `send_data_frames` is given as many rounds as there
are frames to serve, and one more.
-/

namespace NetworkSim.Tcp

variable {D : Type} [CDouble D] (cfg : SysConfig D)

/-- `struct IngressPort_t`. -/
structure Ingress where
  bufferQueueHead : List Frame
  bufferQueueSize : ℕ

/-- A line of the standard input as `check_input` sees it: the end of the file, or what `sscanf`
makes of the line. -/
inductive InputLine
  | eof
  | scanned (sscanfRes : ℤ) (inputCommand : String) (senderId receiverId : ℤ)
      (inputMessage : List UInt8)

/-- What the simulator takes from outside the hosts: the values of `rand()`, and the lines that each
call of `check_input` finds. -/
structure WorldEnv where
  rand : ℕ → ℕ
  stdin : ℕ → List InputLine

/-- The global variables. -/
structure World (D : Type) where
  hosts : ℕ → Host D
  ingressPorts : ℕ → Ingress
  ingressPortQueueCapacity : ℕ
  exitMain : Bool
  env : WorldEnv
  /-- Values of `rand()` taken so far. -/
  rands : ℕ
  /-- Calls of `check_input` so far. -/
  inputs : ℕ

/-- `rand()`. -/
def rand (w : World D) : ℕ × World D := (w.env.rand w.rands, { w with rands := w.rands + 1 })

/-- An update of `glb_hosts_array[id]`. -/
def setHost (id : ℕ) (host : Host D) (w : World D) : World D :=
  { w with hosts := Function.update w.hosts id host }

/-! ## Random orders -/

/-- The second loop of `get_rand_seq`, over the values of `i` still to come. -/
def shuffle (len : ℕ) : List ℕ → List ℕ → World D → List ℕ × World D
  | [], hostOrder, w => (hostOrder, w)
  | i :: is, hostOrder, w =>
    let (r1, w) := rand w
    let (r2, w) := rand w
    let randIdx1 := r1 % len
    let randIdx2 := r2 % (i + 1)
    let temp := hostOrder.getD randIdx1 0
    let hostOrder := hostOrder.set randIdx1 (hostOrder.getD randIdx2 0)
    shuffle len is (hostOrder.set randIdx2 temp) w

/-- `get_rand_seq`. -/
def getRandSeq (len : ℕ) (w : World D) : List ℕ × World D :=
  shuffle len (List.range len) (List.range len) w

/-! ## Sending one frame -/

/-- The byte that `send_frame` complements, if any. -/
def complementByte (index : ℕ) (frame : Frame) : Frame :=
  let charBuf := convertFrameToChar frame
  convertCharToFrame ⟨charBuf.toList.set index (~~~ charBuf.toList.getD index 0), by simp⟩

/-- `send_frame`. -/
def sendFrame (frame : Frame) (w : World D) : World D :=
  let dstId := frame.dstId.toNat
  let probPrec : ℤ := 1000
  let corruptProb := CDouble.toInt (CDouble.mul (CDouble.ofInt probPrec) cfg.corruptProb)
  let (_, w) := rand w
  let (r, w) := rand w
  let randomNum : ℤ := r % probPrec
  let (frame, w) :=
    if randomNum < corruptProb then
      let (r, w) := rand w
      (complementByte (r % maxFrameSize) frame, w)
    else (frame, w)
  let dstHost := w.hosts dstId
  setHost dstId
    { dstHost with incomingFramesHead := dstHost.incomingFramesHead ++ [frame] } w

/-! ## Data frames -/

/-- The loop of `send_data_frames` that services the queue of one ingress port. -/
def serviceIngressPort (i : ℕ) : ℕ → ℕ → World D → Except Fault (ℕ × World D)
  | 0, accepted, w => .ok (accepted, w)
  | fuel + 1, accepted, w =>
    let port := w.ingressPorts i
    if 0 < port.bufferQueueSize ∧ accepted < cfg.recvAcceptRate then
      match port.bufferQueueHead with
      | [] => .error .nullFrame
      | frame :: rest =>
        let w := { w with
          ingressPorts := Function.update w.ingressPorts i ⟨rest, port.bufferQueueSize - 1⟩ }
        match frameSanityCheck cfg frame with
        | .error e => .error e
        | .ok () => serviceIngressPort i fuel (accepted + 1) (sendFrame cfg frame w)
    else .ok (accepted, w)

/-- The first loop of `send_data_frames`, over the ports still to be serviced; the function is
`incoming_frames_accept`. -/
def serviceIngressPorts : List ℕ → (ℕ → ℕ) → World D → Except Fault ((ℕ → ℕ) × World D)
  | [], accept, w => .ok (accept, w)
  | i :: is, accept, w =>
    match serviceIngressPort cfg i (w.ingressPorts i).bufferQueueSize (accept i) w with
    | .error e => .error e
    | .ok (accepted, w) => serviceIngressPorts is (Function.update accept i accepted) w

/-- What the service loop does with a frame taken from a host: it is queued or dropped when its
receiver has accepted its share, and else sent. -/
def serviceFrame (frame : Frame) (accept : ℕ → ℕ) (w : World D) : (ℕ → ℕ) × World D :=
  let recvId := frame.dstId.toNat
  let port := w.ingressPorts recvId
  if accept recvId ≥ cfg.recvAcceptRate then
    if port.bufferQueueSize < w.ingressPortQueueCapacity then
      let port : Ingress := ⟨port.bufferQueueHead ++ [frame], port.bufferQueueSize + 1⟩
      (accept, { w with ingressPorts := Function.update w.ingressPorts recvId port })
    else (accept, w)
  else (Function.update accept recvId (accept recvId + 1), sendFrame cfg frame w)

/-- One pass of the service loop over the hosts still to be served, with
`num_empty_output_queues`. -/
def servicePass : List ℕ → ℕ → (ℕ → ℕ) → World D → Except Fault (ℕ × (ℕ → ℕ) × World D)
  | [], numEmpty, accept, w => .ok (numEmpty, accept, w)
  | senderId :: senderIds, numEmpty, accept, w =>
    match (w.hosts senderId).outgoingFramesHead with
    | [] => servicePass senderIds (numEmpty + 1) accept w
    | frame :: rest =>
      let w := setHost senderId { w.hosts senderId with outgoingFramesHead := rest } w
      match frameSanityCheck cfg frame with
      | .error e => .error e
      | .ok () =>
        let (accept, w) := serviceFrame cfg frame accept w
        servicePass senderIds numEmpty accept w

/-- The loop `while (1)` of `send_data_frames`. -/
def serviceLoop : ℕ → (ℕ → ℕ) → World D → Except Fault (World D)
  | 0, _, _ => .error .outOfFuel
  | fuel + 1, accept, w =>
    let (hostOrder, w) := getRandSeq cfg.numHosts w
    match servicePass cfg hostOrder 0 accept w with
    | .error e => .error e
    | .ok (numEmpty, accept, w) =>
      if numEmpty = cfg.numHosts then .ok w else serviceLoop fuel accept w

/-- The number of frames in all `outgoing_frames_head`. -/
def outgoingTotal (w : World D) : ℕ :=
  ((List.range cfg.numHosts).map (fun i => (w.hosts i).outgoingFramesHead.length)).sum

/-- `send_data_frames`, without the diagnostics at its end. Their reads of `cc` and of the counters
leave the arrays when `host_send_cc_id` or `host_recv_cc_id` is no host. -/
def sendDataFrames (w : World D) : Except Fault (World D) :=
  match serviceIngressPorts cfg (List.range cfg.numHosts) (fun _ => 0) w with
  | .error e => .error e
  | .ok (accept, w) => serviceLoop cfg (outgoingTotal cfg w + 1) accept w

/-! ## ACK frames -/

/-- The loop of `send_ack_frames` on the frames of one host still to be sent. -/
def sendAckFramesOf (i : ℕ) : List Frame → World D → Except Fault (World D)
  | [], w => .ok w
  | frame :: rest, w =>
    let w := setHost i { w.hosts i with outgoingFramesHead := rest } w
    match frameSanityCheck cfg frame with
    | .error e => .error e
    | .ok () => sendAckFramesOf i rest (sendFrame cfg frame w)

/-- `send_ack_frames`, over the hosts still to be served. -/
def sendAckFramesLoop : List ℕ → World D → Except Fault (World D)
  | [], w => .ok w
  | i :: is, w =>
    match sendAckFramesOf cfg i (w.hosts i).outgoingFramesHead w with
    | .error e => .error e
    | .ok w => sendAckFramesLoop is w

/-- `send_ack_frames`. -/
def sendAckFrames (w : World D) : Except Fault (World D) :=
  sendAckFramesLoop cfg (List.range cfg.numHosts) w

end NetworkSim.Tcp
