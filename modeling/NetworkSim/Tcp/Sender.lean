import NetworkSim.Tcp.Util

/-!
# The sender

The functions of `tcp/src/sender.c` on one host: `handle_input_cmds`, `handle_incoming_acks`,
`handle_timedout_frames`, `handle_outgoing_frames`, and the body of the loop of `run_senders`. A
loop that walks a linked list with a cursor is a recursion over the nodes still to be visited; the
nodes it has passed over and left in the list are its argument `kept`.
-/

namespace NetworkSim.Tcp

variable {D : Type} [CDouble D] (cfg : SysConfig D)

/-! ## Congestion control -/

namespace CDouble

/-- `cwnd++`. -/
def incr (x : D) : D := add x (ofInt 1)

/-- `max_double`. -/
def max (a b : D) : D := if ge a b then a else b

end CDouble

open CDouble

omit [CDouble D] in
/-- An update of `host->cc[id]`. -/
def setCc (id : ℕ) (cc : CongestionControl D) (host : Host D) : Host D :=
  { host with cc := Function.update host.cc id cc }

/-! ## Time -/

omit [CDouble D] in
/-- One round of the inner loop of `host_get_next_expiring_timeval`. -/
def earlierTimeout (nextTimeout timeout : Option TimeVal) : Option TimeVal :=
  match timeout, nextTimeout with
  | none, _ => nextTimeout
  | some t, none => some t
  | some t, some next => if timevalUsecdiff next t < 0 then some t else some next

omit [CDouble D] in
/-- `host_get_next_expiring_timeval`. -/
def hostGetNextExpiringTimeval (host : Host D) : Option TimeVal :=
  (List.range cfg.numHosts).foldl
    (fun nextTimeout recvId =>
      if recvId = host.id then nextTimeout
      else (List.range (cqGetLengthSend recvId host)).foldl
        (fun nextTimeout i => earlierTimeout nextTimeout (cqGetItemSend cfg recvId i host).timeout)
        nextTimeout)
    none

/-! ## Acknowledgements -/

/-- The first half of the body of `handle_incoming_acks`: an ACK beyond `dup_acks_seq_num` starts a
new count of duplicates, an equal one is counted and, in fast recovery, widens the window. -/
def updateDupAcks (srcId seqNum : UInt8) (host : Host D) : Host D :=
  let cc := host.cc srcId.toNat
  if seqNumDiff (host.dupAcksSeqNum srcId.toNat) seqNum > 0 then
    setCc srcId.toNat { cc with dupAcks := 0 }
      { host with dupAcksSeqNum := Function.update host.dupAcksSeqNum srcId.toNat seqNum }
  else if host.dupAcksSeqNum srcId.toNat = seqNum then
    setCc srcId.toNat
      { cc with
        dupAcks := cc.dupAcks + 1
        cwnd := if cc.state = .frft then incr cc.cwnd else cc.cwnd } host
  else host

/-- The `else if` chain of `handle_incoming_acks` on the congestion state. -/
def updateCc (srcId seqNum : UInt8) (host : Host D) : Except Fault (Host D) :=
  let cc := host.cc srcId.toNat
  if cc.state = .ss then
    let cwnd := incr cc.cwnd
    .ok (setCc srcId.toNat
      { cc with cwnd := cwnd, state := if gt cwnd cc.ssthresh then .aimd else .ss } host)
  else if cc.state = .aimd ∧ cc.dupAcks = 0 then
    .ok (setCc srcId.toNat { cc with cwnd := add cc.cwnd (div (ofInt 1) cc.cwnd) } host)
  else if cc.state = .frft ∧ cc.dupAcks = 0 then
    .ok (setCc srcId.toNat { cc with state := .aimd, cwnd := cc.ssthresh } host)
  else if cc.dupAcks = 3 ∧ cc.state ≠ .frft then
    let ssthresh := CDouble.max (div cc.cwnd (ofInt 2)) (ofInt 2)
    retransmitFrame cfg srcId (seqNum + 1) (setCc srcId.toNat
      { cc with state := .frft, ssthresh := ssthresh, cwnd := add ssthresh (ofInt 3) } host)
  else .ok host

omit [CDouble D] in
/-- The end of the body of `handle_incoming_acks`: an ACK older than the first frame of the window
is dropped; else the frames up to the one it names leave the window. -/
def dequeueAcked (srcId seqNum : UInt8) (host : Host D) : Except Fault (Host D) :=
  if cqGetLengthSend srcId.toNat host = 0 then .ok host
  else
    match (cqGetItemSend cfg srcId.toNat 0 host).derefFrame with
    | .error e => .error e
    | .ok frame =>
      if seqNumDiff frame.seqNum seqNum < 0 then .ok host
      else
        match findSeqNum cfg srcId.toNat seqNum host
            (List.range (cqGetLengthSend srcId.toNat host)) with
        | .error e => .error e
        | .ok none => .ok host
        | .ok (some (j, _)) => .ok (cqNdequeueSend cfg srcId.toNat (j + 1) host)

/-- The body of `handle_incoming_acks` on a valid ACK frame. -/
def handleAck (frame : Frame) (host : Host D) : Except Fault (Host D) :=
  match updateCc cfg frame.srcId frame.seqNum (updateDupAcks frame.srcId frame.seqNum host) with
  | .error e => .error e
  | .ok host => dequeueAcked cfg frame.srcId frame.seqNum host

/-- The loop of `handle_incoming_acks`: corrupted frames and ACKs leave the list. -/
def handleIncomingAcksLoop (kept : List Frame) : List Frame → Host D → Except Fault (Host D)
  | [], host => .ok { host with incomingFramesHead := kept }
  | frame :: frames, host =>
    if frameValid frame = false then handleIncomingAcksLoop kept frames host
    else if frame.isAck = 0 then handleIncomingAcksLoop (kept ++ [frame]) frames host
    else
      match handleAck cfg frame host with
      | .error e => .error e
      | .ok host => handleIncomingAcksLoop kept frames host

/-- `handle_incoming_acks`. -/
def handleIncomingAcks (host : Host D) : Except Fault (Host D) :=
  handleIncomingAcksLoop cfg [] host.incomingFramesHead host

/-! ## Commands -/

omit [CDouble D] in
/-- `strncpy(dst, src, n)`: the bytes of `src` up to its NUL, padded with NULs to `n`. -/
def strncpy (src : List UInt8) (n : ℕ) : List UInt8 :=
  let s := (src.take n).takeWhile (· ≠ 0)
  s ++ List.replicate (n - s.length) 0

omit [CDouble D] in
/-- The start of a frame's data overwritten with `bytes`. -/
def writeData (bytes : List UInt8) (data : List.Vector UInt8 framePayloadSize) :
    List.Vector UInt8 framePayloadSize :=
  ⟨(bytes ++ data.toList.drop bytes.length).take framePayloadSize, by simp; omega⟩

omit [CDouble D] in
/-- The body of the inner loop of `handle_input_cmds`: one fragment, from `start` to `stop`. -/
def appendFragment (cmd : Cmd) (msgLength start stop : ℕ) (host : Host D) : Host D :=
  let (frame, host) := mallocFrame host
  let bytes := strncpy (cmd.message.drop start) (stop - start)
  let bytes := if stop = msgLength then bytes.set (stop - start - 1) 0 else bytes
  let dstId := UInt8.ofNat cmd.dstId.toNat
  let frame := setChecksum
    { frame with
      data := writeData bytes frame.data
      length := UInt8.ofNat (stop - start)
      remainingMsgBytes := UInt16.ofNat (msgLength - stop)
      srcId := UInt8.ofNat cmd.srcId.toNat
      dstId := dstId
      isAck := 0
      seqNum := host.currSeqNum dstId.toNat }
  { host with
    currSeqNum := Function.update host.currSeqNum dstId.toNat (host.currSeqNum dstId.toNat + 1)
    bufferedOutframesHead := host.bufferedOutframesHead ++ [frame]
    log := { host.log with created := host.log.created ++ [frame] } }

omit [CDouble D] in
/-- The loop `while (start < msg_length)` of `handle_input_cmds`; each round advances `start`, so
`msgLength` rounds are enough. -/
def fragmentLoop (cmd : Cmd) (msgLength : ℕ) : ℕ → ℕ → Host D → Host D
  | 0, _, host => host
  | fuel + 1, start, host =>
    if start < msgLength then
      let stop := if start + framePayloadSize > msgLength then msgLength
        else start + framePayloadSize
      fragmentLoop cmd msgLength fuel stop (appendFragment cmd msgLength start stop host)
    else host

omit [CDouble D] in
/-- The body of the outer loop of `handle_input_cmds`. -/
def handleInputCmd (host : Host D) (cmd : Cmd) : Host D :=
  let msgLength := (cmd.message.takeWhile (· ≠ 0)).length + 1
  fragmentLoop cmd msgLength msgLength 0 host

omit [CDouble D] in
/-- `handle_input_cmds`. -/
def handleInputCmds (host : Host D) : Host D :=
  host.inputCmdlistHead.foldl handleInputCmd { host with inputCmdlistHead := [] }

/-! ## Timeouts -/

omit [CDouble D] in
/-- Whether the frame of a slot has timed out. -/
def timedOut (currTimeval : TimeVal) (slot : SendWindowSlot) : Bool :=
  match slot.timeout with
  | none => false
  | some timeout => decide (timevalUsecdiff currTimeval timeout ≤ 0)

/-- The body of the loop of `handle_timedout_frames`, on the window for `recvId`. -/
def handleTimedoutWindow (currTimeval : TimeVal) (host : Host D) (recvId : ℕ) : Host D :=
  if recvId = host.id then host
  else if (List.range (cqGetLengthSend recvId host)).any
      (fun j => timedOut currTimeval (cqGetItemSend cfg recvId j host)) then
    let host := (List.range (cqGetLengthSend recvId host)).foldl
      (fun host i => setTimeout cfg recvId i none host) host
    let cc := host.cc recvId
    setCc recvId
      { cc with state := .ss, ssthresh := div cc.cwnd (ofInt 2), cwnd := ofInt 1 } host
  else host

/-- `handle_timedout_frames`. -/
def handleTimedoutFrames (currTimeval : TimeVal) (host : Host D) : Host D :=
  (List.range cfg.numHosts).foldl (handleTimedoutWindow cfg currTimeval) host

/-! ## Sending -/

omit [CDouble D] in
/-- The inner loop of the retransmissions of `handle_outgoing_frames`, over the slots still to be
looked at; `framesPerRtt` is the budget of this receiver. -/
def resendLoop (recvId : ℕ) : List ℕ → ℤ → Host D → Except Fault (ℤ × Host D)
  | [], framesPerRtt, host => .ok (framesPerRtt, host)
  | i :: is, framesPerRtt, host =>
    if (cqGetItemSend cfg recvId i host).timeout = none ∧ framesPerRtt > 0 then
      match (cqGetItemSend cfg recvId i host).derefFrame with
      | .error e => .error e
      | .ok frame =>
        match retransmitFrame cfg (UInt8.ofNat recvId) frame.seqNum host with
        | .error e => .error e
        | .ok host => resendLoop recvId is (framesPerRtt - 1) host
    else resendLoop recvId is framesPerRtt host

omit [CDouble D] in
/-- The loop over the receivers of the retransmissions of `handle_outgoing_frames`. -/
def resendWindows : List ℕ → (ℕ → ℤ) → Host D → Except Fault ((ℕ → ℤ) × Host D)
  | [], framesPerRtt, host => .ok (framesPerRtt, host)
  | recvId :: recvIds, framesPerRtt, host =>
    if recvId = host.id then resendWindows recvIds framesPerRtt host
    else
      match resendLoop cfg recvId (List.range (cqGetLengthSend recvId host))
          (framesPerRtt recvId) host with
      | .error e => .error e
      | .ok (frames, host) =>
        resendWindows recvIds (Function.update framesPerRtt recvId frames) host

omit [CDouble D] in
/-- The loop of `handle_outgoing_frames` over `buffered_outframes_head`. A frame whose window is
full or whose budget is used up stays; any other moves to its window and to
`outgoing_frames_head`. -/
def sendLoop (currTimeval : TimeVal) (kept : List Frame) :
    List Frame → (ℕ → ℤ) → ℤ → Host D → ℤ × Host D
  | [], _, additionalTs, host => (additionalTs, { host with bufferedOutframesHead := kept })
  | frame :: frames, framesPerRtt, additionalTs, host =>
    let dstId := frame.dstId.toNat
    if cqGetLengthSend dstId host = cfg.windowSize ∨ framesPerRtt dstId = 0 then
      sendLoop currTimeval (kept ++ [frame]) frames framesPerRtt additionalTs host
    else
      let nextTimeout := timevalUsecplus currTimeval (timeoutIntervalUsec + additionalTs)
      let host :=
        { host with
          outgoingFramesHead := host.outgoingFramesHead ++ [frame]
          log := { host.log with sent := host.log.sent ++ [(frame, nextTimeout)] } }
      sendLoop currTimeval kept frames
        (Function.update framesPerRtt dstId (framesPerRtt dstId - 1)) (additionalTs + 10000)
        (cqAppendItemSend cfg dstId frame nextTimeout host)

/-- `handle_outgoing_frames`. -/
def handleOutgoingFrames (currTimeval : TimeVal) (host : Host D) : Except Fault (Host D) :=
  let currTimeval := afterLatestTimeout currTimeval host.latestTimeout
  let framesPerRtt : ℕ → ℤ := fun i => toInt (host.cc i).cwnd
  match resendWindows cfg (List.range cfg.numHosts) framesPerRtt host with
  | .error e => .error e
  | .ok (framesPerRtt, host) =>
    let (additionalTs, host) :=
      sendLoop cfg currTimeval [] host.bufferedOutframesHead framesPerRtt 0 host
    .ok { host with latestTimeout := timevalUsecplus currTimeval additionalTs }

/-! ## A turn -/

omit [CDouble D] in
/-- The end of the body of the loop of `run_senders`: the flags `awaiting_ack` and `active`. -/
def updateActive (host : Host D) : Host D :=
  let awaitingAck := (List.range (cfg.windowSize * cfg.numHosts)).any
    (fun j => (host.sendWindow j).frame.isSome)
  { host with
    awaitingAck := awaitingAck
    active := awaitingAck || decide (0 < host.bufferedOutframesHead.length) }

omit [CDouble D] in
/-- Whether `run_senders` wakes the host up at `currTimeval`. -/
def wakesUp (currTimeval : TimeVal) (host : Host D) : Bool :=
  decide (host.inputCmdlistHead.length ≠ 0) || decide (host.incomingFramesHead.length ≠ 0) ||
    match hostGetNextExpiringTimeval cfg host with
    | none => false
    | some nextTimeout => decide (timevalUsecdiff currTimeval nextTimeout ≤ 0)

/-- The four handlers that `run_senders` calls on a host it wakes up. -/
def sendRound (currTimeval : TimeVal) (host : Host D) : Except Fault (Host D) :=
  match handleIncomingAcks cfg (handleInputCmds host) with
  | .error e => .error e
  | .ok host => handleOutgoingFrames cfg currTimeval (handleTimedoutFrames cfg currTimeval host)

/-- The body of the loop of `run_senders`: the turn of one host. -/
def runSender (host : Host D) : Except Fault (Host D) :=
  let (currTimeval, host) := gettimeofday host
  if wakesUp cfg currTimeval host then
    match sendRound cfg currTimeval
        { host with roundTripNum := host.roundTripNum + 1, csvOut := true } with
    | .error e => .error e
    | .ok host => .ok (updateActive cfg host)
  else .ok (updateActive cfg { host with csvOut := false })

end NetworkSim.Tcp
