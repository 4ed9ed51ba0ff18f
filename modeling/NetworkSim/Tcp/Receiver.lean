import NetworkSim.Tcp.Sender

/-!
# The receiver

The functions of `tcp/src/receiver.c` on one host: `reassemble_message` and
`handle_incoming_frames`. The receiver dereferences no pointer that can be `NULL`, so these are
total functions of the host.
-/

namespace NetworkSim.Tcp

variable {D : Type} (cfg : SysConfig D)

/-! ## Reassembly -/

/-- The scan of `reassemble_message`: the frames up to the first one with
`remaining_msg_bytes == 0`, after those of `buffer`. -/
def scanMessage (buffer : List Frame) : List Frame → Option (List Frame)
  | [] => none
  | frame :: frames =>
    if frame.remainingMsgBytes = 0 then some (buffer ++ [frame])
    else scanMessage (buffer ++ [frame]) frames

/-- `strncpy(msg + start, frame->data, frame->length)`. Behind the payload it finds the checksum,
which is the last byte of the frame, and then what is behind the frame in memory. -/
def copyPayload (beyond : ℕ → UInt8) (frame : Frame) : List UInt8 :=
  strncpy (frame.data.toList ++ frame.checksum :: (List.range frame.length.toNat).map beyond)
    frame.length.toNat

section Memory

variable (beyond : ℕ → ℕ → UInt8)

/-- The inner loop of `reassemble_message`: it pops a frame for each node of `buffer` and copies its
payload; what is copied one after the other, the number of payloads copied so far, and the frames
left. -/
def popMessage : ℕ → List Frame → List Frame → List UInt8 × ℕ × List Frame
  | copies, _ :: buffer, frame :: frames =>
    let (msg, copies', rest) := popMessage (copies + 1) buffer frames
    (copyPayload (beyond copies) frame ++ msg, copies', rest)
  | copies, _, frames => ([], copies, frames)

/-- `reassemble_message`: the `n_bytes` bytes of the message, or `none` for `NULL`, and the frames
that `head_ptr` then holds. -/
def reassembleMessage (copies : ℕ) (frames : List Frame) : Option (List UInt8) × ℕ × List Frame :=
  match scanMessage [] frames with
  | none => (none, copies, frames)
  | some buffer =>
    let (msg, copies, rest) := popMessage beyond copies buffer frames
    (some msg, copies, rest)

/-- The loop `do ... while (msg != NULL)` of `handle_incoming_frames`: the messages printed and the
frames left. Each round but the last takes a frame, so as many rounds as frames are enough. -/
def reassembleLoop : ℕ → ℕ → List Frame → List (List UInt8) × ℕ × List Frame
  | 0, copies, frames => ([], copies, frames)
  | fuel + 1, copies, frames =>
    match reassembleMessage beyond copies frames with
    | (none, copies, frames) => ([], copies, frames)
    | (some msg, copies, rest) =>
      let (msgs, copies, rest) := reassembleLoop fuel copies rest
      (msg :: msgs, copies, rest)

end Memory

/-- The reassembly of what has been received from `srcId`. -/
def reassembleMessages (srcId : ℕ) (host : Host D) : Host D :=
  let (msgs, copies, rest) := reassembleLoop host.env.beyond (host.recvMsgHead srcId).length
    host.copies (host.recvMsgHead srcId)
  { host with
    recvMsgHead := Function.update host.recvMsgHead srcId rest
    copies := copies
    log := { host.log with printed := host.log.printed ++ msgs } }

/-! ## The receive window -/

/-- The loop of `handle_incoming_frames` that advances the window while the next expected frame is
there, with its counter `ack_seq_num`; the first argument counts the rounds left. -/
def advanceWindow (srcId : ℕ) : ℕ → UInt8 → Host D → UInt8 × Host D
  | 0, ackSeqNum, host => (ackSeqNum, host)
  | rounds + 1, ackSeqNum, host =>
    match cqGetItemRecv cfg srcId 0 host with
    | none => (ackSeqNum, host)
    | some frame =>
      let host :=
        { host with
          recvMsgHead :=
            Function.update host.recvMsgHead srcId (host.recvMsgHead srcId ++ [frame])
          log := { host.log with
            appended :=
              Function.update host.log.appended srcId (host.log.appended srcId ++ [frame]) } }
      let host := cqNdequeueRecv cfg srcId 1 host
      advanceWindow srcId rounds (ackSeqNum + 1)
        { host with
          recvLfr := Function.update host.recvLfr srcId (host.recvLfr srcId + 1) }

/-- The part of `handle_incoming_frames` before the label `send_ack`: an in-window frame is stored,
and the window advanced. -/
def acceptFrame (frame : Frame) (host : Host D) : UInt8 × Host D :=
  let srcId := frame.srcId.toNat
  let ackSeqNum := host.recvLfr srcId
  if recvFrameInWindow cfg frame.seqNum frame.srcId host = false then (ackSeqNum, host)
  else
    let bufferIdx := seqNumDiff (host.recvLfr srcId) frame.seqNum - 1
    advanceWindow cfg srcId cfg.windowSize ackSeqNum
      (cqSetItemRecv cfg srcId bufferIdx.toNat frame host)

/-- The label `send_ack`. The fields that the source does not set keep the contents of the fresh
memory. -/
def sendAck (srcId ackSeqNum : UInt8) (host : Host D) : Host D :=
  let (frame, host) := mallocFrame host
  let ackFrame := setChecksum
    { frame with
      srcId := UInt8.ofNat host.id
      dstId := srcId
      seqNum := ackSeqNum
      isAck := 1 }
  { host with outgoingFramesHead := host.outgoingFramesHead ++ [ackFrame] }

/-- The body of the loop of `handle_incoming_frames`. -/
def handleFrame (host : Host D) (frame : Frame) : Host D :=
  if frameValid frame = false then host
  else
    let (ackSeqNum, host) := acceptFrame cfg frame host
    reassembleMessages frame.srcId.toNat (sendAck frame.srcId ackSeqNum host)

/-- `handle_incoming_frames`. -/
def handleIncomingFrames (host : Host D) : Host D :=
  host.incomingFramesHead.foldl (handleFrame cfg) { host with incomingFramesHead := [] }

end NetworkSim.Tcp
