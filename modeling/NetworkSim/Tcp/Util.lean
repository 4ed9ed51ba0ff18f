import NetworkSim.Tcp.Checksum

/-!
# Helpers of the sender and the receiver

The functions of `tcp/src/util.c`: sequence numbers, time values, the circular queues and
`retransmit_frame`. The send windows of a host all lie in one array, window `id` at base
`id * window_size`; a slot is named by its index in that array (`cqSlotSend`), as the source names
it by its address. Dereferencing a `NULL` frame is a fault, and so is reading `slot` in
`retransmit_frame` when its search loop never ran.
-/

namespace NetworkSim.Tcp

variable {D : Type}

/-- `seq_num_diff`. -/
def seqNumDiff (x1 x2 : UInt8) : ℤ :=
  let diff : ℤ := (x2.toNat : ℤ) - x1.toNat
  if diff > 127 then diff - (maxSeqNum + 1)
  else if diff < -127 then diff + (maxSeqNum + 1)
  else diff

/-- `timeval_usecdiff`. -/
def timevalUsecdiff (start finish : TimeVal) : ℤ :=
  (finish.tvSec - start.tvSec) * 1000000 + (finish.tvUsec - start.tvUsec)

/-- `timeval_usecplus`. -/
def timevalUsecplus (t : TimeVal) (usec : ℤ) : TimeVal :=
  let newUs := t.tvUsec + usec
  if newUs ≥ 1000000 then ⟨t.tvSec + newUs / 1000000, newUs % 1000000⟩ else ⟨t.tvSec, newUs⟩

/-- `gettimeofday`: the next reading of the clock. -/
def gettimeofday (host : Host D) : TimeVal × Host D :=
  (host.env.clock host.ticks, { host with ticks := host.ticks + 1 })

/-- `malloc(sizeof(Frame))`: a frame with unknown contents. -/
def mallocFrame (host : Host D) : Frame × Host D :=
  (host.env.memory host.mallocs, { host with mallocs := host.mallocs + 1 })

/-- `slot->frame`, dereferenced. -/
def SendWindowSlot.derefFrame (slot : SendWindowSlot) : Except Fault Frame :=
  match slot.frame with
  | some frame => .ok frame
  | none => .error .nullFrame

variable (cfg : SysConfig D)

/-- The index of the slot whose address `cq_get_item_send` returns. -/
def cqSlotSend (id i : ℕ) (host : Host D) : ℕ :=
  id * cfg.windowSize + ((host.sendWindowStart id).toNat + i) % cfg.windowSize

/-- `cq_get_item_send`. -/
def cqGetItemSend (id i : ℕ) (host : Host D) : SendWindowSlot :=
  host.sendWindow (cqSlotSend cfg id i host)

/-- The index of the slot whose address `cq_get_item_recv` returns. -/
def cqSlotRecv (id i : ℕ) (host : Host D) : ℕ :=
  id * cfg.windowSize + ((host.recvWindowStart id).toNat + i) % cfg.windowSize

/-- `cq_get_item_recv`. -/
def cqGetItemRecv (id i : ℕ) (host : Host D) : Option Frame :=
  host.recvWindow (cqSlotRecv cfg id i host)

omit cfg in
/-- `cq_get_length_send`. -/
def cqGetLengthSend (id : ℕ) (host : Host D) : ℕ := (host.sendWindowLength id).toNat

/-- `cq_ndequeue_send`. -/
def cqNdequeueSend (id n : ℕ) (host : Host D) : Host D :=
  let n := if n ≤ cqGetLengthSend id host then n else cqGetLengthSend id host
  { host with
    sendWindow := (List.range n).foldl
      (fun w i => Function.update w (cqSlotSend cfg id i host) .empty) host.sendWindow
    sendWindowLength :=
      Function.update host.sendWindowLength id (host.sendWindowLength id - UInt8.ofNat n)
    sendWindowStart := Function.update host.sendWindowStart id
      (UInt8.ofNat (((host.sendWindowStart id).toNat + n) % cfg.windowSize)) }

/-- `cq_ndequeue_recv`. -/
def cqNdequeueRecv (id n : ℕ) (host : Host D) : Host D :=
  let n := if n ≤ cfg.windowSize then n else cfg.windowSize
  { host with
    recvWindow := (List.range n).foldl
      (fun w i => Function.update w (cqSlotRecv cfg id i host) none) host.recvWindow
    recvWindowStart := Function.update host.recvWindowStart id
      (UInt8.ofNat (((host.recvWindowStart id).toNat + n) % cfg.windowSize)) }

/-- `cq_append_item_send`. -/
def cqAppendItemSend (id : ℕ) (frame : Frame) (timeout : TimeVal) (host : Host D) : Host D :=
  if cqGetLengthSend id host = cfg.windowSize then host
  else
    { host with
      sendWindow := Function.update host.sendWindow
        (cqSlotSend cfg id (cqGetLengthSend id host) host) ⟨some frame, some timeout⟩
      sendWindowLength :=
        Function.update host.sendWindowLength id (host.sendWindowLength id + 1) }

/-- `cq_set_item_recv`. -/
def cqSetItemRecv (id i : ℕ) (frame : Frame) (host : Host D) : Host D :=
  { host with
    recvWindow := Function.update host.recvWindow (cqSlotRecv cfg id i host) (some frame) }

/-- `recv_frame_in_window`. -/
def recvFrameInWindow (seqNum srcId : UInt8) (host : Host D) : Bool :=
  let bufferIdx := seqNumDiff (host.recvLfr srcId.toNat) seqNum
  decide (0 < bufferIdx) && decide (bufferIdx ≤ cfg.windowSize)

/-- The loop `for (i = 0; i < cq_get_length_send(id); i++)` that looks for the first slot whose
frame has the given sequence number, over the indices still to be looked at. -/
def findSeqNum (id : ℕ) (seqNum : UInt8) (host : Host D) :
    List ℕ → Except Fault (Option (ℕ × Frame))
  | [] => .ok none
  | i :: is =>
    match (cqGetItemSend cfg id i host).derefFrame with
    | .error e => .error e
    | .ok frame =>
      if frame.seqNum = seqNum then .ok (some (i, frame)) else findSeqNum id seqNum host is

/-- `slot->timeout = ...` for slot `i` of window `id`. -/
def setTimeout (id i : ℕ) (timeout : Option TimeVal) (host : Host D) : Host D :=
  { host with
    sendWindow := Function.update host.sendWindow (cqSlotSend cfg id i host)
      { cqGetItemSend cfg id i host with timeout := timeout } }

/-- The later of the clock and `latest_timeout`: `timeval_usecdiff(&curr_timeval,
host->latest_timeout) > 0` replaces the clock by `latest_timeout`. -/
def afterLatestTimeout (currTimeval latestTimeout : TimeVal) : TimeVal :=
  if timevalUsecdiff currTimeval latestTimeout > 0 then latestTimeout else currTimeval

/-- `retransmit_frame`. When the search fails, `slot` is the last slot looked at; with an empty
window it was never assigned, and reading it is the fault. -/
def retransmitFrame (dstId seqNum : UInt8) (host : Host D) : Except Fault (Host D) :=
  let (now, host) := gettimeofday host
  let currTimeval := afterLatestTimeout now host.latestTimeout
  let nextTimeout := timevalUsecplus currTimeval timeoutIntervalUsec
  let host := { host with latestTimeout := timevalUsecplus currTimeval 10000 }
  match findSeqNum cfg dstId.toNat seqNum host
      (List.range (cqGetLengthSend dstId.toNat host)) with
  | .error e => .error e
  | .ok (some (i, frame)) =>
    .ok <| setTimeout cfg dstId.toNat i (some nextTimeout)
      { host with
        outgoingFramesHead := host.outgoingFramesHead ++ [frame]
        log := { host.log with
          sent := host.log.sent ++ [(frame, nextTimeout)]
          retransmits := host.log.retransmits ++ [⟨dstId, seqNum, true⟩] } }
  | .ok none =>
    if cqGetLengthSend dstId.toNat host = 0 then .error .uninitialisedSlot
    else
      .ok <| setTimeout cfg dstId.toNat (cqGetLengthSend dstId.toNat host - 1) (some nextTimeout)
        { host with
          log := { host.log with
            retransmits := host.log.retransmits ++ [⟨dstId, seqNum, false⟩] } }

end NetworkSim.Tcp
