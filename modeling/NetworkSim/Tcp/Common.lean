import Mathlib.Data.Vector.Basic
import Mathlib.Logic.Function.Basic
import Mathlib.Data.Rat.Floor

/-!
# Data of the TCP simulator

The types of `tcp/src/common.h`. Fixed-width fields keep their width (`UInt8`, `UInt16`); C `int`s
that only count are `ℕ`, those that can be negative are `ℤ`. A C array indexed by a host id, or the
flat slot array of all windows, is a function on `ℕ`: only indices below the allocated length are
ever meant, and an id from `glb_num_hosts` on, with which the source would leave the array, is no
fault here. A circular linked list is the `List` of its values from the head on.

`double` is a type parameter with the operations the source uses (`CDouble`); the exact rationals
are one instance. A `Host` also carries what the source takes from the C library (clock readings,
contents of freshly allocated memory) as streams, and history variables that no function reads.
-/

namespace NetworkSim.Tcp

/-- `FRAME_PAYLOAD_SIZE`. -/
abbrev framePayloadSize : ℕ := 56

/-- `MAX_FRAME_SIZE`. -/
abbrev maxFrameSize : ℕ := 64

/-- `MAX_SEQ_NUM`. -/
def maxSeqNum : ℤ := 255

/-- `TIMEOUT_INTERVAL_USEC`. -/
def timeoutIntervalUsec : ℤ := 100000

/-- `struct timeval`. -/
structure TimeVal where
  tvSec : ℤ
  tvUsec : ℤ
  deriving DecidableEq

/-- The operations of C `double` that the source uses. No law is assumed. -/
class CDouble (D : Type) where
  /-- The conversion from `int`. -/
  ofInt : ℤ → D
  add : D → D → D
  mul : D → D → D
  div : D → D → D
  /-- `a >= b`. -/
  ge : D → D → Bool
  /-- `a > b`. -/
  gt : D → D → Bool
  /-- The conversion to `int`, towards zero. -/
  toInt : D → ℤ

/-- `double` read as the exact rationals. -/
instance : CDouble ℚ where
  ofInt n := n
  add := (· + ·)
  mul := (· * ·)
  div := (· / ·)
  ge a b := decide (b ≤ a)
  gt a b := decide (b < a)
  toInt q := q.num.tdiv q.den

/-- `enum CCState`. -/
inductive CCState
  | ss
  | aimd
  | frft
  deriving DecidableEq

/-- `struct Cmd_t`; the message is its bytes before the terminating NUL. -/
structure Cmd where
  srcId : UInt16
  dstId : UInt16
  message : List UInt8
  deriving DecidableEq

/-- `struct Frame_t`, packed: 64 bytes. -/
structure Frame where
  remainingMsgBytes : UInt16
  dstId : UInt8
  srcId : UInt8
  seqNum : UInt8
  isAck : UInt8
  length : UInt8
  data : List.Vector UInt8 framePayloadSize
  checksum : UInt8
  deriving DecidableEq

/-- A frame of zero bytes. -/
def Frame.zero : Frame := ⟨0, 0, 0, 0, 0, 0, List.Vector.replicate framePayloadSize 0, 0⟩

/-- `struct send_window_slot`. -/
structure SendWindowSlot where
  frame : Option Frame
  timeout : Option TimeVal
  deriving DecidableEq

/-- A slot as `calloc` and `cq_ndequeue_send` leave it. -/
def SendWindowSlot.empty : SendWindowSlot := ⟨none, none⟩

/-- `struct CongestionControl_t`. -/
structure CongestionControl (D : Type) where
  cwnd : D
  ssthresh : D
  dupAcks : UInt8
  state : CCState

/-- `struct SysConfig_t` with `glb_num_hosts`, as `run_config` accepts it. -/
structure SysConfig (D : Type) where
  numHosts : ℕ
  windowSize : ℕ
  corruptProb : D
  recvAcceptRate : ℕ
  hostSendCcId : ℕ
  hostRecvCcId : ℕ
  two_le_numHosts : 2 ≤ numHosts
  windowSize_pos : 0 < windowSize
  recvAcceptRate_pos : 0 < recvAcceptRate

/-- What a host takes from the C library: its successive readings of `gettimeofday`, the contents
of the frames it successively allocates before it writes to them, and the bytes behind the frames
whose payloads it successively copies. -/
structure HostEnv where
  clock : ℕ → TimeVal
  memory : ℕ → Frame
  beyond : ℕ → ℕ → UInt8

/-- A clock that stands still and memory that is zero. -/
def HostEnv.still : HostEnv := ⟨fun _ => ⟨0, 0⟩, fun _ => .zero, fun _ _ => 0⟩

/-- A call of `retransmit_frame`, and whether its search found the frame. -/
structure RetransmitCall where
  dstId : UInt8
  seqNum : UInt8
  found : Bool
  deriving DecidableEq

/-- History variables: what a host has done so far. No function reads them. -/
structure HostLog where
  /-- The data frames made by `handle_input_cmds`. -/
  created : List Frame
  /-- The data frames appended to `outgoing_frames_head`, with the timeout given to each. -/
  sent : List (Frame × TimeVal)
  /-- The calls of `retransmit_frame`. -/
  retransmits : List RetransmitCall
  /-- The frames appended to `recv_msg_head[src]`. -/
  appended : ℕ → List Frame
  /-- The messages printed. -/
  printed : List (List UInt8)

def HostLog.empty : HostLog := ⟨[], [], [], fun _ => [], []⟩

/-- `struct Host_t`, its environment and its history. -/
structure Host (D : Type) where
  id : ℕ
  awaitingAck : Bool
  active : Bool
  roundTripNum : ℕ
  csvOut : Bool
  inputCmdlistHead : List Cmd
  incomingFramesHead : List Frame
  bufferedOutframesHead : List Frame
  outgoingFramesHead : List Frame
  sendWindow : ℕ → SendWindowSlot
  latestTimeout : TimeVal
  sendWindowStart : ℕ → UInt8
  sendWindowLength : ℕ → UInt8
  recvWindow : ℕ → Option Frame
  recvWindowStart : ℕ → UInt8
  recvLfr : ℕ → UInt8
  recvMsgHead : ℕ → List Frame
  currSeqNum : ℕ → UInt8
  cc : ℕ → CongestionControl D
  dupAcksSeqNum : ℕ → UInt8
  env : HostEnv
  /-- Clock readings taken so far. -/
  ticks : ℕ
  /-- Frames allocated so far. -/
  mallocs : ℕ
  /-- Payloads copied so far. -/
  copies : ℕ
  log : HostLog

/-- The ways in which the process stops other than by `exit(0)`. -/
inductive Fault
  /-- `retransmit_frame` reads its local `slot` before it was assigned. -/
  | uninitialisedSlot
  /-- A `NULL` frame pointer is dereferenced. -/
  | nullFrame
  /-- `frame_sanity_check` calls `exit(-1)`. -/
  | sanityCheck
  /-- `handle_input` calls `exit(1)`. -/
  | inputError
  /-- The service loop of `send_data_frames` used up its fuel. -/
  | outOfFuel
  deriving DecidableEq

theorem exists_of_isOk {ε α : Type*} {e : Except ε α} (h : e.isOk = true) : ∃ a, e = .ok a := by
  cases e with
  | error e => exact absurd h (by simp [Except.isOk, Except.toBool])
  | ok a => exact ⟨a, rfl⟩

theorem eq_ok_getD {ε α : Type*} {e : Except ε α} (a : α) (h : e.isOk = true) :
    e = .ok (e.toOption.getD a) := by
  obtain ⟨b, rfl⟩ := exists_of_isOk h
  rfl

theorem exists_of_map_eq {ε α β : Type*} {e : Except ε α} {f : α → β} {b : β}
    (h : (e.map f).toOption = some b) : ∃ a, e = .ok a ∧ f a = b := by
  cases e with
  | error e => exact absurd h (by simp [Except.map, Except.toOption])
  | ok a => exact ⟨a, rfl, by simpa [Except.map, Except.toOption] using h⟩

theorem eq_error_of_tryCatch {ε α : Type*} {e : Except ε α} {fault : ε}
    (h : ((e.map fun _ => none).tryCatch fun e => .ok (some e)).toOption = some (some fault)) :
    e = .error fault := by
  cases e with
  | error e => simpa [Except.map, Except.tryCatch, Except.toOption] using h
  | ok a => exact absurd h (by simp [Except.map, Except.tryCatch, Except.toOption])

/-- `frame_sanity_check`. -/
def frameSanityCheck {D : Type} (cfg : SysConfig D) (frame : Frame) : Except Fault Unit :=
  if frame.dstId.toNat ≥ cfg.numHosts then .error .sanityCheck
  else if frame.srcId.toNat ≥ cfg.numHosts then .error .sanityCheck
  else if frame.srcId = frame.dstId then .error .sanityCheck
  else .ok ()

end NetworkSim.Tcp
