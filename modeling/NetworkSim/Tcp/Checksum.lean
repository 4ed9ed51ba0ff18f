import NetworkSim.Tcp.Common

/-!
# The frame checksum

`compute_crc8`, `set_checksum`, `frame_valid` and the byte image of a frame. The struct is packed
and the machine little-endian, so `remaining_msg_bytes` is stored low byte first.
-/

namespace NetworkSim.Tcp

/-- `convert_frame_to_char`: the 64 bytes of a frame. -/
def convertFrameToChar (frame : Frame) : List.Vector UInt8 maxFrameSize :=
  ⟨UInt8.ofNat frame.remainingMsgBytes.toNat :: UInt8.ofNat (frame.remainingMsgBytes.toNat / 256) ::
    frame.dstId :: frame.srcId :: frame.seqNum :: frame.isAck :: frame.length ::
    (frame.data.toList ++ [frame.checksum]), by simp⟩

/-- `convert_char_to_frame`. -/
def convertCharToFrame (charBuf : List.Vector UInt8 maxFrameSize) : Frame where
  remainingMsgBytes := UInt16.ofNat ((charBuf.get 0).toNat + 256 * (charBuf.get 1).toNat)
  dstId := charBuf.get 2
  srcId := charBuf.get 3
  seqNum := charBuf.get 4
  isAck := charBuf.get 5
  length := charBuf.get 6
  data := ⟨(charBuf.toList.drop 7).take framePayloadSize, by simp [framePayloadSize, maxFrameSize]⟩
  checksum := charBuf.get 63

/-- One round of the inner loop of `compute_crc8`: the remainder moves up one place, takes the next
bit of the buffer and, when it loses a set bit, is reduced by the generator. -/
def crc8Bit (remainder bit : UInt8) : UInt8 :=
  if 0x80 &&& remainder ≠ 0 then ((remainder <<< 1) ||| bit) ^^^ 0x07
  else (remainder <<< 1) ||| bit

/-- The inner loop of `compute_crc8`, over the bits of one byte from the highest. -/
def crc8Byte (remainder byte : UInt8) : UInt8 :=
  [7, 6, 5, 4, 3, 2, 1, 0].foldl (fun r (j : UInt8) => crc8Bit r ((byte >>> j) &&& 1)) remainder

/-- `compute_crc8`. -/
def computeCrc8 : List UInt8 → UInt8
  | [] => 0
  | byte :: bytes => bytes.foldl crc8Byte byte

/-- `set_checksum`. -/
def setChecksum (frame : Frame) : Frame :=
  { frame with
    checksum := computeCrc8 (convertFrameToChar { frame with checksum := 0 }).toList }

/-- `frame_valid`. -/
def frameValid (frame : Frame) : Bool :=
  computeCrc8 (convertFrameToChar frame).toList == 0

end NetworkSim.Tcp
