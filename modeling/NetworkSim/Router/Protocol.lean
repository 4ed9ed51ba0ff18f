import Mathlib.Data.Vector.Basic
import NetworkSim.Foundations.Traced

/-!
# Packets and checksums

The headers of `router/sr_protocol.h`, `cksum` of `router/sr_utils.c`, and the two checks of
`router/sr_router.c` that use it. A packet is a buffer of bytes, and a field of a header is named by
its offset. Fields of 16 and 32 bits are read as the numbers they are in network byte order, which
makes `htons`, `ntohs`, `htonl` and `ntohl` identities.

What a function reads from a packet, and the lengths it computes, are events of its trace
(`Access`). A read past the end finds whatever memory holds there (`Buf.beyond`).
-/

namespace NetworkSim.Router

/-! ## Buffers -/

/-- A buffer: its bytes, and what memory holds behind them. -/
structure Buf where
  bytes : List UInt8
  beyond : ℕ → UInt8

/-- What a function does with a buffer that may go wrong. -/
inductive Access
  /-- Reading or writing `n` bytes from offset `off` on in a buffer of `size` bytes. -/
  | bytes (size off n : ℕ)
  /-- Passing a length to `malloc`, `memcpy` or `cksum`. -/
  | length (n : ℤ)
  deriving DecidableEq

/-- The access stays in the buffer, and the length is not negative. -/
def Access.Ok : Access → Prop
  | .bytes size off n => n = 0 ∨ off + n ≤ size
  | .length n => 0 ≤ n

instance : DecidablePred Access.Ok
  | .bytes size off n => inferInstanceAs (Decidable (n = 0 ∨ off + n ≤ size))
  | .length n => inferInstanceAs (Decidable (0 ≤ n))

/-- Computations that access buffers. -/
abbrev Reads := Traced Access

/-- An Ethernet address: `ETHER_ADDR_LEN` bytes. -/
abbrev MacAddr := List.Vector UInt8 6

/-- A 16-bit number from its bytes in network byte order. -/
def word16 (b0 b1 : UInt8) : UInt16 := b0.toUInt16 <<< 8 ||| b1.toUInt16

/-- A 32-bit number from its bytes in network byte order. -/
def word32 (b0 b1 b2 b3 : UInt8) : UInt32 :=
  b0.toUInt32 <<< 24 ||| b1.toUInt32 <<< 16 ||| b2.toUInt32 <<< 8 ||| b3.toUInt32

def bytes16 (x : UInt16) : List UInt8 := [(x >>> 8).toUInt8, x.toUInt8]

def bytes32 (x : UInt32) : List UInt8 :=
  [(x >>> 24).toUInt8, (x >>> 16).toUInt8, (x >>> 8).toUInt8, x.toUInt8]

/-- `bytes` with the bytes from offset `off` on replaced by `news`. -/
def overwrite (off : ℕ) (news bytes : List UInt8) : List UInt8 :=
  bytes.mapIdx fun i old => if off ≤ i then news.getD (i - off) old else old

@[simp] theorem length_overwrite (off : ℕ) (news bytes : List UInt8) :
    (overwrite off news bytes).length = bytes.length := List.length_mapIdx

theorem getElem?_overwrite (off : ℕ) (news bytes : List UInt8) (i : ℕ) :
    (overwrite off news bytes)[i]? =
      bytes[i]?.map fun old => if off ≤ i then news.getD (i - off) old else old :=
  List.getElem?_mapIdx

namespace Buf

def len (b : Buf) : ℕ := b.bytes.length

/-- The byte at offset `i`. -/
def get (b : Buf) (i : ℕ) : UInt8 := b.bytes.getD i (b.beyond i)

/-- The `n` bytes from offset `off` on. -/
def slice (b : Buf) (off n : ℕ) : List UInt8 := (List.range n).map fun i => b.get (off + i)

def get16 (b : Buf) (off : ℕ) : UInt16 := word16 (b.get off) (b.get (off + 1))

def get32 (b : Buf) (off : ℕ) : UInt32 :=
  word32 (b.get off) (b.get (off + 1)) (b.get (off + 2)) (b.get (off + 3))

def getMac (b : Buf) (off : ℕ) : MacAddr := List.Vector.ofFn fun i => b.get (off + i)

def set (off : ℕ) (news : List UInt8) (b : Buf) : Buf :=
  { b with bytes := overwrite off news b.bytes }

@[simp] theorem length_slice (b : Buf) (off n : ℕ) : (b.slice off n).length = n := by
  simp [slice]

theorem getElem?_slice (b : Buf) (off n i : ℕ) :
    (b.slice off n)[i]? = if i < n then some (b.get (off + i)) else none := by
  unfold slice
  rw [List.getElem?_map]
  split
  · rename_i h
    rw [List.getElem?_range h, Option.map_some]
  · rename_i h
    rw [List.getElem?_eq_none (by rw [List.length_range]; omega), Option.map_none]

/-- The bytes of a buffer are the slice from its start. -/
theorem slice_zero (bytes : List UInt8) (beyond : ℕ → UInt8) (n : ℕ) (h : n ≤ bytes.length) :
    (Buf.mk bytes beyond).slice 0 n = bytes.take n := by
  apply List.ext_getElem?
  intro i
  rw [getElem?_slice, List.getElem?_take, Nat.zero_add]
  split
  · rename_i hi
    have hlt : i < bytes.length := by omega
    change bytes.getD i _ = bytes[i]?
    rw [List.getD_eq_getElem?_getD, List.getElem?_eq_getElem hlt, Option.getD_some]
  · rfl

theorem get_slice (b : Buf) (off n : ℕ) (beyond : ℕ → UInt8) {i : ℕ} (h : i < n) :
    (Buf.mk (b.slice off n) beyond).get i = b.get (off + i) := by
  rw [get, List.getD_eq_getElem?_getD, getElem?_slice, if_pos h, Option.getD_some]

theorem getD_slice (b : Buf) (off n : ℕ) (x : UInt8) {i : ℕ} (h : i < n) :
    (b.slice off n).getD i x = b.get (off + i) := by
  rw [List.getD_eq_getElem?_getD, getElem?_slice, if_pos h, Option.getD_some]

@[simp] theorem len_set (off : ℕ) (news : List UInt8) (b : Buf) : (b.set off news).len = b.len :=
  length_overwrite ..

theorem get_set (off i : ℕ) (news : List UInt8) (b : Buf) :
    (b.set off news).get i =
      if i < b.len ∧ off ≤ i then news.getD (i - off) (b.get i) else b.get i := by
  simp only [get, set, len, List.getD_eq_getElem?_getD, getElem?_overwrite]
  by_cases hi : i < b.bytes.length
  · rw [List.getElem?_eq_getElem hi]
    simp only [hi, true_and, Option.map_some, Option.getD_some]
  · rw [List.getElem?_eq_none (not_lt.mp hi), if_neg fun h => hi h.1]
    rfl

/-- Bytes other than those that are replaced stay. -/
theorem get_set_of_not {off i : ℕ} {news : List UInt8} (h : i < off ∨ off + news.length ≤ i)
    (b : Buf) : (b.set off news).get i = b.get i := by
  rw [get_set]
  split
  · rw [List.getD_eq_getElem?_getD, List.getElem?_eq_none (by omega), Option.getD_none]
  · rfl

theorem get_set_of_mem {off i : ℕ} {news : List UInt8} {b : Buf} (hi : i < news.length)
    (hlen : off + i < b.len) : (b.set off news).get (off + i) = news[i] := by
  rw [get_set, if_pos ⟨hlen, Nat.le_add_right off i⟩, Nat.add_sub_cancel_left,
    List.getD_eq_getElem?_getD, List.getElem?_eq_getElem hi, Option.getD_some]

def readBytes (b : Buf) (off n : ℕ) : Reads (List UInt8) := do
  Traced.emit (.bytes b.len off n)
  return b.slice off n

def readByte (b : Buf) (off : ℕ) : Reads UInt8 := do
  Traced.emit (.bytes b.len off 1)
  return b.get off

def read16 (b : Buf) (off : ℕ) : Reads UInt16 := do
  Traced.emit (.bytes b.len off 2)
  return b.get16 off

def read32 (b : Buf) (off : ℕ) : Reads UInt32 := do
  Traced.emit (.bytes b.len off 4)
  return b.get32 off

def readMac (b : Buf) (off : ℕ) : Reads MacAddr := do
  Traced.emit (.bytes b.len off 6)
  return b.getMac off

def write (off : ℕ) (news : List UInt8) (b : Buf) : Reads Buf := do
  Traced.emit (.bytes b.len off news.length)
  return b.set off news

@[simp] theorem val_readBytes (b : Buf) (off n : ℕ) :
    (b.readBytes off n).val = b.slice off n := (rfl)

@[simp] theorem val_readByte (b : Buf) (off : ℕ) : (b.readByte off).val = b.get off := (rfl)

@[simp] theorem val_read16 (b : Buf) (off : ℕ) : (b.read16 off).val = b.get16 off := (rfl)

@[simp] theorem val_read32 (b : Buf) (off : ℕ) : (b.read32 off).val = b.get32 off := (rfl)

@[simp] theorem val_readMac (b : Buf) (off : ℕ) : (b.readMac off).val = b.getMac off := (rfl)

@[simp] theorem val_write (off : ℕ) (news : List UInt8) (b : Buf) :
    (b.write off news).val = b.set off news := (rfl)

@[simp] theorem ok_readBytes (b : Buf) (off n : ℕ) :
    (b.readBytes off n).All Access.Ok ↔ n = 0 ∨ off + n ≤ b.len := List.forall_mem_singleton

@[simp] theorem ok_readByte (b : Buf) (off : ℕ) :
    (b.readByte off).All Access.Ok ↔ off + 1 ≤ b.len :=
  List.forall_mem_singleton.trans (or_iff_right (by decide))

@[simp] theorem ok_read16 (b : Buf) (off : ℕ) :
    (b.read16 off).All Access.Ok ↔ off + 2 ≤ b.len :=
  List.forall_mem_singleton.trans (or_iff_right (by decide))

@[simp] theorem ok_read32 (b : Buf) (off : ℕ) :
    (b.read32 off).All Access.Ok ↔ off + 4 ≤ b.len :=
  List.forall_mem_singleton.trans (or_iff_right (by decide))

@[simp] theorem ok_readMac (b : Buf) (off : ℕ) :
    (b.readMac off).All Access.Ok ↔ off + 6 ≤ b.len :=
  List.forall_mem_singleton.trans (or_iff_right (by decide))

@[simp] theorem ok_write (off : ℕ) (news : List UInt8) (b : Buf) :
    (b.write off news).All Access.Ok ↔ news.length = 0 ∨ off + news.length ≤ b.len :=
  List.forall_mem_singleton

end Buf

/-! ## Headers -/

/-- `ethertype_arp`. -/
def ethertypeArp : UInt16 := 0x0806

/-- `ethertype_ip`. -/
def ethertypeIp : UInt16 := 0x0800

/-- `arp_op_request`. -/
def arpOpRequest : UInt16 := 0x0001

/-- `arp_op_reply`. -/
def arpOpReply : UInt16 := 0x0002

/-- `arp_hrd_ethernet`. -/
def arpHrdEthernet : UInt16 := 0x0001

/-- `ip_protocol_icmp`. -/
def ipProtocolIcmp : UInt8 := 0x01

/-- `ip_protocol_tcp`. -/
def ipProtocolTcp : UInt8 := 0x06

/-- `ip_protocol_udp`. -/
def ipProtocolUdp : UInt8 := 0x11

/-- `INIT_TTL`. -/
def initTtl : UInt8 := 255

/-- `sizeof(struct sr_ethernet_hdr)`, where the IP or ARP header of a packet begins. -/
abbrev etherHdrSize : ℕ := 14

/-- `sizeof(struct sr_ip_hdr)`. -/
abbrev ipHdrSize : ℕ := 20

/-- `sizeof(struct sr_arp_hdr)`. -/
abbrev arpHdrSize : ℕ := 28

/-- `sizeof(struct sr_icmp_t08_hdr)`. -/
abbrev icmpT08HdrSize : ℕ := 8

/-- `sizeof(struct sr_icmp_t11_hdr)`. -/
abbrev icmpT11HdrSize : ℕ := 36

namespace Buf

/-! The fields of a packet. -/

def etherShost (packet : Buf) : Reads MacAddr := packet.readMac 6

def etherType (packet : Buf) : Reads UInt16 := packet.read16 12

def arOp (packet : Buf) : Reads UInt16 := packet.read16 20

def arSha (packet : Buf) : Reads MacAddr := packet.readMac 22

def arSip (packet : Buf) : Reads UInt32 := packet.read32 28

def ipTtl (packet : Buf) : Reads UInt8 := packet.readByte 22

def ipP (packet : Buf) : Reads UInt8 := packet.readByte 23

def ipSrc (packet : Buf) : Reads UInt32 := packet.read32 26

def ipDst (packet : Buf) : Reads UInt32 := packet.read32 30

def icmpType (packet : Buf) : Reads UInt8 := packet.readByte 34

def icmpCode (packet : Buf) : Reads UInt8 := packet.readByte 35

def icmpId (packet : Buf) : Reads UInt16 := packet.read16 38

def icmpSeq (packet : Buf) : Reads UInt16 := packet.read16 40

end Buf

/-- The bit field `ip_hl` in the first byte of an IP header. -/
def ipHl (byte : UInt8) : ℕ := byte.toNat % 16

/-! ## Checksums -/

/-- The first loop of `cksum`. -/
def cksumLoop : List UInt8 → UInt32 → UInt32
  | [], sum => sum
  | [b], sum => sum + b.toUInt32 <<< 8
  | b0 :: b1 :: data, sum => cksumLoop data (sum + (b0.toUInt32 <<< 8 ||| b1.toUInt32))

/-- The second loop of `cksum`, for at most `fuel` rounds. -/
def foldCarries : ℕ → UInt32 → UInt32
  | 0, sum => sum
  | fuel + 1, sum =>
    if sum > 0xffff then foldCarries fuel ((sum >>> 16) + (sum &&& 0xffff)) else sum

/-- `cksum` of `data`. Two rounds of the second loop are enough (`foldCarries_le`). -/
def cksumBytes (data : List UInt8) : UInt16 :=
  let sum := (~~~(foldCarries 2 (cksumLoop data 0))).toUInt16
  if sum = 0 then 0xffff else sum

/-- `cksum` of the `len` bytes of a buffer from `off` on; none when the `int` is negative. -/
def cksum (b : Buf) (off : ℕ) (len : ℤ) : Reads UInt16 := do
  Traced.emit (.length len)
  return cksumBytes (← b.readBytes off len.toNat)

/-- A header with the checksum at offset `off` computed, from a header where it is zero. -/
def withSum (off : ℕ) (hdr : List UInt8) : List UInt8 :=
  overwrite off (bytes16 (cksumBytes hdr)) hdr

/-- `check_ip_packet_corrupt` of the header at offset `off`. -/
def checkIpPacketCorrupt (b : Buf) (off : ℕ) : Reads Bool := do
  let size := 4 * ipHl (← b.readByte off)
  Traced.emit (.length size)
  Traced.emit (.length size)
  let tempHdr : Buf := ⟨← b.readBytes off size, b.beyond⟩
  let sum ← tempHdr.read16 10
  let tempHdr ← tempHdr.write 10 (bytes16 0)
  let size := 4 * ipHl (← tempHdr.readByte 0)
  return decide ((← cksum tempHdr 0 size) ≠ sum)

/-- `check_icmp_packet_corrupt` of the `len` bytes at offset `off`; `cksum` takes `len` as an
`int`. -/
def checkIcmpPacketCorrupt (b : Buf) (off : ℕ) (len : ℤ) : Reads Bool := do
  Traced.emit (.length len)
  Traced.emit (.length len)
  let tempHdr : Buf := ⟨← b.readBytes off len.toNat, b.beyond⟩
  let sum ← tempHdr.read16 2
  let tempHdr ← tempHdr.write 2 (bytes16 0)
  return decide ((← cksum tempHdr 0 (len.bmod (2 ^ 32))) ≠ sum)

end NetworkSim.Router
