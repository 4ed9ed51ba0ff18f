import Mathlib.Algebra.Group.Even
import NetworkSim.Router.Forwarding

/-!
# The checksums that the router sends

Storing the result of `cksum` where a header has zeros makes its ones' complement sum 0xffff
(`internetSum_withSum`), also when the bytes are followed as they lie in the memory of a
little-endian host (`littleEndian16_cksumLittleEndian`). Every header and every ICMP message of the
router's own is made so, and so is every header that it forwards; in any run, what is handed to
`sr_send_packet` verifies (`emitted_sums_verify`).
-/

namespace NetworkSim.Router

/-! ## Sums in memory -/

/-- `htons` on a little-endian host. -/
def htons (x : UInt16) : UInt16 := x >>> 8 ||| x <<< 8

/-- A 16-bit number in the memory of a little-endian host. -/
def littleEndian16 (x : UInt16) : List UInt8 := [x.toUInt8, (x >>> 8).toUInt8]

/-- The number that `cksum` returns on a little-endian host. -/
def cksumLittleEndian (data : List UInt8) : UInt16 :=
  let sum := htons (~~~(foldCarries 2 (cksumLoop data 0))).toUInt16
  if sum = 0 then 0xffff else sum

theorem toNat_shiftRight_eight (x : UInt16) : (x >>> 8).toNat = x.toNat / 256 := by
  rw [UInt16.toNat_shiftRight]
  exact Nat.shiftRight_eq_div_pow x.toNat 8

theorem toNat_htons (x : UInt16) : (htons x).toNat = 256 * (x.toNat % 256) + x.toNat / 256 := by
  have hx := x.toNat_lt
  have hshift : (x <<< 8).toNat = (x.toNat % 256) <<< 8 := by
    rw [UInt16.toNat_shiftLeft]
    change x.toNat <<< 8 % 2 ^ 16 = _
    rw [Nat.shiftLeft_eq, Nat.shiftLeft_eq]
    omega
  rw [htons, UInt16.toNat_or, hshift, toNat_shiftRight_eight, Nat.or_comm,
    ← Nat.shiftLeft_add_eq_or_of_lt (by omega), Nat.shiftLeft_eq, Nat.mul_comm]

theorem htons_eq_zero_iff {x : UInt16} : htons x = 0 ↔ x = 0 := by
  have hx := x.toNat_lt
  rw [← UInt16.toNat_inj, ← UInt16.toNat_inj, toNat_htons, UInt16.toNat_zero]
  omega

/-- A swapped number lies in memory in network byte order. -/
theorem littleEndian16_htons (x : UInt16) : littleEndian16 (htons x) = bytes16 x := by
  have hx := x.toNat_lt
  have hlow : (htons x).toUInt8 = (x >>> 8).toUInt8 := by
    apply UInt8.toNat_inj.mp
    rw [UInt16.toNat_toUInt8, UInt16.toNat_toUInt8, toNat_htons, toNat_shiftRight_eight]
    omega
  have hhigh : (htons x >>> 8).toUInt8 = x.toUInt8 := by
    apply UInt8.toNat_inj.mp
    rw [UInt16.toNat_toUInt8, UInt16.toNat_toUInt8, toNat_shiftRight_eight, toNat_htons]
    have hdiv : (256 * (x.toNat % 256) + x.toNat / 256) / 256 = x.toNat % 256 := by
      have hquot : x.toNat / 256 < 256 := by omega
      omega
    rw [hdiv]
    omega
  unfold littleEndian16 bytes16
  rw [hlow, hhigh]

/-- What `cksum` returns lies in memory as the model has it. -/
theorem littleEndian16_cksumLittleEndian (data : List UInt8) :
    littleEndian16 (cksumLittleEndian data) = bytes16 (cksumBytes data) := by
  unfold cksumLittleEndian cksumBytes
  simp only [htons_eq_zero_iff]
  split
  · rfl
  · exact littleEndian16_htons _

/-! ## Stored sums -/

/-- The sum of the words of a buffer of at most 65535 bytes fits into 32 bits. -/
theorem sum_words_lt {data : List UInt8} (hlen : data.length ≤ 65535) :
    (words data).sum < 2 ^ 32 := by
  have hle := sum_words_le data
  omega

/-- No round of the first loop of `cksum` overflows. -/
theorem toNat_cksumLoop_take {data : List UInt8} (hlen : data.length ≤ 65535) (n : ℕ) :
    (cksumLoop (data.take n) 0).toNat = (words (data.take n)).sum := by
  have htake : (data.take n).length ≤ 65535 := (List.length_take_le' n data).trans hlen
  rw [toNat_cksumLoop, UInt32.toNat_zero, Nat.zero_add, Nat.mod_eq_of_lt (sum_words_lt htake)]

/-- A checksum stored where a header has zeros makes it valid. -/
theorem internetSum_withSum {k : ℕ} {hdr : List UInt8} (hlen : hdr.length ≤ 65535)
    (hk : 2 * k + 1 < hdr.length) (h0 : hdr.getD (2 * k) 0 = 0) (h1 : hdr.getD (2 * k + 1) 0 = 0) :
    internetSum (withSum (2 * k) hdr) = 0xffff := by
  obtain ⟨hne, hdvd⟩ := (cksumBytes_eq_iff hdr (cksumBytes hdr)).mp rfl
  rw [Nat.mod_eq_of_lt (sum_words_lt hlen)] at hdvd
  have hsum := sum_words_overwrite k (cksumBytes hdr) hk
  have hpos : (cksumBytes hdr).toNat ≠ 0 := fun h => hne (UInt16.toNat_inj.mp h)
  have hzero : (word16 (hdr.getD (2 * k) 0) (hdr.getD (2 * k + 1) 0)).toNat = 0 := by
    rw [h0, h1]
    rfl
  rw [hzero, Nat.add_zero, Nat.add_comm] at hsum
  unfold withSum
  rw [internetSum_eq_iff, hsum]
  exact ⟨by omega, hdvd⟩

/-- Two bytes that were set to zero are zero. -/
theorem getD_overwrite_zero {k i : ℕ} {data : List UInt8} (hi : i < 2) (hk : k + i < data.length) :
    (overwrite k (bytes16 0) data).getD (k + i) 0 = 0 := by
  have hnew : (bytes16 0).getD i (data[k + i]) = 0 := by
    rcases i with _ | _ | i
    · rfl
    · rfl
    · omega
  rw [List.getD_eq_getElem?_getD, getElem?_overwrite, List.getElem?_eq_getElem hk, Option.map_some,
    if_pos (Nat.le_add_right k i), Nat.add_sub_cancel_left, hnew, Option.getD_some]

/-! ## Frames -/

/-- The IP header of a frame. -/
def headerOf (frame : List UInt8) : List UInt8 :=
  (frame.drop etherHdrSize).take (4 * ipHl (frame.getD etherHdrSize 0))

/-- The header of a frame that is long enough for it verifies. -/
def HeaderVerifies (frame : List UInt8) : Prop :=
  12 ≤ 4 * ipHl (frame.getD etherHdrSize 0) →
    etherHdrSize + 4 * ipHl (frame.getD etherHdrSize 0) ≤ frame.length →
      internetSum (headerOf frame) = 0xffff

/-- The header and the ICMP message of a frame of the router's own verify. -/
structure OwnVerifies (frame : List UInt8) : Prop where
  header : internetSum (headerOf frame) = 0xffff
  message : internetSum (frame.drop (etherHdrSize + ipHdrSize)) = 0xffff

/-- The header that `sr_prepare_ip_packet` makes, behind the Ethernet header. -/
theorem internetSum_srPrepareIpPacket {sr : SrInstance} {payloadLen : ℕ} {destIp srcIp : UInt32}
    {destMac : MacAddr} {protocol : UInt8} {interface : String} {hdr : List UInt8}
    (h : srPrepareIpPacket sr payloadLen destIp destMac srcIp protocol interface = .ok hdr) :
    hdr.length = etherHdrSize + ipHdrSize ∧ hdr[etherHdrSize]? = some 0x45 ∧
      internetSum (hdr.drop etherHdrSize) = 0xffff := by
  unfold srPrepareIpPacket at h
  cases hiface : srGetInterface sr.ifList interface with
  | none => simp [hiface] at h
  | some iface =>
    simp only [hiface, Except.ok.injEq] at h
    have hether : (destMac.toList ++ iface.addr.toList ++ bytes16 ethertypeIp).length =
        etherHdrSize := by
      simp [bytes16]
    generalize destMac.toList ++ iface.addr.toList ++ bytes16 ethertypeIp = ether at h hether
    subst h
    generalize hfields : ([0x45, 0] ++ bytes16 (UInt16.ofNat (ipHdrSize + payloadLen)) ++
      bytes16 0 ++ bytes16 0 ++ [initTtl, protocol] ++ bytes16 0 ++
      bytes32 (if srcIp = 0 then iface.ip else srcIp) ++ bytes32 destIp) = fields
    have hlen : fields.length = ipHdrSize := by
      rw [← hfields]
      rfl
    refine ⟨?_, ?_, ?_⟩
    · rw [List.length_append, hether, length_withSum, hlen]
    · rw [List.getElem?_append_right hether.le, hether, Nat.sub_self,
        withSum_getElem? (.inl (by decide)), ← hfields]
      rfl
    · rw [List.drop_left' hether]
      apply internetSum_withSum (k := 5)
      · rw [hlen]
        decide
      · rw [hlen]
        decide
      · rw [← hfields]
        rfl
      · rw [← hfields]
        rfl

theorem internetSum_icmpT08Hdr (type code : UInt8) (id seq : UInt16) :
    internetSum (icmpT08Hdr type code id seq) = 0xffff := by
  apply internetSum_withSum (k := 1)
  · change 8 ≤ 65535
    decide
  · change 3 < 8
    decide
  · rfl
  · rfl

theorem internetSum_icmpT11Hdr (type code : UInt8) {ipHdr data : List UInt8}
    (hipHdr : ipHdr.length = ipHdrSize) (hdata : data.length = 8) :
    internetSum (icmpT11Hdr type code ipHdr data) = 0xffff := by
  have hlen : ([type, code] ++ bytes16 0 ++ bytes32 0 ++ ipHdr ++ data).length =
      icmpT11HdrSize := by
    simp [bytes16, bytes32, hipHdr, hdata]
  apply internetSum_withSum (k := 1)
  · rw [hlen]
    decide
  · rw [hlen]
    decide
  · rfl
  · rfl

/-- A header of the router's own with a message that verifies. -/
theorem ownVerifies_of_ok {sr : SrInstance} {payloadLen : ℕ} {destIp srcIp : UInt32}
    {destMac : MacAddr} {protocol : UInt8} {interface : String} {hdr message : List UInt8}
    (h : srPrepareIpPacket sr payloadLen destIp destMac srcIp protocol interface = .ok hdr)
    (hmessage : internetSum message = 0xffff) : OwnVerifies (hdr ++ message) := by
  obtain ⟨hlen, hhead, hsum⟩ := internetSum_srPrepareIpPacket h
  have hbyte : (hdr ++ message).getD etherHdrSize 0 = 0x45 := by
    rw [List.getD_eq_getElem?_getD, List.getElem?_append_left (by rw [hlen]; decide), hhead,
      Option.getD_some]
  have hheader : headerOf (hdr ++ message) = hdr.drop etherHdrSize := by
    unfold headerOf
    rw [hbyte, List.drop_append_of_le_length (by rw [hlen]; decide), List.take_left']
    rw [List.length_drop, hlen]
    rfl
  constructor
  · rw [hheader, hsum]
  · rw [List.drop_left' hlen, hmessage]

/-! ## What is forwarded -/

theorem slice_eq_take_drop {b : Buf} {off n : ℕ} (h : off + n ≤ b.len) :
    b.slice off n = (b.bytes.drop off).take n := by
  apply List.ext_getElem?
  intro i
  rw [Buf.getElem?_slice, List.getElem?_take, List.getElem?_drop]
  split
  · have hlt : off + i < b.bytes.length := by
      have hlen : b.len = b.bytes.length := rfl
      omega
    rw [Buf.get, List.getD_eq_getElem?_getD, List.getElem?_eq_getElem hlt, Option.getD_some]
  · rfl

/-- The header of the copy is that of the packet, with its time to live decremented and its checksum
computed anew. -/
theorem slice_forwardedBuf (packet : Buf) (addr : MacAddr) (n : ℕ) (hlen : 26 ≤ packet.len)
    (hn : n = 4 * ipHl (packet.get etherHdrSize)) :
    (forwardedBuf packet addr).slice etherHdrSize n =
      withSum 10 ((decrementedBuf packet).slice etherHdrSize n) := by
  have hether : etherHdrSize = 14 := rfl
  generalize hsum : cksumBytes ((decrementedBuf packet).slice etherHdrSize n) = sum
  have hstored (k : ℕ) (hk : k < 2) :
      (forwardedBuf packet addr).get (24 + k) = (bytes16 sum).get ⟨k, hk⟩ := by
    unfold forwardedBuf
    rw [Buf.get_set_of_not (.inr (by rw [List.Vector.toList_length]; omega)), ← hn, hsum,
      Buf.get_set_of_mem hk (by rw [len_decrementedBuf]; omega)]
    rfl
  unfold withSum
  apply List.ext_getElem?
  intro i
  rw [hsum, getElem?_overwrite, Buf.getElem?_slice, Buf.getElem?_slice]
  split
  · rw [Option.map_some, Option.some_inj]
    split
    · match i, ‹10 ≤ i› with
      | 10, _ => exact hstored 0 (by decide)
      | 11, _ => exact hstored 1 (by decide)
      | k + 12, _ =>
        rw [List.getD_eq_getElem?_getD, List.getElem?_eq_none (by change 2 ≤ k + 12 - 10; omega),
          Option.getD_none, get_forwardedBuf (by omega)]
    · exact get_forwardedBuf (by omega) packet addr
  · rfl

/-- The header of what `sr_forward_packet` hands on verifies. -/
theorem headerVerifies_forwardedBuf (packet : Buf) (addr : MacAddr) :
    HeaderVerifies (forwardedBuf packet addr).bytes := by
  intro hhl hlong
  have hether : etherHdrSize = 14 := rfl
  have hlen : (forwardedBuf packet addr).bytes.length = packet.len := len_forwardedBuf packet addr
  have hhead : (forwardedBuf packet addr).bytes.getD etherHdrSize 0 = packet.get etherHdrSize := by
    have hget : (forwardedBuf packet addr).get etherHdrSize = packet.get etherHdrSize := by
      rw [get_forwardedBuf (.inr (.inl (by decide))), get_decrementedBuf (.inl (by decide))]
    rw [← hget, Buf.get, List.getD_eq_getElem?_getD, List.getD_eq_getElem?_getD,
      List.getElem?_eq_getElem (by omega), Option.getD_some, Option.getD_some]
  rw [hhead] at hhl hlong
  unfold headerOf
  rw [hhead, ← slice_eq_take_drop (by rw [len_forwardedBuf]; omega),
    slice_forwardedBuf packet addr _ (by omega) rfl]
  have hshort : ipHl (packet.get etherHdrSize) < 16 := Nat.mod_lt _ (by decide)
  have hzero (k : ℕ) (hk : k < 2) : (decrementedBuf packet).get (24 + k) = 0 := by
    unfold decrementedBuf
    rw [Buf.get_set_of_mem hk (by rw [Buf.len_set]; omega)]
    rcases (show k = 0 ∨ k = 1 by omega) with rfl | rfl <;> rfl
  apply internetSum_withSum (k := 5)
  · rw [Buf.length_slice]
    omega
  · rw [Buf.length_slice]
    omega
  · rw [Buf.getD_slice _ _ _ _ (by omega)]
    exact hzero 0 (by decide)
  · rw [Buf.getD_slice _ _ _ _ (by omega)]
    exact hzero 1 (by decide)

/-! ## Runs -/

/-- What verifies in a frame that is forwarded, and in one of the router's own. -/
def FrameVerifies : Bool → List UInt8 → Prop
  | true => HeaderVerifies
  | false => OwnVerifies

/-- The packet was put on the list of a request. -/
def Queued (log : List LogEntry) (packet : SrPacket) : Prop :=
  ∃ ip transit, .queued packet ip transit ∈ log ∧ FrameVerifies transit packet.buf.bytes

/-- What is handed to `sr_send_packet` verifies, unless it is an ARP packet. -/
def LogEntry.Verifies (log : List LogEntry) : LogEntry → Prop
  | .answered frame _ _ => (frame.drop 12).take 2 = bytes16 ethertypeIp → OwnVerifies frame
  | .forwarded frame _ _ => HeaderVerifies frame
  | .sentQueued packet mac _ =>
    ∃ ip transit, .queued packet ip transit ∈ log ∧
      FrameVerifies transit (packet.sentTo mac)
  | _ => True

/-- So does what the main thread has in hand. -/
def Todo.Verifies (log : List LogEntry) : Todo → Prop
  | .replySend _ _ packets => ∀ packet ∈ packets, Queued log packet
  | .forwardLookup _ buf _ => HeaderVerifies buf.bytes
  | .forwardQueue _ buf _ => HeaderVerifies buf.bytes
  | .forwardSend _ buf _ => HeaderVerifies buf.bytes
  | _ => True

theorem headerOf_overwrite_dhost (mac : MacAddr) (frame : List UInt8) :
    headerOf (overwrite 0 mac.toList frame) = headerOf frame ∧
      (overwrite 0 mac.toList frame).getD etherHdrSize 0 = frame.getD etherHdrSize 0 ∧
        ∀ n, 6 ≤ n → (overwrite 0 mac.toList frame).drop n = frame.drop n := by
  have hget (i : ℕ) (hi : 6 ≤ i) : (overwrite 0 mac.toList frame)[i]? = frame[i]? := by
    have hsame (old : UInt8) : (if 0 ≤ i then mac.toList.getD (i - 0) old else old) = old := by
      rw [if_pos (Nat.zero_le i), List.getD_eq_getElem?_getD,
        List.getElem?_eq_none (by rw [List.Vector.toList_length]; omega), Option.getD_none]
    rw [getElem?_overwrite]
    simp only [hsame, Option.map_id']
  have hdrop (n : ℕ) (hn : 6 ≤ n) : (overwrite 0 mac.toList frame).drop n = frame.drop n := by
    apply List.ext_getElem?
    intro i
    rw [List.getElem?_drop, List.getElem?_drop, hget _ (by omega)]
  have hhead : (overwrite 0 mac.toList frame).getD etherHdrSize 0 = frame.getD etherHdrSize 0 := by
    rw [List.getD_eq_getElem?_getD, List.getD_eq_getElem?_getD, hget _ (by decide)]
  refine ⟨?_, hhead, hdrop⟩
  unfold headerOf
  rw [hhead, hdrop _ (by decide)]

/-- The destination of a frame may be written later. -/
theorem HeaderVerifies.overwrite_dhost {frame : List UInt8} (h : HeaderVerifies frame)
    (mac : MacAddr) : HeaderVerifies (overwrite 0 mac.toList frame) := by
  obtain ⟨hheader, hhead, -⟩ := headerOf_overwrite_dhost mac frame
  unfold HeaderVerifies
  rw [hheader, hhead, length_overwrite]
  exact h

theorem OwnVerifies.overwrite_dhost {frame : List UInt8} (h : OwnVerifies frame) (mac : MacAddr) :
    OwnVerifies (overwrite 0 mac.toList frame) := by
  obtain ⟨hheader, -, hdrop⟩ := headerOf_overwrite_dhost mac frame
  refine ⟨?_, ?_⟩
  · rw [hheader]
    exact h.header
  · rw [hdrop _ (by decide)]
    exact h.message

theorem FrameVerifies.overwrite_dhost {transit : Bool} {frame : List UInt8}
    (h : FrameVerifies transit frame) (mac : MacAddr) :
    FrameVerifies transit (overwrite 0 mac.toList frame) := by
  cases transit with
  | false => exact OwnVerifies.overwrite_dhost h mac
  | true => exact HeaderVerifies.overwrite_dhost h mac

theorem Queued.mono {log log' : List LogEntry} (hlog : ∀ entry ∈ log, entry ∈ log')
    {packet : SrPacket} (h : Queued log packet) : Queued log' packet := by
  obtain ⟨ip, transit, hmem, hverifies⟩ := h
  exact ⟨ip, transit, hlog _ hmem, hverifies⟩

theorem LogEntry.Verifies.mono {log log' : List LogEntry} (hlog : ∀ entry ∈ log, entry ∈ log')
    {entry : LogEntry} (h : entry.Verifies log) : entry.Verifies log' := by
  cases entry with
  | sentQueued packet mac sent =>
    obtain ⟨ip, transit, hmem, hverifies⟩ := h
    exact ⟨ip, transit, hlog _ hmem, hverifies⟩
  | answered frame iface sent => exact h
  | forwarded frame iface sent => exact h
  | _ => trivial

theorem Todo.Verifies.mono {log log' : List LogEntry} (hlog : ∀ entry ∈ log, entry ∈ log')
    {todo : Todo} (h : todo.Verifies log) : todo.Verifies log' := by
  cases todo with
  | replySend mac ip packets => exact fun packet hpacket => (h packet hpacket).mono hlog
  | forwardLookup ip buf iface => exact h
  | forwardQueue ip buf iface => exact h
  | forwardSend mac buf iface => exact h
  | _ => trivial

/-- All that was sent verifies, and all that waits was queued. -/
structure Emits (s : State) : Prop where
  log : ∀ entry ∈ s.log, entry.Verifies s.log
  waiting : ∀ req ∈ s.requests, ∀ packet ∈ req.packets, Queued s.log packet
  main : s.main.Verifies s.log

namespace Emits

variable {s s' : State}

/-- A step that adds to the history, and queues nothing. -/
theorem extend (h : Emits s) (added : List LogEntry) (hlog : s'.log = added ++ s.log)
    (hadded : ∀ entry ∈ added, entry.Verifies s.log)
    (hwaiting : ∀ req ∈ s'.requests, ∀ packet ∈ req.packets,
      ∃ req' ∈ s.requests, packet ∈ req'.packets)
    (hmain : s'.main.Verifies s.log) : Emits s' := by
  have hmono (entry : LogEntry) (hentry : entry ∈ s.log) : entry ∈ s'.log := by
    rw [hlog]
    exact List.mem_append_right added hentry
  refine ⟨fun entry hentry => ?_, fun req hreq packet hpacket => ?_, hmain.mono hmono⟩
  · rw [hlog] at hentry
    rcases List.mem_append.mp hentry with hnew | hold
    · exact (hadded entry hnew).mono hmono
    · exact (h.log entry hold).mono hmono
  · obtain ⟨req', hreq', hpacket'⟩ := hwaiting req hreq packet hpacket
    exact (h.waiting req' hreq' packet hpacket').mono hmono

/-- A packet is queued. -/
theorem queuereq (h : Emits s) (ip : UInt32) (buf : Buf) (iface : String) (transit : Bool)
    (hbuf : FrameVerifies transit buf.bytes) : Emits (queuereq ip buf iface transit s) := by
  obtain ⟨created, hlog, hcreated⟩ := log_queuereq ip buf iface transit s
  have hmono (entry : LogEntry) (hentry : entry ∈ s.log) :
      entry ∈ (Router.queuereq ip buf iface transit s).log := by
    rw [hlog]
    exact List.mem_append_right _ (List.mem_append_right created hentry)
  have hold (req : SrArpreq) (hreq : req ∈ s.requests) (packet : SrPacket)
      (hpacket : packet ∈ req.packets) :
      Queued (Router.queuereq ip buf iface transit s).log packet :=
    (h.waiting req hreq packet hpacket).mono hmono
  have hnew (packet : SrPacket) (hpacket : packet ∈ (SrPacket.mk buf iface s.serials).toQueue) :
      Queued (Router.queuereq ip buf iface transit s).log packet := by
    refine ⟨ip, transit, ?_, ?_⟩
    · rw [hlog]
      exact List.mem_append_left _ (List.mem_map.mpr ⟨packet, hpacket, rfl⟩)
    · rw [mem_toQueue hpacket]
      exact hbuf
  refine ⟨fun entry hentry => ?_, ?_, h.main.mono hmono⟩
  · rw [hlog] at hentry
    rcases List.mem_append.mp hentry with hqueued | hrest
    · obtain ⟨packet, -, rfl⟩ := List.mem_map.mp hqueued
      trivial
    · rcases List.mem_append.mp hrest with hentry | hentry
      · rw [hcreated entry hentry]
        trivial
      · exact (h.log entry hentry).mono hmono
  · rcases queuereq_cases ip buf iface transit s with
      ⟨-, hreqs, -⟩ | ⟨before, req, after, hreqs, -, -, hreqs', -⟩
    · rw [hreqs]
      exact List.forall_mem_cons.mpr ⟨hnew, hold⟩
    · rw [hreqs']
      rw [hreqs] at hold
      intro req' hreq' packet hpacket
      rcases List.mem_append.mp hreq' with hbefore | hreq'
      · exact hold req' (List.mem_append_left _ hbefore) packet hpacket
      · rcases List.mem_cons.mp hreq' with rfl | hafter
        · rcases List.mem_append.mp hpacket with hpacket | hpacket
          · exact hnew packet hpacket
          · exact hold req (List.mem_append_right before List.mem_cons_self) packet hpacket
        · exact hold req' (List.mem_append_right before (List.mem_cons_of_mem req hafter)) packet
            hpacket

/-- An answer is sent. -/
theorem handled_answer (h : Emits s) (sr : SrInstance) (interface : String)
    (f : List UInt8 → List UInt8) {result : Except Fault (List UInt8)}
    (hresult : ∀ buf, result = .ok buf →
      ((f buf).drop 12).take 2 = bytes16 ethertypeIp → OwnVerifies (f buf)) :
    Outcome Emits (fun _ => True)
      (s.handled ((result.map fun buf => [answer sr interface (f buf)]).map
        fun entries => (entries, .idle))) := by
  cases result with
  | error fault => trivial
  | ok buf =>
    exact h.extend [answer sr interface (f buf)] rfl
      (List.forall_mem_singleton.mpr (hresult buf rfl)) (fun req hreq packet hpacket =>
        ⟨req, hreq, hpacket⟩) trivial

theorem handled_nil (h : Emits s) :
    Outcome Emits (fun _ => True) (s.handled (.ok ([], .idle))) := by
  exact h.extend [] rfl (fun _ hentry => absurd hentry List.not_mem_nil)
    (fun req hreq packet hpacket => ⟨req, hreq, hpacket⟩) trivial

theorem handled_srSendIcmpError (h : Emits s) (packet : Buf) (interface : String)
    (type code : UInt8) :
    Outcome Emits (fun _ => True)
      (s.handled ((srSendIcmpError s.sr packet interface type code).val.map
        fun entries => (entries, .idle))) := by
  refine h.handled_answer s.sr interface _ fun hdr hhdr _ => ?_
  exact ownVerifies_of_ok hhdr (internetSum_icmpT11Hdr type code
    (packet.length_slice etherHdrSize ipHdrSize)
    (packet.length_slice (etherHdrSize + ipHdrSize) 8))

theorem handled_srForwardPacket (h : Emits s) (packet : Buf) (interface : String) :
    Outcome Emits (fun _ => True) (s.handled (srForwardPacket s.sr packet interface).val) := by
  rw [srForwardPacket_val]
  split
  · exact h.handled_nil
  · split
    · exact h.handled_srSendIcmpError packet interface 11 0
    · cases srRtLookupIp s.sr.routingTable (packet.get32 30) with
      | none => exact h.handled_srSendIcmpError packet interface 3 0
      | some entry =>
        cases hiface : srGetInterface s.sr.ifList entry.interface with
        | none =>
          simp only [hiface]
          trivial
        | some iface =>
          simp only [hiface]
          exact h.extend [] rfl (fun _ hentry => absurd hentry List.not_mem_nil)
            (fun req hreq packet hpacket => ⟨req, hreq, hpacket⟩)
            (headerVerifies_forwardedBuf packet iface.addr)

/-- An ARP packet is not an IP packet. -/
theorem ethertype_srPrepareArpPacket {sr : SrInstance} {interface : String}
    {destMac arpTha : MacAddr} {arpOp : UInt16} {arpTip : UInt32} {buf : List UInt8}
    (h : srPrepareArpPacket sr interface destMac arpOp arpTha arpTip = .ok buf) :
    (buf.drop 12).take 2 ≠ bytes16 ethertypeIp := by
  unfold srPrepareArpPacket at h
  cases hiface : srGetInterface sr.ifList interface with
  | none => simp [hiface] at h
  | some iface =>
    simp only [hiface, Except.ok.injEq] at h
    subst h
    have hmacs : (destMac.toList ++ iface.addr.toList).length = 12 := by simp
    simp only [List.append_assoc] at hmacs ⊢
    rw [← List.append_assoc, List.drop_left' hmacs]
    change bytes16 ethertypeArp ≠ bytes16 ethertypeIp
    decide

theorem receive (h : Emits s) (packet : Buf) (interface : String) :
    Outcome Emits (fun _ => True) (receive packet interface s) := by
  by_cases hidle : s.main = .idle
  · rw [receive_of_idle hidle]
    unfold srHandlepacket
    simp only [Traced.val_bind, Traced.val_ite, Traced.val_pure]
    split
    · exact h.handled_nil
    · split
      · refine h.handled_answer s.sr interface id fun buf hbuf hip => ?_
        exact absurd hip (ethertype_srPrepareArpPacket hbuf)
      · split
        · exact h.extend [.arpReply _ _] rfl (List.forall_mem_singleton.mpr trivial)
            (fun req hreq packet hpacket => ⟨req, hreq, hpacket⟩) trivial
        · split
          · split
            · unfold srSendIcmpResponse
              simp only [Traced.val_bind, Traced.val_ite, Traced.val_pure]
              split
              · exact h.handled_nil
              · refine h.handled_answer s.sr interface _ fun hdr hhdr _ => ?_
                exact ownVerifies_of_ok hhdr (internetSum_icmpT08Hdr ..)
            · split
              · exact h.handled_srSendIcmpError packet interface 3 3
              · exact h.handled_nil
          · exact h.handled_srForwardPacket packet interface
  · rw [receive_of_busy hidle]
    exact h

/-- The requests of a list of which one was unlinked. -/
theorem waiting_unlinked {before after : List SrArpreq} {req : SrArpreq}
    (hreqs : s.requests = before ++ req :: after) :
    ∀ other ∈ before ++ after, ∀ packet ∈ other.packets,
      ∃ req' ∈ s.requests, packet ∈ req'.packets := by
  intro other hother packet hpacket
  refine ⟨other, ?_, hpacket⟩
  rw [hreqs]
  rcases List.mem_append.mp hother with hbefore | hafter
  · exact List.mem_append_left _ hbefore
  · exact List.mem_append_right before (List.mem_cons_of_mem req hafter)

theorem waiting_of_unlinked (h : Emits s) {before after : List SrArpreq} {req : SrArpreq}
    (hreqs : s.requests = before ++ req :: after) :
    ∀ packet ∈ req.packets, Queued s.log packet := by
  apply h.waiting req
  rw [hreqs]
  exact List.mem_append_right before List.mem_cons_self

/-- A queued packet is sent with the destination of a reply. -/
theorem verifies_sentQueued {packet : SrPacket} (h : Queued s.log packet) (mac : MacAddr)
    (sent : Bool) : (LogEntry.sentQueued packet mac sent).Verifies s.log := by
  obtain ⟨ip, transit, hmem, hverifies⟩ := h
  exact ⟨ip, transit, hmem, hverifies.overwrite_dhost mac⟩

theorem mainMove (h : Emits s) (hmove : MainMove s s') : Emits s' := by
  have hmain := h.main
  have hkeep (req : SrArpreq) (hreq : req ∈ s.requests) (packet : SrPacket)
      (hpacket : packet ∈ req.packets) : ∃ req' ∈ s.requests, packet ∈ req'.packets :=
    ⟨req, hreq, hpacket⟩
  have hnil : ∀ entry ∈ ([] : List LogEntry), entry.Verifies s.log :=
    fun _ hentry => absurd hentry List.not_mem_nil
  cases hmove with
  | idle => exact h
  | replyUnknown mac ip hs hunknown => exact h.extend [] rfl hnil hkeep trivial
  | replyKnown mac ip hs => exact h.extend [] rfl hnil hkeep trivial
  | insert mac ip hs hno => exact h.extend [] rfl hnil hkeep trivial
  | insertUnlink mac ip before req after hs hreqs hip =>
    exact h.extend [] rfl hnil (waiting_unlinked hreqs) (h.waiting_of_unlinked hreqs)
  | sent mac ip hs => exact h.extend [] rfl hnil hkeep trivial
  | send mac ip packet packets sent hs =>
    rw [hs] at hmain
    refine h.extend [_] rfl (List.forall_mem_singleton.mpr ?_) hkeep fun other hother =>
      hmain other (List.mem_cons_of_mem packet hother)
    exact verifies_sentQueued (hmain packet List.mem_cons_self) mac sent
  | unlinkNone mac ip hs => exact h.extend [] rfl hnil hkeep trivial
  | unlink mac ip before req after hs hreqs hip =>
    refine h.extend _ rfl (forall_mem_sentAll fun packet hpacket sent => ?_)
      (waiting_unlinked hreqs) trivial
    exact verifies_sentQueued (h.waiting_of_unlinked hreqs packet hpacket) mac sent
  | forwardUnknown ip buf iface hs hunknown =>
    rw [hs] at hmain
    exact h.extend [] rfl hnil hkeep hmain
  | forwardKnown ip mac buf iface hs =>
    rw [hs] at hmain
    exact h.extend [] rfl hnil hkeep hmain
  | queue ip buf iface hs =>
    rw [hs] at hmain
    exact (h.queuereq ip buf iface true hmain).extend [] rfl
      (fun _ hentry => absurd hentry List.not_mem_nil)
      (fun req hreq packet hpacket => ⟨req, hreq, hpacket⟩) trivial
  | request ip iface packet sent hs =>
    exact h.extend [_] rfl (List.forall_mem_singleton.mpr trivial) hkeep trivial
  | forward mac buf iface sent hs =>
    rw [hs] at hmain
    exact h.extend [_] rfl
      (List.forall_mem_singleton.mpr (HeaderVerifies.overwrite_dhost hmain mac)) hkeep trivial

/-- A report to the source of a packet that is given up. -/
theorem srSendIcmpHostUnreachable (h : Emits s) (packet : SrPacket) :
    Outcome Emits (fun _ => True) (srSendIcmpHostUnreachable packet s) := by
  have hreported : Emits (s.record [.hostUnreachable packet]) :=
    h.extend [_] rfl (List.forall_mem_singleton.mpr trivial)
      (fun req hreq packet hpacket => ⟨req, hreq, hpacket⟩)
      h.main
  unfold Router.srSendIcmpHostUnreachable
  simp only [State.sr_record]
  cases srRtLookupIp s.sr.routingTable (packet.buf.get32 26) with
  | none => trivial
  | some entry =>
    cases hiface : srGetInterface s.sr.ifList entry.interface with
    | none => simp only [hiface, Outcome.error]
    | some iface =>
      cases hprepare : srPrepareIpPacket s.sr icmpT11HdrSize (packet.buf.get32 26) iface.addr 0
          ipProtocolIcmp entry.interface with
      | error fault => simp only [hiface, hprepare, Outcome.error]
      | ok hdr =>
        have hown := ownVerifies_of_ok hprepare (internetSum_icmpT11Hdr 3 1
          (packet.buf.length_slice etherHdrSize ipHdrSize)
          (packet.buf.length_slice (etherHdrSize + ipHdrSize) 8))
        simp only [hiface, hprepare]
        cases srArpcacheLookup s.sr.cache entry.gw with
        | none =>
          refine (srSendArpRequest_outcome _ _ _).mono ?_ fun _ _ => trivial
          rintro s' ⟨request, sent, rfl⟩
          have hqueued := hreported.queuereq entry.gw ⟨_, fun _ => 0⟩ entry.interface false hown
          exact hqueued.extend [_] rfl (List.forall_mem_singleton.mpr trivial)
            (fun req hreq packet hpacket => ⟨req, hreq, hpacket⟩) hqueued.main
        | some arpentry =>
          exact hreported.extend [_] rfl
            (List.forall_mem_singleton.mpr fun _ => hown.overwrite_dhost arpentry.mac)
            (fun req hreq packet hpacket => ⟨req, hreq, hpacket⟩) hreported.main

theorem sweeperTurn (h : Emits s) : Outcome Emits (fun _ => True) (sweeperTurn s) := by
  have hexpired : Emits (s.setCache (expireEntries s.time s.sr.cache)) :=
    h.extend [] rfl (fun _ hentry => absurd hentry List.not_mem_nil)
      (fun req hreq packet hpacket => ⟨req, hreq, hpacket⟩) h.main
  apply sweepLoop_invariant (I := Emits) (W := fun _ => True)
  · exact fun _ _ _ _ _ _ => trivial
  · exact fun packet _ s' h' => h'.srSendIcmpHostUnreachable packet
  · intro before req after s' hreqs h'
    refine h'.extend _ rfl ?_ (waiting_unlinked hreqs) h'.main
    refine List.forall_mem_append.mpr ⟨List.forall_mem_map.mpr fun _ _ => trivial, ?_⟩
    exact List.forall_mem_singleton.mpr trivial
  · intro before req after s' packet sent hreqs h' _
    refine h'.extend [_] rfl (List.forall_mem_singleton.mpr trivial) ?_ h'.main
    intro other hother packet hpacket
    rw [hreqs]
    rcases List.mem_append.mp hother with hbefore | hother
    · exact ⟨other, List.mem_append_left _ hbefore, hpacket⟩
    · rcases List.mem_cons.mp hother with rfl | hafter
      · exact ⟨req, List.mem_append_right before List.mem_cons_self, hpacket⟩
      · exact ⟨other, List.mem_append_right before (List.mem_cons_of_mem req hafter), hpacket⟩
  · exact fun _ _ _ _ _ => trivial
  · trivial
  · exact hexpired

theorem step (h : Emits s) (act : Act) : Outcome Emits (fun _ => True) (step act s) := by
  cases act with
  | receive packet interface => exact h.receive packet interface
  | main => exact (mainStep_outcome s).mono (fun s' hmove => h.mainMove hmove) fun _ _ => trivial
  | sweep => exact h.sweeperTurn
  | wait usec =>
    exact h.extend [] rfl (fun _ hentry => absurd hentry List.not_mem_nil)
      (fun req hreq packet hpacket => ⟨req, hreq, hpacket⟩) h.main

end Emits

/-- **Checksums that are sent are right.** For all data of at most 65535 bytes `cksum` adds without
overflow and ends its second loop, and its result, stored over two bytes at an even offset that were
zero when it was called, makes the ones' complement sum 0xffff. So the headers of
`sr_prepare_ip_packet` and of `sr_forward_packet` verify, and in every run all that is handed to
`sr_send_packet`. -/
theorem emitted_sums_verify :
    (∀ data : List UInt8, data.length ≤ 65535 →
      (∀ n, (cksumLoop (data.take n) 0).toNat = (words (data.take n)).sum) ∧
        (foldCarries 2 (cksumLoop data 0)).toNat ≤ 0xffff ∧
        ∀ k, Even k → k + 2 ≤ data.length →
          internetSum (overwrite k (littleEndian16 (cksumLittleEndian (overwrite k [0, 0] data)))
            (overwrite k [0, 0] data)) = 0xffff) ∧
      (∀ sr payloadLen destIp destMac srcIp protocol interface hdr,
        srPrepareIpPacket sr payloadLen destIp destMac srcIp protocol interface = .ok hdr →
          hdr.length = etherHdrSize + ipHdrSize ∧
            internetSum (hdr.drop etherHdrSize) = 0xffff) ∧
      (∀ sr packet interface entries nextHopIp buf iface,
        (srForwardPacket sr packet interface).val =
            .ok (entries, .forwardLookup nextHopIp buf iface) → HeaderVerifies buf.bytes) ∧
      ∀ ifList routingTable now acts s,
        runActs acts (srInit ifList routingTable now) = .ok s →
          ∀ entry ∈ s.log, entry.Verifies s.log := by
  refine ⟨fun data hlen => ⟨toNat_cksumLoop_take hlen, foldCarries_le _, fun k hk hfits => ?_⟩,
    fun sr payloadLen destIp destMac srcIp protocol interface hdr h => ?_,
    fun sr packet interface entries nextHopIp buf iface h => ?_,
    fun ifList routingTable now acts s h => ?_⟩
  · obtain ⟨j, rfl⟩ := hk
    rw [littleEndian16_cksumLittleEndian, ← Nat.two_mul]
    apply internetSum_withSum
    · rw [length_overwrite]
      exact hlen
    · rw [length_overwrite]
      omega
    · exact getD_overwrite_zero (i := 0) (by decide) (by omega)
    · exact getD_overwrite_zero (i := 1) (by decide) (by omega)
  · obtain ⟨hlen, -, hsum⟩ := internetSum_srPrepareIpPacket h
    exact ⟨hlen, hsum⟩
  · obtain ⟨-, _, own, -, -, -, rfl, -⟩ := srForwardPacket_routed h
    exact headerVerifies_forwardedBuf packet own.addr
  · have hinit : Emits (srInit ifList routingTable now) := by
      refine ⟨?_, ?_, trivial⟩
      · exact fun _ hentry => absurd hentry List.not_mem_nil
      · exact fun _ hreq => absurd hreq List.not_mem_nil
    have hrun : Outcome Emits (fun _ => True) (runActs acts (srInit ifList routingTable now)) :=
      runActs_outcome (fun act _ s' h' => h'.step act) hinit
    exact (hrun.result h).log

/-- A ping that is forwarded to a next hop that is not known. -/
theorem emitted_sums_verify_ping :
    internetSum (overwrite 2 (littleEndian16 (cksumLittleEndian (overwrite 2 [0, 0] pingMessage)))
        (overwrite 2 [0, 0] pingMessage)) = 0xffff ∧
      (∃ hdr, srPrepareIpPacket oneInterface 8 0x0a000002 ownMac 0 ipProtocolIcmp "eth1" = .ok hdr ∧
        internetSum (hdr.drop etherHdrSize) = 0xffff) ∧
      (∃ nextHopIp buf iface,
        (srForwardPacket oneInterface (pingPacket 64 0x66 0xdd) "eth1").val =
            .ok ([], .forwardLookup nextHopIp buf iface) ∧ HeaderVerifies buf.bytes) ∧
      ∃ s, runActs [.receive (pingPacket 64 0x66 0xdd) "eth1", .main, .main, .main]
          (srInit oneInterface.ifList oneInterface.routingTable 0) = .ok s ∧
        ∀ entry ∈ s.log, entry.Verifies s.log := by
  obtain ⟨hdata, hprepare, hforward, hruns⟩ := emitted_sums_verify
  refine ⟨(hdata pingMessage (by decide)).2.2 2 ⟨1, rfl⟩ (by decide),
    ⟨_, rfl, (hprepare oneInterface 8 0x0a000002 ownMac 0 ipProtocolIcmp "eth1" _ rfl).2⟩,
    ⟨0x0a000002, forwardedBuf (pingPacket 64 0x66 0xdd) ownMac, "eth1", rfl,
      hforward oneInterface (pingPacket 64 0x66 0xdd) "eth1" [] 0x0a000002 _ "eth1" rfl⟩,
    ?_⟩
  obtain ⟨s, hs⟩ : ∃ s, runActs [.receive (pingPacket 64 0x66 0xdd) "eth1", .main, .main, .main]
      (srInit oneInterface.ifList oneInterface.routingTable 0) = .ok s := ⟨_, rfl⟩
  exact ⟨s, hs, hruns _ _ _ _ s hs⟩

end NetworkSim.Router
