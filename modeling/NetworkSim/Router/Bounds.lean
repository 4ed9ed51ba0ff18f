import NetworkSim.Router.Forwarding

/-!
# What is read of a packet

No function of the router compares the length of a packet with what it reads of it. For each
function there is a length from which on its reads stay in the packet, and `sr_handlepacket` reads
in bounds just when the packet is long enough for the functions that its own bytes lead to
(`srHandlepacket_in_bounds_iff`).
-/

namespace NetworkSim.Router

/-! ## Checks -/

theorem checkIpPacketCorrupt_ok (b : Buf) (off : ℕ) :
    (checkIpPacketCorrupt b off).All Access.Ok ↔
      3 ≤ ipHl (b.get off) ∧ off + 4 * ipHl (b.get off) ≤ b.len := by
  have hlen (beyond : ℕ → UInt8) :
      (Buf.mk (b.slice off (4 * ipHl (b.get off))) beyond).len = 4 * ipHl (b.get off) :=
    b.length_slice off _
  have hbytes : (bytes16 0).length = 2 := rfl
  simp only [checkIpPacketCorrupt, cksum, Traced.all_bind, Traced.all_emit, Traced.all_pure,
    Access.Ok, Buf.ok_readByte, Buf.ok_readBytes, Buf.ok_read16, Buf.ok_write, Buf.val_readByte,
    Buf.val_readBytes, Buf.val_write, Buf.len_set, hlen, hbytes, Int.natCast_nonneg, and_true,
    true_and]
  have hsame : 3 ≤ ipHl (b.get off) →
      ((Buf.mk (b.slice off (4 * ipHl (b.get off))) b.beyond).set 10 (bytes16 0)).get 0 =
        b.get off := by
    intro hhl
    rw [Buf.get_set_of_not (.inl (by decide)), Buf.get_slice _ _ _ _ (by omega), Nat.add_zero]
  constructor
  · rintro ⟨hhead, hsize, hsum, -⟩
    omega
  · rintro ⟨hhl, hsize⟩
    rw [hsame hhl]
    omega

theorem bmod_nonneg_iff {len : ℕ} (hlt : len < 2 ^ 32) :
    0 ≤ (len : ℤ).bmod (2 ^ 32) ↔ len < 2 ^ 31 := by
  rw [Int.bmod_def]
  omega

theorem checkIcmpPacketCorrupt_ok (b : Buf) (off len : ℕ) (hlt : len < 2 ^ 32) :
    (checkIcmpPacketCorrupt b off len).All Access.Ok ↔
      4 ≤ len ∧ off + len ≤ b.len ∧ len < 2 ^ 31 := by
  have hlen (beyond : ℕ → UInt8) : (Buf.mk (b.slice off len) beyond).len = len :=
    b.length_slice off _
  have hbytes : (bytes16 0).length = 2 := rfl
  have hle : ((len : ℤ).bmod (2 ^ 32)).toNat ≤ len := by
    rw [Int.bmod_def]
    omega
  simp only [checkIcmpPacketCorrupt, cksum, Traced.all_bind, Traced.all_emit, Traced.all_pure,
    Access.Ok, Buf.ok_readBytes, Buf.ok_read16, Buf.ok_write, Buf.val_readBytes, Buf.val_write,
    Buf.len_set, hlen, hbytes, Int.natCast_nonneg, Int.toNat_natCast, bmod_nonneg_iff hlt, and_true,
    true_and]
  omega

/-! ## Answers -/

variable (sr : SrInstance) (packet : Buf) (interface : String)

theorem srSendIcmpError_ok (type code : UInt8) :
    (srSendIcmpError sr packet interface type code).All Access.Ok ↔ 42 ≤ packet.len := by
  have hether : etherHdrSize = 14 := rfl
  have hip : ipHdrSize = 20 := rfl
  simp only [srSendIcmpError, Buf.ipSrc, Buf.etherShost, Traced.all_bind, Traced.all_pure,
    Buf.ok_read32, Buf.ok_readMac, Buf.ok_readBytes, and_true]
  omega

theorem srSendArpResponse_ok :
    (srSendArpResponse sr packet interface).All Access.Ok ↔ 32 ≤ packet.len := by
  simp only [srSendArpResponse, Buf.etherShost, Buf.arSha, Buf.arSip, Traced.all_bind,
    Traced.all_pure, Buf.ok_readMac, Buf.ok_read32, and_true]
  omega

theorem srHandleArpReply_ok : (srHandleArpReply packet).All Access.Ok ↔ 32 ≤ packet.len := by
  simp only [srHandleArpReply, Buf.arSha, Buf.arSip, Traced.all_bind, Traced.all_pure,
    Buf.ok_readMac, Buf.ok_read32, and_true]
  omega

/-- The packet is long enough to be answered as an echo request. -/
def ResponseFits : Prop :=
  38 ≤ packet.len ∧ packet.len < 2 ^ 31 + 34 ∧ (icmpMessageCorrupt packet = false → 42 ≤ packet.len)

theorem srSendIcmpResponse_ok (hlen : packet.len < 2 ^ 32) (hlong : 34 ≤ packet.len) :
    (srSendIcmpResponse sr packet interface).All Access.Ok ↔ ResponseFits packet := by
  have hether : etherHdrSize = 14 := rfl
  have hip : ipHdrSize = 20 := rfl
  have hsub : (packet.len : ℤ) - etherHdrSize - ipHdrSize = (packet.len - 34 : ℕ) := by
    omega
  have hok := checkIcmpPacketCorrupt_ok packet (etherHdrSize + ipHdrSize) (packet.len - 34)
    (by omega)
  unfold srSendIcmpResponse ResponseFits icmpMessageCorrupt
  simp only [hsub, Traced.all_bind, Traced.all_ite, Traced.all_pure, hok, Buf.ipSrc,
    Buf.etherShost, Buf.ipDst, Buf.icmpId, Buf.icmpSeq, Buf.ok_read32, Buf.ok_readMac,
    Buf.ok_read16, and_true]
  cases (checkIcmpPacketCorrupt packet (etherHdrSize + ipHdrSize) (packet.len - 34 : ℕ)).val with
  | true =>
    simp only [if_true, reduceCtorEq, false_implies, and_true]
    omega
  | false =>
    simp only [Bool.false_eq_true, if_false, true_implies]
    omega

/-! ## Forwarding -/

/-- The packet is long enough to be forwarded. -/
def ForwardFits : Prop :=
  3 ≤ ipHl (packet.get etherHdrSize) ∧
    etherHdrSize + 4 * ipHl (packet.get etherHdrSize) ≤ packet.len ∧
    ((checkIpPacketCorrupt packet etherHdrSize).val = false →
      34 ≤ packet.len ∧
        (packet.get 22 - 1 = 0 ∨ srRtLookupIp sr.routingTable (packet.get32 30) = none →
          42 ≤ packet.len))

theorem srForwardPacket_ok :
    (srForwardPacket sr packet interface).All Access.Ok ↔ ForwardFits sr packet := by
  have hether : etherHdrSize = 14 := rfl
  have hdec : (packet.set 22 [packet.get 22 - 1]).set 24 (bytes16 0) = decrementedBuf packet := rfl
  have hhl : (decrementedBuf packet).get etherHdrSize = packet.get etherHdrSize :=
    get_decrementedBuf (.inl (by decide)) packet
  have hbytes (sum : UInt16) : (bytes16 sum).length = 2 := rfl
  have hmac (addr : MacAddr) : addr.toList.length = 6 := addr.toList_length
  unfold srForwardPacket ForwardFits
  simp only [srSendIcmpTimeExceeded, srSendIcmpNetUnreachable, cksum, Buf.ipTtl, Buf.ipDst,
    Traced.all_bind, Traced.all_ite, Traced.all_pure, Traced.all_emit, Traced.val_bind,
    Traced.val_pure, checkIpPacketCorrupt_ok, srSendIcmpError_ok, Access.Ok, Buf.ok_readByte,
    Buf.ok_write, Buf.ok_readBytes, Buf.ok_read32, Buf.val_readByte, Buf.val_write,
    Buf.val_read32, Buf.val_readBytes, Int.toNat_natCast, hdec, hhl, hbytes, Buf.len_set,
    len_decrementedBuf, get32_dst_decrementedBuf packet (hbytes _), Int.natCast_nonneg,
    List.length_singleton, and_true, true_and]
  cases (checkIpPacketCorrupt packet etherHdrSize).val with
  | true => simp
  | false =>
    by_cases httl : packet.get 22 - 1 = 0
    · simp only [httl, Bool.false_eq_true, if_false, if_true, true_implies, true_or]
      omega
    · cases srRtLookupIp sr.routingTable (packet.get32 30) with
      | none =>
        simp only [httl, Bool.false_eq_true, if_false, true_implies, or_true, Traced.all_bind,
          Traced.all_pure, srSendIcmpError_ok, and_true]
        omega
      | some entry =>
        simp only
        cases srGetInterface sr.ifList entry.interface with
        | none =>
          simp only [httl, Bool.false_eq_true, if_false, true_implies, reduceCtorEq, or_self,
            false_implies, Traced.all_pure, and_true]
          omega
        | some iface =>
          simp only [httl, Bool.false_eq_true, if_false, true_implies, reduceCtorEq, or_self,
            false_implies, Traced.all_bind, Traced.all_pure, Buf.ok_write, Buf.len_set,
            len_decrementedBuf, hmac, and_true]
          omega

/-! ## Dispatch -/

/-- The packet is long enough to be printed. -/
def PrintFits : Prop :=
  38 ≤ packet.len → packet.get 23 = ipProtocolIcmp → packet.get 35 = 0 ∨ packet.get 35 = 8 →
    42 ≤ packet.len

theorem printHdrs_ok :
    (printHdrs packet).All Access.Ok ↔ (packet.get16 12 = ethertypeIp → PrintFits packet) := by
  have hether : etherHdrSize = 14 := rfl
  have hip : ipHdrSize = 20 := rfl
  have harp : arpHdrSize = 28 := rfl
  have hicmp : icmpT08HdrSize = 8 := rfl
  unfold printHdrs PrintFits
  simp only [Buf.etherType, Buf.ipP, Buf.icmpCode, Traced.all_bind, Traced.all_ite,
    Traced.all_pure, Buf.ok_read16, Buf.ok_readByte, Buf.ok_readBytes, Buf.val_read16,
    Buf.val_readByte, and_true]
  by_cases htype : packet.get16 12 = ethertypeIp
  · by_cases hp : packet.get 23 = ipProtocolIcmp
    · by_cases hcode : packet.get 35 = 0 ∨ packet.get 35 = 8
      · simp only [htype, hp, hcode, if_true, true_implies]
        split_ifs <;> simp <;> omega
      · simp only [htype, hp, hcode, if_true, if_false, true_implies, false_implies]
        split_ifs <;> simp <;> omega
    · simp only [htype, hp, if_true, if_false, true_implies, false_implies]
      split_ifs <;> simp <;> omega
  · simp only [htype, if_false, false_implies]
    split_ifs <;> simp <;> omega

theorem packetIsNotArpOrIp_ok : (packetIsNotArpOrIp packet).All Access.Ok ↔ 14 ≤ packet.len := by
  simp [packetIsNotArpOrIp, Buf.etherType]

theorem packetIsArp_ok (op : UInt16) :
    (packetIsArp packet op).All Access.Ok ↔
      14 ≤ packet.len ∧ (packet.get16 12 = ethertypeArp → 22 ≤ packet.len) := by
  unfold packetIsArp
  simp only [Buf.etherType, Buf.arOp, Traced.all_bind, Traced.all_ite, Traced.all_pure,
    Buf.ok_read16, Buf.val_read16, and_true]
  split_ifs with h <;> simp [h]

theorem srPacketIsIpToUs_ok :
    (srPacketIsIpToUs sr packet).All Access.Ok ↔
      14 ≤ packet.len ∧ (packet.get16 12 = ethertypeIp → sr.ifList ≠ [] → 34 ≤ packet.len) := by
  unfold srPacketIsIpToUs
  simp only [Buf.etherType, Buf.ipDst, Traced.all_bind, Traced.all_ite, Traced.all_pure,
    Buf.ok_read16, Buf.ok_read32, Buf.val_read16, ne_eq, ite_not, and_true]
  split_ifs with htype hlist <;> simp [*]

theorem packetIsIcmpEchoReq_ok :
    (packetIsIcmpEchoReq packet).All Access.Ok ↔
      14 ≤ packet.len ∧ (packet.get16 12 = ethertypeIp →
        24 ≤ packet.len ∧ (packet.get 23 = ipProtocolIcmp → 35 ≤ packet.len)) := by
  unfold packetIsIcmpEchoReq
  simp only [Buf.etherType, Buf.ipP, Buf.icmpType, Traced.all_bind, Traced.all_ite,
    Traced.all_pure, Buf.ok_read16, Buf.ok_readByte, Buf.val_read16, Buf.val_readByte,
    ne_eq, ite_not, and_true]
  split_ifs with htype hp <;> simp [*]

theorem packetIsTcpUdp_ok :
    (packetIsTcpUdp packet).All Access.Ok ↔
      14 ≤ packet.len ∧ (packet.get16 12 = ethertypeIp → 24 ≤ packet.len) := by
  unfold packetIsTcpUdp
  simp only [Buf.etherType, Buf.ipP, Traced.all_bind, Traced.all_ite, Traced.all_pure,
    Buf.ok_read16, Buf.ok_readByte, Buf.val_read16, ne_eq, ite_not, and_true]
  split_ifs with htype <;> simp [*]

theorem packetIsIcmpEchoReq_val :
    (packetIsIcmpEchoReq packet).val = true ↔
      packet.get16 12 = ethertypeIp ∧ packet.get 23 = ipProtocolIcmp ∧ packet.get 34 = 8 := by
  unfold packetIsIcmpEchoReq
  simp only [Buf.etherType, Buf.ipP, Buf.icmpType, Traced.val_bind, Traced.val_ite,
    Traced.val_pure, Buf.val_read16, Buf.val_readByte, ne_eq, ite_not]
  split_ifs with htype hp <;> simp [*]

theorem packetIsTcpUdp_val :
    (packetIsTcpUdp packet).val = true ↔ packet.get16 12 = ethertypeIp ∧
      (packet.get 23 = ipProtocolTcp ∨ packet.get 23 = ipProtocolUdp) := by
  unfold packetIsTcpUdp
  simp only [Buf.etherType, Buf.ipP, Traced.val_bind, Traced.val_ite, Traced.val_pure,
    Buf.val_read16, Buf.val_readByte, ne_eq, ite_not]
  split_ifs with htype <;> simp [*]

/-- The packet is long enough for the functions that its own bytes lead to. -/
def ReadsFit : Prop :=
  14 ≤ packet.len ∧
    (packet.get16 12 = ethertypeArp → 22 ≤ packet.len ∧
      if packet.get16 20 = arpOpRequest ∨ packet.get16 20 = arpOpReply then 32 ≤ packet.len
      else ForwardFits sr packet) ∧
    (packet.get16 12 = ethertypeIp → PrintFits packet ∧
      (sr.ifList ≠ [] → 34 ≤ packet.len) ∧
      if (srPacketIsIpToUs sr packet).val = true then
        (packet.get 23 = ipProtocolIcmp → 35 ≤ packet.len ∧
          (packet.get 34 = 8 → ResponseFits packet)) ∧
        (packet.get 23 = ipProtocolTcp ∨ packet.get 23 = ipProtocolUdp → 42 ≤ packet.len)
      else ForwardFits sr packet)

/-- An ARP packet that is not a request or a reply is taken for one to be forwarded. -/
theorem srHandlepacket_ok_of_arp (harp : packet.get16 12 = ethertypeArp) :
    (srHandlepacket sr packet interface).All Access.Ok ↔
      14 ≤ packet.len ∧ 22 ≤ packet.len ∧
        if packet.get16 20 = arpOpRequest ∨ packet.get16 20 = arpOpReply then 32 ≤ packet.len
        else ForwardFits sr packet := by
  have hip : packet.get16 12 ≠ ethertypeIp := by
    rw [harp]
    decide
  have hnot : (packetIsNotArpOrIp packet).val = false := by
    simp [packetIsNotArpOrIp, Buf.etherType, harp]
  have htoUs : (srPacketIsIpToUs sr packet).val = false := by
    simp [srPacketIsIpToUs, Buf.etherType, hip]
  have hne : ¬ ethertypeArp = ethertypeIp := by decide
  unfold srHandlepacket packetIsArpReq packetIsArpReply
  simp only [Traced.all_bind, Traced.all_ite, Traced.all_pure, printHdrs_ok, packetIsNotArpOrIp_ok,
    packetIsArp_ok, srSendArpResponse_ok, srHandleArpReply_ok, srPacketIsIpToUs_ok,
    srForwardPacket_ok, packetIsArp_val, hnot, htoUs, harp, hne, Bool.false_eq_true, if_false,
    true_and, true_implies, and_true, false_implies]
  grind

theorem srHandlepacket_ok_of_ip (hlen : packet.len < 2 ^ 32)
    (hip : packet.get16 12 = ethertypeIp) :
    (srHandlepacket sr packet interface).All Access.Ok ↔
      14 ≤ packet.len ∧ PrintFits packet ∧
      (sr.ifList ≠ [] → 34 ≤ packet.len) ∧
      if (srPacketIsIpToUs sr packet).val = true then
        (packet.get 23 = ipProtocolIcmp → 35 ≤ packet.len ∧
          (packet.get 34 = 8 → ResponseFits packet)) ∧
        (packet.get 23 = ipProtocolTcp ∨ packet.get 23 = ipProtocolUdp → 42 ≤ packet.len)
      else ForwardFits sr packet := by
  have harp : ¬ ethertypeIp = ethertypeArp := by decide
  have hnot : (packetIsNotArpOrIp packet).val = false := by
    simp [packetIsNotArpOrIp, Buf.etherType, hip]
  have hlist : (srPacketIsIpToUs sr packet).val = true → sr.ifList ≠ [] := by
    intro htoUs hnil
    simp [srPacketIsIpToUs, hnil] at htoUs
  have hresponse := srSendIcmpResponse_ok sr packet interface hlen
  have hicmp : ¬ ipProtocolIcmp = ipProtocolTcp ∧ ¬ ipProtocolIcmp = ipProtocolUdp := by decide
  unfold srHandlepacket packetIsArpReq packetIsArpReply srSendIcmpPortUnreachable
  simp only [Traced.all_bind, Traced.all_ite, Traced.all_pure, printHdrs_ok, packetIsNotArpOrIp_ok,
    packetIsArp_ok, srSendIcmpError_ok, packetIsIcmpEchoReq_ok, packetIsTcpUdp_ok,
    srPacketIsIpToUs_ok, packetIsIcmpEchoReq_val, packetIsTcpUdp_val, srForwardPacket_ok,
    packetIsArp_val, hnot, hip, harp, Bool.false_eq_true, if_false, true_and, true_implies,
    and_true, false_implies, false_and]
  by_cases htoUs : (srPacketIsIpToUs sr packet).val = true
  · simp only [htoUs, hlist htoUs, if_true, ne_eq, not_false_eq_true, true_implies]
    grind
  · simp only [htoUs]
    grind

/-- `sr_handlepacket` **reads in bounds** just when the packet is long enough for the functions that
its own bytes lead to. -/
theorem srHandlepacket_in_bounds_iff (hlen : packet.len < 2 ^ 32) :
    (srHandlepacket sr packet interface).All Access.Ok ↔ ReadsFit sr packet := by
  unfold ReadsFit
  by_cases hip : packet.get16 12 = ethertypeIp
  · have harp : ¬ ethertypeIp = ethertypeArp := by decide
    rw [srHandlepacket_ok_of_ip sr packet interface hlen hip]
    simp only [hip, harp, true_implies, false_implies, true_and]
  · by_cases harp : packet.get16 12 = ethertypeArp
    · have hne : ¬ ethertypeArp = ethertypeIp := by decide
      rw [srHandlepacket_ok_of_arp sr packet interface harp]
      simp only [harp, hne, true_implies, false_implies, and_true]
    · have hnot : (packetIsNotArpOrIp packet).val = true := by
        simp [packetIsNotArpOrIp, Buf.etherType, hip, harp]
      unfold srHandlepacket
      simp only [Traced.all_bind, Traced.all_pure, printHdrs_ok, packetIsNotArpOrIp_ok, hnot, hip,
        harp, if_true, false_implies, true_and, and_true]

/-- A ping of 42 bytes to another host. -/
theorem srHandlepacket_in_bounds_iff_ping :
    (srHandlepacket oneInterface (pingPacket 64 0x66 0xdd) "eth1").All Access.Ok := by
  have hforward : ForwardFits oneInterface (pingPacket 64 0x66 0xdd) :=
    ⟨by decide, by decide, fun _ => ⟨by decide, fun _ => by decide⟩⟩
  have htoUs : ¬ (srPacketIsIpToUs oneInterface (pingPacket 64 0x66 0xdd)).val = true := by decide
  refine (srHandlepacket_in_bounds_iff oneInterface (pingPacket 64 0x66 0xdd) "eth1"
    (by decide)).mpr ⟨by decide, fun h => absurd h (by decide), fun _ => ⟨fun _ _ _ => by decide,
      fun _ => by decide, ?_⟩⟩
  rw [if_neg htoUs]
  exact hforward

/-- A packet of 34 bytes to another host that claims a header of 60 bytes. -/
def shortPacket : Buf :=
  ⟨[2, 0, 0, 0, 0, 1, 2, 0, 0, 0, 0, 2, 8, 0, 0x4f, 0, 0, 20, 0, 0, 0, 0, 64, 17, 0, 0, 10, 0, 0, 2,
    10, 0, 0, 3], fun _ => 0⟩

/-- `check_ip_packet_corrupt` copies 60 bytes from offset 14 on. -/
theorem read_past_end :
    Access.bytes 34 14 60 ∈ (srHandlepacket oneInterface shortPacket "eth1").trace ∧
      ¬ (srHandlepacket oneInterface shortPacket "eth1").All Access.Ok := by
  have hmem : Access.bytes 34 14 60 ∈ (srHandlepacket oneInterface shortPacket "eth1").trace := by
    decide
  exact ⟨hmem, fun h => absurd (h _ hmem) (by decide)⟩

end NetworkSim.Router
