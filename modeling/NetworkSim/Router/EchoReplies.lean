import NetworkSim.Router.EmittedSums

/-!
# Echo replies

The answer to an echo request should carry its identifier, its sequence number and all of its data
back. `sr_send_icmp_response` makes it from nothing but a `struct sr_icmp_t08_hdr`, behind which the
data would follow, so that requests with data are answered without it (`echo_mirrored_iff`).
-/

namespace NetworkSim.Router

/-- The field `ip_len` of a packet. -/
def ipLen (packet : Buf) : ℕ := (packet.get16 16).toNat

/-- A valid echo request to an address of the router. -/
structure IsEchoRequest (sr : SrInstance) (packet : Buf) : Prop where
  type_eq : packet.get16 12 = ethertypeIp
  hl_eq : ipHl (packet.get etherHdrSize) = 5
  p_eq : packet.get 23 = ipProtocolIcmp
  dst_mem : ∃ own ∈ sr.ifList, own.ip = packet.get32 30
  message_le : ipHdrSize + icmpT08HdrSize ≤ ipLen packet
  fits : etherHdrSize + ipLen packet ≤ packet.len
  icmpType_eq : packet.get 34 = 8
  icmpCode_eq : packet.get 35 = 0
  sum_eq : internetSum (packet.slice (etherHdrSize + ipHdrSize) (ipLen packet - ipHdrSize)) = 0xffff

/-- A frame is the echo reply to a request: the addresses are swapped, and all that follows the
checksum of the message comes back. -/
structure Mirrors (request frame : Buf) : Prop where
  src_eq : frame.get32 26 = request.get32 30
  dst_eq : frame.get32 30 = request.get32 26
  p_eq : frame.get 23 = ipProtocolIcmp
  type_eq : frame.get 34 = 0
  len_eq : ipLen frame = ipLen request
  fits : etherHdrSize + ipLen request ≤ frame.len
  data_eq : ∀ i, 38 ≤ i → i < etherHdrSize + ipLen request → frame.get i = request.get i
  sum_eq : internetSum (frame.slice (etherHdrSize + ipHdrSize) (ipLen request - ipHdrSize)) = 0xffff

/-- Exactly one frame is sent, over the interface that the request came from, and it is the echo
reply. -/
def Echoed (sr : SrInstance) (packet : Buf) (interface : String) : Prop :=
  ∃ frame, (srSendIcmpResponse sr packet interface).val = .ok [.answered frame interface true] ∧
    Mirrors packet ⟨frame, fun _ => 0⟩

theorem bytes16_word16 (b0 b1 : UInt8) : bytes16 (word16 b0 b1) = [b0, b1] := by
  have h0 := b0.toNat_lt
  have h1 := b1.toNat_lt
  have hhigh : (word16 b0 b1 >>> 8).toUInt8 = b0 := by
    apply UInt8.toNat_inj.mp
    rw [UInt16.toNat_toUInt8, toNat_shiftRight_eight, toNat_word16]
    omega
  have hlow : (word16 b0 b1).toUInt8 = b1 := by
    apply UInt8.toNat_inj.mp
    rw [UInt16.toNat_toUInt8, toNat_word16]
    omega
  unfold bytes16
  rw [hhigh, hlow]

/-- The fields of a header that `sr_prepare_ip_packet` makes, with a message behind it. -/
theorem get_srPrepareIpPacket {sr : SrInstance} {payloadLen : ℕ} {destIp srcIp : UInt32}
    {destMac : MacAddr} {protocol : UInt8} {interface : String} {hdr : List UInt8} {iface : SrIf}
    (hiface : srGetInterface sr.ifList interface = some iface)
    (h : srPrepareIpPacket sr payloadLen destIp destMac srcIp protocol interface = .ok hdr)
    (message : List UInt8) (beyond : ℕ → UInt8) :
    (hdr.drop 6).take 6 = iface.addr.toList ∧
      (Buf.mk (hdr ++ message) beyond).get16 16 = UInt16.ofNat (ipHdrSize + payloadLen) ∧
      (Buf.mk (hdr ++ message) beyond).get 23 = protocol ∧
      (Buf.mk (hdr ++ message) beyond).get32 26 = (if srcIp = 0 then iface.ip else srcIp) ∧
      (Buf.mk (hdr ++ message) beyond).get32 30 = destIp := by
  obtain ⟨ether, hether, hshost, rfl⟩ := srPrepareIpPacket_ok hiface h
  generalize (if srcIp = 0 then iface.ip else srcIp) = src
  generalize hfields : ([0x45, 0] ++ bytes16 (UInt16.ofNat (ipHdrSize + payloadLen)) ++
    bytes16 0 ++ bytes16 0 ++ [initTtl, protocol] ++ bytes16 0 ++ bytes32 src ++
    bytes32 destIp) = fields
  have hip : (withSum 10 fields).length = 20 := by
    rw [length_withSum, ← hfields]
    rfl
  have hget (i : ℕ) (hi : i < 10 ∨ 12 ≤ i ∧ i < 20) :
      (Buf.mk (ether ++ withSum 10 fields ++ message) beyond).get (14 + i) =
        fields.getD i (beyond (14 + i)) := by
    rw [Buf.get, List.getD_eq_getElem?_getD, List.getD_eq_getElem?_getD,
      (getElem?_headers hether hip message i).2 (by omega), withSum_getElem? (by omega)]
  refine ⟨hshost _, ?_, ?_, ?_, ?_⟩
  · rw [Buf.get16, show 16 + 1 = 14 + 3 from rfl, show 16 = 14 + 2 from rfl, hget 2 (by decide),
      hget 3 (by decide), ← hfields]
    exact word16_bytes16 _
  · rw [show 23 = 14 + 9 from rfl, hget 9 (by decide), ← hfields]
    rfl
  · rw [Buf.get32, show 26 + 3 = 14 + 15 from rfl, show 26 + 2 = 14 + 14 from rfl,
      show 26 + 1 = 14 + 13 from rfl, show 26 = 14 + 12 from rfl, hget 12 (by decide),
      hget 13 (by decide), hget 14 (by decide), hget 15 (by decide), ← hfields]
    exact word32_bytes32 _
  · rw [Buf.get32, show 30 + 3 = 14 + 19 from rfl, show 30 + 2 = 14 + 18 from rfl,
      show 30 + 1 = 14 + 17 from rfl, show 30 = 14 + 16 from rfl, hget 16 (by decide),
      hget 17 (by decide), hget 18 (by decide), hget 19 (by decide), ← hfields]
    exact word32_bytes32 _

/-- What `sr_send_icmp_response` does with a message that it accepts. -/
theorem srSendIcmpResponse_val {sr : SrInstance} {packet : Buf} {interface : String} {iface : SrIf}
    (hiface : srGetInterface sr.ifList interface = some iface)
    (haccepted : icmpMessageCorrupt packet = false) :
    ∃ hdr, srPrepareIpPacket sr icmpT08HdrSize (packet.get32 26) (packet.getMac 6)
        (packet.get32 30) ipProtocolIcmp interface = .ok hdr ∧
      (srSendIcmpResponse sr packet interface).val =
        .ok [.answered (hdr ++ icmpT08Hdr 0 0 (packet.get16 38) (packet.get16 40)) interface
          true] := by
  cases hhdr : srPrepareIpPacket sr icmpT08HdrSize (packet.get32 26) (packet.getMac 6)
      (packet.get32 30) ipProtocolIcmp interface with
  | error fault => simp [srPrepareIpPacket, hiface] at hhdr
  | ok hdr =>
    obtain ⟨hlen, -, -⟩ := internetSum_srPrepareIpPacket hhdr
    obtain ⟨hshost, -⟩ := get_srPrepareIpPacket hiface hhdr [] fun _ => 0
    have hsent : srSendPacket sr (hdr ++ icmpT08Hdr 0 0 (packet.get16 38) (packet.get16 40))
        interface = true := by
      have hlong : ¬ (hdr ++ icmpT08Hdr 0 0 (packet.get16 38) (packet.get16 40)).length <
          etherHdrSize := by
        rw [List.length_append, hlen]
        change ¬ 34 + _ < 14
        omega
      unfold srSendPacket
      rw [if_neg hlong, hiface]
      refine decide_eq_true ?_
      rw [List.drop_append_of_le_length (by rw [hlen]; decide), List.take_append_of_le_length
        (by rw [List.length_drop, hlen]; decide)]
      exact hshost
    refine ⟨hdr, rfl, ?_⟩
    have hnot : ¬ icmpMessageCorrupt packet = true := by
      rw [haccepted]
      exact Bool.false_ne_true
    unfold srSendIcmpResponse
    rw [Traced.val_bind, Traced.val_ite]
    refine (if_neg hnot).trans ?_
    simp only [Traced.val_bind, Traced.val_pure, Buf.ipSrc, Buf.ipDst, Buf.etherShost, Buf.icmpId,
      Buf.icmpSeq, Buf.val_read32, Buf.val_readMac, Buf.val_read16, hhdr]
    change Except.ok [answer sr interface _] = _
    rw [answer, hsent]

/-- What comes after the checksum of the message. -/
theorem getElem?_icmpT08Hdr (packet : Buf) {k : ℕ} (hk : k < 4) :
    (icmpT08Hdr 0 0 (packet.get16 38) (packet.get16 40))[4 + k]? = some (packet.get (38 + k)) := by
  unfold icmpT08Hdr
  rw [withSum_getElem? (.inr (by omega)), Buf.get16, Buf.get16, bytes16_word16, bytes16_word16]
  rcases k with _ | _ | _ | _ | k
  · rfl
  · rfl
  · rfl
  · rfl
  · omega

/-- **Echo replies mirror requests without data**: for every valid echo request to an address of the
router, exactly one frame that mirrors it is sent just when the request carries no data, the check
of its checksum accepts it, and its destination is an address that `sr_prepare_ip_packet` does not
take for a missing one. -/
theorem echo_mirrored_iff (sr : SrInstance) (packet : Buf) (interface : String) (iface : SrIf)
    (hiface : srGetInterface sr.ifList interface = some iface) :
    IsEchoRequest sr packet →
      (Echoed sr packet interface ↔
        ipLen packet = ipHdrSize + icmpT08HdrSize ∧ icmpMessageCorrupt packet = false ∧
          (packet.get32 30 ≠ 0 ∨ iface.ip = 0)) := by
  intro _
  cases haccepted : icmpMessageCorrupt packet with
  | true =>
    refine iff_of_false ?_ fun h => absurd h.2.1 (by decide)
    rintro ⟨frame, hval, -⟩
    rw [srSendIcmpResponse_of_corrupt haccepted] at hval
    cases hval
  | false =>
    obtain ⟨hdr, hhdr, hval⟩ := srSendIcmpResponse_val hiface haccepted
    obtain ⟨hlen, -, -⟩ := internetSum_srPrepareIpPacket hhdr
    generalize hmessage : icmpT08Hdr 0 0 (packet.get16 38) (packet.get16 40) = message at hval
    obtain ⟨-, hiplen, hp, hsrc, hdst⟩ := get_srPrepareIpPacket hiface hhdr message fun _ => 0
    have hlenFrame : ipLen ⟨hdr ++ message, fun _ => 0⟩ = ipHdrSize + icmpT08HdrSize := by
      rw [ipLen, hiplen]
      rfl
    have hmessageLen : message.length = icmpT08HdrSize := by
      rw [← hmessage]
      rfl
    constructor
    · rintro ⟨frame, hval', hmirrors⟩
      rw [hval] at hval'
      cases hval'
      refine ⟨?_, rfl, ?_⟩
      · rw [← hmirrors.len_eq, hlenFrame]
      · by_cases hzero : packet.get32 30 = 0
        · have hsrc' := hmirrors.src_eq
          rw [hsrc, if_pos hzero, hzero] at hsrc'
          exact .inr hsrc'
        · exact .inl hzero
    · rintro ⟨hshort, -, hknown⟩
      have hget (k : ℕ) : (Buf.mk (hdr ++ message) fun _ => 0).get (34 + k) =
          message.getD k 0 := by
        rw [Buf.get, List.getD_eq_getElem?_getD, List.getD_eq_getElem?_getD,
          List.getElem?_append_right (by rw [hlen]; exact Nat.le_add_right _ _), hlen]
        rw [show 34 + k - (etherHdrSize + ipHdrSize) = k from Nat.add_sub_cancel_left 34 k]
      refine ⟨hdr ++ message, hval, ?_, hdst, hp, ?_, ?_, ?_, fun i hi hi' => ?_, ?_⟩
      · rw [hsrc]
        split
        · rename_i hzero
          rw [hzero]
          exact hknown.resolve_left fun hne => hne hzero
        · rfl
      · rw [show 34 = 34 + 0 from rfl, hget 0, ← hmessage]
        rfl
      · rw [hlenFrame, hshort]
      · change etherHdrSize + ipLen packet ≤ (hdr ++ message).length
        rw [List.length_append, hlen, hmessageLen, hshort, Nat.add_assoc]
      · rw [hshort] at hi'
        change i < 14 + (20 + 8) at hi'
        obtain ⟨k, rfl⟩ := Nat.exists_eq_add_of_le hi
        have hbyte := getElem?_icmpT08Hdr packet (k := k) (by omega)
        rw [show 38 + k = 34 + (4 + k) by omega, hget, List.getD_eq_getElem?_getD, ← hmessage,
          hbyte, Option.getD_some, show 34 + (4 + k) = 38 + k by omega]
      · have hslice : (Buf.mk (hdr ++ message) fun _ => 0).slice (etherHdrSize + ipHdrSize)
            (ipLen packet - ipHdrSize) = message := by
          have hsize : (ipLen packet - ipHdrSize) = icmpT08HdrSize := by
            rw [hshort, Nat.add_sub_cancel_left]
          rw [hsize, slice_eq_take_drop (by
            change etherHdrSize + ipHdrSize + icmpT08HdrSize ≤ (hdr ++ message).length
            rw [List.length_append, hlen, hmessageLen]), List.drop_left' hlen, ← hmessageLen,
            List.take_length]
        rw [hslice, ← hmessage]
        exact internetSum_icmpT08Hdr 0 0 _ _

/-- A ping of 10.0.0.1 from 10.0.0.2 without data. -/
def pingOfRouter : Buf :=
  ⟨[2, 0, 0, 0, 0, 1, 2, 0, 0, 0, 0, 2, 8, 0, 0x45, 0, 0, 28, 0, 0, 0, 0, 64, 1, 0x66, 0xdf,
    10, 0, 0, 2, 10, 0, 0, 1, 8, 0, 0xf7, 0xfd, 0, 1, 0, 1], fun _ => 0⟩

theorem isEchoRequest_pingOfRouter : IsEchoRequest oneInterface pingOfRouter :=
  ⟨by decide, by decide, by decide, ⟨_, List.mem_singleton_self _, by decide⟩, by decide,
    by decide, by decide, by decide, by decide⟩

/-- It is mirrored. -/
theorem echo_mirrored_iff_ping : Echoed oneInterface pingOfRouter "eth1" :=
  (echo_mirrored_iff oneInterface pingOfRouter "eth1" ⟨"eth1", ownMac, 0x0a000001⟩ rfl
    isEchoRequest_pingOfRouter).mpr ⟨by decide, by decide, .inl (by decide)⟩

/-- One with two bytes of data. -/
def pingWithData : Buf :=
  ⟨[2, 0, 0, 0, 0, 1, 2, 0, 0, 0, 0, 2, 8, 0, 0x45, 0, 0, 30, 0, 0, 0, 0, 64, 1, 0x66, 0xdd,
    10, 0, 0, 2, 10, 0, 0, 1, 8, 0, 0x8f, 0x94, 0, 1, 0, 1, 0x68, 0x69], fun _ => 0⟩

/-- Its answer has no data. -/
theorem ping_data_dropped :
    IsEchoRequest oneInterface pingWithData ∧
      (∃ frame, (srSendIcmpResponse oneInterface pingWithData "eth1").val =
          .ok [.answered frame "eth1" true] ∧ ipLen ⟨frame, fun _ => 0⟩ = 28) ∧
      ¬ Echoed oneInterface pingWithData "eth1" := by
  have hreq : IsEchoRequest oneInterface pingWithData :=
    ⟨by decide, by decide, by decide, ⟨_, List.mem_singleton_self _, by decide⟩, by decide,
      by decide, by decide, by decide, by decide⟩
  refine ⟨hreq, ⟨_, rfl, by decide⟩, ?_⟩
  rintro ⟨frame, hval, hmirrors⟩
  cases hval
  exact absurd hmirrors.len_eq (by decide)

end NetworkSim.Router
