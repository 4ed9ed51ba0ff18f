import NetworkSim.Router.Moves

/-!
# Forwarding

What `sr_handlepacket` does with an IP packet, up to where it takes the lock of the cache: an echo
request to the router is answered, a packet in transit is dropped, reported back to its source, or
handed on as a copy with its time to live decremented and its checksum computed anew
(`srForwardPacket_val`, `forwardedBuf`). So a corrupted packet has no effect, as long as it is not a
TCP or UDP packet to the router (`corrupted_ignored_iff`), and every other packet in transit is
forwarded at most once (`forwardsWell_iff`).
-/

namespace NetworkSim.Router

/-! ## What the classifiers compute -/

theorem packetIsArp_val (packet : Buf) (op : UInt16) :
    (packetIsArp packet op).val = true ↔ packet.get16 12 = ethertypeArp ∧ packet.get16 20 = op := by
  unfold packetIsArp
  simp only [Traced.val_bind, Traced.val_ite, Traced.val_pure, Buf.etherType, Buf.arOp,
    Buf.val_read16]
  split
  · rename_i h
    simp [h]
  · rename_i h
    simp [h]

/-- An IP packet goes past the ARP handlers. -/
theorem srHandlepacket_val_of_ip {sr : SrInstance} {packet : Buf} {interface : String}
    (hip : packet.get16 12 = ethertypeIp) :
    (srHandlepacket sr packet interface).val =
      if (srPacketIsIpToUs sr packet).val then
        if (packetIsIcmpEchoReq packet).val then
          (srSendIcmpResponse sr packet interface).val.map fun entries => (entries, .idle)
        else if (packetIsTcpUdp packet).val then
          (srSendIcmpPortUnreachable sr packet interface).val.map fun entries => (entries, .idle)
        else .ok ([], .idle)
      else (srForwardPacket sr packet interface).val := by
  have hnot : (packetIsNotArpOrIp packet).val = false := by
    simp [packetIsNotArpOrIp, Buf.etherType, hip]
  have harp (op : UInt16) : (packetIsArp packet op).val = false := by
    rw [Bool.eq_false_iff, ne_eq, packetIsArp_val, hip]
    exact fun h => absurd h.1 (by decide)
  unfold srHandlepacket packetIsArpReq packetIsArpReply
  simp only [Traced.val_bind, Traced.val_ite, Traced.val_pure, hnot, harp, Bool.false_eq_true,
    if_false]

/-! ## ICMP errors -/

theorem srSendPacket_of_icmp {sr : SrInstance} {interface : String} {iface : SrIf} {type : UInt8}
    {buf : List UInt8} (hiface : srGetInterface sr.ifList interface = some iface)
    (hmessage : IsIcmpFrom iface type buf) : srSendPacket sr buf interface = true := by
  have hlong : ¬ buf.length < etherHdrSize := by
    rw [hmessage.length_eq]
    decide
  unfold srSendPacket
  rw [if_neg hlong, hiface]
  exact decide_eq_true hmessage.shost_eq

/-- An ICMP error is sent over the interface that the packet came from, if there is such an
interface. -/
theorem srSendIcmpError_outcome (sr : SrInstance) (packet : Buf) (interface : String)
    (type code : UInt8) :
    Outcome
      (fun entries => srGetInterface sr.ifList interface ≠ none ∧
        ∃ buf, entries = [.answered buf interface true] ∧ buf[34]? = some type)
      (fun fault => fault = .assertion ∧ srGetInterface sr.ifList interface = none)
      (srSendIcmpError sr packet interface type code).val := by
  simp only [srSendIcmpError, Traced.val_bind, Traced.val_pure, Buf.val_readBytes]
  cases hprepare : srPrepareIpPacket sr icmpT11HdrSize packet.ipSrc.val packet.etherShost.val 0
      ipProtocolIcmp interface with
  | error fault =>
    unfold srPrepareIpPacket at hprepare
    cases hiface : srGetInterface sr.ifList interface with
    | none =>
      rw [hiface] at hprepare
      exact ⟨(Except.error.inj hprepare).symm, rfl⟩
    | some iface => simp [hiface] at hprepare
  | ok hdr =>
    obtain ⟨iface, hiface, hmessage⟩ := isIcmpFrom_of_ok hprepare type code
      (packet.length_slice etherHdrSize ipHdrSize)
      (packet.length_slice (etherHdrSize + ipHdrSize) 8)
    have hsent := srSendPacket_of_icmp hiface hmessage
    refine ⟨fun h => Option.some_ne_none _ (hiface.symm.trans h), _, ?_, hmessage.type_eq⟩
    rw [← hsent]
    rfl

/-! ## What is forwarded -/

/-- The copy of `packet` with the time to live decremented and no checksum. -/
def decrementedBuf (packet : Buf) : Buf :=
  (packet.set 22 [packet.get 22 - 1]).set 24 (bytes16 0)

/-- The copy of `packet` that `sr_forward_packet` makes for an interface with the address `addr`. -/
def forwardedBuf (packet : Buf) (addr : MacAddr) : Buf :=
  ((decrementedBuf packet).set 24 (bytes16 (cksumBytes ((decrementedBuf packet).slice etherHdrSize
    (4 * ipHl (packet.get etherHdrSize)))))).set 6 addr.toList

theorem get_decrementedBuf {i : ℕ} (hi : i < 22 ∨ i = 23 ∨ 26 ≤ i) (packet : Buf) :
    (decrementedBuf packet).get i = packet.get i := by
  unfold decrementedBuf
  rw [Buf.get_set_of_not, Buf.get_set_of_not]
  · change i < 22 ∨ 23 ≤ i
    omega
  · change i < 24 ∨ 26 ≤ i
    omega

theorem get_forwardedBuf {i : ℕ} (hi : i < 6 ∨ 12 ≤ i ∧ i < 24 ∨ 26 ≤ i) (packet : Buf)
    (addr : MacAddr) : (forwardedBuf packet addr).get i = (decrementedBuf packet).get i := by
  unfold forwardedBuf
  rw [Buf.get_set_of_not, Buf.get_set_of_not]
  · change i < 24 ∨ 26 ≤ i
    omega
  · rw [List.Vector.toList_length]
    omega

/-- The destination stays when the checksum is stored. -/
theorem get32_dst_decrementedBuf (packet : Buf) {sum : List UInt8} (hsum : sum.length = 2) :
    ((decrementedBuf packet).set 24 sum).get32 30 = packet.get32 30 := by
  have hget (i : ℕ) (hi : 30 ≤ i) : ((decrementedBuf packet).set 24 sum).get i = packet.get i := by
    rw [Buf.get_set_of_not (.inr (by omega)), get_decrementedBuf (.inr (.inr (by omega)))]
  unfold Buf.get32
  rw [hget _ (by decide), hget _ (by decide), hget _ (by decide), hget _ (by decide)]

@[simp] theorem len_decrementedBuf (packet : Buf) : (decrementedBuf packet).len = packet.len := by
  simp [decrementedBuf]

@[simp] theorem len_forwardedBuf (packet : Buf) (addr : MacAddr) :
    (forwardedBuf packet addr).len = packet.len := by
  simp [forwardedBuf]

/-- The result of `sr_forward_packet`. -/
theorem srForwardPacket_val (sr : SrInstance) (packet : Buf) (interface : String) :
    (srForwardPacket sr packet interface).val =
      if (checkIpPacketCorrupt packet etherHdrSize).val = true then .ok ([], .idle)
      else if packet.get 22 - 1 = 0 then
        (srSendIcmpError sr packet interface 11 0).val.map fun entries => (entries, .idle)
      else
        match srRtLookupIp sr.routingTable (packet.get32 30) with
        | none => (srSendIcmpError sr packet interface 3 0).val.map fun entries => (entries, .idle)
        | some entry =>
          match srGetInterface sr.ifList entry.interface with
          | none => .error .assertion
          | some iface =>
            .ok ([], .forwardLookup entry.gw (forwardedBuf packet iface.addr) entry.interface) := by
  have hhl : (decrementedBuf packet).get etherHdrSize = packet.get etherHdrSize :=
    get_decrementedBuf (.inl (by decide)) packet
  simp only [srForwardPacket, srSendIcmpTimeExceeded, srSendIcmpNetUnreachable, cksum, Buf.ipTtl,
    Buf.ipDst, Traced.val_bind, Traced.val_ite, Traced.val_pure, Buf.val_readByte, Buf.val_write,
    Buf.val_read32, Buf.val_readBytes, Int.toNat_natCast]
  change (if _ then _ else if _ then _ else Traced.val
    (match srRtLookupIp sr.routingTable (((decrementedBuf packet).set 24 _).get32 30) with
      | none => _
      | some entry => _)) = _
  rw [get32_dst_decrementedBuf _ rfl,
    show (packet.set 22 [packet.get 22 - 1]).set 24 (bytes16 0) = decrementedBuf packet
    from rfl, hhl]
  cases srRtLookupIp sr.routingTable (packet.get32 30) with
  | none => rfl
  | some entry =>
    simp only
    cases srGetInterface sr.ifList entry.interface <;> rfl

/-- A packet that `sr_forward_packet` routes. -/
theorem srForwardPacket_routed {sr : SrInstance} {packet buf : Buf} {interface iface : String}
    {entries : List LogEntry} {nextHopIp : UInt32}
    (h : (srForwardPacket sr packet interface).val =
      .ok (entries, .forwardLookup nextHopIp buf iface)) :
    entries = [] ∧ ∃ entry own, srRtLookupIp sr.routingTable (packet.get32 30) = some entry ∧
      srGetInterface sr.ifList entry.interface = some own ∧ nextHopIp = entry.gw ∧
      buf = forwardedBuf packet own.addr ∧ iface = entry.interface := by
  have hreport (sent : Except Fault (List LogEntry)) :
      (sent.map fun entries => (entries, Todo.idle)) ≠
        .ok (entries, .forwardLookup nextHopIp buf iface) := by
    cases sent with
    | error fault => rintro ⟨⟩
    | ok sent => rintro ⟨⟩
  rw [srForwardPacket_val] at h
  split at h
  · cases h
  · split at h
    · exact absurd h (hreport _)
    · cases hroute : srRtLookupIp sr.routingTable (packet.get32 30) with
      | none =>
        simp only [hroute] at h
        exact absurd h (hreport _)
      | some entry =>
        cases hown : srGetInterface sr.ifList entry.interface with
        | none =>
          simp only [hroute, hown] at h
          cases h
        | some own =>
          simp only [hroute, hown] at h
          cases h
          exact ⟨rfl, entry, own, rfl, hown, rfl, rfl, rfl⟩

/-! ## Packets that come in -/

/-- The state when `receive` has called `sr_handlepacket`. -/
def State.handled (s : State) (result : Except Fault (List LogEntry × Todo)) : Except Fault State :=
  match result with
  | .error fault => .error fault
  | .ok (entries, todo) => .ok { s.record entries with main := todo }

theorem receive_of_idle {s : State} (hidle : s.main = .idle) (packet : Buf) (interface : String) :
    receive packet interface s = s.handled (srHandlepacket s.sr packet interface).val := by
  unfold receive
  rw [hidle]
  rfl

theorem receive_of_busy {s : State} (hbusy : s.main ≠ .idle) (packet : Buf) (interface : String) :
    receive packet interface s = .ok s := by
  unfold receive
  split
  · exact absurd ‹_› hbusy
  · rfl

/-- Nothing done and nothing left to do. -/
theorem handled_nil {s : State} (hidle : s.main = .idle) : s.handled (.ok ([], .idle)) = .ok s := by
  unfold State.handled
  rw [← hidle]
  rfl

/-- What `sr_handlepacket` does with a packet until it takes the lock of the cache: nothing, an
answer, or the begin of `sr_handle_arp_reply` or of `sr_forward_packet`. -/
inductive Received (packet : Buf) (s : State) : State → Prop
  | ignored : Received packet s s
  | answered (hidle : s.main = .idle) (buf : List UInt8) (iface : String) (sent : Bool) :
      Received packet s (s.record [.answered buf iface sent])
  | reply (hidle : s.main = .idle) (mac : MacAddr) (ip : UInt32) :
      Received packet s { s.record [.arpReply mac ip] with main := .replyLookup mac ip }
  | forward (hidle : s.main = .idle) (entry : SrRt) (iface : SrIf)
      (hroute : srRtLookupIp s.sr.routingTable (packet.get32 30) = some entry)
      (hiface : srGetInterface s.sr.ifList entry.interface = some iface) :
      Received packet s
        { s with
          main := .forwardLookup entry.gw (forwardedBuf packet iface.addr) entry.interface }

theorem handled_answer {packet : Buf} {s : State} (hidle : s.main = .idle) (sr : SrInstance)
    (interface : String) (f : List UInt8 → List UInt8) {result : Except Fault (List UInt8)}
    (hfault : ∀ fault, result = .error fault → fault = .assertion) :
    Outcome (Received packet s) (fun fault => fault = .assertion)
      (s.handled ((result.map fun buf => [answer sr interface (f buf)]).map
        fun entries => (entries, .idle))) := by
  cases result with
  | error fault => exact hfault fault rfl
  | ok buf =>
    change Received packet s { s.record [answer sr interface (f buf)] with main := .idle }
    rw [← hidle]
    exact .answered hidle (f buf) interface _

theorem srPrepareIpPacket_fault {sr : SrInstance} {payloadLen : ℕ} {destIp srcIp : UInt32}
    {destMac : MacAddr} {protocol : UInt8} {interface : String} (fault : Fault)
    (h : srPrepareIpPacket sr payloadLen destIp destMac srcIp protocol interface = .error fault) :
    fault = .assertion := by
  unfold srPrepareIpPacket at h
  split at h
  · exact (Except.error.inj h).symm
  · cases h

theorem srPrepareArpPacket_fault {sr : SrInstance} {interface : String} {destMac arpTha : MacAddr}
    {arpOp : UInt16} {arpTip : UInt32} (fault : Fault)
    (h : srPrepareArpPacket sr interface destMac arpOp arpTha arpTip = .error fault) :
    fault = .assertion := by
  unfold srPrepareArpPacket at h
  split at h
  · exact (Except.error.inj h).symm
  · cases h

theorem handled_srForwardPacket {s : State} (hidle : s.main = .idle) (packet : Buf)
    (interface : String) :
    Outcome (Received packet s) (fun fault => fault = .assertion)
      (s.handled (srForwardPacket s.sr packet interface).val) := by
  rw [srForwardPacket_val]
  split
  · rw [handled_nil hidle]
    exact .ignored
  · split
    · exact handled_answer hidle s.sr interface _ srPrepareIpPacket_fault
    · cases hroute : srRtLookupIp s.sr.routingTable (packet.get32 30) with
      | none => exact handled_answer hidle s.sr interface _ srPrepareIpPacket_fault
      | some entry =>
        cases hiface : srGetInterface s.sr.ifList entry.interface with
        | none =>
          simp only [hiface]
          rfl
        | some iface =>
          simp only [hiface]
          exact .forward hidle entry iface hroute hiface

theorem receive_outcome (packet : Buf) (interface : String) (s : State) :
    Outcome (Received packet s) (fun fault => fault = .assertion) (receive packet interface s) := by
  by_cases hidle : s.main = .idle
  · rw [receive_of_idle hidle]
    unfold srHandlepacket
    simp only [Traced.val_bind, Traced.val_ite, Traced.val_pure]
    split
    · rw [handled_nil hidle]
      exact .ignored
    · split
      · exact handled_answer hidle s.sr interface id srPrepareArpPacket_fault
      · split
        · exact .reply hidle _ _
        · split
          · split
            · unfold srSendIcmpResponse
              simp only [Traced.val_bind, Traced.val_ite, Traced.val_pure]
              split
              · rw [show s.handled ((Except.ok []).map fun entries => (entries, Todo.idle)) = .ok s
                  from handled_nil hidle]
                exact .ignored
              · exact handled_answer hidle s.sr interface _ srPrepareIpPacket_fault
            · split
              · exact handled_answer hidle s.sr interface _ srPrepareIpPacket_fault
              · rw [handled_nil hidle]
                exact .ignored
          · exact handled_srForwardPacket hidle packet interface
  · rw [receive_of_busy hidle]
    exact .ignored

/-! ## Corrupted packets -/

/-- Something done shows in the history. -/
theorem handled_ne {s : State} {result : Except Fault (List LogEntry)}
    (hne : ∀ entries, result = .ok entries → entries ≠ []) :
    s.handled (result.map fun entries => (entries, .idle)) ≠ .ok s := by
  cases result with
  | error fault => rintro ⟨⟩
  | ok entries =>
    intro h
    have hlog : entries ++ s.log = [] ++ s.log := congrArg State.log (Except.ok.inj h)
    exact hne entries rfl (List.append_cancel_right hlog)

theorem answered_of_map_ok {result : Except Fault (List UInt8)} {f : List UInt8 → LogEntry}
    {entries : List LogEntry} (h : (result.map fun hdr => [f hdr]) = .ok entries) :
    entries ≠ [] := by
  cases result with
  | error fault => cases h
  | ok hdr =>
    rw [← Except.ok.inj h]
    exact List.cons_ne_nil _ _

theorem srSendIcmpError_ne {sr : SrInstance} {packet : Buf} {interface : String} {type code : UInt8}
    {entries : List LogEntry}
    (h : (srSendIcmpError sr packet interface type code).val = .ok entries) : entries ≠ [] :=
  answered_of_map_ok h

/-- The check of `sr_send_icmp_response`. -/
def icmpMessageCorrupt (packet : Buf) : Bool :=
  (checkIcmpPacketCorrupt packet (etherHdrSize + ipHdrSize)
    ((packet.len : ℤ) - etherHdrSize - ipHdrSize)).val

theorem srSendIcmpResponse_of_corrupt {sr : SrInstance} {packet : Buf} {interface : String}
    (h : icmpMessageCorrupt packet = true) :
    (srSendIcmpResponse sr packet interface).val = .ok [] := by
  unfold srSendIcmpResponse
  rw [Traced.val_bind, Traced.val_ite]
  exact if_pos h

/-- An echo request with a good checksum is answered. -/
theorem srSendIcmpResponse_ne {sr : SrInstance} {packet : Buf} {interface : String}
    {entries : List LogEntry} (hgood : icmpMessageCorrupt packet = false)
    (h : (srSendIcmpResponse sr packet interface).val = .ok entries) : entries ≠ [] := by
  unfold srSendIcmpResponse at h
  rw [Traced.val_bind, Traced.val_ite] at h
  have hnot : ¬ icmpMessageCorrupt packet = true := by
    rw [hgood]
    exact Bool.false_ne_true
  exact answered_of_map_ok ((if_neg hnot).symm.trans h)

/-- `sr_forward_packet` drops a packet with a bad header. -/
theorem srForwardPacket_of_corrupt {sr : SrInstance} {packet : Buf} {interface : String}
    (h : (checkIpPacketCorrupt packet etherHdrSize).val = true) :
    (srForwardPacket sr packet interface).val = .ok ([], .idle) := by
  unfold srForwardPacket
  rw [Traced.val_bind, Traced.val_ite]
  exact if_pos h

/-- **Corrupted packets have no effect** just when they are not answered: an echo request to the
router is, if the checksum of the message is good, and so is any TCP or UDP packet to it. -/
theorem corrupted_ignored_iff (s : State) (hidle : s.main = .idle) (packet : Buf)
    (interface : String) (hip : packet.get16 12 = ethertypeIp)
    (hcorrupt : (checkIpPacketCorrupt packet etherHdrSize).val = true) :
    receive packet interface s = .ok s ↔
      ¬ ((srPacketIsIpToUs s.sr packet).val = true ∧
        ((packetIsIcmpEchoReq packet).val = true ∧ icmpMessageCorrupt packet = false ∨
          (packetIsIcmpEchoReq packet).val = false ∧ (packetIsTcpUdp packet).val = true)) := by
  rw [receive_of_idle hidle, srHandlepacket_val_of_ip hip]
  cases htoUs : (srPacketIsIpToUs s.sr packet).val with
  | false => simp [srForwardPacket_of_corrupt hcorrupt, handled_nil hidle]
  | true =>
    cases hecho : (packetIsIcmpEchoReq packet).val with
    | true =>
      cases hmessage : icmpMessageCorrupt packet with
      | true =>
        simp [srSendIcmpResponse_of_corrupt hmessage, Except.map, handled_nil hidle]
      | false =>
        simp [handled_ne fun entries => srSendIcmpResponse_ne hmessage]
    | false =>
      cases htcp : (packetIsTcpUdp packet).val with
      | true =>
        have hne := @handled_ne s (srSendIcmpPortUnreachable s.sr packet interface).val
          fun entries => srSendIcmpError_ne
        simp [hne]
      | false => simp [handled_nil hidle]

/-- The address 02:00:00:00:00:01. -/
def ownMac : MacAddr := ⟨[2, 0, 0, 0, 0, 1], rfl⟩

/-- A router with one interface, at 10.0.0.1. -/
def oneInterface : SrInstance :=
  ⟨[⟨"eth1", ownMac, 0x0a000001⟩],
    [⟨0x0a000000, 0x0a000002, 0xff000000, "eth1"⟩], srArpcacheInit⟩

/-- A TCP packet from 10.0.0.2 whose IP header has no checksum. -/
def tcpWithoutSum (dst : UInt8) : Buf :=
  ⟨[2, 0, 0, 0, 0, 1, 2, 0, 0, 0, 0, 2, 8, 0, 0x45, 0, 0, 28, 0, 0, 0, 0, 64, 6, 0, 0, 10, 0, 0, 2,
    10, 0, 0, dst, 0, 80, 0, 80, 0, 0, 0, 0], fun _ => 0⟩

/-- One to 10.0.0.3 is dropped. -/
theorem corrupted_ignored_iff_forward :
    receive (tcpWithoutSum 3) "eth1" ⟨oneInterface, .idle, 0, 0, []⟩ =
      .ok ⟨oneInterface, .idle, 0, 0, []⟩ :=
  (corrupted_ignored_iff ⟨oneInterface, .idle, 0, 0, []⟩ rfl (tcpWithoutSum 3) "eth1" (by decide)
    (by decide)).mpr fun h => absurd h.1 (by decide)

/-- One to 10.0.0.1 is answered with a port unreachable. -/
theorem corrupted_packet_answered :
    42 ≤ (tcpWithoutSum 1).len ∧ (tcpWithoutSum 1).get16 12 = ethertypeIp ∧
      ipHl ((tcpWithoutSum 1).get etherHdrSize) = 5 ∧
      (checkIpPacketCorrupt (tcpWithoutSum 1) etherHdrSize).val = true ∧
      ∃ packet, receive (tcpWithoutSum 1) "eth1" ⟨oneInterface, .idle, 0, 0, []⟩ =
        .ok ⟨oneInterface, .idle, 0, 0, [.answered packet "eth1" true]⟩ :=
  ⟨by decide, by decide, by decide, by decide, _, rfl⟩

/-! ## Forwarded packets -/

/-- The copy of its packet that `sr_forward_packet` transmitted or queued. -/
def LogEntry.copy? : LogEntry → Option (List UInt8)
  | .forwarded packet _ _ => some packet
  | .queued packet _ true => some packet.buf.bytes
  | _ => none

/-- An ICMP time exceeded was sent. -/
def LogEntry.isTimeExceeded : LogEntry → Bool
  | .answered packet _ true => packet[34]? = some 11
  | _ => false

/-- The copy that is still to be transmitted or queued. -/
def Todo.pending : Todo → List (List UInt8)
  | .forwardLookup _ buf _ => [buf.bytes]
  | .forwardQueue _ buf _ => [buf.bytes]
  | .forwardSend mac buf _ => [(buf.set 0 mac.toList).bytes]
  | _ => []

/-- The bytes `copy` are `packet` as a router forwards it. -/
structure ForwardedAs (sr : SrInstance) (packet : Buf) (copy : List UInt8) : Prop where
  length_eq : copy.length = packet.len
  two_le_ttl : 2 ≤ (packet.get 22).toNat
  ttl_eq : ((Buf.mk copy packet.beyond).get 22).toNat + 1 = (packet.get 22).toNat
  accepted : (checkIpPacketCorrupt ⟨copy, packet.beyond⟩ etherHdrSize).val = false
  shost_eq : ∃ entry iface, srRtLookupIp sr.routingTable (packet.get32 30) = some entry ∧
    srGetInterface sr.ifList entry.interface = some iface ∧
      (Buf.mk copy packet.beyond).getMac 6 = iface.addr
  get_eq : ∀ i, 12 ≤ i → i ≠ 22 → i ≠ 24 → i ≠ 25 →
    (Buf.mk copy packet.beyond).get i = packet.get i

/-- A call of `sr_forward_packet`, and what the main thread and the sweeper do then. -/
def forwardRun (packet : Buf) (interface : String) (acts : List Act) (s : State) :
    Except Fault State :=
  match s.handled (srForwardPacket s.sr packet interface).val with
  | .error fault => .error fault
  | .ok s => runActs acts s

/-- No other packet comes in. -/
def NoReceive (acts : List Act) : Prop := ∀ packet interface, Act.receive packet interface ∉ acts

/-- **Forwarding decrements the time to live and changes nothing else**: at most one copy of the
packet is transmitted or queued, and it is as it should be; a packet that is intact and about to die
is answered with one time exceeded, and not forwarded. -/
def ForwardsWell (s : State) (packet : Buf) (interface : String) : Prop :=
  (∀ acts s', NoReceive acts → forwardRun packet interface acts s = .ok s' →
    ∃ new, s'.log = new ++ s.log ∧ (new.filterMap LogEntry.copy?).length ≤ 1 ∧
      (∀ copy ∈ new.filterMap LogEntry.copy?, ForwardedAs s.sr packet copy) ∧
      ((checkIpPacketCorrupt packet etherHdrSize).val = false → (packet.get 22).toNat ≤ 1 →
        new.filterMap LogEntry.copy? = [] ∧ new.countP LogEntry.isTimeExceeded = 1)) ∧
  ((checkIpPacketCorrupt packet etherHdrSize).val = false → (packet.get 22).toNat ≤ 1 →
    ∃ s', s.handled (srForwardPacket s.sr packet interface).val = .ok s')

/-- What has been done with a packet since `s₀`: the copies, done or still to be done, have the
property `P`. -/
def CopiesHave (P : List UInt8 → Prop) (most exceeded : ℕ) (s₀ s : State) : Prop :=
  ∃ new, s.log = new ++ s₀.log ∧
    (new.filterMap LogEntry.copy? ++ s.main.pending).length ≤ most ∧
    (∀ copy ∈ new.filterMap LogEntry.copy? ++ s.main.pending, P copy) ∧
    new.countP LogEntry.isTimeExceeded = exceeded

namespace CopiesHave

variable {P : List UInt8 → Prop} {most exceeded : ℕ} {s₀ s s' : State}

/-- Whatever is done, a copy that was still to be done is made of. -/
theorem extend (h : CopiesHave P most exceeded s₀ s) (added : List LogEntry)
    (hlog : s'.log = added ++ s.log)
    (hlen : (added.filterMap LogEntry.copy? ++ s'.main.pending).length ≤ s.main.pending.length)
    (hP : (∀ copy ∈ s.main.pending, P copy) →
      ∀ copy ∈ added.filterMap LogEntry.copy? ++ s'.main.pending, P copy)
    (hcount : added.countP LogEntry.isTimeExceeded = 0) : CopiesHave P most exceeded s₀ s' := by
  obtain ⟨new, hnew, hmost, hall, hexceeded⟩ := h
  rw [List.forall_mem_append] at hall
  refine ⟨added ++ new, by rw [hlog, hnew, List.append_assoc], ?_, ?_, ?_⟩
  · simp only [List.filterMap_append, List.length_append] at hmost hlen ⊢
    omega
  · have hadded := List.forall_mem_append.mp (hP hall.2)
    rw [List.filterMap_append, List.forall_mem_append, List.forall_mem_append]
    exact ⟨⟨hadded.1, hall.1⟩, hadded.2⟩
  · rw [List.countP_append, hcount, hexceeded, Nat.zero_add]

/-- A step that makes no copy. -/
theorem quiet (h : CopiesHave P most exceeded s₀ s) (added : List LogEntry)
    (hlog : s'.log = added ++ s.log) (hcopies : added.filterMap LogEntry.copy? = [])
    (hpending : s'.main.pending = s.main.pending ∨ s'.main.pending = [])
    (hcount : added.countP LogEntry.isTimeExceeded = 0) : CopiesHave P most exceeded s₀ s' := by
  refine h.extend added hlog ?_ ?_ hcount
  · rcases hpending with heq | heq <;> simp [hcopies, heq]
  · rw [hcopies, List.nil_append]
    rcases hpending with heq | heq <;> rw [heq]
    · exact fun h => h
    · exact fun _ _ h => absurd h List.not_mem_nil

theorem mainMove (hP : ∀ copy (mac : MacAddr), P copy → P (overwrite 0 mac.toList copy))
    (h : CopiesHave P most exceeded s₀ s) (hmove : MainMove s s') :
    CopiesHave P most exceeded s₀ s' := by
  cases hmove with
  | idle => exact h
  | replyUnknown mac ip hmain => exact h.quiet [] rfl rfl (.inr rfl) rfl
  | replyKnown mac ip hmain => exact h.quiet [] rfl rfl (.inr rfl) rfl
  | insert mac ip hmain => exact h.quiet [] rfl rfl (.inr rfl) rfl
  | insertUnlink mac ip before req after => exact h.quiet [] rfl rfl (.inr rfl) rfl
  | sent mac ip hmain => exact h.quiet [] rfl rfl (.inr rfl) rfl
  | send mac ip packet packets sent hmain => exact h.quiet [_] rfl rfl (.inr rfl) rfl
  | unlinkNone mac ip hmain => exact h.quiet [] rfl rfl (.inr rfl) rfl
  | unlink mac ip before req after =>
    have hsent : ∀ e ∈ sentAll s.sr mac req.packets, e.copy? = none ∧ e.isTimeExceeded = false :=
      forall_mem_sentAll fun _ _ _ => ⟨rfl, rfl⟩
    refine h.quiet (sentAll s.sr mac req.packets) rfl ?_ (.inr rfl) ?_
    · exact List.filterMap_eq_nil_iff.mpr fun e he => (hsent e he).1
    · exact List.countP_eq_zero.mpr fun e he => by simp [(hsent e he).2]
  | forwardUnknown nextHopIp buf iface hmain =>
    exact h.quiet [] rfl rfl (.inl (by rw [hmain]; rfl)) rfl
  | forwardKnown nextHopIp mac buf iface hmain =>
    refine h.extend [] rfl (by rw [hmain]; exact le_rfl) ?_ rfl
    rw [hmain]
    intro hpending
    refine List.forall_mem_singleton.mpr (hP buf.bytes mac ?_)
    exact hpending buf.bytes List.mem_cons_self
  | queue nextHopIp buf iface hmain =>
    rcases queuereq_cases nextHopIp buf iface true s with
      ⟨-, -, hlog⟩ | ⟨_, _, _, -, -, -, -, hlog⟩ <;>
      rcases toQueue_cases ⟨buf, iface, s.serials⟩ with hqueue | hqueue <;>
      rw [hqueue] at hlog
    · refine h.extend [_, _] hlog (by rw [hmain]; exact le_rfl) ?_ rfl
      rw [hmain]
      exact fun h => h
    · exact h.quiet [_] hlog rfl (.inr rfl) rfl
    · refine h.extend [_] hlog (by rw [hmain]; exact le_rfl) ?_ rfl
      rw [hmain]
      exact fun h => h
    · exact h.quiet [] hlog rfl (.inr rfl) rfl
  | request nextHopIp iface packet sent hmain => exact h.quiet [_] rfl rfl (.inr rfl) rfl
  | forward mac buf iface sent hmain =>
    refine h.extend [_] rfl (by rw [hmain]; exact le_rfl) ?_ rfl
    rw [hmain]
    exact fun h => h

theorem sweeperTurn (h : CopiesHave P most exceeded s₀ s) :
    Outcome (CopiesHave P most exceeded s₀) (fun _ => True) (sweeperTurn s) := by
  refine (sweeperTurn_frame s).mono (fun s' hframe => ?_) fun _ h => h
  obtain ⟨new, hlog, hnew⟩ := hframe.log_eq
  have hsweep {entry : LogEntry} (h : entry.OfSweep) :
      entry.copy? = none ∧ entry.isTimeExceeded = false := by
    cases entry with
    | queued packet ip transit =>
      obtain rfl : transit = false := h
      exact ⟨rfl, rfl⟩
    | answered packet iface sent =>
      refine ⟨rfl, ?_⟩
      have htype : packet[34]? = some 3 := h
      cases sent with
      | false => rfl
      | true => exact decide_eq_false (by rw [htype]; decide)
    | forwarded packet iface sent => exact absurd h id
    | _ => exact ⟨rfl, rfl⟩
  refine h.quiet new hlog ?_ (.inl (congrArg Todo.pending hframe.main_eq)) ?_
  · exact List.filterMap_eq_nil_iff.mpr fun entry hentry => (hsweep (hnew entry hentry)).1
  · exact List.countP_eq_zero.mpr fun entry hentry => by simp [(hsweep (hnew entry hentry)).2]

theorem runActs (hP : ∀ copy (mac : MacAddr), P copy → P (overwrite 0 mac.toList copy))
    (h : CopiesHave P most exceeded s₀ s) {acts : List Act} (hacts : NoReceive acts) :
    Outcome (CopiesHave P most exceeded s₀) (fun _ => True) (runActs acts s) := by
  refine runActs_outcome (fun act hact s h => ?_) h
  cases act with
  | receive packet interface => exact absurd hact (hacts packet interface)
  | main => exact (mainStep_outcome s).mono (fun s' => h.mainMove hP) fun _ _ => trivial
  | sweep => exact h.sweeperTurn
  | wait usec => exact h

end CopiesHave

/-! ### The copy -/

theorem ForwardedAs.overwrite_dhost {sr : SrInstance} {packet : Buf}
    (hhl : 5 ≤ ipHl (packet.get etherHdrSize)) {copy : List UInt8}
    (h : ForwardedAs sr packet copy) (mac : MacAddr) :
    ForwardedAs sr packet (overwrite 0 mac.toList copy) := by
  have hget (i : ℕ) (hi : 6 ≤ i) : (Buf.mk (overwrite 0 mac.toList copy) packet.beyond).get i =
      (Buf.mk copy packet.beyond).get i :=
    Buf.get_set_of_not (.inr (by rw [List.Vector.toList_length]; omega)) ⟨copy, packet.beyond⟩
  have hslice (n : ℕ) : (Buf.mk (overwrite 0 mac.toList copy) packet.beyond).slice etherHdrSize n =
      (Buf.mk copy packet.beyond).slice etherHdrSize n := by
    unfold Buf.slice
    refine List.map_congr_left fun i _ => hget _ ?_
    exact Nat.le_add_right_of_le (by decide)
  have hhead : (Buf.mk copy packet.beyond).get etherHdrSize = packet.get etherHdrSize :=
    h.get_eq _ (by decide) (by decide) (by decide) (by decide)
  obtain ⟨entry, iface, hroute, hiface, hshost⟩ := h.shost_eq
  refine ⟨by rw [length_overwrite, h.length_eq], h.two_le_ttl, ?_, ?_,
    ⟨entry, iface, hroute, hiface, ?_⟩, fun i hi => ?_⟩
  · rw [hget _ (by decide), h.ttl_eq]
  · have haccepted := h.accepted
    rw [checkIpPacketCorrupt_val _ _ (by rw [hhead]; exact hhl)] at haccepted
    rw [checkIpPacketCorrupt_val _ _ (by rw [hget _ (by decide), hhead]; exact hhl),
      hget _ (by decide), hslice, haccepted]
    unfold Buf.get16
    rw [hget _ (by decide), hget _ (by decide)]
  · rw [← hshost]
    unfold Buf.getMac
    exact congrArg List.Vector.ofFn (funext fun i => hget _ (Nat.le_add_right _ _))
  · rw [hget i (by omega)]
    exact h.get_eq i hi

/-- The checksum that `sr_forward_packet` computes is accepted. -/
theorem forwardedBuf_accepted {packet : Buf} (hhl : 5 ≤ ipHl (packet.get etherHdrSize))
    (hlen : etherHdrSize + 4 * ipHl (packet.get etherHdrSize) ≤ packet.len) (addr : MacAddr) :
    (checkIpPacketCorrupt (forwardedBuf packet addr) etherHdrSize).val = false := by
  have hether : etherHdrSize = 14 := rfl
  have hhead : (forwardedBuf packet addr).get etherHdrSize = packet.get etherHdrSize := by
    rw [get_forwardedBuf (.inr (.inl (by decide))), get_decrementedBuf (.inl (by decide))]
  generalize hsum : cksumBytes ((decrementedBuf packet).slice etherHdrSize
    (4 * ipHl (packet.get etherHdrSize))) = sum
  have hstored (k : ℕ) (hk : k < 2) :
      (forwardedBuf packet addr).get (24 + k) = (bytes16 sum).get ⟨k, hk⟩ := by
    unfold forwardedBuf
    rw [Buf.get_set_of_not (.inr (by rw [List.Vector.toList_length]; omega)), hsum,
      Buf.get_set_of_mem hk (by rw [len_decrementedBuf]; omega)]
    rfl
  have hzero (k : ℕ) (hk : k < 2) : (decrementedBuf packet).get (24 + k) = 0 := by
    unfold decrementedBuf
    rw [Buf.get_set_of_mem hk (by rw [Buf.len_set]; omega)]
    match k, hk with
    | 0, _ => rfl
    | 1, _ => rfl
  -- with the checksum zeroed again, the header is the one that was summed
  have hslice : overwrite 10 (bytes16 0) ((forwardedBuf packet addr).slice etherHdrSize
      (4 * ipHl (packet.get etherHdrSize))) =
      (decrementedBuf packet).slice etherHdrSize (4 * ipHl (packet.get etherHdrSize)) := by
    apply List.ext_getElem?
    intro i
    rw [getElem?_overwrite, Buf.getElem?_slice, Buf.getElem?_slice]
    by_cases hi : i < 4 * ipHl (packet.get etherHdrSize)
    · rw [if_pos hi, if_pos hi, Option.map_some, Option.some_inj]
      split
      · match i, ‹10 ≤ i› with
        | 10, _ => exact (hzero 0 (by decide)).symm
        | 11, _ => exact (hzero 1 (by decide)).symm
        | k + 12, _ =>
          rw [List.getD_eq_getElem?_getD, List.getElem?_eq_none (by change 2 ≤ k + 12 - 10; omega),
            Option.getD_none, get_forwardedBuf (by omega)]
      · rw [get_forwardedBuf (by omega)]
    · rw [if_neg hi, if_neg hi, Option.map_none]
  rw [checkIpPacketCorrupt_val _ _ (by rw [hhead]; exact hhl), hhead, hslice, hsum]
  unfold Buf.get16
  rw [show etherHdrSize + 10 = 24 + 0 from rfl, hstored 0 (by decide),
    show 24 + 0 + 1 = 24 + 1 from rfl, hstored 1 (by decide)]
  exact (word16_bytes16 sum).symm

theorem forwardedAs_forwardedBuf {sr : SrInstance} {packet : Buf}
    (hhl : 5 ≤ ipHl (packet.get etherHdrSize))
    (hlen : etherHdrSize + 4 * ipHl (packet.get etherHdrSize) ≤ packet.len) {entry : SrRt}
    {iface : SrIf} (hroute : srRtLookupIp sr.routingTable (packet.get32 30) = some entry)
    (hiface : srGetInterface sr.ifList entry.interface = some iface) (httl : packet.get 22 ≠ 0)
    (hlive : packet.get 22 - 1 ≠ 0) :
    ForwardedAs sr packet (forwardedBuf packet iface.addr).bytes := by
  have hether : etherHdrSize = 14 := rfl
  have hpos : 1 ≤ (packet.get 22).toNat := by
    rw [Nat.one_le_iff_ne_zero]
    exact fun h => httl (UInt8.toNat_inj.mp h)
  have hsub : (packet.get 22 - 1).toNat = (packet.get 22).toNat - 1 :=
    UInt8.toNat_sub_of_le _ _ (UInt8.le_iff_toNat_le.mpr hpos)
  have hne : (packet.get 22).toNat - 1 ≠ 0 := by
    rw [← hsub]
    exact fun h => hlive (UInt8.toNat_inj.mp h)
  have hbyte : (forwardedBuf packet iface.addr).get 22 = packet.get 22 - 1 := by
    rw [get_forwardedBuf (by decide)]
    unfold decrementedBuf
    rw [Buf.get_set_of_not (.inl (by decide))]
    exact @Buf.get_set_of_mem 22 0 [packet.get 22 - 1] packet Nat.one_pos (by omega)
  refine ⟨len_forwardedBuf packet iface.addr, by omega, ?_, forwardedBuf_accepted hhl hlen _,
    ⟨entry, iface, hroute, hiface, ?_⟩, fun i hi h22 h24 h25 => ?_⟩
  · change ((forwardedBuf packet iface.addr).get 22).toNat + 1 = _
    rw [hbyte, hsub]
    omega
  · change (forwardedBuf packet iface.addr).getMac 6 = iface.addr
    apply List.Vector.ext
    intro i
    have hi : (i : ℕ) < iface.addr.toList.length := by
      rw [List.Vector.toList_length]
      exact i.isLt
    unfold Buf.getMac forwardedBuf
    rw [List.Vector.get_ofFn, Buf.get_set_of_mem hi (by simp; omega)]
    rfl
  · change (forwardedBuf packet iface.addr).get i = _
    rw [get_forwardedBuf (by omega), get_decrementedBuf (by omega)]

/-! ### The call -/

/-- A packet that is corrupt or not about to die: a copy is still to be made, or it is dropped. -/
theorem copiesHave_of_handled {P : List UInt8 → Prop} {s s₁ : State} {packet : Buf}
    {interface : String}
    (hlive : (checkIpPacketCorrupt packet etherHdrSize).val = true ∨ packet.get 22 - 1 ≠ 0)
    (hP : (checkIpPacketCorrupt packet etherHdrSize).val = false → ∀ entry iface,
      srRtLookupIp s.sr.routingTable (packet.get32 30) = some entry →
      srGetInterface s.sr.ifList entry.interface = some iface →
      P (forwardedBuf packet iface.addr).bytes)
    (h : s.handled (srForwardPacket s.sr packet interface).val = .ok s₁) :
    CopiesHave P 1 0 s s₁ := by
  rw [srForwardPacket_val] at h
  split at h
  · obtain rfl := Except.ok.inj h
    exact ⟨[], rfl, Nat.zero_le 1, fun _ h => absurd h List.not_mem_nil, rfl⟩
  · rename_i hgood
    rw [if_neg (hlive.resolve_left hgood)] at h
    cases hroute : srRtLookupIp s.sr.routingTable (packet.get32 30) with
    | none =>
      rw [hroute] at h
      have herror := srSendIcmpError_outcome s.sr packet interface 3 0
      cases hsend : (srSendIcmpError s.sr packet interface 3 0).val with
      | error fault => simp [hsend, Except.map, State.handled] at h
      | ok entries =>
        obtain ⟨-, buf, rfl, htype⟩ := herror.result hsend
        simp only [hsend, Except.map, State.handled, Except.ok.injEq] at h
        subst h
        refine ⟨[_], rfl, Nat.zero_le 1, fun _ h => absurd h List.not_mem_nil, ?_⟩
        refine List.countP_eq_zero.mpr (List.forall_mem_singleton.mpr ?_)
        simp [LogEntry.isTimeExceeded, htype]
    | some entry =>
      rw [hroute] at h
      cases hiface : srGetInterface s.sr.ifList entry.interface with
      | none => simp [hiface, State.handled] at h
      | some iface =>
        simp only [hiface, State.handled, Except.ok.injEq] at h
        subst h
        refine ⟨[], rfl, le_rfl, ?_, rfl⟩
        exact List.forall_mem_singleton.mpr
          (hP (Bool.eq_false_iff.mpr hgood) entry iface hroute hiface)

/-- A packet that is about to die is answered. -/
theorem copiesHave_of_dying (P : List UInt8 → Prop) {s : State} {packet : Buf} {interface : String}
    (hgood : (checkIpPacketCorrupt packet etherHdrSize).val = false) (hdying : packet.get 22 = 1)
    (hiface : srGetInterface s.sr.ifList interface ≠ none) :
    ∃ s₁, s.handled (srForwardPacket s.sr packet interface).val = .ok s₁ ∧
      CopiesHave P 0 1 s s₁ := by
  have herror := srSendIcmpError_outcome s.sr packet interface 11 0
  have hval := srForwardPacket_val s.sr packet interface
  rw [if_neg (by rw [hgood]; exact Bool.false_ne_true), hdying, if_pos (by decide)] at hval
  rw [hval]
  cases hsend : (srSendIcmpError s.sr packet interface 11 0).val with
  | error fault => exact absurd (herror.failure hsend).2 hiface
  | ok entries =>
    obtain ⟨-, buf, rfl, htype⟩ := herror.result hsend
    refine ⟨_, rfl, [_], rfl, le_rfl, fun _ h => absurd h List.not_mem_nil, ?_⟩
    simp [LogEntry.isTimeExceeded, htype]

/-- Packets are forwarded well but for those with a good header whose time to live is zero, which
wraps around; and for one that is about to die, there must be an interface to answer it on. -/
theorem forwardsWell_iff (s : State) (packet : Buf) (interface : String)
    (hhl : 5 ≤ ipHl (packet.get etherHdrSize))
    (hlen : etherHdrSize + 4 * ipHl (packet.get etherHdrSize) ≤ packet.len) :
    ForwardsWell s packet interface ↔
      ((checkIpPacketCorrupt packet etherHdrSize).val = false →
        packet.get 22 ≠ 0 ∧
          (packet.get 22 = 1 → srGetInterface s.sr.ifList interface ≠ none)) := by
  have hP : ∀ copy (mac : MacAddr), ForwardedAs s.sr packet copy →
      ForwardedAs s.sr packet (overwrite 0 mac.toList copy) :=
    fun copy mac h => h.overwrite_dhost hhl mac
  have hrun {most exceeded : ℕ} {s₁ s' : State} {acts : List Act}
      (hcopies : CopiesHave (ForwardedAs s.sr packet) most exceeded s s₁) (hacts : NoReceive acts)
      (hhandled : s.handled (srForwardPacket s.sr packet interface).val = .ok s₁)
      (h : forwardRun packet interface acts s = .ok s') :
      CopiesHave (ForwardedAs s.sr packet) most exceeded s s' := by
    unfold forwardRun at h
    rw [hhandled] at h
    exact (hcopies.runActs hP hacts).result h
  have hone {ttl : UInt8} : ttl.toNat ≤ 1 ↔ ttl = 0 ∨ ttl = 1 := by
    rw [← UInt8.toNat_inj, ← UInt8.toNat_inj]
    change _ ↔ ttl.toNat = 0 ∨ ttl.toNat = 1
    omega
  constructor
  · rintro ⟨hruns, hdying⟩ hgood
    refine ⟨fun httl => ?_, fun httl hiface => ?_⟩
    · -- zero wraps around to 255, and nobody is told
      obtain ⟨s₁, hs₁⟩ := hdying hgood (hone.mpr (.inl httl))
      have hlive : packet.get 22 - 1 ≠ 0 := by
        rw [httl]
        decide
      obtain ⟨new, hnew, -, -, hcount⟩ :=
        copiesHave_of_handled (P := fun _ => True) (.inr hlive) (fun _ _ _ _ _ => trivial) hs₁
      obtain ⟨new', hnew', -, -, hanswered⟩ := hruns [] s₁ (fun _ _ => List.not_mem_nil)
        (by unfold forwardRun; rw [hs₁]; rfl)
      obtain rfl := List.append_cancel_right (hnew.symm.trans hnew')
      have htold := (hanswered hgood (hone.mpr (.inl httl))).2
      omega
    · obtain ⟨s₁, hs₁⟩ := hdying hgood (hone.mpr (.inr httl))
      have herror := srSendIcmpError_outcome s.sr packet interface 11 0
      rw [srForwardPacket_val, if_neg (by rw [hgood]; exact Bool.false_ne_true), httl,
        if_pos (by decide)] at hs₁
      cases hsend : (srSendIcmpError s.sr packet interface 11 0).val with
      | error fault => simp [hsend, Except.map, State.handled] at hs₁
      | ok entries => exact (herror.result hsend).1 hiface
  · intro h
    by_cases hdying : (checkIpPacketCorrupt packet etherHdrSize).val = false ∧ packet.get 22 = 1
    · obtain ⟨hgood, httl⟩ := hdying
      obtain ⟨s₁, hs₁, hcopies⟩ := copiesHave_of_dying (ForwardedAs s.sr packet) hgood httl
        ((h hgood).2 httl)
      refine ⟨fun acts s' hacts hs' => ?_, fun _ _ => ⟨s₁, hs₁⟩⟩
      obtain ⟨new, hnew, hmost, hall, hcount⟩ := hrun hcopies hacts hs₁ hs'
      obtain ⟨hnone, -⟩ := List.append_eq_nil_iff.mp
        (List.length_eq_zero_iff.mp (Nat.le_zero.mp hmost))
      refine ⟨new, hnew, by rw [hnone]; exact Nat.zero_le 1, ?_, fun _ _ => ⟨hnone, hcount⟩⟩
      exact (List.forall_mem_append.mp hall).1
    · have hne (hgood : (checkIpPacketCorrupt packet etherHdrSize).val = false) :
          packet.get 22 - 1 ≠ 0 := by
        intro hzero
        have hback := congrArg (· + 1) hzero
        simp only [UInt8.sub_add_cancel] at hback
        exact hdying ⟨hgood, hback⟩
      have hlive : (checkIpPacketCorrupt packet etherHdrSize).val = true ∨
          packet.get 22 - 1 ≠ 0 := by
        cases hgood : (checkIpPacketCorrupt packet etherHdrSize).val with
        | true => exact .inl rfl
        | false => exact .inr (hne hgood)
      refine ⟨fun acts s' hacts hs' => ?_, fun hgood httl => ?_⟩
      · cases hs₁ : s.handled (srForwardPacket s.sr packet interface).val with
        | error fault => simp [forwardRun, hs₁] at hs'
        | ok s₁ =>
          have hcopies := copiesHave_of_handled hlive (fun hgood entry iface hroute hiface =>
            forwardedAs_forwardedBuf hhl hlen hroute hiface (h hgood).1 (hne hgood)) hs₁
          obtain ⟨new, hnew, hmost, hall, -⟩ := hrun hcopies hacts hs₁ hs'
          rw [List.length_append] at hmost
          refine ⟨new, hnew, by omega, (List.forall_mem_append.mp hall).1, fun hgood httl => ?_⟩
          exact absurd ⟨hgood, (hone.mp httl).resolve_left (h hgood).1⟩ hdying
      · exact absurd ⟨hgood, (hone.mp httl).resolve_left (h hgood).1⟩ hdying

/-- An ICMP packet from 10.0.0.2 to 10.0.0.3 with the time to live `ttl`. -/
def pingPacket (ttl sum0 sum1 : UInt8) : Buf :=
  ⟨[2, 0, 0, 0, 0, 1, 2, 0, 0, 0, 0, 2, 8, 0, 0x45, 0, 0, 28, 0, 0, 0, 0, ttl, 1, sum0, sum1,
    10, 0, 0, 2, 10, 0, 0, 3, 8, 0, 0xf7, 0xfd, 0, 1, 0, 1], fun _ => 0⟩

/-- One with a time to live of 64. -/
theorem forwardsWell_iff_ping :
    ForwardsWell ⟨oneInterface, .idle, 0, 0, []⟩ (pingPacket 64 0x66 0xdd) "eth1" :=
  (forwardsWell_iff ⟨oneInterface, .idle, 0, 0, []⟩ (pingPacket 64 0x66 0xdd) "eth1" (by decide)
    (by decide)).mpr fun _ => ⟨by decide, fun h => absurd h (by decide)⟩

/-- One whose time to live is zero goes on with 255. -/
theorem dead_packet_forwarded :
    (checkIpPacketCorrupt (pingPacket 0 0xa6 0xdd) etherHdrSize).val = false ∧
      (forwardedBuf (pingPacket 0 0xa6 0xdd) ownMac).get 22 = 255 ∧
      ¬ ForwardsWell ⟨oneInterface, .idle, 0, 0, []⟩ (pingPacket 0 0xa6 0xdd) "eth1" := by
  refine ⟨by decide, by decide, ?_⟩
  rintro ⟨hruns, -⟩
  obtain ⟨new, hnew, -, -, hanswered⟩ := hruns [.main, .main] _
    (by simp [NoReceive]) rfl
  rw [List.append_nil] at hnew
  subst hnew
  exact absurd (hanswered (by decide) (by decide)).2 (by decide)

end NetworkSim.Router
