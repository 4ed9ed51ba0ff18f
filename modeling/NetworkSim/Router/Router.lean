import NetworkSim.Router.Arpcache
import NetworkSim.Router.Rt

/-!
# Handling a packet

`sr_handlepacket` and the functions of `router/sr_router.c` that it calls, up to where they take the
lock of the ARP cache: what they hand to `sr_send_packet` is recorded (`LogEntry`), and what is left
to be done is returned (`Todo`). `printf` has no effect here, but `print_hdrs` reads the packet.
-/

namespace NetworkSim.Router

/-- The part of `struct sr_instance` that is used. -/
structure SrInstance where
  ifList : List SrIf
  routingTable : List SrRt
  cache : SrArpcache

/-- The ways in which the router stops. -/
inductive Fault
  /-- `assert(iface)` fails. -/
  | assertion
  /-- `assert(req->packets)` fails. -/
  | noPackets
  /-- `entry->gw` is read of a route that is `NULL`. -/
  | nullRoute
  /-- `iface->addr` is read of an interface that is `NULL`. -/
  | nullIface
  deriving DecidableEq

/-- What the router has done. No function reads it. -/
inductive LogEntry
  /-- `sr_handle_arp_reply` was called. -/
  | arpReply (mac : MacAddr) (ip : UInt32)
  /-- An answer was given to `sr_send_packet`, which sent it or not. -/
  | answered (packet : List UInt8) (iface : String) (sent : Bool)
  /-- `sr_forward_packet` gave a packet to `sr_send_packet`. -/
  | forwarded (packet : List UInt8) (iface : String) (sent : Bool)
  /-- A packet was put on the list of a request; `transit` if by `sr_forward_packet`. -/
  | queued (packet : SrPacket) (ip : UInt32) (transit : Bool)
  /-- `sr_send_arp_request` gave a request to `sr_send_packet`. -/
  | arpRequest (ip : UInt32) (time : ℕ) (packet : List UInt8) (sent : Bool)
  /-- `sr_send_arp_queued_packets` gave a packet, with the destination `mac`, to
  `sr_send_packet`. -/
  | sentQueued (packet : SrPacket) (mac : MacAddr) (sent : Bool)
  /-- `sr_send_icmp_host_unreachable` was called for a waiting packet. -/
  | hostUnreachable (packet : SrPacket)
  /-- `sr_arpreq_destroy` released a packet. -/
  | destroyed (packet : SrPacket)
  /-- The sweep gave up a request. -/
  | gaveUp (ip : UInt32)
  /-- A request was put on the queue. -/
  | created (ip : UInt32)

/-- What the main thread still has to do with a packet. -/
inductive Todo
  | idle
  /-- In `sr_handle_arp_reply`, before `sr_arpcache_lookup`. -/
  | replyLookup (mac : MacAddr) (ip : UInt32)
  /-- In `sr_handle_arp_reply`, before `sr_arpcache_insert`. -/
  | replyInsert (mac : MacAddr) (ip : UInt32)
  /-- In `sr_send_arp_queued_packets` outside of the lock, with the packets still to be sent. -/
  | replySend (mac : MacAddr) (ip : UInt32) (packets : List SrPacket)
  /-- In `sr_handle_arp_reply`, before `sr_arp_send_packets`. -/
  | replyUnlink (mac : MacAddr) (ip : UInt32)
  /-- In `sr_forward_packet`, before `sr_arpcache_lookup`. -/
  | forwardLookup (nextHopIp : UInt32) (buf : Buf) (iface : String)
  /-- In `sr_forward_packet`, before `sr_arpcache_queuereq`. -/
  | forwardQueue (nextHopIp : UInt32) (buf : Buf) (iface : String)
  /-- In `sr_forward_packet`, before `sr_send_arp_request`. -/
  | forwardRequest (nextHopIp : UInt32) (iface : String)
  /-- In `sr_forward_packet`, before `sr_send_packet`. -/
  | forwardSend (mac : MacAddr) (buf : Buf) (iface : String)

/-! ## Sending -/

/-- `sr_send_packet`: whether it sends the packet. -/
def srSendPacket (sr : SrInstance) (buf : List UInt8) (iface : String) : Bool :=
  if buf.length < etherHdrSize then false
  else
    match srGetInterface sr.ifList iface with
    | none => false
    | some iface => decide ((buf.drop 6).take 6 = iface.addr.toList)

/-- An answer to be sent. -/
def answer (sr : SrInstance) (interface : String) (buf : List UInt8) : LogEntry :=
  .answered buf interface (srSendPacket sr buf interface)

/-- The header with its checksum that `sr_prepare_ip_packet` makes, for `payload_len` bytes that its
caller fills in. -/
def srPrepareIpPacket (sr : SrInstance) (payloadLen : ℕ) (destIp : UInt32) (destMac : MacAddr)
    (srcIp : UInt32) (protocol : UInt8) (interface : String) : Except Fault (List UInt8) :=
  match srGetInterface sr.ifList interface with
  | none => .error .assertion
  | some iface =>
    .ok (destMac.toList ++ iface.addr.toList ++ bytes16 ethertypeIp ++
      withSum 10 ([0x45, 0] ++ bytes16 (UInt16.ofNat (ipHdrSize + payloadLen)) ++ bytes16 0 ++
        bytes16 0 ++ [initTtl, protocol] ++ bytes16 0 ++
        bytes32 (if srcIp = 0 then iface.ip else srcIp) ++ bytes32 destIp))

/-- `sr_prepare_arp_packet`. -/
def srPrepareArpPacket (sr : SrInstance) (interface : String) (destMac : MacAddr) (arpOp : UInt16)
    (arpTha : MacAddr) (arpTip : UInt32) : Except Fault (List UInt8) :=
  match srGetInterface sr.ifList interface with
  | none => .error .assertion
  | some iface =>
    .ok (destMac.toList ++ iface.addr.toList ++ bytes16 ethertypeArp ++ bytes16 arpHrdEthernet ++
      bytes16 ethertypeIp ++ [6, 4] ++ bytes16 arpOp ++ iface.addr.toList ++ bytes32 iface.ip ++
      arpTha.toList ++ bytes32 arpTip)

/-- A `struct sr_icmp_t08_hdr` with its checksum. -/
def icmpT08Hdr (type code : UInt8) (id seq : UInt16) : List UInt8 :=
  withSum 2 ([type, code] ++ bytes16 0 ++ bytes16 id ++ bytes16 seq)

/-- A `struct sr_icmp_t11_hdr` with its checksum, about a packet with the IP header `ipHdr` and the
first 8 bytes `data` behind it. -/
def icmpT11Hdr (type code : UInt8) (ipHdr data : List UInt8) : List UInt8 :=
  withSum 2 ([type, code] ++ bytes16 0 ++ bytes32 0 ++ ipHdr ++ data)

variable (sr : SrInstance) (packet : Buf) (interface : String)

/-- `sr_send_arp_response`. -/
def srSendArpResponse : Reads (Except Fault (List LogEntry)) := do
  let shost ← packet.etherShost
  let sha ← packet.arSha
  let sip ← packet.arSip
  return (srPrepareArpPacket sr interface shost arpOpReply sha sip).map
    fun buf => [answer sr interface buf]

/-- `sr_send_icmp_response`. -/
def srSendIcmpResponse : Reads (Except Fault (List LogEntry)) := do
  let corrupt ← checkIcmpPacketCorrupt packet (etherHdrSize + ipHdrSize)
    ((packet.len : ℤ) - etherHdrSize - ipHdrSize)
  if corrupt then return .ok []
  else
    let src ← packet.ipSrc
    let shost ← packet.etherShost
    let dst ← packet.ipDst
    let id ← packet.icmpId
    let seq ← packet.icmpSeq
    return (srPrepareIpPacket sr icmpT08HdrSize src shost dst ipProtocolIcmp interface).map
      fun hdr => [answer sr interface (hdr ++ icmpT08Hdr 0 0 id seq)]

/-- An ICMP error about a packet, back to its source over the interface that it came from: what
`sr_send_icmp_net_unreachable`, `sr_send_icmp_time_exceeded` and `sr_send_icmp_port_unreachable`
have in common. -/
def srSendIcmpError (type code : UInt8) : Reads (Except Fault (List LogEntry)) := do
  let src ← packet.ipSrc
  let shost ← packet.etherShost
  let ipHdr ← packet.readBytes etherHdrSize ipHdrSize
  let data ← packet.readBytes (etherHdrSize + ipHdrSize) 8
  return (srPrepareIpPacket sr icmpT11HdrSize src shost 0 ipProtocolIcmp interface).map
    fun hdr => [answer sr interface (hdr ++ icmpT11Hdr type code ipHdr data)]

/-- `sr_send_icmp_net_unreachable`. -/
def srSendIcmpNetUnreachable : Reads (Except Fault (List LogEntry)) :=
  srSendIcmpError sr packet interface 3 0

/-- `sr_send_icmp_time_exceeded`. -/
def srSendIcmpTimeExceeded : Reads (Except Fault (List LogEntry)) :=
  srSendIcmpError sr packet interface 11 0

/-- `sr_send_icmp_port_unreachable`. -/
def srSendIcmpPortUnreachable : Reads (Except Fault (List LogEntry)) :=
  srSendIcmpError sr packet interface 3 3

/-! ## Packets to the router -/

/-- What `print_hdrs` reads. -/
def printHdrs : Reads Unit := do
  if packet.len < etherHdrSize then return ()
  else
    let type ← packet.etherType
    let _ ← packet.readBytes 0 etherHdrSize
    if type = ethertypeIp then
      if packet.len < etherHdrSize + ipHdrSize then return ()
      else
        let _ ← packet.readBytes etherHdrSize ipHdrSize
        let p ← packet.ipP
        if p = ipProtocolIcmp then
          if packet.len < etherHdrSize + ipHdrSize + 4 then return ()
          else
            let code ← packet.icmpCode
            if code = 0 ∨ code = 8 then
              let _ ← packet.readBytes (etherHdrSize + ipHdrSize) icmpT08HdrSize
              return ()
            else
              let _ ← packet.readBytes (etherHdrSize + ipHdrSize) 4
              return ()
        else return ()
    else if type = ethertypeArp then
      if packet.len < etherHdrSize + arpHdrSize then return ()
      else
        let _ ← packet.readBytes etherHdrSize arpHdrSize
        return ()
    else return ()

/-- `packet_is_not_arp_or_ip`. -/
def packetIsNotArpOrIp : Reads Bool := do
  let type ← packet.etherType
  return decide (type ≠ ethertypeArp) && decide (type ≠ ethertypeIp)

/-- Whether the packet is ARP with the given opcode. -/
def packetIsArp (op : UInt16) : Reads Bool := do
  let type ← packet.etherType
  if type = ethertypeArp then
    let arOp ← packet.arOp
    return decide (arOp = op)
  else return false

/-- `packet_is_arp_req`. -/
def packetIsArpReq : Reads Bool := packetIsArp packet arpOpRequest

/-- `packet_is_arp_reply`. -/
def packetIsArpReply : Reads Bool := packetIsArp packet arpOpReply

/-- `packet_is_icmp_echo_req`. -/
def packetIsIcmpEchoReq : Reads Bool := do
  let type ← packet.etherType
  if type ≠ ethertypeIp then return false
  else
    let p ← packet.ipP
    if p ≠ ipProtocolIcmp then return false
    else
      let icmpType ← packet.icmpType
      return decide (icmpType = 8)

/-- `packet_is_tcp_udp`. -/
def packetIsTcpUdp : Reads Bool := do
  let type ← packet.etherType
  if type ≠ ethertypeIp then return false
  else
    let p ← packet.ipP
    return decide (p = ipProtocolTcp) || decide (p = ipProtocolUdp)

/-- `sr_packet_is_ip_to_us`. -/
def srPacketIsIpToUs : Reads Bool := do
  let type ← packet.etherType
  if type ≠ ethertypeIp then return false
  else if sr.ifList = [] then return false
  else
    let dst ← packet.ipDst
    return sr.ifList.any fun iface => decide (iface.ip = dst)

/-! ## Forwarding and dispatch -/

/-- `sr_forward_packet`, up to the lookup in the ARP cache. -/
def srForwardPacket : Reads (Except Fault (List LogEntry × Todo)) := do
  let corrupt ← checkIpPacketCorrupt packet etherHdrSize
  if corrupt then return .ok ([], .idle)
  else
    let ttl ← packet.ipTtl
    let buf ← packet.write 22 [ttl - 1]
    if ttl - 1 = 0 then
      let sent ← srSendIcmpTimeExceeded sr packet interface
      return sent.map fun entries => (entries, .idle)
    else
      let buf ← buf.write 24 (bytes16 0)
      let hl ← buf.readByte etherHdrSize
      let sum ← cksum buf etherHdrSize (4 * ipHl hl : ℕ)
      let buf ← buf.write 24 (bytes16 sum)
      let dst ← buf.ipDst
      match srRtLookupIp sr.routingTable dst with
      | none =>
        let sent ← srSendIcmpNetUnreachable sr packet interface
        return sent.map fun entries => (entries, .idle)
      | some entry =>
        match srGetInterface sr.ifList entry.interface with
        | none => return .error .assertion
        | some iface =>
          let buf ← buf.write 6 iface.addr.toList
          return .ok ([], .forwardLookup entry.gw buf entry.interface)

/-- `sr_handle_arp_reply`, up to the lookup in the ARP cache. -/
def srHandleArpReply : Reads (Except Fault (List LogEntry × Todo)) := do
  let destMac ← packet.arSha
  let destIp ← packet.arSip
  return .ok ([.arpReply destMac destIp], .replyLookup destMac destIp)

/-- `sr_handlepacket`, up to where it takes the lock of the cache. -/
def srHandlepacket : Reads (Except Fault (List LogEntry × Todo)) := do
  printHdrs packet
  let notArpOrIp ← packetIsNotArpOrIp packet
  if notArpOrIp then return .ok ([], .idle)
  else
    let arpReq ← packetIsArpReq packet
    if arpReq then
      let sent ← srSendArpResponse sr packet interface
      return sent.map fun entries => (entries, .idle)
    else
      let arpReply ← packetIsArpReply packet
      if arpReply then srHandleArpReply packet
      else
        let toUs ← srPacketIsIpToUs sr packet
        if toUs then
          let echoReq ← packetIsIcmpEchoReq packet
          if echoReq then
            let sent ← srSendIcmpResponse sr packet interface
            return sent.map fun entries => (entries, .idle)
          else
            let tcpUdp ← packetIsTcpUdp packet
            if tcpUdp then
              let sent ← srSendIcmpPortUnreachable sr packet interface
              return sent.map fun entries => (entries, .idle)
            else return .ok ([], .idle)
        else srForwardPacket sr packet interface

end NetworkSim.Router
