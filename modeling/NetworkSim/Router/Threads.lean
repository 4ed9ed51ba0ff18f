import NetworkSim.Router.Router

/-!
# The threads of the router

The main thread handles packets (`mainStep`), and the sweeper runs the body of the loop of
`sr_arpcache_timeout` (`sweeperTurn`). What a thread does under `cache->lock` is one step, and so is
what the main thread does between two such sections; steps of the two threads follow each other in
any order (`step`, `runActs`). No time passes in a step; `sr_arpcache_timeout` holds the lock
throughout.
-/

namespace NetworkSim.Router

/-- A state of the process. -/
structure State where
  sr : SrInstance
  main : Todo
  /-- The time, in microseconds. -/
  now : ℕ
  /-- Packets queued so far. -/
  serials : ℕ
  /-- History, with the latest entry first. -/
  log : List LogEntry

namespace State

/-- `time(NULL)`. -/
def time (s : State) : ℕ := s.now / 1000000

def requests (s : State) : List SrArpreq := s.sr.cache.requests

def setCache (cache : SrArpcache) (s : State) : State :=
  { s with sr := { s.sr with cache := cache } }

def setRequests (requests : List SrArpreq) (s : State) : State :=
  s.setCache { s.sr.cache with requests := requests }

def record (entries : List LogEntry) (s : State) : State := { s with log := entries ++ s.log }

variable (s : State)

@[simp] theorem sr_record (entries : List LogEntry) : (s.record entries).sr = s.sr := (rfl)

@[simp] theorem requests_record (entries : List LogEntry) :
    (s.record entries).requests = s.requests := (rfl)

@[simp] theorem log_record (entries : List LogEntry) :
    (s.record entries).log = entries ++ s.log := (rfl)

@[simp] theorem requests_setCache (cache : SrArpcache) :
    (s.setCache cache).requests = cache.requests := (rfl)

@[simp] theorem log_setCache (cache : SrArpcache) : (s.setCache cache).log = s.log := (rfl)

@[simp] theorem requests_setRequests (requests : List SrArpreq) :
    (s.setRequests requests).requests = requests := (rfl)

@[simp] theorem log_setRequests (requests : List SrArpreq) :
    (s.setRequests requests).log = s.log := (rfl)

end State

/-- The state after `sr_init`. -/
def srInit (ifList : List SrIf) (routingTable : List SrRt) (now : ℕ) : State :=
  ⟨⟨ifList, routingTable, srArpcacheInit⟩, .idle, now, 0, []⟩

/-! ## Requests -/

/-- `sr_arpcache_queuereq` of a packet, with its history. -/
def queuereq (ip : UInt32) (buf : Buf) (iface : String) (transit : Bool) (s : State) : State :=
  let packet : SrPacket := ⟨buf, iface, s.serials⟩
  let created := if s.requests.any fun req => req.ip = ip then [] else [.created ip]
  let queued := if buf.len ≠ 0 then [.queued packet ip transit] else []
  { (s.setCache (srArpcacheQueuereq s.sr.cache ip packet)).record (queued ++ created) with
    serials := s.serials + 1 }

/-- `sr_send_arp_request`. -/
def srSendArpRequest (ip : UInt32) (interface : String) (s : State) : Except Fault State :=
  match srPrepareArpPacket s.sr interface (List.Vector.replicate 6 0xff) arpOpRequest
      (List.Vector.replicate 6 0) ip with
  | .error fault => .error fault
  | .ok packet =>
    .ok (s.record [.arpRequest ip s.now packet (srSendPacket s.sr packet interface)])

/-- A waiting packet as `sr_send_arp_queued_packets` hands it on: with the destination `mac`. -/
def SrPacket.sentTo (packet : SrPacket) (mac : MacAddr) : List UInt8 :=
  (packet.buf.set 0 mac.toList).bytes

/-- A packet sent by `sr_send_arp_queued_packets`. -/
def sendQueued (mac : MacAddr) (s : State) (packet : SrPacket) : State :=
  s.record [.sentQueued packet mac (srSendPacket s.sr (packet.sentTo mac) packet.iface)]

/-! ## The sweep -/

/-- `sr_send_icmp_host_unreachable` for a waiting packet. -/
def srSendIcmpHostUnreachable (packet : SrPacket) (s : State) : Except Fault State :=
  let ipSrc := packet.buf.get32 26
  match srRtLookupIp s.sr.routingTable ipSrc with
  | none => .error .nullRoute
  | some entry =>
    match srGetInterface s.sr.ifList entry.interface with
    | none => .error .nullIface
    | some iface =>
      match srPrepareIpPacket s.sr icmpT11HdrSize ipSrc iface.addr 0 ipProtocolIcmp
          entry.interface with
      | .error fault => .error fault
      | .ok hdr =>
        let buf := hdr ++ icmpT11Hdr 3 1 (packet.buf.slice etherHdrSize ipHdrSize)
          (packet.buf.slice (etherHdrSize + ipHdrSize) 8)
        let s := s.record [.hostUnreachable packet]
        match srArpcacheLookup s.sr.cache entry.gw with
        | none =>
          srSendArpRequest entry.gw entry.interface
            (queuereq entry.gw ⟨buf, fun _ => 0⟩ entry.interface false s)
        | some arpentry =>
          .ok (s.record [answer s.sr entry.interface (overwrite 0 arpentry.mac.toList buf)])

/-- The loop of `sr_arpcache_sweepreqs` over the packets of a request that is given up. -/
def hostUnreachables : List SrPacket → State → Except Fault State
  | [], s => .ok s
  | packet :: packets, s =>
    match srSendIcmpHostUnreachable packet s with
    | .error fault => .error fault
    | .ok s => hostUnreachables packets s

/-- The requests before the one with `n` behind it, and that one with those behind it. New requests
are put in front of all, so `n` tells a request as its address does. -/
def splitRequests (n : ℕ) (requests : List SrArpreq) : List SrArpreq × List SrArpreq :=
  requests.splitAt (requests.length - (n + 1))

/-- `sr_arpreq_destroy` of the request with `n` behind it. -/
def srArpreqDestroy (n : ℕ) (s : State) : State :=
  match splitRequests n s.requests with
  | (before, req :: after) =>
    (s.setRequests (before ++ after)).record (req.packets.map .destroyed ++ [.gaveUp req.ip])
  | (_, []) => s

/-- The loop of `sr_arpcache_sweepreqs`, with `n` requests still to be visited. -/
def sweepLoop (curtime : ℕ) : ℕ → State → Except Fault State
  | 0, s => .ok s
  | n + 1, s =>
    match splitRequests n s.requests with
    | (before, req :: after) =>
      if req.sent > 0 ∧ difftime curtime req.sent < 1 then sweepLoop curtime n s
      else if req.timesSent ≥ 4 then
        match hostUnreachables req.packets s with
        | .error fault => .error fault
        | .ok s => sweepLoop curtime n (srArpreqDestroy n s)
      else
        match req.packets with
        | [] => .error .noPackets
        | packet :: _ =>
          match srSendArpRequest req.ip packet.iface (s.setRequests
              (before ++
                { req with timesSent := req.timesSent + 1, sent := curtime } :: after)) with
          | .error fault => .error fault
          | .ok s => sweepLoop curtime n s
    | (_, []) => .ok s

/-- `sr_arpcache_sweepreqs`. -/
def srArpcacheSweepreqs (s : State) : Except Fault State := sweepLoop s.time s.requests.length s

/-- The body of the loop of `sr_arpcache_timeout`. -/
def sweeperTurn (s : State) : Except Fault State :=
  srArpcacheSweepreqs (s.setCache (expireEntries s.time s.sr.cache))

/-! ## The main thread -/

/-- The next step of the main thread with its packet. -/
def mainStep (s : State) : Except Fault State :=
  match s.main with
  | .idle => .ok s
  | .replyLookup mac ip =>
    match srArpcacheLookup s.sr.cache ip with
    | none => .ok { s with main := .replyInsert mac ip }
    | some _ => .ok { s with main := .replyUnlink mac ip }
  | .replyInsert mac ip =>
    let (req, cache) := srArpcacheInsert s.sr.cache mac ip s.time
    match req with
    | none => .ok { s.setCache cache with main := .idle }
    | some req => .ok { s.setCache cache with main := .replySend mac ip req.packets }
  | .replySend _ _ [] => .ok { s with main := .idle }
  | .replySend mac ip (packet :: packets) =>
    .ok { sendQueued mac s packet with main := .replySend mac ip packets }
  | .replyUnlink mac ip =>
    match unlink ip s.requests with
    | (none, _) => .ok { s with main := .idle }
    | (some req, requests) =>
      .ok { req.packets.foldl (sendQueued mac) (s.setRequests requests) with main := .idle }
  | .forwardLookup nextHopIp buf iface =>
    match srArpcacheLookup s.sr.cache nextHopIp with
    | none => .ok { s with main := .forwardQueue nextHopIp buf iface }
    | some arpentry => .ok { s with main := .forwardSend arpentry.mac buf iface }
  | .forwardQueue nextHopIp buf iface =>
    .ok { queuereq nextHopIp buf iface true s with main := .forwardRequest nextHopIp iface }
  | .forwardRequest nextHopIp iface => srSendArpRequest nextHopIp iface { s with main := .idle }
  | .forwardSend mac buf iface =>
    let packet := (buf.set 0 mac.toList).bytes
    .ok { s.record [.forwarded packet iface (srSendPacket s.sr packet iface)] with main := .idle }

/-- `sr_handlepacket` is called, when the main thread has nothing else to do. -/
def receive (packet : Buf) (interface : String) (s : State) : Except Fault State :=
  match s.main with
  | .idle =>
    match (srHandlepacket s.sr packet interface).val with
    | .error fault => .error fault
    | .ok (entries, todo) => .ok { s.record entries with main := todo }
  | _ => .ok s

/-! ## Runs -/

/-- What can happen next. -/
inductive Act
  /-- A packet comes in. -/
  | receive (packet : Buf) (interface : String)
  /-- A step of the main thread. -/
  | main
  /-- A turn of the sweeper. -/
  | sweep
  /-- Time passes. -/
  | wait (usec : ℕ)

/-- One step of the process. -/
def step (act : Act) (s : State) : Except Fault State :=
  match act with
  | .receive packet interface => receive packet interface s
  | .main => mainStep s
  | .sweep => sweeperTurn s
  | .wait usec => .ok { s with now := s.now + usec }

/-- A run. -/
def runActs : List Act → State → Except Fault State
  | [], s => .ok s
  | act :: acts, s =>
    match step act s with
    | .error fault => .error fault
    | .ok s => runActs acts s

end NetworkSim.Router
