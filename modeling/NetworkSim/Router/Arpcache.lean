import Mathlib.Data.List.FinRange
import Mathlib.Logic.Function.Basic
import NetworkSim.Router.Protocol

/-!
# The ARP cache

`router/sr_arpcache.h` and the operations of `router/sr_arpcache.c` that work under `cache->lock`.
The queue of requests is the list of them from the head on, and so are the packets that wait for a
request. Times are what `time` returns.
-/

namespace NetworkSim.Router

/-- `SR_ARPCACHE_SZ`. -/
abbrev srArpcacheSz : ℕ := 100

/-- `SR_ARPCACHE_TO`. -/
def srArpcacheTo : ℕ := 15

/-- `struct sr_packet`. -/
structure SrPacket where
  buf : Buf
  iface : String
  /-- History: which of all packets ever queued it is. No function reads it. -/
  serial : ℕ

/-- `struct sr_arpentry`. -/
structure SrArpentry where
  mac : MacAddr
  ip : UInt32
  added : ℕ
  valid : Bool

/-- `struct sr_arpreq`. -/
structure SrArpreq where
  ip : UInt32
  sent : ℕ
  timesSent : ℕ
  packets : List SrPacket

/-- `struct sr_arpcache`. -/
structure SrArpcache where
  entries : Fin srArpcacheSz → SrArpentry
  requests : List SrArpreq

/-- An entry of zero bytes. -/
def SrArpentry.zero : SrArpentry := ⟨List.Vector.replicate 6 0, 0, 0, false⟩

/-- `sr_arpcache_init`. -/
def srArpcacheInit : SrArpcache := ⟨fun _ => .zero, []⟩

/-- `difftime(time1, time0)`. -/
def difftime (time1 time0 : ℕ) : ℤ := (time1 : ℤ) - time0

/-- `sr_arpcache_lookup_nolock`, and `sr_arpcache_lookup`, which adds the lock. -/
def srArpcacheLookup (cache : SrArpcache) (ip : UInt32) : Option SrArpentry :=
  (List.finRange srArpcacheSz).foldl
    (fun entry i =>
      if (cache.entries i).valid ∧ (cache.entries i).ip = ip then some (cache.entries i) else entry)
    none

/-- The head of the list of packets of the first request for `ip` gets a packet in front of it. -/
def addPacket (ip : UInt32) (packet : SrPacket) : List SrArpreq → List SrArpreq
  | [] => []
  | req :: requests =>
    if req.ip = ip then { req with packets := packet :: req.packets } :: requests
    else req :: addPacket ip packet requests

/-- `sr_arpcache_queuereq_nolock`, and `sr_arpcache_queuereq`, which adds the lock. A packet without
bytes is not added. -/
def srArpcacheQueuereq (cache : SrArpcache) (ip : UInt32) (packet : SrPacket) : SrArpcache :=
  let requests :=
    if cache.requests.any fun req => req.ip = ip then cache.requests
    else ⟨ip, 0, 0, []⟩ :: cache.requests
  { cache with
    requests := if packet.buf.len ≠ 0 then addPacket ip packet requests else requests }

/-- The first request for `ip`, and the requests without it: the loop with which
`sr_arpcache_insert` and `sr_arp_send_packets` unlink a request. -/
def unlink (ip : UInt32) : List SrArpreq → Option SrArpreq × List SrArpreq
  | [] => (none, [])
  | req :: requests =>
    if req.ip = ip then (some req, requests)
    else
      let (found, rest) := unlink ip requests
      (found, req :: rest)

/-- `sr_arpcache_insert`: the mapping goes into the first entry that is not valid, if there is
one. -/
def srArpcacheInsert (cache : SrArpcache) (mac : MacAddr) (ip : UInt32) (now : ℕ) :
    Option SrArpreq × SrArpcache :=
  let (req, requests) := unlink ip cache.requests
  let entries :=
    match (List.finRange srArpcacheSz).find? fun i => !(cache.entries i).valid with
    | some i => Function.update cache.entries i ⟨mac, ip, now, true⟩
    | none => cache.entries
  (req, ⟨entries, requests⟩)

/-- The loop of `sr_arpcache_timeout` over the entries. -/
def expireEntries (curtime : ℕ) (cache : SrArpcache) : SrArpcache :=
  { cache with
    entries := fun i =>
      let entry := cache.entries i
      if entry.valid ∧ difftime curtime entry.added > srArpcacheTo then
        { entry with valid := false }
      else entry }

end NetworkSim.Router
