import NetworkSim.Router.Forwarding

/-!
# The ARP cache and its requests

The two threads keep the cache and the queue of requests consistent (`CacheConsistent`): an address
is looked up in one critical section and queued or inserted in another, but only the main thread
inserts, and a request is only made for an address that has no entry. What the main thread has found
out by a lookup thus still holds when it acts on it (`Todo.Fits`).
-/

namespace NetworkSim.Router

/-- A pending request as it should be, when there are entries for the addresses `knows`. -/
structure SrArpreq.Fits (knows : UInt32 → Prop) (req : SrArpreq) : Prop where
  unknown : ¬ knows req.ip
  packets_ne : req.packets ≠ []
  timesSent_le : req.timesSent ≤ 4

/-- The pending requests are for different addresses, and so are the valid entries; no address has a
request and an entry; and every request has a packet and was sent again at most four times. -/
structure CacheConsistent (s : State) : Prop where
  requests_distinct : (s.requests.map SrArpreq.ip).Nodup
  entries_distinct : s.sr.cache.EntriesDistinct
  requests_fit : ∀ req ∈ s.requests, req.Fits s.sr.cache.Knows

/-- What the main thread knows of the cache, and of its packet. -/
def Todo.Fits (knows : UInt32 → Prop) : Todo → Prop
  | .replyInsert _ ip => ¬ knows ip
  | .forwardLookup _ buf _ => buf.len ≠ 0
  | .forwardQueue nextHopIp buf _ => ¬ knows nextHopIp ∧ buf.len ≠ 0
  | _ => True

/-- The invariant of both threads. -/
structure ThreadsConsistent (s : State) : Prop extends CacheConsistent s where
  main_fits : s.main.Fits s.sr.cache.Knows

theorem SrArpreq.Fits.mono {knows knows' : UInt32 → Prop} {req : SrArpreq} (h : req.Fits knows)
    (hmono : knows' req.ip → knows req.ip) : req.Fits knows' :=
  ⟨fun hknows => h.unknown (hmono hknows), h.packets_ne, h.timesSent_le⟩

theorem Todo.Fits.mono {knows knows' : UInt32 → Prop} {todo : Todo} (h : todo.Fits knows)
    (hmono : ∀ ip, knows' ip → knows ip) : todo.Fits knows' := by
  cases todo with
  | replyInsert mac ip => exact fun hknows => h (hmono ip hknows)
  | forwardQueue nextHopIp buf iface =>
    exact ⟨fun hknows => h.1 (hmono nextHopIp hknows), h.2⟩
  | forwardLookup nextHopIp buf iface => exact h
  | _ => trivial

namespace CacheConsistent

variable {s s' : State}

/-- Nothing of it concerns the history, or the main thread. -/
theorem congr (h : CacheConsistent s) (hcache : s'.sr.cache = s.sr.cache) : CacheConsistent s' := by
  obtain ⟨hrequests, hentries, hfit⟩ := h
  have hreqs : s'.requests = s.requests := congrArg SrArpcache.requests hcache
  exact ⟨hreqs ▸ hrequests, hcache ▸ hentries, by rw [hreqs, hcache]; exact hfit⟩

/-- A request is taken from the queue. -/
theorem unlink {before after : List SrArpreq} {req : SrArpreq} (h : CacheConsistent s)
    (hreqs : s.requests = before ++ req :: after) :
    CacheConsistent (s.setRequests (before ++ after)) := by
  obtain ⟨hrequests, hentries, hfit⟩ := h
  rw [hreqs] at hrequests hfit
  have hsublist : (before ++ after).Sublist (before ++ req :: after) :=
    List.Sublist.append_left (List.sublist_cons_self req after) before
  exact ⟨hrequests.sublist (hsublist.map _), hentries,
    fun other hother => hfit other (hsublist.subset hother)⟩

/-- A request is replaced by one for the same address. -/
theorem replace {before after : List SrArpreq} {req : SrArpreq} (h : CacheConsistent s)
    (hreqs : s.requests = before ++ req :: after) (req' : SrArpreq) (hip : req'.ip = req.ip)
    (hpackets : req.packets ≠ [] → req'.packets ≠ []) (htimes : req'.timesSent ≤ 4) :
    CacheConsistent (s.setRequests (before ++ req' :: after)) := by
  obtain ⟨hrequests, hentries, hfit⟩ := h
  rw [hreqs, List.map_append, List.map_cons] at hrequests
  rw [hreqs, List.forall_mem_append, List.forall_mem_cons] at hfit
  obtain ⟨hbefore, hreq, hafter⟩ := hfit
  refine ⟨?_, hentries, ?_⟩
  · rw [State.requests_setRequests, List.map_append, List.map_cons, hip]
    exact hrequests
  · rw [State.requests_setRequests, List.forall_mem_append, List.forall_mem_cons]
    exact ⟨hbefore, ⟨hip ▸ hreq.unknown, hpackets hreq.packets_ne, htimes⟩, hafter⟩

/-- A packet is queued for an address that has no entry. -/
theorem queuereq (h : CacheConsistent s) {ip : UInt32} {buf : Buf}
    (hunknown : ¬ s.sr.cache.Knows ip) (hlen : buf.len ≠ 0) (iface : String) (transit : Bool) :
    CacheConsistent (queuereq ip buf iface transit s) := by
  have hqueue : (SrPacket.mk buf iface s.serials).toQueue ≠ [] := by
    unfold SrPacket.toQueue
    rw [if_pos hlen]
    exact List.cons_ne_nil _ _
  rcases queuereq_cases ip buf iface transit s with
    ⟨hno, hreqs, -⟩ | ⟨before, req, after, hreqs, -, -, hreqs', -⟩
  · obtain ⟨hrequests, hentries, hfit⟩ := h
    refine ⟨?_, hentries, ?_⟩
    · rw [hreqs, List.map_cons, List.nodup_cons, List.mem_map]
      exact ⟨fun ⟨req, hreq, hip⟩ => hno req hreq hip, hrequests⟩
    · rw [hreqs, List.forall_mem_cons]
      exact ⟨⟨hunknown, hqueue, Nat.zero_le 4⟩, hfit⟩
  · have htimes := (h.requests_fit req (by rw [hreqs]; simp)).timesSent_le
    have hreplaced := h.replace hreqs { req with
      packets := (SrPacket.mk buf iface s.serials).toQueue ++ req.packets } rfl
      (fun hne => List.append_ne_nil_of_right_ne_nil _ hne) htimes
    obtain ⟨hrequests, hentries, hfit⟩ := hreplaced
    refine ⟨hreqs' ▸ hrequests, hentries, ?_⟩
    rw [hreqs']
    exact hfit

/-- A mapping for an address that has no entry is inserted, and the request for it, if there is one,
is taken from the queue. -/
theorem insert (h : CacheConsistent s) {mac : MacAddr} {ip : UInt32}
    (hunknown : ¬ s.sr.cache.Knows ip) {requests : List SrArpreq}
    (hsublist : requests.Sublist s.requests) (hno : ∀ req ∈ requests, req.ip ≠ ip) :
    CacheConsistent
      (s.setCache ⟨(srArpcacheInsert s.sr.cache mac ip s.time).2.entries, requests⟩) := by
  obtain ⟨hrequests, hentries, hfit⟩ := h
  refine ⟨hrequests.sublist (hsublist.map _), hentries.insert hunknown mac s.time, ?_⟩
  intro req hreq
  refine (hfit req (hsublist.subset hreq)).mono fun hknows => ?_
  exact (SrArpcache.Knows.of_insert hknows).resolve_left (hno req hreq)

end CacheConsistent

/-! ## Steps -/

theorem ThreadsConsistent.received {packet : Buf} (hlen : packet.len ≠ 0) {s s' : State}
    (h : ThreadsConsistent s) (hreceived : Received packet s s') : ThreadsConsistent s' := by
  have hcache := h.toCacheConsistent
  cases hreceived with
  | ignored => exact h
  | answered hidle buf iface sent => exact ⟨hcache.congr rfl, h.main_fits⟩
  | reply hidle mac ip => exact ⟨hcache.congr rfl, trivial⟩
  | forward hidle entry iface hroute hiface =>
    refine ⟨hcache.congr rfl, ?_⟩
    change (forwardedBuf packet iface.addr).len ≠ 0
    rw [len_forwardedBuf]
    exact hlen

theorem ThreadsConsistent.mainMove {s s' : State} (h : ThreadsConsistent s)
    (hmove : MainMove s s') : ThreadsConsistent s' := by
  have hcache := h.toCacheConsistent
  have hmain' := h.main_fits
  cases hmove with
  | idle hmain => exact h
  | replyUnknown mac ip hmain hunknown => exact ⟨hcache.congr rfl, hunknown⟩
  | replyKnown mac ip hmain => exact ⟨hcache.congr rfl, trivial⟩
  | insert mac ip hmain hno =>
    rw [hmain] at hmain'
    exact ⟨(hcache.insert hmain' (List.Sublist.refl _) hno).congr rfl, trivial⟩
  | insertUnlink mac ip before req after hmain hreqs hip =>
    rw [hmain] at hmain'
    have hsublist : (before ++ after).Sublist s.requests := by
      rw [hreqs]
      exact List.Sublist.append_left (List.sublist_cons_self req after) before
    have hno : ∀ other ∈ before ++ after, other.ip ≠ ip := by
      have hnodup := hcache.requests_distinct
      rw [hreqs, List.map_append, List.map_cons, List.nodup_middle, List.nodup_cons,
        ← List.map_append, hip] at hnodup
      exact fun other hother heq => hnodup.1 (heq ▸ List.mem_map_of_mem hother)
    exact ⟨(hcache.insert hmain' hsublist hno).congr rfl, trivial⟩
  | sent mac ip hmain => exact ⟨hcache.congr rfl, trivial⟩
  | send mac ip packet packets sent hmain => exact ⟨hcache.congr rfl, trivial⟩
  | unlinkNone mac ip hmain => exact ⟨hcache.congr rfl, trivial⟩
  | unlink mac ip before req after hmain hreqs hip =>
    exact ⟨(hcache.unlink hreqs).congr rfl, trivial⟩
  | forwardUnknown nextHopIp buf iface hmain hunknown =>
    rw [hmain] at hmain'
    exact ⟨hcache.congr rfl, hunknown, hmain'⟩
  | forwardKnown nextHopIp mac buf iface hmain => exact ⟨hcache.congr rfl, trivial⟩
  | queue nextHopIp buf iface hmain =>
    rw [hmain] at hmain'
    exact ⟨(hcache.queuereq hmain'.1 hmain'.2 iface true).congr rfl, trivial⟩
  | request nextHopIp iface packet sent hmain => exact ⟨hcache.congr rfl, trivial⟩
  | forward mac buf iface sent hmain => exact ⟨hcache.congr rfl, trivial⟩

theorem ThreadsConsistent.sweeperTurn {s : State} (h : ThreadsConsistent s) :
    Outcome ThreadsConsistent (fun fault => fault ≠ .noPackets) (sweeperTurn s) := by
  have hexpired : ThreadsConsistent (s.setCache (expireEntries s.time s.sr.cache)) := by
    have hmono (ip : UInt32) : (expireEntries s.time s.sr.cache).Knows ip → s.sr.cache.Knows ip :=
      SrArpcache.Knows.of_expireEntries
    exact ⟨⟨h.requests_distinct, h.entries_distinct.expireEntries s.time,
      fun req hreq => (h.requests_fit req hreq).mono (hmono req.ip)⟩, h.main_fits.mono hmono⟩
  refine sweepLoop_invariant (W := fun _ => True) (fun _ _ _ _ _ _ => trivial) ?_ ?_ ?_ ?_
    (by decide) hexpired
  · intro packet _ s' h'
    refine (srSendIcmpHostUnreachable_outcome packet s').mono ?_ ?_
    · rintro s'' ⟨entry, iface, -, -, hreported⟩
      cases hreported with
      | queued buf hmessage hunknown request sent =>
        have hlen : (Buf.mk buf fun _ => 0).len ≠ 0 := by
          change buf.length ≠ 0
          rw [hmessage.length_eq]
          decide
        have hrecorded : CacheConsistent (s'.record [.hostUnreachable packet]) :=
          h'.toCacheConsistent.congr rfl
        have hqueued := hrecorded.queuereq hunknown hlen entry.interface false
        exact ⟨hqueued.congr rfl, h'.main_fits⟩
      | answered buf hmessage sent => exact ⟨h'.toCacheConsistent.congr rfl, h'.main_fits⟩
    · rintro fault (⟨rfl, -⟩ | ⟨rfl, -⟩) <;> decide
  · intro before req after s' hreqs h'
    exact ⟨(h'.toCacheConsistent.unlink hreqs).congr rfl, h'.main_fits⟩
  · intro before req after s' packet sent hreqs h' htimes
    have hreplaced := h'.toCacheConsistent.replace hreqs
      { req with timesSent := req.timesSent + 1, sent := s.time } rfl id htimes
    exact ⟨hreplaced.congr rfl, h'.main_fits⟩
  · intro s' h' req hreq hnil
    exact absurd hnil (h'.requests_fit req hreq).packets_ne

/-- **The cache and its requests stay consistent**, and the sweep finds a packet for every request,
however the steps of the threads follow each other. -/
theorem cache_stays_consistent (ifList : List SrIf) (routingTable : List SrRt) (now : ℕ)
    (acts : List Act)
    (hlong : ∀ packet interface, .receive packet interface ∈ acts → etherHdrSize ≤ packet.len) :
    (∀ s, runActs acts (srInit ifList routingTable now) = .ok s → CacheConsistent s) ∧
      runActs acts (srInit ifList routingTable now) ≠ .error .noPackets := by
  have hinit : ThreadsConsistent (srInit ifList routingTable now) := by
    refine ⟨⟨List.nodup_nil, ?_, fun req hreq => absurd hreq List.not_mem_nil⟩, trivial⟩
    intro i j hi
    exact absurd hi Bool.false_ne_true
  have hrun : Outcome ThreadsConsistent (fun fault => fault ≠ .noPackets)
      (runActs acts (srInit ifList routingTable now)) := by
    refine runActs_outcome (fun act hact s h => ?_) hinit
    cases act with
    | receive packet interface =>
      have hlen : packet.len ≠ 0 := by
        have hpacket : 14 ≤ packet.len := hlong packet interface hact
        omega
      refine (receive_outcome packet interface s).mono (fun s' => h.received hlen) ?_
      rintro fault rfl
      decide
    | main =>
      refine (mainStep_outcome s).mono (fun s' => h.mainMove) ?_
      rintro fault rfl
      decide
    | sweep => exact h.sweeperTurn
    | wait usec => exact ⟨h.toCacheConsistent.congr rfl, h.main_fits⟩
  exact ⟨fun s hs => (hrun.result hs).toCacheConsistent, fun h => hrun.failure h rfl⟩

/-- Two packets for the same next hop are forwarded, and the sweeper has a turn. -/
def twoPings : List Act :=
  [.receive (pingPacket 64 0x66 0xdd) "eth1", .main, .main, .main,
    .receive (pingPacket 64 0x66 0xdd) "eth1", .main, .main, .main, .sweep]

theorem cache_stays_consistent_ping :
    ∃ s, runActs twoPings (srInit oneInterface.ifList oneInterface.routingTable 0) = .ok s ∧
      CacheConsistent s := by
  have hconsistent := cache_stays_consistent oneInterface.ifList oneInterface.routingTable 0
    twoPings (by simp [twoPings, pingPacket, Buf.len, etherHdrSize])
  exact ⟨_, rfl, hconsistent.1 _ rfl⟩

end NetworkSim.Router
