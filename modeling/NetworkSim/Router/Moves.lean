import NetworkSim.Foundations.Outcome
import NetworkSim.Router.ArpcacheSpec
import NetworkSim.Router.ChecksumSpec
import NetworkSim.Router.Threads

/-!
# What the threads do

What a step of the main thread (`MainMove`) and a turn of the sweeper do, so that no later proof
opens them. A step of the main thread is one of a few moves, each with what it finds in the cache.
The sweep is a loop over the requests, and has rules: one with an invariant that may count the
requests still to be visited (`sweepLoop_outcome`), and one with an invariant of the state alone
(`sweepLoop_invariant`). While the sweep reports that it gives up a request, it may put messages on
the lists of requests (`Reported`), so that these grow (`Grown`).
-/

namespace NetworkSim.Router

/-! ## Messages of the router -/

/-- The bytes of an ICMP error: its type, and that it comes from the interface `iface`. -/
structure IsIcmpFrom (iface : SrIf) (type : UInt8) (buf : List UInt8) : Prop where
  length_eq : buf.length = 70
  type_eq : buf[34]? = some type
  shost_eq : (buf.drop 6).take 6 = iface.addr.toList
  src_eq : ∀ beyond, (Buf.mk buf beyond).get32 26 = iface.ip

theorem withSum_getElem? {off i : ℕ} {hdr : List UInt8} (h : i < off ∨ off + 2 ≤ i) :
    (withSum off hdr)[i]? = hdr[i]? := by
  unfold withSum
  rw [getElem?_overwrite]
  have hsame (old : UInt8) :
      (if off ≤ i then (bytes16 (cksumBytes hdr)).getD (i - off) old else old) = old := by
    split
    · rw [List.getD_eq_getElem?_getD, List.getElem?_eq_none, Option.getD_none]
      change 2 ≤ i - off
      omega
    · rfl
  simp only [hsame, Option.map_id']

theorem length_withSum (off : ℕ) (hdr : List UInt8) : (withSum off hdr).length = hdr.length :=
  length_overwrite ..

/-- The bytes of a packet with an Ethernet and an IP header. -/
theorem getElem?_headers {ether ipHdr : List UInt8} (hether : ether.length = 14)
    (hip : ipHdr.length = 20) (rest : List UInt8) (i : ℕ) :
    (ether ++ ipHdr ++ rest)[34 + i]? = rest[i]? ∧
      (i < 20 → (ether ++ ipHdr ++ rest)[14 + i]? = ipHdr[i]?) := by
  constructor
  · rw [List.getElem?_append_right (by rw [List.length_append]; omega), List.length_append, hether,
      hip, Nat.add_sub_cancel_left]
  · intro hi
    rw [List.append_assoc, List.getElem?_append_right (by omega), hether, Nat.add_sub_cancel_left,
      List.getElem?_append_left (by omega)]

/-- A header of the router's own, whose Ethernet part has the address of the interface as its
source. -/
theorem srPrepareIpPacket_ok {sr : SrInstance} {payloadLen : ℕ} {destIp srcIp : UInt32}
    {destMac : MacAddr} {protocol : UInt8} {interface : String} {hdr : List UInt8} {iface : SrIf}
    (hiface : srGetInterface sr.ifList interface = some iface)
    (h : srPrepareIpPacket sr payloadLen destIp destMac srcIp protocol interface = .ok hdr) :
    ∃ ether : List UInt8, ether.length = 14 ∧
      (∀ rest, ((ether ++ rest).drop 6).take 6 = iface.addr.toList) ∧
      hdr = ether ++ withSum 10 ([0x45, 0] ++ bytes16 (UInt16.ofNat (ipHdrSize + payloadLen)) ++
        bytes16 0 ++ bytes16 0 ++ [initTtl, protocol] ++ bytes16 0 ++
        bytes32 (if srcIp = 0 then iface.ip else srcIp) ++ bytes32 destIp) := by
  unfold srPrepareIpPacket at h
  simp only [hiface, Except.ok.injEq] at h
  refine ⟨destMac.toList ++ iface.addr.toList ++ bytes16 ethertypeIp, by simp [bytes16], ?_,
    h.symm⟩
  intro rest
  rw [List.append_assoc, List.append_assoc, List.drop_left' destMac.toList_length,
    List.take_left' iface.addr.toList_length]

/-- A header of the router's own with an ICMP message behind it. -/
theorem isIcmpFrom_of_ok {sr : SrInstance} {destIp : UInt32} {destMac : MacAddr}
    {interface : String} {hdr : List UInt8}
    (h : srPrepareIpPacket sr icmpT11HdrSize destIp destMac 0 ipProtocolIcmp interface = .ok hdr)
    (type code : UInt8) {ipHdr data : List UInt8} (hipHdr : ipHdr.length = ipHdrSize)
    (hdata : data.length = 8) :
    ∃ iface, srGetInterface sr.ifList interface = some iface ∧
      IsIcmpFrom iface type (hdr ++ icmpT11Hdr type code ipHdr data) := by
  cases hiface : srGetInterface sr.ifList interface with
  | none =>
    unfold srPrepareIpPacket at h
    simp [hiface] at h
  | some iface =>
    obtain ⟨ether, hether, hshost, rfl⟩ := srPrepareIpPacket_ok hiface h
    rw [if_pos rfl]
    refine ⟨iface, rfl, ?_⟩
    generalize hfields : ([0x45, 0] ++ bytes16 (UInt16.ofNat (ipHdrSize + icmpT11HdrSize)) ++
      bytes16 0 ++ bytes16 0 ++ [initTtl, ipProtocolIcmp] ++ bytes16 0 ++ bytes32 iface.ip ++
      bytes32 destIp) = fields
    have hip : (withSum 10 fields).length = 20 := by
      rw [length_withSum, ← hfields]
      rfl
    have hmessage : (icmpT11Hdr type code ipHdr data).length = 36 := by
      unfold icmpT11Hdr
      rw [length_withSum]
      simp [bytes16, bytes32, hipHdr, hdata]
    refine ⟨by simp [hether, hip, hmessage], ?_, ?_, fun beyond => ?_⟩
    · rw [show (34 : ℕ) = 34 + 0 from rfl, (getElem?_headers hether hip _ 0).1]
      unfold icmpT11Hdr
      rw [withSum_getElem? (.inl (by decide))]
      rfl
    · rw [List.append_assoc]
      exact hshost _
    · have hfield (k : ℕ) (hk : k < 4) : fields[12 + k]? = (bytes32 iface.ip)[k]? := by
        rw [← hfields]
        rcases k with _ | _ | _ | _ | k
        · rfl
        · rfl
        · rfl
        · rfl
        · omega
      have hsrc (k : ℕ) (hk : k < 4) (old : UInt8) :
          (ether ++ withSum 10 fields ++ icmpT11Hdr type code ipHdr data).getD (26 + k) old =
            (bytes32 iface.ip).getD k old := by
        have hget := (getElem?_headers hether hip (icmpT11Hdr type code ipHdr data) (12 + k)).2
          (by omega)
        rw [withSum_getElem? (.inr (by omega)), hfield k hk] at hget
        rw [List.getD_eq_getElem?_getD, show 26 + k = 14 + (12 + k) by omega, hget,
          List.getD_eq_getElem?_getD]
      unfold Buf.get32 Buf.get
      rw [hsrc 0 (by decide), hsrc 1 (by decide), hsrc 2 (by decide), hsrc 3 (by decide)]
      exact word32_bytes32 iface.ip

/-! ## Queueing -/

section Queuereq

variable (ip : UInt32) (buf : Buf) (iface : String) (transit : Bool) (s : State)

/-- A packet joins the first request for its next hop, or a new one in front of all. -/
theorem queuereq_cases :
    ((∀ req ∈ s.requests, req.ip ≠ ip) ∧
        (queuereq ip buf iface transit s).requests =
          ⟨ip, 0, 0, (SrPacket.mk buf iface s.serials).toQueue⟩ :: s.requests ∧
        (queuereq ip buf iface transit s).log =
          (SrPacket.mk buf iface s.serials).toQueue.map (.queued · ip transit) ++
            .created ip :: s.log) ∨
      ∃ before req after, s.requests = before ++ req :: after ∧
        (∀ other ∈ before, other.ip ≠ ip) ∧ req.ip = ip ∧
        (queuereq ip buf iface transit s).requests =
          before ++ { req with
            packets := (SrPacket.mk buf iface s.serials).toQueue ++ req.packets } :: after ∧
        (queuereq ip buf iface transit s).log =
          (SrPacket.mk buf iface s.serials).toQueue.map (.queued · ip transit) ++ s.log := by
  have hlog : (queuereq ip buf iface transit s).log =
      (SrPacket.mk buf iface s.serials).toQueue.map (.queued · ip transit) ++
        ((if s.requests.any fun req => req.ip = ip then [] else [.created ip]) ++ s.log) := by
    unfold queuereq SrPacket.toQueue
    simp only [State.log_record, State.log_setCache, List.append_assoc]
    split <;> rfl
  rcases srArpcacheQueuereq_cases s.sr.cache ip ⟨buf, iface, s.serials⟩ with
    ⟨hno, heq⟩ | ⟨before, req, after, hreqs, hbefore, hip, heq⟩
  · refine .inl ⟨hno, heq, ?_⟩
    have hany : (s.requests.any fun req => req.ip = ip) = false := by
      simpa [State.requests] using hno
    rw [hlog, hany, if_neg Bool.false_ne_true, List.singleton_append]
  · refine .inr ⟨before, req, after, hreqs, hbefore, hip, heq, ?_⟩
    have hany : (s.requests.any fun req => req.ip = ip) = true := by
      simp [State.requests, hreqs, hip]
    rw [hlog, hany, if_pos rfl, List.nil_append]

theorem log_queuereq :
    ∃ created, (queuereq ip buf iface transit s).log =
        (SrPacket.mk buf iface s.serials).toQueue.map (.queued · ip transit) ++ (created ++ s.log) ∧
      ∀ entry ∈ created, entry = .created ip := by
  rcases queuereq_cases ip buf iface transit s with ⟨-, -, hlog⟩ | ⟨_, _, _, -, -, -, -, hlog⟩
  · exact ⟨[.created ip], hlog, List.forall_mem_singleton.mpr rfl⟩
  · exact ⟨[], hlog, fun _ h => absurd h List.not_mem_nil⟩

end Queuereq

/-! ## Reports -/

theorem srSendArpRequest_outcome (ip : UInt32) (interface : String) (s : State) :
    Outcome (fun s' => ∃ packet sent, s' = s.record [.arpRequest ip s.now packet sent])
      (fun fault => fault = .assertion ∧ srGetInterface s.sr.ifList interface = none)
      (srSendArpRequest ip interface s) := by
  unfold srSendArpRequest srPrepareArpPacket
  cases srGetInterface s.sr.ifList interface with
  | none => exact ⟨rfl, rfl⟩
  | some iface => exact ⟨_, _, rfl⟩

/-- What `sr_send_icmp_host_unreachable` does for a waiting packet: it queues the message, and sends
an ARP request, or it sends the message. -/
inductive Reported (packet : SrPacket) (s : State) (entry : SrRt) (iface : SrIf) : State → Prop
  | queued (buf : List UInt8) (hmessage : IsIcmpFrom iface 3 buf)
      (hunknown : ¬ s.sr.cache.Knows entry.gw) (request : List UInt8) (sent : Bool) :
      Reported packet s entry iface
        ((queuereq entry.gw ⟨buf, fun _ => 0⟩ entry.interface false
          (s.record [.hostUnreachable packet])).record [.arpRequest entry.gw s.now request sent])
  | answered (buf : List UInt8) (hmessage : IsIcmpFrom iface 3 buf) (sent : Bool) :
      Reported packet s entry iface
        (s.record [.answered buf entry.interface sent, .hostUnreachable packet])

theorem IsIcmpFrom.overwrite_dhost {iface : SrIf} {type : UInt8} {buf : List UInt8}
    (h : IsIcmpFrom iface type buf) (mac : MacAddr) :
    IsIcmpFrom iface type (overwrite 0 mac.toList buf) := by
  have hlen : mac.toList.length = 6 := mac.toList_length
  refine ⟨?_, ?_, ?_, fun beyond => ?_⟩
  · rw [length_overwrite, h.length_eq]
  · rw [getElem?_overwrite, h.type_eq, Option.map_some, if_pos (Nat.zero_le _),
      List.getD_eq_getElem?_getD, List.getElem?_eq_none (by omega), Option.getD_none]
  · rw [← h.shost_eq]
    have hdrop : (overwrite 0 mac.toList buf).drop 6 = buf.drop 6 := by
      apply List.ext_getElem?
      intro i
      rw [List.getElem?_drop, List.getElem?_drop, getElem?_overwrite]
      have hsame (old : UInt8) :
          (if 0 ≤ 6 + i then mac.toList.getD (6 + i - 0) old else old) = old := by
        rw [if_pos (Nat.zero_le _), List.getD_eq_getElem?_getD,
          List.getElem?_eq_none (by omega), Option.getD_none]
      simp only [hsame, Option.map_id']
    rw [hdrop]
  · have hget (i : ℕ) (hi : 6 ≤ i) :
        (Buf.mk (overwrite 0 mac.toList buf) beyond).get i = (Buf.mk buf beyond).get i :=
      Buf.get_set_of_not (.inr (by omega)) ⟨buf, beyond⟩
    rw [← h.src_eq beyond]
    unfold Buf.get32
    rw [hget _ (by decide), hget _ (by decide), hget _ (by decide), hget _ (by decide)]

theorem srSendIcmpHostUnreachable_outcome (packet : SrPacket) (s : State) :
    Outcome
      (fun s' => ∃ entry iface,
        srRtLookupIp s.sr.routingTable (packet.buf.get32 26) = some entry ∧
          srGetInterface s.sr.ifList entry.interface = some iface ∧
          Reported packet s entry iface s')
      (fun fault =>
        fault = .nullRoute ∧ srRtLookupIp s.sr.routingTable (packet.buf.get32 26) = none ∨
          fault = .nullIface ∧ ∃ entry,
            srRtLookupIp s.sr.routingTable (packet.buf.get32 26) = some entry ∧
              srGetInterface s.sr.ifList entry.interface = none)
      (srSendIcmpHostUnreachable packet s) := by
  cases hroute : srRtLookupIp s.sr.routingTable (packet.buf.get32 26) with
  | none =>
    have hval : srSendIcmpHostUnreachable packet s = .error .nullRoute := by
      simp only [srSendIcmpHostUnreachable, hroute]
    rw [hval]
    exact .inl ⟨rfl, rfl⟩
  | some entry =>
    cases hiface : srGetInterface s.sr.ifList entry.interface with
    | none =>
      have hval : srSendIcmpHostUnreachable packet s = .error .nullIface := by
        simp only [srSendIcmpHostUnreachable, hroute, hiface]
      rw [hval]
      exact .inr ⟨rfl, entry, rfl, hiface⟩
    | some iface =>
      cases hprepare : srPrepareIpPacket s.sr icmpT11HdrSize (packet.buf.get32 26) iface.addr 0
          ipProtocolIcmp entry.interface with
      | error fault => simp [srPrepareIpPacket, hiface] at hprepare
      | ok hdr =>
        obtain ⟨iface', hiface', hmessage⟩ := isIcmpFrom_of_ok hprepare 3 1
          (packet.buf.length_slice etherHdrSize ipHdrSize)
          (packet.buf.length_slice (etherHdrSize + ipHdrSize) 8)
        obtain rfl : iface = iface' := Option.some.inj (hiface.symm.trans hiface')
        rcases srArpcacheLookup_cases s.sr.cache entry.gw with
          ⟨hlookup, hunknown⟩ | ⟨i, -, -, hlookup⟩
        · simp only [srSendIcmpHostUnreachable, hroute, hiface, hprepare, State.sr_record, hlookup]
          refine (srSendArpRequest_outcome _ _ _).mono ?_ ?_
          · rintro s' ⟨request, sent, rfl⟩
            exact ⟨entry, iface, rfl, hiface, .queued _ hmessage hunknown request sent⟩
          · rintro fault ⟨-, hno⟩
            exact absurd (hiface.symm.trans hno) (Option.some_ne_none _)
        · simp only [srSendIcmpHostUnreachable, hroute, hiface, hprepare, State.sr_record, hlookup]
          exact ⟨entry, iface, rfl, hiface, .answered _ (hmessage.overwrite_dhost _) _⟩

/-! ## What the sweep leaves alone -/

/-- What a turn of the sweeper adds to the history. -/
def LogEntry.OfSweep : LogEntry → Prop
  | .arpReply .. => False
  | .answered packet _ _ => packet[34]? = some 3
  | .forwarded .. => False
  | .queued _ _ transit => transit = false
  | .sentQueued .. => False
  | _ => True

/-- What a turn of the sweeper leaves alone once entries have expired. -/
structure Frame (s s' : State) : Prop where
  ifList_eq : s'.sr.ifList = s.sr.ifList
  routingTable_eq : s'.sr.routingTable = s.sr.routingTable
  entries_eq : s'.sr.cache.entries = s.sr.cache.entries
  main_eq : s'.main = s.main
  now_eq : s'.now = s.now
  serials_le : s.serials ≤ s'.serials
  log_eq : ∃ new, s'.log = new ++ s.log ∧ ∀ entry ∈ new, entry.OfSweep

namespace Frame

variable {s s' s'' : State}

theorem refl (s : State) : Frame s s :=
  ⟨rfl, rfl, rfl, rfl, rfl, le_rfl, [], rfl, fun _ h => absurd h List.not_mem_nil⟩

theorem trans (h : Frame s s') (h' : Frame s' s'') : Frame s s'' := by
  obtain ⟨new, hlog, hnew⟩ := h.log_eq
  obtain ⟨new', hlog', hnew'⟩ := h'.log_eq
  refine ⟨h'.ifList_eq.trans h.ifList_eq, h'.routingTable_eq.trans h.routingTable_eq,
    h'.entries_eq.trans h.entries_eq, h'.main_eq.trans h.main_eq, h'.now_eq.trans h.now_eq,
    h.serials_le.trans h'.serials_le, new' ++ new, by rw [hlog', hlog, List.append_assoc], ?_⟩
  exact List.forall_mem_append.mpr ⟨hnew', hnew⟩

theorem setRequests (requests : List SrArpreq) (s : State) : Frame s (s.setRequests requests) :=
  ⟨rfl, rfl, rfl, rfl, rfl, le_rfl, [], rfl, fun _ h => absurd h List.not_mem_nil⟩

theorem record {entries : List LogEntry} (h : ∀ entry ∈ entries, entry.OfSweep) (s : State) :
    Frame s (s.record entries) :=
  ⟨rfl, rfl, rfl, rfl, rfl, le_rfl, entries, rfl, h⟩

theorem queuereq (ip : UInt32) (buf : Buf) (iface : String) (s : State) :
    Frame s (queuereq ip buf iface false s) := by
  refine ⟨rfl, rfl, rfl, rfl, rfl, Nat.le_succ _, ?_⟩
  have hqueued : ∀ entry ∈ (SrPacket.mk buf iface s.serials).toQueue.map (.queued · ip false),
      LogEntry.OfSweep entry :=
    List.forall_mem_map.mpr fun _ _ => rfl
  obtain ⟨created, hlog, hcreated⟩ := log_queuereq ip buf iface false s
  refine ⟨_ ++ created, by rw [hlog, List.append_assoc], ?_⟩
  refine List.forall_mem_append.mpr ⟨hqueued, fun entry hentry => ?_⟩
  rw [hcreated entry hentry]
  trivial

theorem reported {packet : SrPacket} {entry : SrRt} {iface : SrIf}
    (h : Reported packet s entry iface s') : Frame s s' := by
  cases h with
  | queued buf hmessage hunknown request sent =>
    have hreport : ∀ e ∈ [LogEntry.hostUnreachable packet], e.OfSweep :=
      List.forall_mem_singleton.mpr trivial
    have hrequest : ∀ e ∈ [LogEntry.arpRequest entry.gw s.now request sent], e.OfSweep :=
      List.forall_mem_singleton.mpr trivial
    exact ((record hreport s).trans (queuereq ..)).trans (record hrequest _)
  | answered buf hmessage sent =>
    have hreport : ∀ e ∈ [LogEntry.answered buf entry.interface sent, .hostUnreachable packet],
        e.OfSweep :=
      List.forall_mem_cons.mpr ⟨hmessage.type_eq, List.forall_mem_singleton.mpr trivial⟩
    exact record hreport s

end Frame

theorem grown_of_reported {packet : SrPacket} {s s' : State} {entry : SrRt} {iface : SrIf}
    (h : Reported packet s entry iface s') : Grown s.serials s.requests s'.requests := by
  cases h with
  | queued buf hmessage hunknown request sent =>
    exact Grown.queuereq s.sr.cache entry.gw ⟨⟨buf, fun _ => 0⟩, entry.interface, s.serials⟩
  | answered buf hmessage sent => exact .refl ..

/-! ## Rules for the sweep -/

theorem hostUnreachables_cons (packet : SrPacket) (packets : List SrPacket) (s : State) :
    hostUnreachables (packet :: packets) s =
      srSendIcmpHostUnreachable packet s >>= hostUnreachables packets := by
  rw [hostUnreachables]
  cases srSendIcmpHostUnreachable packet s <;> rfl

/-- An invariant of each report holds after all of them. -/
theorem hostUnreachables_outcome {I : State → Prop} {E : Fault → Prop} {packets : List SrPacket}
    (h : ∀ packet ∈ packets, ∀ s, I s → Outcome I E (srSendIcmpHostUnreachable packet s))
    {s : State} (hs : I s) : Outcome I E (hostUnreachables packets s) := by
  induction packets generalizing s with
  | nil => exact hs
  | cons packet packets ih =>
    rw [hostUnreachables_cons]
    exact (h packet List.mem_cons_self s hs).bind fun s' hs' =>
      ih (fun other hother => h other (List.mem_cons_of_mem packet hother)) hs'

/-- While it reports, the sweep only adds to requests. -/
theorem hostUnreachables_grown (packets : List SrPacket) (s : State) :
    Outcome (fun s' => Frame s s' ∧ Grown s.serials s.requests s'.requests) (fun _ => True)
      (hostUnreachables packets s) := by
  refine hostUnreachables_outcome (fun packet _ s' ⟨hframe, hgrown⟩ => ?_)
    ⟨Frame.refl s, Grown.refl ..⟩
  refine (srSendIcmpHostUnreachable_outcome packet s').mono ?_ fun _ _ => trivial
  rintro s'' ⟨entry, iface, -, -, hreported⟩
  exact ⟨hframe.trans (.reported hreported),
    hgrown.trans hframe.serials_le (grown_of_reported hreported)⟩

/-- The request was last sent less than a second ago. -/
def SrArpreq.Recent (curtime : ℕ) (req : SrArpreq) : Prop :=
  req.sent > 0 ∧ difftime curtime req.sent < 1

/-- `sr_arpcache_sweepreqs` sends a request again, which has `before` in front and `after`
behind. -/
def resend (curtime : ℕ) (before : List SrArpreq) (req : SrArpreq) (after : List SrArpreq)
    (s : State) : Except Fault State :=
  match req.packets with
  | [] => .error .noPackets
  | packet :: _ =>
    srSendArpRequest req.ip packet.iface (s.setRequests
      (before ++ { req with timesSent := req.timesSent + 1, sent := curtime } :: after))

theorem splitRequests_append (before after : List SrArpreq) (req : SrArpreq) :
    splitRequests after.length (before ++ req :: after) = (before, req :: after) := by
  unfold splitRequests
  rw [List.length_append, List.length_cons, Nat.add_sub_cancel, List.splitAt_eq, List.take_left,
    List.drop_left]

theorem exists_split {n : ℕ} {requests : List SrArpreq} (h : n + 1 ≤ requests.length) :
    ∃ before req after, requests = before ++ req :: after ∧ after.length = n := by
  have hlt : requests.length - (n + 1) < requests.length := by omega
  refine ⟨requests.take (requests.length - (n + 1)), requests[requests.length - (n + 1)],
    requests.drop (requests.length - (n + 1) + 1), ?_, by rw [List.length_drop]; omega⟩
  rw [← List.drop_eq_getElem_cons hlt, List.take_append_drop]

theorem srArpreqDestroy_eq {s : State} {before after : List SrArpreq} {req : SrArpreq}
    (h : s.requests = before ++ req :: after) :
    srArpreqDestroy after.length s =
      (s.setRequests (before ++ after)).record
        (req.packets.map .destroyed ++ [.gaveUp req.ip]) := by
  unfold srArpreqDestroy
  rw [h, splitRequests_append]

/-- The loop of the sweep, with an invariant of the state and of how many requests are still to be
visited. -/
theorem sweepLoop_outcome {curtime : ℕ} {P : ℕ → State → Prop} {E : Fault → Prop}
    (hlen : ∀ n s, P n s → n ≤ s.requests.length)
    (hskip : ∀ before req after s, s.requests = before ++ req :: after →
      P (after.length + 1) s → req.Recent curtime → P after.length s)
    (hgiveUp : ∀ before req after s, s.requests = before ++ req :: after →
      P (after.length + 1) s → ¬ req.Recent curtime → 4 ≤ req.timesSent →
      Outcome (fun s' => P after.length (srArpreqDestroy after.length s')) E
        (hostUnreachables req.packets s))
    (hresend : ∀ before req after s, s.requests = before ++ req :: after →
      P (after.length + 1) s → ¬ req.Recent curtime → req.timesSent < 4 →
      Outcome (P after.length) E (resend curtime before req after s))
    {n : ℕ} {s : State} (h : P n s) : Outcome (P 0) E (sweepLoop curtime n s) := by
  induction n generalizing s with
  | zero => exact h
  | succ n ih =>
    obtain ⟨before, req, after, hreqs, rfl⟩ := exists_split (hlen _ _ h)
    simp only [sweepLoop, hreqs, splitRequests_append]
    split
    · rename_i hrecent
      exact ih (hskip before req after s hreqs h hrecent)
    · rename_i hrecent
      split
      · rename_i htimes
        have hout := hgiveUp before req after s hreqs h hrecent htimes
        cases hreport : hostUnreachables req.packets s with
        | error fault => exact hout.failure hreport
        | ok s' => exact ih (hout.result hreport)
      · rename_i htimes
        have hout := hresend before req after s hreqs h hrecent (not_le.mp htimes)
        obtain ⟨ip, sent, timesSent, packets⟩ := req
        cases packets with
        | nil => exact hout
        | cons packet packets =>
          simp only [resend] at hout ⊢
          split
          · rename_i hsend
            exact hout.failure hsend
          · rename_i s' hsend
            exact ih (hout.result hsend)

theorem resend_outcome (curtime : ℕ) (before after : List SrArpreq) (req : SrArpreq) (s : State) :
    Outcome
      (fun s' => ∃ packet sent, s' = (s.setRequests (before ++
          { req with timesSent := req.timesSent + 1, sent := curtime } :: after)).record
        [.arpRequest req.ip s.now packet sent])
      (fun fault => fault = .noPackets ∧ req.packets = [] ∨ fault = .assertion)
      (resend curtime before req after s) := by
  obtain ⟨ip, sent, timesSent, packets⟩ := req
  cases packets with
  | nil => exact .inl ⟨rfl, rfl⟩
  | cons packet packets =>
    refine (srSendArpRequest_outcome ip packet.iface _).mono ?_ ?_
    · rintro s' ⟨request, sent, rfl⟩
      exact ⟨request, sent, rfl⟩
    · rintro fault ⟨rfl, -⟩
      exact .inr rfl

/-- An invariant of what the sweep does with a request holds after the sweep. What is known of the
waiting packets may be used when they are reported. -/
theorem sweepLoop_invariant {I : State → Prop} {W : SrPacket → Prop} {E : Fault → Prop}
    {curtime : ℕ}
    (hwaiting : ∀ s, I s → ∀ req ∈ s.requests, ∀ packet ∈ req.packets, W packet)
    (hreport : ∀ packet, W packet → ∀ s, I s → Outcome I E (srSendIcmpHostUnreachable packet s))
    (hdestroy : ∀ before req after s, s.requests = before ++ req :: after → I s →
      I ((s.setRequests (before ++ after)).record
        (req.packets.map .destroyed ++ [.gaveUp req.ip])))
    (hresend : ∀ before req after s packet sent, s.requests = before ++ req :: after → I s →
      req.timesSent < 4 → I ((s.setRequests (before ++
          { req with timesSent := req.timesSent + 1, sent := curtime } :: after)).record
        [.arpRequest req.ip s.now packet sent]))
    (hempty : ∀ s, I s → ∀ req ∈ s.requests, req.packets = [] → E .noPackets)
    (hassertion : E .assertion) {s : State} (h : I s) :
    Outcome I E (sweepLoop curtime s.requests.length s) := by
  have hloop : Outcome (fun s => 0 ≤ s.requests.length ∧ I s) E
      (sweepLoop curtime s.requests.length s) := by
    apply sweepLoop_outcome (P := fun n s => n ≤ s.requests.length ∧ I s)
    · exact fun n s h => h.1
    · rintro before req after s - ⟨hlen, hI⟩ -
      exact ⟨by omega, hI⟩
    · rintro before req after s hreqs ⟨-, hI⟩ - -
      have hmem : req ∈ s.requests := by
        rw [hreqs]
        exact List.mem_append_right before List.mem_cons_self
      have hreports := hostUnreachables_outcome
        (fun packet hp => hreport packet (hwaiting s hI req hmem packet hp)) hI
      refine (hreports.and (hostUnreachables_grown req.packets s)).mono ?_ fun fault h => h.1
      rintro s' ⟨hI', -, hgrown⟩
      rw [hreqs] at hgrown
      obtain ⟨before', req', after', hreqs', -, -, hafter⟩ := hgrown.split
      rw [hafter.length_eq, srArpreqDestroy_eq hreqs']
      refine ⟨?_, hdestroy before' req' after' s' hreqs' hI'⟩
      simp only [State.requests_record, State.requests_setRequests, List.length_append]
      omega
    · rintro before req after s hreqs ⟨-, hI⟩ - htimes
      refine (resend_outcome curtime before after req s).mono ?_ ?_
      · rintro s' ⟨packet, sent, rfl⟩
        refine ⟨?_, hresend before req after s packet sent hreqs hI htimes⟩
        simp only [State.requests_record, State.requests_setRequests, List.length_append,
          List.length_cons]
        omega
      · rintro fault (⟨rfl, hnil⟩ | rfl)
        · refine hempty s hI req ?_ hnil
          rw [hreqs]
          exact List.mem_append_right before List.mem_cons_self
        · exact hassertion
    · exact ⟨le_rfl, h⟩
  exact hloop.mono (fun s h => h.2) fun fault h => h

/-- A turn of the sweeper expires entries and sweeps. -/
theorem sweeperTurn_frame (s : State) :
    Outcome (Frame (s.setCache (expireEntries s.time s.sr.cache))) (fun _ => True)
      (sweeperTurn s) := by
  refine sweepLoop_invariant (W := fun _ => True) (fun _ _ _ _ _ _ => trivial) ?_ ?_ ?_
    (fun _ _ _ _ _ => trivial) trivial (Frame.refl _)
  · intro packet _ s' hframe
    refine (srSendIcmpHostUnreachable_outcome packet s').mono ?_ fun _ _ => trivial
    rintro s'' ⟨entry, iface, -, -, hreported⟩
    exact hframe.trans (.reported hreported)
  · intro before req after s' _ hframe
    refine (hframe.trans (.setRequests _ s')).trans (.record ?_ _)
    refine List.forall_mem_append.mpr ⟨List.forall_mem_map.mpr fun _ _ => trivial, ?_⟩
    exact List.forall_mem_singleton.mpr trivial
  · intro before req after s' packet sent _ hframe _
    refine (hframe.trans (.setRequests _ s')).trans (.record ?_ _)
    exact List.forall_mem_singleton.mpr trivial

/-! ## Moves of the main thread -/

/-- What `sr_send_arp_queued_packets` adds to the history. -/
def sentAll (sr : SrInstance) (mac : MacAddr) (packets : List SrPacket) : List LogEntry :=
  (packets.map fun packet => .sentQueued packet mac
    (srSendPacket sr (packet.sentTo mac) packet.iface)).reverse

theorem forall_mem_sentAll {p : LogEntry → Prop} {sr : SrInstance} {mac : MacAddr}
    {packets : List SrPacket} (h : ∀ packet ∈ packets, ∀ sent, p (.sentQueued packet mac sent)) :
    ∀ entry ∈ sentAll sr mac packets, p entry := by
  intro entry hentry
  obtain ⟨packet, hpacket, rfl⟩ := List.mem_map.mp (List.mem_reverse.mp hentry)
  exact h packet hpacket _

theorem foldl_sendQueued (mac : MacAddr) (packets : List SrPacket) (s : State) :
    packets.foldl (sendQueued mac) s = s.record (sentAll s.sr mac packets) := by
  induction packets generalizing s with
  | nil => rfl
  | cons packet packets ih =>
    rw [List.foldl_cons, ih]
    simp only [sendQueued, sentAll, State.record, List.map_cons, List.reverse_cons,
      List.append_assoc, List.cons_append, List.nil_append]

/-- A step of the main thread. -/
inductive MainMove (s : State) : State → Prop
  | idle (hmain : s.main = .idle) : MainMove s s
  | replyUnknown (mac : MacAddr) (ip : UInt32) (hmain : s.main = .replyLookup mac ip)
      (hunknown : ¬ s.sr.cache.Knows ip) : MainMove s { s with main := .replyInsert mac ip }
  | replyKnown (mac : MacAddr) (ip : UInt32) (hmain : s.main = .replyLookup mac ip) :
      MainMove s { s with main := .replyUnlink mac ip }
  | insert (mac : MacAddr) (ip : UInt32) (hmain : s.main = .replyInsert mac ip)
      (hno : ∀ req ∈ s.requests, req.ip ≠ ip) :
      MainMove s
        { s.setCache ⟨(srArpcacheInsert s.sr.cache mac ip s.time).2.entries, s.requests⟩ with
          main := .idle }
  | insertUnlink (mac : MacAddr) (ip : UInt32) (before : List SrArpreq) (req : SrArpreq)
      (after : List SrArpreq) (hmain : s.main = .replyInsert mac ip)
      (hreqs : s.requests = before ++ req :: after) (hip : req.ip = ip) :
      MainMove s
        { s.setCache ⟨(srArpcacheInsert s.sr.cache mac ip s.time).2.entries, before ++ after⟩ with
          main := .replySend mac ip req.packets }
  | sent (mac : MacAddr) (ip : UInt32) (hmain : s.main = .replySend mac ip []) :
      MainMove s { s with main := .idle }
  | send (mac : MacAddr) (ip : UInt32) (packet : SrPacket) (packets : List SrPacket) (sent : Bool)
      (hmain : s.main = .replySend mac ip (packet :: packets)) :
      MainMove s
        { s.record [.sentQueued packet mac sent] with main := .replySend mac ip packets }
  | unlinkNone (mac : MacAddr) (ip : UInt32) (hmain : s.main = .replyUnlink mac ip) :
      MainMove s { s with main := .idle }
  | unlink (mac : MacAddr) (ip : UInt32) (before : List SrArpreq) (req : SrArpreq)
      (after : List SrArpreq) (hmain : s.main = .replyUnlink mac ip)
      (hreqs : s.requests = before ++ req :: after) (hip : req.ip = ip) :
      MainMove s
        { (s.setRequests (before ++ after)).record (sentAll s.sr mac req.packets) with
          main := .idle }
  | forwardUnknown (nextHopIp : UInt32) (buf : Buf) (iface : String)
      (hmain : s.main = .forwardLookup nextHopIp buf iface)
      (hunknown : ¬ s.sr.cache.Knows nextHopIp) :
      MainMove s { s with main := .forwardQueue nextHopIp buf iface }
  | forwardKnown (nextHopIp : UInt32) (mac : MacAddr) (buf : Buf) (iface : String)
      (hmain : s.main = .forwardLookup nextHopIp buf iface) :
      MainMove s { s with main := .forwardSend mac buf iface }
  | queue (nextHopIp : UInt32) (buf : Buf) (iface : String)
      (hmain : s.main = .forwardQueue nextHopIp buf iface) :
      MainMove s
        { queuereq nextHopIp buf iface true s with main := .forwardRequest nextHopIp iface }
  | request (nextHopIp : UInt32) (iface : String) (packet : List UInt8) (sent : Bool)
      (hmain : s.main = .forwardRequest nextHopIp iface) :
      MainMove s { s.record [.arpRequest nextHopIp s.now packet sent] with main := .idle }
  | forward (mac : MacAddr) (buf : Buf) (iface : String) (sent : Bool)
      (hmain : s.main = .forwardSend mac buf iface) :
      MainMove s
        { s.record [.forwarded (buf.set 0 mac.toList).bytes iface sent] with main := .idle }

theorem mainStep_outcome (s : State) :
    Outcome (MainMove s) (fun fault => fault = .assertion) (mainStep s) := by
  cases hmain : s.main with
  | idle =>
    simp only [mainStep, hmain]
    exact .idle hmain
  | replyLookup mac ip =>
    rcases srArpcacheLookup_cases s.sr.cache ip with ⟨hlookup, hunknown⟩ | ⟨i, -, -, hlookup⟩
    · simp only [mainStep, hmain, hlookup]
      exact .replyUnknown mac ip hmain hunknown
    · simp only [mainStep, hmain, hlookup]
      exact .replyKnown mac ip hmain
  | replyInsert mac ip =>
    have hinsert : srArpcacheInsert s.sr.cache mac ip s.time =
        ((unlink ip s.requests).1,
          ⟨(srArpcacheInsert s.sr.cache mac ip s.time).2.entries, (unlink ip s.requests).2⟩) := rfl
    generalize hentries : (srArpcacheInsert s.sr.cache mac ip s.time).2.entries = entries at hinsert
    rcases unlink_cases ip s.requests with
      ⟨hunlink, hno⟩ | ⟨before, req, after, hreqs, -, hip, hunlink⟩
    · rw [hunlink] at hinsert
      simp only [mainStep, hmain, hinsert]
      rw [← hentries]
      exact .insert mac ip hmain hno
    · rw [hunlink] at hinsert
      simp only [mainStep, hmain, hinsert]
      rw [← hentries]
      exact .insertUnlink mac ip before req after hmain hreqs hip
  | replySend mac ip packets =>
    cases packets with
    | nil =>
      simp only [mainStep, hmain]
      exact .sent mac ip hmain
    | cons packet packets =>
      simp only [mainStep, hmain]
      exact .send mac ip packet packets _ hmain
  | replyUnlink mac ip =>
    rcases unlink_cases ip s.requests with
      ⟨hunlink, -⟩ | ⟨before, req, after, hreqs, -, hip, hunlink⟩
    · simp only [mainStep, hmain, hunlink]
      exact .unlinkNone mac ip hmain
    · simp only [mainStep, hmain, hunlink, foldl_sendQueued]
      exact .unlink mac ip before req after hmain hreqs hip
  | forwardLookup nextHopIp buf iface =>
    rcases srArpcacheLookup_cases s.sr.cache nextHopIp with ⟨hlookup, hunknown⟩ | ⟨i, -, -, hlookup⟩
    · simp only [mainStep, hmain, hlookup]
      exact .forwardUnknown nextHopIp buf iface hmain hunknown
    · simp only [mainStep, hmain, hlookup]
      exact .forwardKnown nextHopIp _ buf iface hmain
  | forwardQueue nextHopIp buf iface =>
    simp only [mainStep, hmain]
    exact .queue nextHopIp buf iface hmain
  | forwardRequest nextHopIp iface =>
    simp only [mainStep, hmain]
    refine (srSendArpRequest_outcome nextHopIp iface _).mono ?_ fun fault h => h.1
    rintro s' ⟨packet, sent, rfl⟩
    exact .request nextHopIp iface packet sent hmain
  | forwardSend mac buf iface =>
    simp only [mainStep, hmain]
    exact .forward mac buf iface _ hmain

/-! ## Runs -/

/-- An invariant of each step of a run holds after it. -/
theorem runActs_outcome {I : State → Prop} {E : Fault → Prop} {acts : List Act}
    (h : ∀ act ∈ acts, ∀ s, I s → Outcome I E (step act s)) {s : State} (hs : I s) :
    Outcome I E (runActs acts s) := by
  have heq : runActs acts s = acts.foldlM (fun s act => step act s) s := by
    clear h hs
    induction acts generalizing s with
    | nil => rfl
    | cons act acts ih =>
      rw [runActs, List.foldlM_cons]
      cases step act s with
      | error fault => rfl
      | ok s' => exact ih
  rw [heq]
  exact Outcome.foldlM h hs

/-- Every step of a run from `s` begins where `C` allows it. -/
def RunMeets (C : Act → State → Prop) : List Act → State → Prop
  | [], _ => True
  | act :: acts, s => C act s ∧ ∀ s', step act s = .ok s' → RunMeets C acts s'

/-- An invariant of each step that begins where `C` allows it holds after a run of such steps. -/
theorem runActs_outcome_of_meets {C : Act → State → Prop} {I : State → Prop} {E : Fault → Prop}
    (h : ∀ act s, C act s → I s → Outcome I E (step act s)) {acts : List Act} {s : State}
    (hmeets : RunMeets C acts s) (hs : I s) : Outcome I E (runActs acts s) := by
  induction acts generalizing s with
  | nil => exact hs
  | cons act acts ih =>
    obtain ⟨hC, hnext⟩ := hmeets
    have hstep := h act s hC hs
    unfold runActs
    split
    · rename_i hval
      exact hstep.failure hval
    · rename_i s' hval
      exact ih (hnext s' hval) (hstep.result hval)

/-- A run meets a condition if its first step and the run after that do. -/
theorem RunMeets.of_ok {C : Act → State → Prop} {act : Act} {acts : List Act} {s s' : State}
    (hC : C act s) (hstep : step act s = .ok s') (h : RunMeets C acts s') :
    RunMeets C (act :: acts) s := by
  refine ⟨hC, fun s'' hs'' => ?_⟩
  obtain rfl : s' = s'' := Except.ok.inj (hstep.symm.trans hs'')
  exact h

theorem RunMeets.of_forall {C : Act → State → Prop} {acts : List Act}
    (h : ∀ act ∈ acts, ∀ s, C act s) {s : State} : RunMeets C acts s := by
  induction acts generalizing s with
  | nil => trivial
  | cons act acts ih =>
    exact ⟨h act List.mem_cons_self s,
      fun s' _ => ih fun act' hact' => h act' (List.mem_cons_of_mem act hact')⟩

end NetworkSim.Router
