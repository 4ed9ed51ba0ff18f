import NetworkSim.Router.GivingUp

/-!
# One sweep

`sr_arpcache_sweepreqs` walks over the queue of requests while the host unreachable messages that it
sends change the queue: they join the lists of requests, also of the one that is about to be
destroyed, and make new requests in front of all. What it does to the queue and to the history is
followed from request to request (`SweptSoFar`): each of those that were there at the start has one
part of the history, in their order, and the new ones have none (`sweep_visits_each_once`).
-/

namespace NetworkSim.Router

/-! ## Reports -/

/-- The packet about which a host unreachable is sent. -/
def LogEntry.reported? : LogEntry → Option SrPacket
  | .hostUnreachable packet => some packet
  | _ => none

/-- The address of a request that is put on the queue. -/
def LogEntry.created? : LogEntry → Option UInt32
  | .created ip => some ip
  | _ => none

/-- What `sr_send_icmp_host_unreachable` adds to the history. -/
def LogEntry.OfReport : LogEntry → Prop
  | .hostUnreachable _ => True
  | .queued _ _ transit => transit = false
  | .created _ => True
  | .arpRequest .. => True
  | .answered .. => True
  | _ => False

/-- A request as the queue has it when it is made during a sweep. -/
structure SrArpreq.Fresh (n : ℕ) (req : SrArpreq) : Prop where
  sent_eq : req.sent = 0
  timesSent_eq : req.timesSent = 0
  new : ∀ packet ∈ req.packets, n ≤ packet.serial

theorem SrArpreq.Fresh.grows {n n' : ℕ} (hle : n ≤ n') {req req' : SrArpreq} (h : req.Fresh n)
    (hgrows : req.Grows n' req') : req'.Fresh n := by
  obtain ⟨more, hmore, hserial⟩ := hgrows.packets_eq
  refine ⟨hgrows.sent_eq.trans h.sent_eq, hgrows.timesSent_eq.trans h.timesSent_eq, ?_⟩
  rw [hmore]
  exact List.forall_mem_append.mpr ⟨fun packet hpacket => hle.trans (hserial packet hpacket), h.new⟩

/-- Requests that only grew, behind new ones for the addresses `created`. -/
def GrownBy (n : ℕ) (created : List UInt32) (requests requests' : List SrArpreq) : Prop :=
  ∃ news olds, requests' = news ++ olds ∧ List.Forall₂ (SrArpreq.Grows n) requests olds ∧
    (∀ req ∈ news, req.Fresh n) ∧ news.map (·.ip) = created

theorem forall₂_grows_ip {n : ℕ} {requests requests' : List SrArpreq}
    (h : List.Forall₂ (SrArpreq.Grows n) requests requests') :
    requests'.map (·.ip) = requests.map (·.ip) := by
  induction h with
  | nil => rfl
  | cons hreq _ ih => rw [List.map_cons, List.map_cons, hreq.ip_eq, ih]

theorem forall₂_grows_fresh {n n' : ℕ} (hle : n ≤ n') {requests requests' : List SrArpreq}
    (h : List.Forall₂ (SrArpreq.Grows n') requests requests')
    (hfresh : ∀ req ∈ requests, req.Fresh n) :
    ∀ req ∈ requests', req.Fresh n := by
  induction h with
  | nil => exact hfresh
  | cons hreq _ ih =>
    obtain ⟨hfirst, hrest⟩ := List.forall_mem_cons.mp hfresh
    exact List.forall_mem_cons.mpr ⟨hfirst.grows hle hreq, ih hrest⟩

theorem GrownBy.refl (n : ℕ) (requests : List SrArpreq) : GrownBy n [] requests requests :=
  ⟨[], requests, rfl, forall₂_grows_refl n requests, fun _ h => absurd h List.not_mem_nil, rfl⟩

theorem GrownBy.trans {n n' : ℕ} (hle : n ≤ n') {created created' : List UInt32}
    {requests requests' requests'' : List SrArpreq} (h : GrownBy n created requests requests')
    (h' : GrownBy n' created' requests' requests'') :
    GrownBy n (created' ++ created) requests requests'' := by
  obtain ⟨news, olds, rfl, hgrow, hfresh, rfl⟩ := h
  obtain ⟨news', olds', rfl, hgrow', hfresh', rfl⟩ := h'
  obtain ⟨mids, olds'', rfl, hmids, holds⟩ := forall₂_append_left hgrow'
  refine ⟨news' ++ mids, olds'', (List.append_assoc ..).symm, forall₂_grows_trans hle hgrow holds,
    ?_, ?_⟩
  · refine List.forall_mem_append.mpr ⟨fun req hreq => ?_, forall₂_grows_fresh hle hmids hfresh⟩
    have hreq' := hfresh' req hreq
    exact ⟨hreq'.sent_eq, hreq'.timesSent_eq, fun packet hp => hle.trans (hreq'.new packet hp)⟩
  · rw [List.map_append, forall₂_grows_ip hmids]

theorem grownBy_queuereq (ip : UInt32) (buf : Buf) (iface : String) (transit : Bool) (s : State) :
    ∃ created, GrownBy s.serials created s.requests (queuereq ip buf iface transit s).requests ∧
      (queuereq ip buf iface transit s).log =
        (SrPacket.mk buf iface s.serials).toQueue.map (.queued · ip transit) ++
          (created.map .created ++ s.log) := by
  have hnew : ∀ packet ∈ (SrPacket.mk buf iface s.serials).toQueue, s.serials ≤ packet.serial := by
    intro packet hpacket
    rw [mem_toQueue hpacket]
  rcases queuereq_cases ip buf iface transit s with
    ⟨-, hreqs, hlog⟩ | ⟨before, req, after, hreqs, -, -, hreqs', hlog⟩
  · refine ⟨[ip], ⟨[_], s.requests, hreqs, forall₂_grows_refl _ _, ?_, rfl⟩, hlog⟩
    exact List.forall_mem_singleton.mpr ⟨rfl, rfl, hnew⟩
  · refine ⟨[], ⟨[], _, hreqs', ?_, fun _ h => absurd h List.not_mem_nil, rfl⟩, hlog⟩
    rw [hreqs]
    exact List.rel_append (forall₂_grows_refl _ before)
      (.cons ⟨rfl, rfl, rfl, _, rfl, hnew⟩ (forall₂_grows_refl _ after))

/-- What the reports of some packets do to the queue and to the history. -/
structure ReportsOf (packets : List SrPacket) (s s' : State) : Prop where
  frame : Frame s s'
  grown : ∃ reports, s'.log = reports ++ s.log ∧
    GrownBy s.serials (reports.filterMap LogEntry.created?) s.requests s'.requests ∧
    reports.filterMap LogEntry.reported? = packets.reverse ∧ ∀ entry ∈ reports, entry.OfReport

theorem ReportsOf.nil (s : State) : ReportsOf [] s s :=
  ⟨Frame.refl s, [], rfl, GrownBy.refl _ _, rfl, fun _ h => absurd h List.not_mem_nil⟩

theorem ReportsOf.cons {packet : SrPacket} {packets : List SrPacket} {s s₁ s₂ : State}
    (h : ReportsOf [packet] s s₁) (h' : ReportsOf packets s₁ s₂) :
    ReportsOf (packet :: packets) s s₂ := by
  obtain ⟨reports, hlog, hgrown, hreported, hof⟩ := h.grown
  obtain ⟨reports', hlog', hgrown', hreported', hof'⟩ := h'.grown
  refine ⟨h.frame.trans h'.frame, reports' ++ reports, by rw [hlog', hlog, List.append_assoc],
    ?_, ?_, List.forall_mem_append.mpr ⟨hof', hof⟩⟩
  · rw [List.filterMap_append]
    exact hgrown.trans h.frame.serials_le hgrown'
  · rw [List.filterMap_append, hreported, hreported', List.reverse_cons, List.reverse_cons,
      List.reverse_nil, List.nil_append]

theorem filterMap_created (created : List UInt32) :
    (created.map LogEntry.created).filterMap LogEntry.created? = created := by
  induction created with
  | nil => rfl
  | cons ip created ih => exact congrArg (ip :: ·) ih

theorem reportsOf_reported {packet : SrPacket} {s s' : State} {entry : SrRt} {iface : SrIf}
    (h : Reported packet s entry iface s') : ReportsOf [packet] s s' := by
  refine ⟨.reported h, ?_⟩
  cases h with
  | queued buf hmessage hunknown request sent =>
    obtain ⟨created, hgrown, hlog⟩ := grownBy_queuereq entry.gw ⟨buf, fun _ => 0⟩ entry.interface
      false (s.record [.hostUnreachable packet])
    have hqueue := toQueue_cases
      ⟨⟨buf, fun _ => 0⟩, entry.interface, (s.record [.hostUnreachable packet]).serials⟩
    generalize SrPacket.toQueue ⟨⟨buf, fun _ => 0⟩, entry.interface,
      (s.record [.hostUnreachable packet]).serials⟩ = queue at hlog hqueue
    refine ⟨.arpRequest entry.gw s.now request sent :: (queue.map (.queued · entry.gw false) ++
      (created.map .created ++ [.hostUnreachable packet])), ?_, ?_, ?_, ?_⟩
    · simp only [State.log_record, hlog, List.append_assoc, List.nil_append,
        List.cons_append]
    · have hcreated : (LogEntry.arpRequest entry.gw s.now request sent ::
          (queue.map (.queued · entry.gw false) ++
            (created.map .created ++ [.hostUnreachable packet]))).filterMap LogEntry.created? =
          created := by
        rw [List.filterMap_cons_none rfl, List.filterMap_append, List.filterMap_append,
          filterMap_created]
        rcases hqueue with rfl | rfl
        · exact List.append_nil created
        · exact List.append_nil created
      rw [hcreated]
      exact hgrown
    · have hnone : (created.map LogEntry.created).filterMap LogEntry.reported? = [] := by
        refine List.filterMap_eq_nil_iff.mpr fun e he => ?_
        obtain ⟨ip, -, rfl⟩ := List.mem_map.mp he
        rfl
      rw [List.filterMap_cons_none rfl, List.filterMap_append, List.filterMap_append, hnone]
      rcases hqueue with rfl | rfl
      · rfl
      · rfl
    · refine List.forall_mem_cons.mpr ⟨trivial, List.forall_mem_append.mpr ⟨?_, ?_⟩⟩
      · exact List.forall_mem_map.mpr fun _ _ => rfl
      · exact List.forall_mem_append.mpr ⟨List.forall_mem_map.mpr fun _ _ => trivial,
          List.forall_mem_singleton.mpr trivial⟩
  | answered buf hmessage sent =>
    exact ⟨[_, _], rfl, GrownBy.refl _ _, rfl,
      List.forall_mem_cons.mpr ⟨trivial, List.forall_mem_singleton.mpr trivial⟩⟩

/-! ## When the sweep comes to an end -/

/-- What the sweep takes for granted: every request has a packet, and the sources of the packets and
the addresses of the interfaces have routes. The interfaces of the routes are those that
`sr_verify_routing_table` has looked for, and packets wait with one of them. -/
structure Sweepable (s : State) : Prop where
  waiting : ∀ req ∈ s.requests, req.packets ≠ [] ∧ ∀ packet ∈ req.packets,
    Routed s.sr.routingTable (packet.buf.get32 26) ∧ srGetInterface s.sr.ifList packet.iface ≠ none
  own : ∀ iface ∈ s.sr.ifList, Routed s.sr.routingTable iface.ip
  verified : srVerifyRoutingTable s.sr.ifList s.sr.routingTable = 0

theorem srRtLookupIp_mem {routingTable : List SrRt} {ip : UInt32} {entry : SrRt}
    (h : srRtLookupIp routingTable ip = some entry) : entry ∈ routingTable := by
  have hfold (routes : List SrRt) (best : ℕ × Option SrRt)
      (hbest : ∀ entry, best.2 = some entry → entry ∈ routingTable)
      (hroutes : ∀ route ∈ routes, route ∈ routingTable) :
      ∀ entry, (routes.foldl (lookupRound ip) best).2 = some entry → entry ∈ routingTable := by
    induction routes generalizing best with
    | nil => exact hbest
    | cons route routes ih =>
      obtain ⟨hroute, hroutes⟩ := List.forall_mem_cons.mp hroutes
      refine ih _ (fun entry hentry => ?_) hroutes
      simp only [lookupRound] at hentry
      split at hentry
      · split at hentry
        · obtain rfl := Option.some.inj hentry
          exact hroute
        · exact hbest entry hentry
      · exact hbest entry hentry
  exact hfold routingTable (0, none) (fun _ h => nomatch h) (fun _ => id) entry h

/-- The interface of each route is found when the routing table is verified. -/
theorem srGetInterface_of_verified {ifList : List SrIf} {routingTable : List SrRt}
    (h : srVerifyRoutingTable ifList routingTable = 0) {entry : SrRt}
    (hentry : entry ∈ routingTable) :
    srGetInterface ifList entry.interface ≠ none := by
  have hfold (routes : List SrRt) (ret : ℕ)
      (hzero : routes.foldl (fun ret entry =>
        if srGetInterface ifList entry.interface = none then ret + 1 else ret) ret = 0) :
      ret = 0 ∧ ∀ route ∈ routes, srGetInterface ifList route.interface ≠ none := by
    induction routes generalizing ret with
    | nil => exact ⟨hzero, fun _ h => absurd h List.not_mem_nil⟩
    | cons route routes ih =>
      obtain ⟨hret, hrest⟩ := ih _ hzero
      simp only at hret
      split at hret
      · cases hret
      · rename_i hroute
        exact ⟨hret, List.forall_mem_cons.mpr ⟨hroute, hrest⟩⟩
  unfold srVerifyRoutingTable at h
  split at h
  · cases h
  · exact (hfold routingTable 0 h).2 entry hentry

theorem srGetInterface_mem {ifList : List SrIf} {name : String} {iface : SrIf}
    (h : srGetInterface ifList name = some iface) : iface ∈ ifList := List.mem_of_find?_eq_some h

namespace Sweepable

variable {s s' : State}

theorem congr (h : Sweepable s) (hifList : s'.sr.ifList = s.sr.ifList)
    (htable : s'.sr.routingTable = s.sr.routingTable)
    (hreqs : ∀ req ∈ s'.requests, req.packets ≠ [] ∧ ∀ packet ∈ req.packets,
      Routed s.sr.routingTable (packet.buf.get32 26) ∧
        srGetInterface s.sr.ifList packet.iface ≠ none) : Sweepable s' := by
  constructor
  · rw [hifList, htable]
    exact hreqs
  · rw [hifList, htable]
    exact h.own
  · rw [hifList, htable]
    exact h.verified

/-- A message of the router's own is queued. -/
theorem queuereq (h : Sweepable s) (ip : UInt32) {buf : Buf} (hlen : buf.len ≠ 0) (iface : String)
    (hrouted : Routed s.sr.routingTable (buf.get32 26))
    (hiface : srGetInterface s.sr.ifList iface ≠ none) :
    Sweepable (queuereq ip buf iface false s) := by
  have hqueue : (SrPacket.mk buf iface s.serials).toQueue = [⟨buf, iface, s.serials⟩] := if_pos hlen
  have hwaiting := h.waiting
  refine h.congr rfl rfl ?_
  rcases queuereq_cases ip buf iface false s with
    ⟨-, hreqs, -⟩ | ⟨before, req, after, hreqs, -, -, hreqs', -⟩
  · rw [hreqs, hqueue, List.forall_mem_cons]
    exact ⟨⟨List.cons_ne_nil _ _, List.forall_mem_singleton.mpr ⟨hrouted, hiface⟩⟩, hwaiting⟩
  · rw [hreqs, List.forall_mem_append, List.forall_mem_cons] at hwaiting
    obtain ⟨hbefore, hreq, hafter⟩ := hwaiting
    rw [hreqs', hqueue, List.forall_mem_append, List.forall_mem_cons]
    exact ⟨hbefore, ⟨List.cons_ne_nil _ _, List.forall_mem_cons.mpr ⟨⟨hrouted, hiface⟩, hreq.2⟩⟩,
      hafter⟩

theorem reported (h : Sweepable s) {packet : SrPacket} {entry : SrRt} {iface : SrIf}
    (hiface : srGetInterface s.sr.ifList entry.interface = some iface)
    (hreported : Reported packet s entry iface s') : Sweepable s' := by
  cases hreported with
  | queued buf hmessage hunknown request sent =>
    have hreport : Sweepable (s.record [.hostUnreachable packet]) := h.congr rfl rfl h.waiting
    have hlen : (Buf.mk buf fun _ => 0).len ≠ 0 := by
      change buf.length ≠ 0
      rw [hmessage.length_eq]
      decide
    have hrouted : Routed s.sr.routingTable ((Buf.mk buf fun _ => 0).get32 26) := by
      rw [hmessage.src_eq]
      exact h.own iface (srGetInterface_mem hiface)
    have hqueued := hreport.queuereq entry.gw hlen entry.interface hrouted
      fun hnone => Option.some_ne_none iface (hiface.symm.trans hnone)
    exact hqueued.congr rfl rfl hqueued.waiting
  | answered buf hmessage sent => exact h.congr rfl rfl h.waiting

end Sweepable

/-- The packets of a request are reported. -/
theorem hostUnreachables_reportsOf {packets : List SrPacket} (s : State) :
    Outcome (fun s' => ReportsOf packets s s' ∧ (Sweepable s → Sweepable s'))
      (fun _ => ¬ (Sweepable s ∧ ∀ packet ∈ packets,
        Routed s.sr.routingTable (packet.buf.get32 26)))
      (hostUnreachables packets s) := by
  induction packets generalizing s with
  | nil => exact ⟨ReportsOf.nil s, id⟩
  | cons packet packets ih =>
    rw [hostUnreachables_cons]
    have hfirst : Outcome (fun s' => ReportsOf [packet] s s' ∧ (Sweepable s → Sweepable s'))
        (fun _ => ¬ (Sweepable s ∧ ∀ other ∈ packet :: packets,
          Routed s.sr.routingTable (other.buf.get32 26)))
        (srSendIcmpHostUnreachable packet s) := by
      refine (srSendIcmpHostUnreachable_outcome packet s).mono ?_ ?_
      · rintro s' ⟨entry, iface, -, hiface, hreported⟩
        exact ⟨reportsOf_reported hreported, fun h => h.reported hiface hreported⟩
      · rintro fault (⟨-, hnone⟩ | ⟨-, entry, hroute, hnone⟩) ⟨hsweep, hrouted⟩
        · exact hrouted packet List.mem_cons_self hnone
        · exact srGetInterface_of_verified hsweep.verified (srRtLookupIp_mem hroute) hnone
    refine hfirst.bind fun s₁ ⟨hreports, hsweep⟩ => (ih s₁).mono ?_ ?_
    · rintro s₂ ⟨hreports', hsweep'⟩
      exact ⟨hreports.cons hreports', fun h => hsweep' (hsweep h)⟩
    · rintro fault hnot ⟨hs, hrouted⟩
      refine hnot ⟨hsweep hs, fun other hother => ?_⟩
      rw [hreports.frame.routingTable_eq]
      exact hrouted other (List.mem_cons_of_mem packet hother)

/-- A request is sent again, unless it has no packet or the interface of its first one is not
found. -/
theorem resend_outcome_of_waiting (curtime : ℕ) (before after : List SrArpreq) (req : SrArpreq)
    (s : State) :
    Outcome
      (fun s' => ∃ packet sent, s' = (s.setRequests (before ++
          { req with timesSent := req.timesSent + 1, sent := curtime } :: after)).record
        [.arpRequest req.ip s.now packet sent])
      (fun _ => ¬ (req.packets ≠ [] ∧
        ∀ packet ∈ req.packets, srGetInterface s.sr.ifList packet.iface ≠ none))
      (resend curtime before req after s) := by
  obtain ⟨ip, sent, timesSent, packets⟩ := req
  cases packets with
  | nil => exact fun h => h.1 rfl
  | cons packet packets =>
    refine (srSendArpRequest_outcome ip packet.iface _).mono ?_ ?_
    · rintro s' ⟨request, sent, rfl⟩
      exact ⟨request, sent, rfl⟩
    · rintro fault ⟨-, hnone⟩ ⟨-, hfound⟩
      exact hfound packet List.mem_cons_self hnone

/-! ## From request to request -/

/-- The request was sent less than a second ago. -/
def SrArpreq.JustSent (curtime : ℕ) (req : SrArpreq) : Prop := difftime curtime req.sent < 1

instance (curtime : ℕ) (req : SrArpreq) : Decidable (req.JustSent curtime) :=
  inferInstanceAs (Decidable (_ < _))

/-- At a positive time the test of the sweep says whether a request was just sent. -/
theorem recent_iff_justSent {curtime : ℕ} (hpos : 0 < curtime) (req : SrArpreq) :
    req.Recent curtime ↔ req.JustSent curtime := by
  unfold SrArpreq.Recent SrArpreq.JustSent difftime
  omega

theorem justSent_of_grows {curtime n : ℕ} {req req' : SrArpreq} (h : req.Grows n req') :
    req'.JustSent curtime ↔ req.JustSent curtime := by
  unfold SrArpreq.JustSent
  rw [h.sent_eq]

/-- The request is still there after the sweep. -/
def SrArpreq.Stays (curtime : ℕ) (req : SrArpreq) : Prop :=
  req.JustSent curtime ∨ req.timesSent < 4

instance (curtime : ℕ) (req : SrArpreq) : Decidable (req.Stays curtime) :=
  inferInstanceAs (Decidable (_ ∨ _))

/-- What a visit makes of a request that stays. -/
def SrArpreq.visited (curtime : ℕ) (req : SrArpreq) : SrArpreq :=
  if req.JustSent curtime then req
  else { req with timesSent := req.timesSent + 1, sent := curtime }

/-- What the visit of a request adds to the history, of which `n` is the next serial: nothing, one
ARP request, or one host unreachable for each packet that waited (and for those of `more` that were
added since) before it is given up. -/
def VisitAdds (curtime now n : ℕ) (req : SrArpreq) (entries : List LogEntry) : Prop :=
  if req.JustSent curtime then entries = []
  else if req.timesSent < 4 then ∃ packet sent, entries = [.arpRequest req.ip now packet sent]
  else ∃ late more reports,
    entries = (late ++ (more ++ req.packets)).map .destroyed ++ .gaveUp req.ip :: reports ∧
      reports.filterMap LogEntry.reported? = (more ++ req.packets).reverse ∧
      (∀ entry ∈ reports, entry.OfReport) ∧ ∀ packet ∈ late ++ more, n ≤ packet.serial

/-- The sweep from `s₀` on has visited `visited`, and comes to `todo`. -/
structure SweptSoFar (s₀ : State) (visited todo : List SrArpreq) (s : State) : Prop where
  frame : Frame s₀ s
  sweepable : Sweepable s₀ → Sweepable s
  progress : ∃ news olds rest parts, s.requests = news ++ olds ++ rest ∧
    List.Forall₂ (SrArpreq.Grows s₀.serials) todo rest ∧
    List.Forall₂ (SrArpreq.Grows s₀.serials)
      ((visited.filter (·.Stays s₀.time)).map (SrArpreq.visited s₀.time)) olds ∧
    (∀ req ∈ news, req.Fresh s₀.serials) ∧
    List.Forall₂ (VisitAdds s₀.time s₀.now s₀.serials) visited parts ∧
    s.log = parts.reverse.flatten ++ s₀.log ∧
    parts.reverse.flatten.filterMap LogEntry.created? = news.map (·.ip)

namespace SweptSoFar

variable {s₀ s s' : State} {visited todo before after : List SrArpreq} {req₀ req : SrArpreq}

/-- The requests that stay, with one more. -/
theorem staying_append (h : req₀.Stays s₀.time) :
    ((visited ++ [req₀]).filter (·.Stays s₀.time)).map (SrArpreq.visited s₀.time) =
      (visited.filter (·.Stays s₀.time)).map (SrArpreq.visited s₀.time) ++
        [req₀.visited s₀.time] := by
  simp [h]

theorem staying_append_of_not (h : ¬ req₀.Stays s₀.time) :
    (visited ++ [req₀]).filter (·.Stays s₀.time) = visited.filter (·.Stays s₀.time) := by
  simp [h]

/-- The part of the history of one more request. -/
theorem adds_append {parts : List (List LogEntry)} {part : List LogEntry}
    (h : List.Forall₂ (VisitAdds s₀.time s₀.now s₀.serials) visited parts)
    (hpart : VisitAdds s₀.time s₀.now s₀.serials req₀ part) :
    List.Forall₂ (VisitAdds s₀.time s₀.now s₀.serials) (visited ++ [req₀]) (parts ++ [part]) :=
  List.rel_append h (.cons hpart .nil)

theorem flatten_append (parts : List (List LogEntry)) (part : List LogEntry) :
    (parts ++ [part]).reverse.flatten = part ++ parts.reverse.flatten := by
  rw [List.reverse_append, List.reverse_singleton, List.singleton_append, List.flatten_cons]

/-- The request that the sweep comes to, in the queue. -/
theorem split (h : SweptSoFar s₀ visited (req₀ :: todo) s)
    (hreqs : s.requests = before ++ req :: after) (hlen : after.length = todo.length) :
    ∃ news olds parts, before = news ++ olds ∧ req₀.Grows s₀.serials req ∧
      List.Forall₂ (SrArpreq.Grows s₀.serials) todo after ∧
      List.Forall₂ (SrArpreq.Grows s₀.serials)
        ((visited.filter (·.Stays s₀.time)).map (SrArpreq.visited s₀.time)) olds ∧
      (∀ req ∈ news, req.Fresh s₀.serials) ∧
      List.Forall₂ (VisitAdds s₀.time s₀.now s₀.serials) visited parts ∧
      s.log = parts.reverse.flatten ++ s₀.log ∧
      parts.reverse.flatten.filterMap LogEntry.created? = news.map (·.ip) := by
  obtain ⟨news, olds, rest, parts, hsplit, hrest, holds, hfresh, hparts, hlog, hcreated⟩ :=
    h.progress
  cases hrest with
  | @cons _ req' _ after' hreq hafter =>
    rw [hreqs] at hsplit
    obtain ⟨hbefore, htail⟩ := List.append_inj' hsplit (by
      rw [List.length_cons, List.length_cons, hlen, hafter.length_eq])
    obtain ⟨rfl, rfl⟩ := List.cons.inj htail
    exact ⟨news, olds, parts, hbefore, hreq, hafter, holds, hfresh, hparts, hlog, hcreated⟩

/-- The next request of the queue at the start. -/
theorem next (h : SweptSoFar s₀ visited todo s) (hs : s₀.requests = visited ++ todo)
    (hreqs : s.requests = before ++ req :: after) (hlen : todo.length = after.length + 1) :
    ∃ req₀ todo', todo = req₀ :: todo' ∧ after.length = todo'.length ∧
      s₀.requests = visited ++ [req₀] ++ todo' ∧ req.timesSent = req₀.timesSent ∧
      (req.JustSent s₀.time ↔ req₀.JustSent s₀.time) := by
  obtain ⟨req₀, todo', rfl⟩ := List.exists_cons_of_length_eq_add_one hlen
  have hlen' : after.length = todo'.length := (Nat.succ.inj hlen).symm
  obtain ⟨-, -, -, -, hreq, -⟩ := h.split hreqs hlen'
  refine ⟨req₀, todo', rfl, hlen', ?_, hreq.timesSent_eq, justSent_of_grows hreq⟩
  rw [hs, List.append_assoc, List.singleton_append]

/-- A request that was just sent. -/
theorem skip (h : SweptSoFar s₀ visited (req₀ :: todo) s)
    (hreqs : s.requests = before ++ req :: after) (hlen : after.length = todo.length)
    (hsent : req₀.JustSent s₀.time) : SweptSoFar s₀ (visited ++ [req₀]) todo s := by
  obtain ⟨news, olds, parts, rfl, hreq, hafter, holds, hfresh, hparts, hlog, hcreated⟩ :=
    h.split hreqs hlen
  have hstays : req₀.Stays s₀.time := .inl hsent
  refine ⟨h.frame, h.sweepable, news, olds ++ [req], after, parts ++ [[]], ?_, hafter, ?_, hfresh,
    adds_append hparts (by rw [VisitAdds, if_pos hsent]), ?_, ?_⟩
  · rw [hreqs, List.append_assoc, List.append_assoc, List.append_assoc, List.singleton_append]
  · rw [staying_append hstays]
    refine List.rel_append holds (.cons ?_ .nil)
    rw [SrArpreq.visited, if_pos hsent]
    exact hreq
  · rw [flatten_append, List.nil_append, hlog]
  · rw [flatten_append, List.nil_append, hcreated]

/-- A request that is sent again. -/
theorem resend (h : SweptSoFar s₀ visited (req₀ :: todo) s)
    (hreqs : s.requests = before ++ req :: after) (hlen : after.length = todo.length)
    (hsent : ¬ req₀.JustSent s₀.time) (htimes : req₀.timesSent < 4) (packet : List UInt8)
    (sent : Bool) :
    SweptSoFar s₀ (visited ++ [req₀]) todo
      ((s.setRequests (before ++
        { req with timesSent := req.timesSent + 1, sent := s₀.time } :: after)).record
          [.arpRequest req.ip s.now packet sent]) := by
  obtain ⟨news, olds, parts, rfl, hreq, hafter, holds, hfresh, hparts, hlog, hcreated⟩ :=
    h.split hreqs hlen
  have hstays : req₀.Stays s₀.time := .inr htimes
  have hentry : ∀ entry ∈ [LogEntry.arpRequest req.ip s.now packet sent], entry.OfSweep :=
    List.forall_mem_singleton.mpr trivial
  refine ⟨(h.frame.trans (.setRequests _ s)).trans (.record hentry _), fun hsweep => ?_, news,
    olds ++ [{ req with timesSent := req.timesSent + 1, sent := s₀.time }], after,
    parts ++ [[.arpRequest req.ip s.now packet sent]], ?_, hafter, ?_, hfresh,
    adds_append hparts ?_, ?_, ?_⟩
  · have hready := h.sweepable hsweep
    have hwaiting := hready.waiting
    rw [hreqs, List.forall_mem_append, List.forall_mem_cons] at hwaiting
    refine hready.congr rfl rfl ?_
    rw [State.requests_record, State.requests_setRequests, List.forall_mem_append,
      List.forall_mem_cons]
    exact hwaiting
  · rw [State.requests_record, State.requests_setRequests, List.append_assoc, List.append_assoc,
      List.append_assoc, List.singleton_append]
  · rw [staying_append hstays]
    refine List.rel_append holds (.cons ?_ .nil)
    rw [SrArpreq.visited, if_neg hsent]
    exact ⟨hreq.ip_eq, rfl, congrArg (· + 1) hreq.timesSent_eq, hreq.packets_eq⟩
  · rw [VisitAdds, if_neg hsent, if_pos htimes, hreq.ip_eq, h.frame.now_eq]
    exact ⟨packet, sent, rfl⟩
  · rw [flatten_append, State.log_record, State.log_setRequests, hlog, List.append_assoc]
  · rw [flatten_append, List.singleton_append, List.filterMap_cons_none rfl, hcreated]

/-- A request that is given up, when its packets have been reported. -/
theorem giveUp (h : SweptSoFar s₀ visited (req₀ :: todo) s)
    (hreqs : s.requests = before ++ req :: after) (hlen : after.length = todo.length)
    (hsent : ¬ req₀.JustSent s₀.time) (htimes : 4 ≤ req₀.timesSent)
    (hreports : ReportsOf req.packets s s') (hsweep : Sweepable s → Sweepable s') :
    SweptSoFar s₀ (visited ++ [req₀]) todo (srArpreqDestroy after.length s') := by
  obtain ⟨news, olds, parts, rfl, hreq, hafter, holds, hfresh, hparts, hlog, hcreated⟩ :=
    h.split hreqs hlen
  obtain ⟨reports, hlog', hgrown, hreported, hof⟩ := hreports.grown
  obtain ⟨news', rest, hreqs', hall, hfresh', hcreated'⟩ := hgrown
  rw [hreqs, List.append_assoc] at hall
  obtain ⟨mids, rest, rfl, hmids, hrest⟩ := forall₂_append_left hall
  obtain ⟨olds', rest, rfl, holds', htail⟩ := forall₂_append_left hrest
  cases htail with
  | @cons _ req' _ after' hreq' hafter' =>
    have hstays : ¬ req₀.Stays s₀.time := by
      rintro (hjust | hfew)
      · exact hsent hjust
      · omega
    have hle := h.frame.serials_le
    have hsplit : s'.requests = news' ++ mids ++ olds' ++ req' :: after' := by
      rw [hreqs', List.append_assoc, List.append_assoc]
    rw [hafter'.length_eq, srArpreqDestroy_eq hsplit]
    obtain ⟨more, hmore, hmoreSerial⟩ := hreq.packets_eq
    obtain ⟨late, hlate, hlateSerial⟩ := hreq'.packets_eq
    have hdestroyed : ∀ entry ∈ req'.packets.map .destroyed ++ [.gaveUp req'.ip],
        LogEntry.OfSweep entry :=
      List.forall_mem_append.mpr ⟨List.forall_mem_map.mpr fun _ _ => trivial,
        List.forall_mem_singleton.mpr trivial⟩
    refine ⟨((h.frame.trans hreports.frame).trans (.setRequests _ s')).trans
      (.record hdestroyed _), fun hready => ?_, news' ++ mids, olds', after',
      parts ++ [(req'.packets.map .destroyed ++ [.gaveUp req'.ip]) ++ reports], ?_,
      forall₂_grows_trans hle hafter hafter', ?_, ?_, adds_append hparts ?_, ?_, ?_⟩
    · have hready' := hsweep (h.sweepable hready)
      have hwaiting := hready'.waiting
      rw [hsplit, List.forall_mem_append, List.forall_mem_cons] at hwaiting
      refine hready'.congr rfl rfl ?_
      rw [State.requests_record, State.requests_setRequests, List.forall_mem_append]
      exact ⟨hwaiting.1, hwaiting.2.2⟩
    · rfl
    · rw [staying_append_of_not hstays]
      exact forall₂_grows_trans hle holds holds'
    · refine List.forall_mem_append.mpr ⟨fun req hreq => ?_, ?_⟩
      · have hnew := hfresh' req hreq
        exact ⟨hnew.sent_eq, hnew.timesSent_eq, fun packet hp => hle.trans (hnew.new packet hp)⟩
      · exact forall₂_grows_fresh hle hmids hfresh
    · rw [VisitAdds, if_neg hsent, if_neg (not_lt.mpr htimes)]
      refine ⟨late, more, reports, ?_, ?_, hof, ?_⟩
      · rw [hlate, hmore, hreq'.ip_eq, hreq.ip_eq, List.append_assoc, List.singleton_append]
      · rw [hreported, hmore]
      · exact List.forall_mem_append.mpr
          ⟨fun packet hp => hle.trans (hlateSerial packet hp), hmoreSerial⟩
    · rw [flatten_append, State.log_record, State.log_setRequests, hlog', hlog]
      simp only [List.append_assoc]
    · have hnone : (req'.packets.map LogEntry.destroyed ++ [LogEntry.gaveUp req'.ip]).filterMap
          LogEntry.created? = [] := by
        refine List.filterMap_eq_nil_iff.mpr ?_
        exact List.forall_mem_append.mpr ⟨List.forall_mem_map.mpr fun _ _ => rfl,
          List.forall_mem_singleton.mpr rfl⟩
      rw [flatten_append, List.filterMap_append, List.filterMap_append, hnone, List.nil_append,
        ← hcreated', hcreated, List.map_append, forall₂_grows_ip hmids]

end SweptSoFar

/-! ## The sweep -/

/-- **One sweep visits each request once.** At a positive time, what the sweep adds to the history
has one part for each request that was on the queue, in their order and no other (`VisitAdds`):
nothing for one that was sent less than a second ago; one ARP request for another that was sent less
than four times; for any other a host unreachable about each waiting packet, after which the request
is gone. Those that stay have as `sent` and `times_sent` what the visit left there
(`SrArpreq.visited`); before them are the requests that the messages of the sweep have made, never
visited. The sweep comes to an end when every request has a packet and all the addresses that it
looks up have routes. -/
theorem sweep_visits_each_once (s : State) (htime : 0 < s.time) :
    (∀ s', srArpcacheSweepreqs s = .ok s' →
      ∃ news olds parts, s'.requests = news ++ olds ∧
        List.Forall₂ (SrArpreq.Grows s.serials)
          ((s.requests.filter (·.Stays s.time)).map (SrArpreq.visited s.time)) olds ∧
        (∀ req ∈ news, req.Fresh s.serials) ∧
        List.Forall₂ (VisitAdds s.time s.now s.serials) s.requests parts ∧
        s'.log = parts.reverse.flatten ++ s.log ∧
        parts.reverse.flatten.filterMap LogEntry.created? = news.map (·.ip)) ∧
      (Sweepable s → ∃ s', srArpcacheSweepreqs s = .ok s') := by
  have hloop : Outcome
      (fun s' => ∃ visited todo, s.requests = visited ++ todo ∧ todo.length = 0 ∧
        SweptSoFar s visited todo s')
      (fun _ => ¬ Sweepable s) (srArpcacheSweepreqs s) := by
    apply sweepLoop_outcome (P := fun n s' => ∃ visited todo, s.requests = visited ++ todo ∧
      todo.length = n ∧ SweptSoFar s visited todo s')
    · rintro n s' ⟨visited, todo, -, rfl, h⟩
      obtain ⟨news, olds, rest, parts, hreqs, hrest, -⟩ := h.progress
      rw [hreqs, List.length_append, hrest.length_eq]
      exact Nat.le_add_left ..
    · rintro before req after s' hreqs ⟨visited, todo, hs, hlen, h⟩ hrecent
      obtain ⟨req₀, todo, rfl, hlen', hs', -, hjust⟩ := h.next hs hreqs hlen
      exact ⟨visited ++ [req₀], todo, hs', hlen'.symm,
        h.skip hreqs hlen' (hjust.mp ((recent_iff_justSent htime req).mp hrecent))⟩
    · rintro before req after s' hreqs ⟨visited, todo, hs, hlen, h⟩ hrecent htimes
      obtain ⟨req₀, todo, rfl, hlen', hs', hcount, hjust⟩ := h.next hs hreqs hlen
      rw [recent_iff_justSent htime, hjust] at hrecent
      rw [hcount] at htimes
      refine (hostUnreachables_reportsOf s').mono ?_ ?_
      · rintro s'' ⟨hreports, hsweep⟩
        exact ⟨visited ++ [req₀], todo, hs', hlen'.symm,
          h.giveUp hreqs hlen' hrecent htimes hreports hsweep⟩
      · rintro fault hnot hready
        have hready' := h.sweepable hready
        refine hnot ⟨hready', fun packet hpacket => ((hready'.waiting req ?_).2 packet hpacket).1⟩
        rw [hreqs]
        exact List.mem_append_right before List.mem_cons_self
    · rintro before req after s' hreqs ⟨visited, todo, hs, hlen, h⟩ hrecent htimes
      obtain ⟨req₀, todo, rfl, hlen', hs', hcount, hjust⟩ := h.next hs hreqs hlen
      rw [recent_iff_justSent htime, hjust] at hrecent
      rw [hcount] at htimes
      refine (resend_outcome_of_waiting s.time before after req s').mono ?_ ?_
      · rintro s'' ⟨packet, sent, rfl⟩
        exact ⟨visited ++ [req₀], todo, hs', hlen'.symm,
          h.resend hreqs hlen' hrecent htimes packet sent⟩
      · rintro fault hnot hready
        have hready' := h.sweepable hready
        have hmem : req ∈ s'.requests := by
          rw [hreqs]
          exact List.mem_append_right before List.mem_cons_self
        obtain ⟨hne, hpackets⟩ := hready'.waiting req hmem
        exact hnot ⟨hne, fun packet hpacket => (hpackets packet hpacket).2⟩
    · refine ⟨[], s.requests, rfl, rfl, Frame.refl s, id, [], [], s.requests, [], rfl,
        forall₂_grows_refl _ _, .nil, fun _ h => absurd h List.not_mem_nil, .nil, rfl, rfl⟩
  constructor
  · intro s' hs'
    obtain ⟨visited, todo, hs, hnil, h⟩ := hloop.result hs'
    obtain rfl := List.length_eq_zero_iff.mp hnil
    obtain ⟨news, olds, rest, parts, hreqs, hrest, hrel⟩ := h.progress
    cases hrest
    rw [List.append_nil] at hs hreqs
    rw [hs]
    exact ⟨news, olds, parts, hreqs, hrel⟩
  · intro hready
    cases hswept : srArpcacheSweepreqs s with
    | error fault => exact absurd hready (hloop.failure hswept)
    | ok s' => exact ⟨s', rfl⟩

/-- A request that is to be given up and one that is to be sent, which the message about the first
joins. -/
def twoPending : State :=
  ⟨⟨oneInterface.ifList, twoRoutes, ⟨fun _ => .zero,
      [⟨0x0a000002, 4, 4, [⟨strayPacket, "eth1", 0⟩]⟩,
        ⟨0x0a000004, 0, 0, [⟨pingPacket 64 0x66 0xdd, "eth1", 1⟩]⟩]⟩⟩,
    .idle, 5000000, 2, []⟩

theorem sweep_visits_each_once_two :
    ∃ s', srArpcacheSweepreqs twoPending = .ok s' ∧
      ∃ parts, List.Forall₂ (VisitAdds 5 5000000 2) twoPending.requests parts ∧
        s'.log = parts.reverse.flatten := by
  have hready : Sweepable twoPending := by
    constructor
    · refine List.forall_mem_cons.mpr ⟨⟨List.cons_ne_nil _ _, ?_⟩,
        List.forall_mem_singleton.mpr ⟨List.cons_ne_nil _ _, ?_⟩⟩
      · exact List.forall_mem_singleton.mpr ⟨by decide, by decide⟩
      · exact List.forall_mem_singleton.mpr ⟨by decide, by decide⟩
    · exact List.forall_mem_singleton.mpr (by decide)
    · decide
  obtain ⟨hvisits, hends⟩ := sweep_visits_each_once twoPending (by decide)
  obtain ⟨s', hs'⟩ := hends hready
  obtain ⟨_, _, parts, -, -, -, hparts, hlog, -⟩ := hvisits s' hs'
  rw [show twoPending.log = [] from rfl, List.append_nil] at hlog
  exact ⟨s', hs', parts, hparts, hlog⟩

end NetworkSim.Router
