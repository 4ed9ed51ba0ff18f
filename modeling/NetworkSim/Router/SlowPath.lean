import NetworkSim.Router.Fates

/-!
# The two ways of a forwarded packet

A packet for which `sr_forward_packet` finds a route goes to `sr_send_packet` at once when the next
hop is known, and else over the queue of requests, from which an ARP reply takes it. On the queue it
stays on the first request for its next hop and nothing of it is changed (`Followed`), so that both
ways end with the same frame on the same interface (`slow_path_same_frame`).
-/

namespace NetworkSim.Router

/-- The frame and the interface that were given to `sr_send_packet`. -/
def LogEntry.handed? : LogEntry → Option (List UInt8 × String)
  | .answered packet iface _ => some (packet, iface)
  | .forwarded packet iface _ => some (packet, iface)
  | .sentQueued packet mac _ => some (packet.sentTo mac, packet.iface)
  | _ => none

/-- The entry for a packet that waited says what became of the frame handed on. -/
theorem handed?_sendQueued (mac : MacAddr) (s : State) (packet : SrPacket) :
    ∃ entry frame interface, sendQueued mac s packet = s.record [entry] ∧
      entry.handed? = some (frame, interface) ∧
      entry = .sentQueued packet mac (srSendPacket s.sr frame interface) :=
  ⟨_, _, _, rfl, rfl, rfl⟩

/-! ## The request a packet waits on -/

/-- The request for `ip` that `sr_arpcache_insert` and `sr_arp_send_packets` find. -/
def firstFor (ip : UInt32) (requests : List SrArpreq) : Option SrArpreq :=
  requests.find? fun req => req.ip = ip

/-- The packet is on the list of the first request for `ip`. -/
def WaitsFirst (packet : SrPacket) (ip : UInt32) (requests : List SrArpreq) : Prop :=
  ∃ req, firstFor ip requests = some req ∧ packet ∈ req.packets

section WaitsFirst

variable {packet : SrPacket} {ip : UInt32} {before after : List SrArpreq} {req req' : SrArpreq}

theorem firstFor_append :
    firstFor ip (before ++ after) = (firstFor ip before).or (firstFor ip after) :=
  List.find?_append

theorem firstFor_cons_self (h : req.ip = ip) : firstFor ip (req :: after) = some req :=
  List.find?_cons_of_pos (decide_eq_true h)

theorem firstFor_cons_of_ne (h : req.ip ≠ ip) : firstFor ip (req :: after) = firstFor ip after :=
  List.find?_cons_of_neg (by simpa using h)

theorem firstFor_eq_none (h : ∀ req ∈ before, req.ip ≠ ip) : firstFor ip before = none :=
  List.find?_eq_none.mpr fun req hreq => by simpa using h req hreq

theorem firstFor_split (hbefore : ∀ other ∈ before, other.ip ≠ ip) (hip : req.ip = ip) :
    firstFor ip (before ++ req :: after) = some req := by
  rw [firstFor_append, firstFor_eq_none hbefore, Option.none_or, firstFor_cons_self hip]

/-- A request without the packet is removed. -/
theorem WaitsFirst.remove (h : WaitsFirst packet ip (before ++ req :: after))
    (hreq : packet ∉ req.packets) : WaitsFirst packet ip (before ++ after) := by
  obtain ⟨first, hfirst, hpacket⟩ := h
  refine ⟨first, ?_, hpacket⟩
  rw [firstFor_append] at hfirst ⊢
  cases hbefore : firstFor ip before with
  | some other =>
    rw [hbefore] at hfirst
    exact hfirst
  | none =>
    rw [hbefore, Option.none_or] at hfirst
    rw [Option.none_or]
    by_cases hip : req.ip = ip
    · rw [firstFor_cons_self hip] at hfirst
      obtain rfl := Option.some.inj hfirst
      exact absurd hpacket hreq
    · rw [firstFor_cons_of_ne hip] at hfirst
      exact hfirst

/-- A request is replaced by one for the same address with the packets of the first and maybe
more. -/
theorem WaitsFirst.replace (h : WaitsFirst packet ip (before ++ req :: after))
    (hip : req'.ip = req.ip) (hsub : packet ∈ req.packets → packet ∈ req'.packets) :
    WaitsFirst packet ip (before ++ req' :: after) := by
  obtain ⟨first, hfirst, hpacket⟩ := h
  rw [firstFor_append] at hfirst
  cases hbefore : firstFor ip before with
  | some other =>
    rw [hbefore] at hfirst
    refine ⟨first, ?_, hpacket⟩
    rw [firstFor_append, hbefore]
    exact hfirst
  | none =>
    rw [hbefore, Option.none_or] at hfirst
    by_cases hself : req.ip = ip
    · rw [firstFor_cons_self hself] at hfirst
      obtain rfl := Option.some.inj hfirst
      refine ⟨req', ?_, hsub hpacket⟩
      rw [firstFor_append, hbefore, Option.none_or, firstFor_cons_self (hip.trans hself)]
    · rw [firstFor_cons_of_ne hself] at hfirst
      refine ⟨first, ?_, hpacket⟩
      rw [firstFor_append, hbefore, Option.none_or, firstFor_cons_of_ne (hip ▸ hself)]
      exact hfirst

/-- A request for an address that has none is put in front. -/
theorem WaitsFirst.cons (h : WaitsFirst packet ip after)
    (hno : ∀ other ∈ after, other.ip ≠ req.ip) : WaitsFirst packet ip (req :: after) := by
  obtain ⟨first, hfirst, hpacket⟩ := h
  have hmem : first ∈ after := List.mem_of_find?_eq_some hfirst
  have hip : first.ip = ip := by simpa using List.find?_some hfirst
  refine ⟨first, ?_, hpacket⟩
  rw [firstFor_cons_of_ne fun h => hno first hmem (hip.trans h.symm)]
  exact hfirst

/-- Queueing another packet leaves it where it waits. -/
theorem WaitsFirst.queuereq {s : State} (h : WaitsFirst packet ip s.requests) (ip' : UInt32)
    (buf : Buf) (iface : String) (transit : Bool) :
    WaitsFirst packet ip (queuereq ip' buf iface transit s).requests := by
  rcases queuereq_cases ip' buf iface transit s with
    ⟨hno, hreqs, -⟩ | ⟨before, req, after, hreqs, -, -, hreqs', -⟩
  · rw [hreqs]
    exact h.cons hno
  · rw [hreqs']
    rw [hreqs] at h
    exact h.replace rfl (List.mem_append_right _)

end WaitsFirst

/-! ## A packet in the queue -/

/-- The packet waits on the first request for `ip`, or it is on no list, and what the main thread
holds or has sent under its serial is the packet itself. -/
structure Followed (packet : SrPacket) (ip : UInt32) (s : State) : Prop where
  serial_lt : packet.serial < s.serials
  place : waitingAt packet.serial s.requests = [] ∨
    waitingAt packet.serial s.requests = [(ip, packet)] ∧ WaitsFirst packet ip s.requests
  held : ∀ other ∈ heldAt packet.serial s.main, other.2.2 = packet
  sent : ∀ other mac sent, .sentQueued other mac sent ∈ s.log → other.serial = packet.serial →
    other = packet

namespace Followed

variable {packet : SrPacket} {ip : UInt32} {s s' : State}

/-- A step that queues nothing and takes the packet from no list. -/
theorem quiet (h : Followed packet ip s) (hserials : s'.serials = s.serials)
    (hplace : waitingAt packet.serial s'.requests = [] ∨
      waitingAt packet.serial s'.requests = [(ip, packet)] ∧ WaitsFirst packet ip s'.requests)
    (hheld : ∀ other ∈ heldAt packet.serial s'.main, other.2.2 = packet) (added : List LogEntry)
    (hlog : s'.log = added ++ s.log)
    (hadded : ∀ other mac sent, .sentQueued other mac sent ∈ added →
      other.serial = packet.serial → other = packet) : Followed packet ip s' := by
  refine ⟨?_, hplace, hheld, fun other mac sent hmem => ?_⟩
  · rw [hserials]
    exact h.serial_lt
  · rw [hlog] at hmem
    rcases List.mem_append.mp hmem with hnew | hold
    · exact hadded other mac sent hnew
    · exact h.sent other mac sent hold

/-- Where the packet is when a request is unlinked. -/
theorem place_unlinked (h : Followed packet ip s) {before after : List SrArpreq} {req : SrArpreq}
    (hreqs : s.requests = before ++ req :: after) :
    waitingAt packet.serial (before ++ after) = [] ∨
      waitingAt packet.serial (before ++ after) = [(ip, packet)] ∧
        WaitsFirst packet ip (before ++ after) := by
  have hplace := h.place
  rw [hreqs] at hplace
  rcases hplace with hnowhere | ⟨hwaiting, hfirst⟩
  · exact .inl (unlink_of_waitingAt_nil hnowhere).2
  · rcases unlink_of_waitingAt_singleton hwaiting with ⟨hreq, hrest⟩ | ⟨-, -, hrest⟩
    · refine .inr ⟨hrest, hfirst.remove fun hmem => ?_⟩
      have hserial := List.filter_eq_nil_iff.mp hreq packet hmem
      simp at hserial
    · exact .inl hrest

/-- The packets of a request under the serial of the packet. -/
theorem eq_of_unlinked (h : Followed packet ip s) {before after : List SrArpreq} {req : SrArpreq}
    (hreqs : s.requests = before ++ req :: after) {other : SrPacket} (hother : other ∈ req.packets)
    (hserial : other.serial = packet.serial) : other = packet := by
  have hplace := h.place
  have hmem : other ∈ req.packets.filter (·.serial = packet.serial) :=
    List.mem_filter.mpr ⟨hother, decide_eq_true hserial⟩
  rw [hreqs] at hplace
  rcases hplace with hnowhere | ⟨hwaiting, -⟩
  · rw [(unlink_of_waitingAt_nil hnowhere).1] at hmem
    exact absurd hmem List.not_mem_nil
  · rcases unlink_of_waitingAt_singleton hwaiting with ⟨hreq, -⟩ | ⟨hreq, -, -⟩
    · rw [hreq] at hmem
      exact absurd hmem List.not_mem_nil
    · rw [hreq] at hmem
      exact List.mem_singleton.mp hmem

theorem queuereq (h : Followed packet ip s) (ip' : UInt32) (buf : Buf) (iface : String)
    (transit : Bool) : Followed packet ip (queuereq ip' buf iface transit s) := by
  have hne : packet.serial ≠ s.serials := h.serial_lt.ne
  obtain ⟨hwaiting, -⟩ := view_queuereq hne ip' buf iface transit
  obtain ⟨created, hlog, hcreated⟩ := log_queuereq ip' buf iface transit s
  refine ⟨Nat.lt_succ_of_lt h.serial_lt, ?_, h.held, fun other mac sent hmem => ?_⟩
  · rw [hwaiting]
    exact h.place.imp_right fun ⟨hwaits, hfirst⟩ =>
      ⟨hwaits, hfirst.queuereq ip' buf iface transit⟩
  · rw [hlog] at hmem
    rcases List.mem_append.mp hmem with hqueued | hmem
    · obtain ⟨_, -, heq⟩ := List.mem_map.mp hqueued
      cases heq
    · rcases List.mem_append.mp hmem with hnew | hold
      · cases hcreated _ hnew
      · exact h.sent other mac sent hold

/-- Nothing that is sent from the queue. -/
theorem not_sent {added : List LogEntry} (h : ∀ entry ∈ added, entry.OfSweep) :
    ∀ other mac sent, .sentQueued other mac sent ∈ added →
      other.serial = packet.serial → other = packet :=
  fun other mac sent hmem => (h (.sentQueued other mac sent) hmem).elim

theorem received {interface : Buf} (h : Followed packet ip s)
    (hreceived : Received interface s s') : Followed packet ip s' := by
  cases hreceived with
  | ignored => exact h
  | answered hidle buf iface sent =>
    refine h.quiet rfl h.place h.held [_] rfl fun other mac sent' hmem => ?_
    cases List.mem_singleton.mp hmem
  | reply hidle mac ip' =>
    refine h.quiet rfl h.place (fun _ hother => absurd hother List.not_mem_nil) [_] rfl
      fun other mac' sent hmem => ?_
    cases List.mem_singleton.mp hmem
  | forward hidle entry iface hroute hiface =>
    exact h.quiet rfl h.place (fun _ hother => absurd hother List.not_mem_nil) [] rfl
      fun other mac' sent hmem => absurd hmem List.not_mem_nil

theorem mainMove (h : Followed packet ip s) (hmove : MainMove s s') : Followed packet ip s' := by
  have hheld := h.held
  have hnil : ∀ other mac sent, LogEntry.sentQueued other mac sent ∈ ([] : List LogEntry) →
      other.serial = packet.serial → other = packet :=
    fun _ _ _ hmem => absurd hmem List.not_mem_nil
  have hidle : ∀ other ∈ ([] : List (MacAddr × UInt32 × SrPacket)), other.2.2 = packet :=
    fun _ hother => absurd hother List.not_mem_nil
  cases hmove with
  | idle => exact h
  | replyUnknown mac ip' hmain hunknown => exact h.quiet rfl h.place hidle [] rfl hnil
  | replyKnown mac ip' hmain => exact h.quiet rfl h.place hidle [] rfl hnil
  | insert mac ip' hmain hno => exact h.quiet rfl h.place hidle [] rfl hnil
  | insertUnlink mac ip' before req after hmain hreqs hip =>
    refine h.quiet rfl (h.place_unlinked hreqs) (fun held hmem => ?_) [] rfl hnil
    obtain ⟨other, hother, rfl⟩ := List.mem_map.mp hmem
    obtain ⟨hmem', hserial⟩ := List.mem_filter.mp hother
    exact h.eq_of_unlinked hreqs hmem' (by simpa using hserial)
  | sent mac ip' hmain => exact h.quiet rfl h.place hidle [] rfl hnil
  | send mac ip' first packets sent hmain =>
    rw [hmain] at hheld
    refine h.quiet rfl h.place (fun held hmem => hheld held ?_) [_] rfl
      fun other mac' sent' hmem hserial => ?_
    · obtain ⟨other, hother, rfl⟩ := List.mem_map.mp hmem
      obtain ⟨hmem', hserial⟩ := List.mem_filter.mp hother
      exact List.mem_map.mpr ⟨other,
        List.mem_filter.mpr ⟨List.mem_cons_of_mem first hmem', hserial⟩, rfl⟩
    · obtain ⟨rfl, rfl, rfl⟩ := LogEntry.sentQueued.inj (List.mem_singleton.mp hmem)
      exact hheld (mac', ip', other) (List.mem_map.mpr ⟨other,
        List.mem_filter.mpr ⟨List.mem_cons_self, decide_eq_true hserial⟩, rfl⟩)
  | unlinkNone mac ip' hmain => exact h.quiet rfl h.place hidle [] rfl hnil
  | unlink mac ip' before req after hmain hreqs hip =>
    refine h.quiet rfl (h.place_unlinked hreqs) hidle _ rfl fun other mac' sent hmem hserial => ?_
    obtain ⟨other', hother', heq⟩ := List.mem_map.mp (List.mem_reverse.mp hmem)
    obtain ⟨rfl, -, -⟩ := LogEntry.sentQueued.inj heq
    exact h.eq_of_unlinked hreqs hother' hserial
  | forwardUnknown ip' buf iface hmain hunknown => exact h.quiet rfl h.place hidle [] rfl hnil
  | forwardKnown ip' mac buf iface hmain => exact h.quiet rfl h.place hidle [] rfl hnil
  | queue ip' buf iface hmain =>
    have hqueued := h.queuereq ip' buf iface true
    exact hqueued.quiet rfl hqueued.place hidle [] rfl hnil
  | request ip' iface request sent hmain =>
    refine h.quiet rfl h.place hidle [_] rfl fun other mac' sent' hmem => ?_
    cases List.mem_singleton.mp hmem
  | forward mac buf iface sent hmain =>
    refine h.quiet rfl h.place hidle [_] rfl fun other mac' sent' hmem => ?_
    cases List.mem_singleton.mp hmem

theorem reported (h : Followed packet ip s) {other : SrPacket} {entry : SrRt} {iface : SrIf}
    (hreported : Reported other s entry iface s') : Followed packet ip s' := by
  cases hreported with
  | queued buf hmessage hunknown request sent =>
    have hreport : Followed packet ip (s.record [.hostUnreachable other]) := by
      refine h.quiet rfl h.place h.held [_] rfl fun _ _ _ hmem => ?_
      cases List.mem_singleton.mp hmem
    have hqueued := hreport.queuereq entry.gw ⟨buf, fun _ => 0⟩ entry.interface false
    refine hqueued.quiet rfl hqueued.place hqueued.held [_] rfl fun _ _ _ hmem => ?_
    cases List.mem_singleton.mp hmem
  | answered buf hmessage sent =>
    refine h.quiet rfl h.place h.held [_, _] rfl fun _ _ _ hmem => ?_
    rcases List.mem_cons.mp hmem with heq | hmem
    · cases heq
    · cases List.mem_singleton.mp hmem

theorem sweeperTurn (h : Followed packet ip s) :
    Outcome (Followed packet ip) (fun _ => True) (sweeperTurn s) := by
  have hexpired : Followed packet ip (s.setCache (expireEntries s.time s.sr.cache)) :=
    h.quiet rfl h.place h.held [] rfl fun _ _ _ hmem => absurd hmem List.not_mem_nil
  apply sweepLoop_invariant (I := Followed packet ip) (W := fun _ => True)
  · exact fun _ _ _ _ _ _ => trivial
  · intro other _ s' h'
    refine (srSendIcmpHostUnreachable_outcome other s').mono ?_ fun _ _ => trivial
    rintro s'' ⟨entry, iface, -, -, hreported⟩
    exact h'.reported hreported
  · intro before req after s' hreqs h'
    refine h'.quiet rfl (h'.place_unlinked hreqs) h'.held _ rfl (not_sent ?_)
    refine List.forall_mem_append.mpr ⟨List.forall_mem_map.mpr fun _ _ => trivial, ?_⟩
    exact List.forall_mem_singleton.mpr trivial
  · intro before req after s' request sent hreqs h' _
    have hplace := h'.place
    rw [hreqs] at hplace
    refine h'.quiet rfl ?_ h'.held [_] rfl (not_sent (List.forall_mem_singleton.mpr trivial))
    simp only [State.requests_record, State.requests_setRequests, waitingAt_append, waitingAt_cons]
      at hplace ⊢
    exact hplace.imp_right fun ⟨hwaits, hfirst⟩ => ⟨hwaits, hfirst.replace rfl id⟩
  · exact fun _ _ _ _ _ => trivial
  · trivial
  · exact hexpired

theorem step (h : Followed packet ip s) (act : Act) :
    Outcome (Followed packet ip) (fun _ => True) (step act s) := by
  cases act with
  | receive incoming interface =>
    exact (receive_outcome incoming interface s).mono (fun s' => h.received) fun _ _ => trivial
  | main => exact (mainStep_outcome s).mono (fun s' => h.mainMove) fun _ _ => trivial
  | sweep => exact h.sweeperTurn
  | wait usec =>
    exact h.quiet rfl h.place h.held [] rfl fun _ _ _ hmem => absurd hmem List.not_mem_nil

end Followed

/-! ## Sending -/

theorem runActs_append (acts acts' : List Act) (s : State) :
    runActs (acts ++ acts') s = runActs acts s >>= runActs acts' := by
  induction acts generalizing s with
  | nil => rfl
  | cons act acts ih =>
    rw [List.cons_append, runActs, runActs]
    cases step act s with
    | error fault => rfl
    | ok s' => exact ih s'

/-- The packets that the main thread holds are sent one after the other. -/
theorem runActs_replySend {mac : MacAddr} {ip : UInt32} {packets : List SrPacket} {s : State}
    (hmain : s.main = .replySend mac ip packets) :
    runActs (List.replicate (packets.length + 1) .main) s =
      .ok { s.record (sentAll s.sr mac packets) with main := .idle } := by
  induction packets generalizing s with
  | nil =>
    have hstep : step .main s = .ok { s with main := .idle } := by
      simp only [step, mainStep, hmain]
    rw [List.length_nil, List.replicate_one, runActs, hstep]
    rfl
  | cons packet packets ih =>
    have hstep : step .main s =
        .ok { sendQueued mac s packet with main := .replySend mac ip packets } := by
      simp only [step, mainStep, hmain]
    rw [List.length_cons, List.replicate_succ, runActs, hstep]
    simp only
    rw [ih rfl]
    simp only [sendQueued, sentAll, State.record, List.map_cons, List.reverse_cons,
      List.append_assoc, List.cons_append, List.nil_append]

/-- The packet is an ARP reply from `ip` that gives `mac`. -/
structure IsArpReply (packet : Buf) (mac : MacAddr) (ip : UInt32) : Prop where
  type_eq : packet.get16 12 = ethertypeArp
  op_eq : packet.get16 20 = arpOpReply
  sha_eq : packet.getMac 22 = mac
  sip_eq : packet.get32 28 = ip

theorem receive_of_isArpReply {s : State} (hidle : s.main = .idle) {reply : Buf} {mac : MacAddr}
    {ip : UInt32} (h : IsArpReply reply mac ip) (interface : String) :
    receive reply interface s =
      .ok { s.record [.arpReply mac ip] with main := .replyLookup mac ip } := by
  have hnot : (packetIsNotArpOrIp reply).val = false := by
    simp [packetIsNotArpOrIp, Buf.etherType, h.type_eq]
  have hreq : (packetIsArp reply arpOpRequest).val = false := by
    rw [Bool.eq_false_iff, ne_eq, packetIsArp_val, h.op_eq]
    exact fun h => absurd h.2 (by decide)
  have hreply : (packetIsArp reply arpOpReply).val = true :=
    (packetIsArp_val reply arpOpReply).mpr ⟨h.type_eq, h.op_eq⟩
  have hval : (srHandlepacket s.sr reply interface).val =
      .ok ([.arpReply mac ip], .replyLookup mac ip) := by
    rw [← h.sha_eq, ← h.sip_eq]
    unfold srHandlepacket packetIsArpReq packetIsArpReply
    simp only [Traced.val_bind, hnot, hreq, hreply, Bool.false_eq_true, if_false, if_true]
    rfl
  rw [receive_of_idle hidle, hval]
  rfl

theorem runActs_cons_of_ok {act : Act} {s s' : State} (h : step act s = .ok s')
    (acts : List Act) : runActs (act :: acts) s = runActs acts s' := by
  rw [runActs, h]

section Reply

variable {s : State} {mac : MacAddr} {ip : UInt32}

theorem mainStep_of_known (hmain : s.main = .replyLookup mac ip) {arpentry : SrArpentry}
    (hlookup : srArpcacheLookup s.sr.cache ip = some arpentry) :
    step .main s = .ok { s with main := .replyUnlink mac ip } := by
  simp only [step, mainStep, hmain, hlookup]

theorem mainStep_of_unknown (hmain : s.main = .replyLookup mac ip)
    (hlookup : srArpcacheLookup s.sr.cache ip = none) :
    step .main s = .ok { s with main := .replyInsert mac ip } := by
  simp only [step, mainStep, hmain, hlookup]

theorem mainStep_of_unlink (hmain : s.main = .replyUnlink mac ip) {req : SrArpreq}
    {requests : List SrArpreq} (hunlink : unlink ip s.requests = (some req, requests)) :
    step .main s =
      .ok { (s.setRequests requests).record (sentAll s.sr mac req.packets) with
        main := .idle } := by
  simp only [step, mainStep, hmain, hunlink, foldl_sendQueued]
  rfl

theorem mainStep_of_insert (hmain : s.main = .replyInsert mac ip) {req : SrArpreq}
    {requests : List SrArpreq} (hunlink : unlink ip s.requests = (some req, requests)) :
    step .main s =
      .ok { s.setCache (srArpcacheInsert s.sr.cache mac ip s.time).2 with
        main := .replySend mac ip req.packets } := by
  have hfst : (srArpcacheInsert s.sr.cache mac ip s.time).1 = some req := by
    have hunlink' : unlink ip s.sr.cache.requests = (some req, requests) := hunlink
    rw [srArpcacheInsert_fst, hunlink']
  simp only [step, mainStep, hmain, hfst]

/-- The request for the sender of a reply is unlinked and its packets are sent, whether the sender
is known or not. -/
theorem runActs_reply (hmain : s.main = .replyLookup mac ip) {req : SrArpreq}
    {requests : List SrArpreq} (hunlink : unlink ip s.requests = (some req, requests)) :
    ∃ n s', runActs (List.replicate n .main) s = .ok s' ∧ s'.main = .idle ∧
      s'.log = sentAll s.sr mac req.packets ++ s.log := by
  cases hlookup : srArpcacheLookup s.sr.cache ip with
  | some arpentry =>
    have hknown := mainStep_of_known hmain hlookup
    have hsend := mainStep_of_unlink (s := { s with main := .replyUnlink mac ip }) rfl hunlink
    refine ⟨2, _, (runActs_cons_of_ok hknown _).trans (runActs_cons_of_ok hsend _), rfl, rfl⟩
  | none =>
    have hunknown := mainStep_of_unknown hmain hlookup
    have hinsert := mainStep_of_insert (s := { s with main := .replyInsert mac ip }) rfl hunlink
    refine ⟨req.packets.length + 1 + 2, _, (runActs_cons_of_ok hunknown _).trans
      ((runActs_cons_of_ok hinsert _).trans (runActs_replySend rfl)), rfl, rfl⟩

end Reply

/-- The next hop answers while a packet waits for it, and the main thread handles the reply. -/
theorem Followed.release {packet : SrPacket} {ip : UInt32} {s : State} (h : Followed packet ip s)
    (hwaits : waitingAt packet.serial s.requests ≠ []) (hidle : s.main = .idle) {reply : Buf}
    {mac : MacAddr} (hreply : IsArpReply reply mac ip) (interface : String) :
    ∃ n s', runActs (.receive reply interface :: List.replicate n .main) s = .ok s' ∧
      s'.main = .idle ∧ ∃ sent, .sentQueued packet mac sent ∈ s'.log := by
  obtain ⟨-, first, hfirst, hpacket⟩ := h.place.resolve_left hwaits
  have hreceive : Router.step (.receive reply interface) s =
      .ok { s.record [.arpReply mac ip] with main := .replyLookup mac ip } :=
    receive_of_isArpReply hidle hreply interface
  rcases unlink_cases ip s.requests with
    ⟨-, hno⟩ | ⟨before, req, after, hreqs, hbefore, hip, hunlink⟩
  · rw [firstFor_eq_none hno] at hfirst
    cases hfirst
  · rw [hreqs, firstFor_split hbefore hip] at hfirst
    obtain rfl := Option.some.inj hfirst
    obtain ⟨n, s', hrun, hmain, hlog⟩ := runActs_reply
      (s := { s.record [.arpReply mac ip] with main := .replyLookup mac ip }) rfl hunlink
    refine ⟨n, s', (runActs_cons_of_ok hreceive _).trans hrun, hmain, ?_⟩
    rw [hlog]
    exact ⟨_, List.mem_append_left _
      (List.mem_reverse.mpr (List.mem_map.mpr ⟨packet, hpacket, rfl⟩))⟩

/-! ## Both ways -/

/-- While the main thread waits for the lock, only the sweeper does something. -/
theorem runActs_of_busy {todo : Todo} (hbusy : todo ≠ .idle) {others : List Act}
    (hothers : .main ∉ others) {s s' : State} (htracked : Tracked s) (hmain : s.main = todo)
    (hlog : ∀ entry ∈ s.log, entry.OfSweep) (hs' : runActs others s = .ok s') :
    Tracked s' ∧ s'.main = todo ∧ ∀ entry ∈ s'.log, entry.OfSweep := by
  have hrun : Outcome (fun s => Tracked s ∧ s.main = todo ∧ ∀ entry ∈ s.log, entry.OfSweep)
      (fun _ => True) (runActs others s) := by
    refine runActs_outcome (fun act hact t ⟨htracked, hmain, hlog⟩ => ?_) ⟨htracked, hmain, hlog⟩
    cases act with
    | receive incoming interface =>
      change Outcome _ _ (receive incoming interface t)
      rw [receive_of_busy (by rw [hmain]; exact hbusy)]
      exact ⟨htracked, hmain, hlog⟩
    | main => exact absurd hact hothers
    | sweep =>
      refine (htracked.sweeperTurn.and (sweeperTurn_frame t)).mono ?_ fun _ _ => trivial
      rintro t' ⟨htracked', hframe⟩
      obtain ⟨new, hnew, hsweep⟩ := hframe.log_eq
      refine ⟨htracked', hframe.main_eq.trans hmain, ?_⟩
      rw [hnew]
      exact List.forall_mem_append.mpr ⟨hsweep, hlog⟩
    | wait usec =>
      exact ⟨htracked.quiet rfl [] rfl (fun _ h => absurd h List.not_mem_nil) htracked.told
        (fun _ => rfl) fun _ => rfl, hmain, hlog⟩
  exact hrun.result hs'

/-- A packet that was queued just now. -/
theorem followed_queuereq {s : State} (htracked : Tracked s)
    (hlog : ∀ entry ∈ s.log, entry.OfSweep) (ip : UInt32) {buf : Buf} (iface : String)
    (hlen : buf.len ≠ 0) (todo : Todo) (hheld : ∀ k, heldAt k todo = []) :
    waitingAt s.serials (queuereq ip buf iface true s).requests =
        [(ip, ⟨buf, iface, s.serials⟩)] ∧
      Followed ⟨buf, iface, s.serials⟩ ip { queuereq ip buf iface true s with main := todo } := by
  have hqueue : (SrPacket.mk buf iface s.serials).toQueue = [⟨buf, iface, s.serials⟩] := if_pos hlen
  obtain ⟨hnowhere, -, -⟩ := htracked.unused s.serials le_rfl
  have hwaiting := waitingAt_queuereq_self hnowhere ip buf iface true hqueue
  obtain ⟨created, hnew, hcreated⟩ := log_queuereq ip buf iface true s
  refine ⟨hwaiting, Nat.lt_succ_self _, .inr ⟨hwaiting, ?_⟩, ?_, fun other mac sent hmem => ?_⟩
  · rcases queuereq_cases ip buf iface true s with
      ⟨-, hreqs, -⟩ | ⟨before, req, after, -, hbefore, hip, hreqs, -⟩
    · change WaitsFirst _ ip (queuereq ip buf iface true s).requests
      rw [hreqs, hqueue]
      exact ⟨_, firstFor_cons_self rfl, List.mem_singleton_self _⟩
    · change WaitsFirst _ ip (queuereq ip buf iface true s).requests
      rw [hreqs, hqueue]
      exact ⟨_, firstFor_split hbefore hip, List.mem_cons_self⟩
  · rw [hheld]
    exact fun _ h => absurd h List.not_mem_nil
  · have hlog' : .sentQueued other mac sent ∈ (queuereq ip buf iface true s).log := hmem
    rw [hnew] at hlog'
    rcases List.mem_append.mp hlog' with hqueued | hrest
    · obtain ⟨_, -, heq⟩ := List.mem_map.mp hqueued
      cases heq
    · rcases List.mem_append.mp hrest with hmem | hmem
      · cases hcreated _ hmem
      · exact (hlog _ hmem).elim

/-- **Both ways of a forwarded packet end alike.** The main thread has found a route for a packet
and looks for the next hop in the cache, then it takes the lock again, and the sweeper runs in
between. Whatever the cache is: with the next hop in it, a frame with its address goes to
`sr_send_packet`. Without, the packet waits, and whatever happens then, it goes to `sr_send_packet`
in no other way than as that frame, with the address of the reply, on that interface; and as long as
it waits, a reply of the next hop makes it go. (An interface name is what a `char[sr_IFACE_NAMELEN]`
holds, which `strncpy` copies whole.) -/
theorem slow_path_same_frame (sr : SrInstance) (packet : Buf) (interface : String)
    (hlen : packet.len ≠ 0) (nextHopIp : UInt32) (buf : Buf) (iface : String)
    (hroutes : (srForwardPacket sr packet interface).val =
      .ok ([], .forwardLookup nextHopIp buf iface))
    (mac : MacAddr) (cache : SrArpcache) (now serials : ℕ)
    (hserials : ∀ req ∈ cache.requests, ∀ packet ∈ req.packets, packet.serial < serials)
    (others : List Act) (hothers : .main ∉ others) (s : State)
    (hs : runActs (.main :: others ++ [.main])
      ⟨{ sr with cache := cache }, .forwardLookup nextHopIp buf iface, now, serials, []⟩ = .ok s) :
    (∀ arpentry, srArpcacheLookup cache nextHopIp = some arpentry → arpentry.mac = mac →
      ∃ entry before, s.log = entry :: before ∧ (∀ other ∈ before, other.OfSweep) ∧
        entry.handed? = some ((buf.set 0 mac.toList).bytes, iface)) ∧
      (srArpcacheLookup cache nextHopIp = none →
        ∃ waiting : SrPacket, waitingAt waiting.serial s.requests = [(nextHopIp, waiting)] ∧
          ∀ acts s', runActs acts s = .ok s' →
            (∀ other mac' sent, .sentQueued other mac' sent ∈ s'.log →
              other.serial = waiting.serial →
                (LogEntry.sentQueued other mac' sent).handed? =
                  some ((buf.set 0 mac'.toList).bytes, iface)) ∧
              (waitingAt waiting.serial s'.requests ≠ [] → s'.main = .idle →
                ∀ reply replyInterface, IsArpReply reply mac nextHopIp →
                  ∃ n s'', runActs (.receive reply replyInterface :: List.replicate n .main) s' =
                      .ok s'' ∧ s''.main = .idle ∧
                    ∃ sent, .sentQueued waiting mac sent ∈ s''.log ∧
                      (LogEntry.sentQueued waiting mac sent).handed? =
                        some ((buf.set 0 mac.toList).bytes, iface))) := by
  obtain ⟨-, -, own, -, -, -, rfl, -⟩ := srForwardPacket_routed hroutes
  have hbuf : (forwardedBuf packet own.addr).len ≠ 0 := by
    rw [len_forwardedBuf]
    exact hlen
  obtain ⟨sr', rfl, hall⟩ : ∃ sr' : SrInstance, sr'.cache = cache ∧
      runActs (.main :: others ++ [.main])
        ⟨sr', .forwardLookup nextHopIp (forwardedBuf packet own.addr) iface, now, serials, []⟩ =
        .ok s := ⟨_, rfl, hs⟩
  generalize forwardedBuf packet own.addr = buf at hall hbuf
  have htracked (todo : Todo) (htold : todo.Told []) (hheld : ∀ k, heldAt k todo = []) :
      Tracked ⟨sr', todo, now, serials, []⟩ := by
    refine ⟨fun k hk => ⟨?_, hheld k, rfl⟩, htold, fun _ _ h => absurd h List.not_mem_nil⟩
    refine List.flatMap_eq_nil_iff.mpr fun req hreq => List.map_eq_nil_iff.mpr ?_
    refine List.filter_eq_nil_iff.mpr fun other hother => ?_
    have hlt := hserials req hreq other hother
    have hk' : serials ≤ k := hk
    simp only [decide_eq_true_eq]
    omega
  have hnil : ∀ entry ∈ ([] : List LogEntry), entry.OfSweep :=
    fun _ h => absurd h List.not_mem_nil
  constructor
  · rintro arpentry hlookup rfl
    have hknown : step .main ⟨sr', .forwardLookup nextHopIp buf iface, now, serials, []⟩ =
        .ok ⟨sr', .forwardSend arpentry.mac buf iface, now, serials, []⟩ := by
      simp only [step, mainStep, hlookup]
    rw [List.cons_append, runActs_cons_of_ok hknown, runActs_append] at hall
    cases hrun : runActs others ⟨sr', .forwardSend arpentry.mac buf iface, now, serials, []⟩ with
    | error fault =>
      rw [hrun] at hall
      cases hall
    | ok t =>
      obtain ⟨-, hmain, hlog⟩ := runActs_of_busy (by rintro ⟨⟩) hothers
        (htracked (.forwardSend arpentry.mac buf iface) trivial fun _ => rfl) rfl hnil hrun
      rw [hrun] at hall
      simp only [bind, Except.bind, runActs, step, mainStep, hmain, Except.ok.injEq] at hall
      subst hall
      exact ⟨_, t.log, rfl, hlog, rfl⟩
  · intro hlookup
    have hunknown : step .main ⟨sr', .forwardLookup nextHopIp buf iface, now, serials, []⟩ =
        .ok ⟨sr', .forwardQueue nextHopIp buf iface, now, serials, []⟩ := by
      simp only [step, mainStep, hlookup]
    rw [List.cons_append, runActs_cons_of_ok hunknown, runActs_append] at hall
    cases hrun : runActs others ⟨sr', .forwardQueue nextHopIp buf iface, now, serials, []⟩ with
    | error fault =>
      rw [hrun] at hall
      cases hall
    | ok t =>
      obtain ⟨htracked', hmain, hlog⟩ := runActs_of_busy (by rintro ⟨⟩) hothers
        (htracked (.forwardQueue nextHopIp buf iface) trivial fun _ => rfl) rfl hnil hrun
      rw [hrun] at hall
      simp only [bind, Except.bind, runActs, step, mainStep, hmain, Except.ok.injEq] at hall
      subst hall
      obtain ⟨hwaiting, hfollowed⟩ := followed_queuereq htracked' hlog nextHopIp iface hbuf
        (.forwardRequest nextHopIp iface) fun _ => rfl
      refine ⟨⟨buf, iface, t.serials⟩, hwaiting, fun acts s' hs' => ?_⟩
      have hrun' : Outcome (Followed ⟨buf, iface, t.serials⟩ nextHopIp) (fun _ => True)
          (runActs acts _) := runActs_outcome (fun act _ _ h => h.step act) hfollowed
      have hfollowed' := hrun'.result hs'
      refine ⟨fun other mac' sent hsent hserial => ?_,
        fun hwaits hidle reply replyInterface h => ?_⟩
      · rw [hfollowed'.sent other mac' sent hsent hserial]
        rfl
      · obtain ⟨n, s'', hs'', hidle', sent, hsent⟩ :=
          hfollowed'.release hwaits hidle h replyInterface
        exact ⟨n, s'', hs'', hidle', sent, hsent, rfl⟩

/-- A ping whose next hop is asked for. -/
theorem slow_path_same_frame_ping :
    ∃ s, runActs [.main, .main]
        ⟨oneInterface, .forwardLookup 0x0a000002 (forwardedBuf (pingPacket 64 0x66 0xdd) ownMac)
          "eth1", 0, 0, []⟩ = .ok s ∧
      ∃ waiting : SrPacket, waitingAt waiting.serial s.requests = [(0x0a000002, waiting)] := by
  obtain ⟨s, hs⟩ : ∃ s, runActs [.main, .main]
      ⟨oneInterface, .forwardLookup 0x0a000002 (forwardedBuf (pingPacket 64 0x66 0xdd) ownMac)
        "eth1", 0, 0, []⟩ = .ok s := ⟨_, rfl⟩
  have hpaths := slow_path_same_frame oneInterface (pingPacket 64 0x66 0xdd) "eth1" (by decide)
    0x0a000002 (forwardedBuf (pingPacket 64 0x66 0xdd) ownMac) "eth1" rfl ownMac srArpcacheInit 0 0
    (fun _ hreq => absurd hreq List.not_mem_nil) [] List.not_mem_nil s hs
  obtain ⟨waiting, hwaiting, -⟩ := hpaths.2 rfl
  exact ⟨s, hs, waiting, hwaiting⟩

end NetworkSim.Router
