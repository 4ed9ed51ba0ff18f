import NetworkSim.Router.Retries

/-!
# Giving up a next hop

When the sweep gives up a request, it looks up a route to the source of every waiting packet, and
takes for granted that there is one. Packets come to wait in two ways: `sr_forward_packet` queues
them, with whatever source they came with, and the sweep itself queues the message that it sends,
with the address of an interface as its source. If both always have a route, the sweep always finds
one (`giving_up_finds_route`).
-/

namespace NetworkSim.Router

/-- There is a route to `ip`. -/
def Routed (routingTable : List SrRt) (ip : UInt32) : Prop := srRtLookupIp routingTable ip ≠ none

instance (routingTable : List SrRt) (ip : UInt32) : Decidable (Routed routingTable ip) :=
  decidable_of_iff _ Option.isSome_iff_ne_none

/-- Every interface that a route can choose has an address to which there is a route. -/
def OwnAddressesRouted (ifList : List SrIf) (routingTable : List SrRt) : Prop :=
  ∀ ip entry iface, srRtLookupIp routingTable ip = some entry →
    srGetInterface ifList entry.interface = some iface → Routed routingTable iface.ip

/-- What `sr_forward_packet` is about to queue has a source to which there is a route. -/
def QueuesRouted (act : Act) (s : State) : Prop :=
  act = .main → ∀ nextHopIp buf iface, s.main = .forwardQueue nextHopIp buf iface →
    Routed s.sr.routingTable (buf.get32 26)

/-- The sources of all waiting packets have routes. -/
structure WaitingRouted (ifList : List SrIf) (routingTable : List SrRt) (s : State) : Prop where
  ifList_eq : s.sr.ifList = ifList
  routingTable_eq : s.sr.routingTable = routingTable
  routed : ∀ req ∈ s.requests, ∀ packet ∈ req.packets,
    Routed routingTable (packet.buf.get32 26)

namespace WaitingRouted

variable {ifList : List SrIf} {routingTable : List SrRt} {s s' : State}

theorem congr (h : WaitingRouted ifList routingTable s) (hifList : s'.sr.ifList = s.sr.ifList)
    (htable : s'.sr.routingTable = s.sr.routingTable)
    (hreqs : ∀ req ∈ s'.requests, req ∈ s.requests) : WaitingRouted ifList routingTable s' :=
  ⟨hifList.trans h.ifList_eq, htable.trans h.routingTable_eq,
    fun req hreq => h.routed req (hreqs req hreq)⟩

/-- A packet with a routed source is queued. -/
theorem queuereq (h : WaitingRouted ifList routingTable s) {buf : Buf}
    (hbuf : Routed routingTable (buf.get32 26)) (ip : UInt32) (iface : String) (transit : Bool) :
    WaitingRouted ifList routingTable (queuereq ip buf iface transit s) := by
  have hnew : ∀ packet ∈ (SrPacket.mk buf iface s.serials).toQueue,
      Routed routingTable (packet.buf.get32 26) := by
    intro packet hpacket
    rw [mem_toQueue hpacket]
    exact hbuf
  refine ⟨h.ifList_eq, h.routingTable_eq, ?_⟩
  have hrouted := h.routed
  rcases queuereq_cases ip buf iface transit s with
    ⟨-, hreqs, -⟩ | ⟨before, req, after, hreqs, -, -, hreqs', -⟩
  · rw [hreqs, List.forall_mem_cons]
    exact ⟨hnew, hrouted⟩
  · rw [hreqs, List.forall_mem_append, List.forall_mem_cons] at hrouted
    obtain ⟨hbefore, hreq, hafter⟩ := hrouted
    rw [hreqs', List.forall_mem_append, List.forall_mem_cons, List.forall_mem_append]
    exact ⟨hbefore, ⟨hnew, hreq⟩, hafter⟩

theorem received {packet : Buf} (h : WaitingRouted ifList routingTable s)
    (hreceived : Received packet s s') : WaitingRouted ifList routingTable s' := by
  cases hreceived <;> exact h.congr rfl rfl fun _ => id

theorem mainMove (h : WaitingRouted ifList routingTable s) (hmeets : QueuesRouted .main s)
    (hmove : MainMove s s') : WaitingRouted ifList routingTable s' := by
  have hunlink {before after : List SrArpreq} {req : SrArpreq}
      (hreqs : s.requests = before ++ req :: after) :
      ∀ other ∈ before ++ after, other ∈ s.requests := by
    rw [hreqs]
    exact (List.Sublist.append_left (List.sublist_cons_self req after) before).subset
  cases hmove with
  | insertUnlink mac ip before req after hmain hreqs hip => exact h.congr rfl rfl (hunlink hreqs)
  | unlink mac ip before req after hmain hreqs hip => exact h.congr rfl rfl (hunlink hreqs)
  | queue nextHopIp buf iface hmain =>
    have hbuf := hmeets rfl nextHopIp buf iface hmain
    rw [h.routingTable_eq] at hbuf
    exact (h.queuereq hbuf nextHopIp iface true).congr rfl rfl fun _ => id
  | _ => exact h.congr rfl rfl fun _ => id

theorem sweeperTurn (h : WaitingRouted ifList routingTable s)
    (hown : OwnAddressesRouted ifList routingTable) :
    Outcome (WaitingRouted ifList routingTable) (fun fault => fault ≠ .nullRoute)
      (sweeperTurn s) := by
  have hexpired : WaitingRouted ifList routingTable
      (s.setCache (expireEntries s.time s.sr.cache)) := h.congr rfl rfl fun _ => id
  refine sweepLoop_invariant (W := fun packet => Routed routingTable (packet.buf.get32 26))
    (fun s h => h.routed) ?_ ?_ ?_ (fun _ _ _ _ _ => by decide) (by decide) hexpired
  · intro packet hpacket s' h'
    refine (srSendIcmpHostUnreachable_outcome packet s').mono ?_ ?_
    · rintro s'' ⟨entry, iface, hroute, hiface, hreported⟩
      rw [h'.routingTable_eq] at hroute
      rw [h'.ifList_eq] at hiface
      cases hreported with
      | queued buf hmessage hunknown request sent =>
        have hbuf : Routed routingTable ((Buf.mk buf fun _ => 0).get32 26) := by
          rw [hmessage.src_eq]
          exact hown _ entry iface hroute hiface
        have hrecorded : WaitingRouted ifList routingTable (s'.record [.hostUnreachable packet]) :=
          h'.congr rfl rfl fun _ => id
        exact (hrecorded.queuereq hbuf entry.gw entry.interface false).congr rfl rfl fun _ => id
      | answered buf hmessage sent => exact h'.congr rfl rfl fun _ => id
    · rintro fault (⟨rfl, hnone⟩ | ⟨rfl, -⟩)
      · rw [h'.routingTable_eq] at hnone
        exact absurd hnone hpacket
      · decide
  · intro before req after s' hreqs h'
    refine h'.congr rfl rfl ?_
    rw [hreqs]
    exact (List.Sublist.append_left (List.sublist_cons_self req after) before).subset
  · intro before req after s' packet sent hreqs h' htimes
    refine ⟨h'.ifList_eq, h'.routingTable_eq, ?_⟩
    have hrouted := h'.routed
    rw [hreqs, List.forall_mem_append, List.forall_mem_cons] at hrouted
    rw [State.requests_record, State.requests_setRequests, List.forall_mem_append,
      List.forall_mem_cons]
    exact hrouted

end WaitingRouted

/-- **Giving up a next hop finds a route** to the source of every waiting packet, when whatever
`sr_forward_packet` queues has a source with a route and the addresses of the interfaces have
routes. -/
theorem giving_up_finds_route (ifList : List SrIf) (routingTable : List SrRt) (now : ℕ)
    (hown : OwnAddressesRouted ifList routingTable) (acts : List Act)
    (hmeets : RunMeets QueuesRouted acts (srInit ifList routingTable now)) :
    runActs acts (srInit ifList routingTable now) ≠ .error .nullRoute := by
  have hinit : WaitingRouted ifList routingTable (srInit ifList routingTable now) :=
    ⟨rfl, rfl, fun _ h => absurd h List.not_mem_nil⟩
  have hrun : Outcome (WaitingRouted ifList routingTable) (fun fault => fault ≠ .nullRoute)
      (runActs acts (srInit ifList routingTable now)) := by
    refine runActs_outcome_of_meets (fun act s hC h => ?_) hmeets hinit
    cases act with
    | receive packet interface =>
      refine (receive_outcome packet interface s).mono (fun s' => h.received) ?_
      rintro fault rfl
      decide
    | main =>
      refine (mainStep_outcome s).mono (fun s' => h.mainMove hC) ?_
      rintro fault rfl
      decide
    | sweep => exact h.sweeperTurn hown
    | wait usec => exact h.congr rfl rfl fun _ => id
  exact fun h => hrun.failure h rfl

/-- With a route to the source of the packet, the sweep gives up and goes on. -/
theorem giving_up_finds_route_ping :
    runActs (nobodyAnswers (pingPacket 64 0x66 0xdd))
        (srInit oneInterface.ifList oneInterface.routingTable 0) ≠ .error .nullRoute := by
  refine giving_up_finds_route oneInterface.ifList oneInterface.routingTable 0 ?_ _ ?_
  · intro ip entry iface _ hiface
    have hown : Routed oneInterface.routingTable 0x0a000001 := by decide
    have hiface : iface ∈ oneInterface.ifList := List.mem_of_find?_eq_some hiface
    rw [List.mem_singleton.mp hiface]
    exact hown
  · refine .of_ok ?_ rfl (.of_ok ?_ rfl (.of_ok ?_ rfl (.of_ok ?_ rfl (.of_forall ?_))))
    · rintro ⟨⟩
    · rintro - nextHopIp buf iface ⟨⟩
    · rintro - nextHopIp buf iface ⟨⟩
      decide
    · rintro - nextHopIp buf iface ⟨⟩
    · simp [QueuesRouted]

/-- The sweep gives up the request of a packet to whose source there is no route. -/
theorem giving_up_without_route :
    srVerifyRoutingTable oneInterface.ifList oneInterface.routingTable = 0 ∧
      runActs (nobodyAnswers strayPacket)
        (srInit oneInterface.ifList oneInterface.routingTable 0) = .error .nullRoute :=
  ⟨by decide, rfl⟩

end NetworkSim.Router
