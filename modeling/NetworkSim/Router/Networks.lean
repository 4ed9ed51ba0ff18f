import NetworkSim.Router.LastReply
import NetworkSim.Router.Sending
import Mathlib.Logic.Relation

/-!
# Networks of routers

Routers whose interfaces are linked, and hosts. A frame that was sent may come in at any later time
wherever a link leads, more than once, out of order, or never, and the threads of all routers run in
any order (`NetStep`). When the routers and the hosts know their own addresses, the caches only ever
hold addresses that are right (`caches_truthful`): an ARP reply is believed by whoever hears it, but
no router makes one up, and none comes about when a router forwards something else.
-/

namespace NetworkSim.Router

/-! ## Honest frames -/

/-- A frame is not too short for what it is, and if it is an ARP reply, then it says what is
true. -/
structure Honest (Truth : MacAddr → UInt32 → Prop) (frame : List UInt8) : Prop where
  long : etherHdrSize ≤ frame.length
  arp_long : ∀ beyond, (Buf.mk frame beyond).get16 12 = ethertypeArp →
    etherHdrSize + arpHdrSize ≤ frame.length
  truth : ∀ beyond mac ip, IsArpReply ⟨frame, beyond⟩ mac ip → Truth mac ip

variable {Truth : MacAddr → UInt32 → Prop}

/-- A frame like an honest one that is no ARP reply is honest. -/
theorem Honest.of_get_eq {packet : Buf} (h : Honest Truth packet.bytes)
    (hnot : (packetIsArpReply packet).val = false) {frame : List UInt8}
    (hlen : frame.length = packet.len)
    (hget : ∀ i, 12 ≤ i → i < 22 → i < packet.len → ∀ beyond,
      (Buf.mk frame beyond).get i = packet.get i) : Honest Truth frame := by
  have hlong : 14 ≤ packet.len := h.long
  have htype (beyond : ℕ → UInt8) : (Buf.mk frame beyond).get16 12 = packet.get16 12 :=
    get16_of_get_eq fun i hi hi' => hget i hi (by omega) (by omega) beyond
  have harp (beyond : ℕ → UInt8) (heq : (Buf.mk frame beyond).get16 12 = ethertypeArp) :
      42 ≤ packet.len := by
    rw [htype beyond] at heq
    exact h.arp_long packet.beyond heq
  refine ⟨hlen ▸ h.long, fun beyond heq => hlen ▸ harp beyond heq, fun beyond mac ip hreply => ?_⟩
  have hlong' := harp beyond hreply.type_eq
  have hop : (Buf.mk frame beyond).get16 20 = packet.get16 20 :=
    get16_of_get_eq fun i hi hi' => hget i (by omega) (by omega) (by omega) beyond
  have hyes : (packetIsArp packet arpOpReply).val = true := by
    rw [packetIsArp_val, ← htype beyond, ← hop]
    exact ⟨hreply.type_eq, hreply.op_eq⟩
  rw [packetIsArpReply, hyes] at hnot
  cases hnot

theorem honest_forwardedBuf {packet : Buf} (h : Honest Truth packet.bytes)
    (hnot : (packetIsArpReply packet).val = false) (addr : MacAddr) :
    Honest Truth (forwardedBuf packet addr).bytes := by
  refine h.of_get_eq hnot (len_forwardedBuf packet addr) fun i hi hi' hlt beyond => ?_
  have hsame : (Buf.mk (forwardedBuf packet addr).bytes beyond).get i =
      (forwardedBuf packet addr).get i := by
    refine @get_of_bytes_eq ⟨_, beyond⟩ (forwardedBuf packet addr) rfl _ ?_
    change i < (forwardedBuf packet addr).len
    rw [len_forwardedBuf]
    exact hlt
  rw [hsame, get_forwardedBuf (by omega), get_decrementedBuf (by omega)]

theorem Honest.overwrite_dhost {frame : List UInt8} (h : Honest Truth frame) (mac : MacAddr) :
    Honest Truth (overwrite 0 mac.toList frame) := by
  have hget (i : ℕ) (hi : 6 ≤ i) (beyond : ℕ → UInt8) :
      (Buf.mk (overwrite 0 mac.toList frame) beyond).get i = (Buf.mk frame beyond).get i :=
    Buf.get_set_of_not (.inr (by rw [List.Vector.toList_length]; omega)) ⟨frame, beyond⟩
  have htype (off : ℕ) (hoff : 6 ≤ off) (beyond : ℕ → UInt8) :
      (Buf.mk (overwrite 0 mac.toList frame) beyond).get16 off = (Buf.mk frame beyond).get16 off :=
    get16_of_get_eq fun i hi _ => hget i (by omega) beyond
  refine ⟨(length_overwrite 0 mac.toList frame).symm ▸ h.long, fun beyond heq => ?_,
    fun beyond mac' ip hreply => h.truth beyond mac' ip ?_⟩
  · rw [length_overwrite]
    exact h.arp_long beyond (htype 12 (by decide) beyond ▸ heq)
  · obtain ⟨htype', hop, hsha, hsip⟩ := hreply
    refine ⟨htype 12 (by decide) beyond ▸ htype', htype 20 (by decide) beyond ▸ hop, ?_, ?_⟩
    · rw [← hsha, Buf.getMac, Buf.getMac]
      exact congrArg _ (funext fun i => (hget _ (by omega) beyond).symm)
    · rw [← hsip, Buf.get32, Buf.get32]
      iterate 4 rw [hget _ (by decide) beyond]

/-! ## Frames of the router's own -/

/-- What an ARP packet of the router's own says. -/
structure IsArpFrom (iface : SrIf) (op : UInt16) (tip : UInt32) (packet : Buf) : Prop where
  len_eq : packet.len = etherHdrSize + arpHdrSize
  shost_eq : packet.getMac 6 = iface.addr
  type_eq : packet.get16 12 = ethertypeArp
  op_eq : packet.get16 20 = op
  sha_eq : packet.getMac 22 = iface.addr
  sip_eq : packet.get32 28 = iface.ip
  tip_eq : packet.get32 38 = tip

theorem isArpFrom_of_ok {sr : SrInstance} {interface : String} {destMac arpTha : MacAddr}
    {arpOp : UInt16} {arpTip : UInt32} {frame : List UInt8}
    (h : srPrepareArpPacket sr interface destMac arpOp arpTha arpTip = .ok frame) :
    ∃ iface, srGetInterface sr.ifList interface = some iface ∧
      ∀ beyond, IsArpFrom iface arpOp arpTip ⟨frame, beyond⟩ := by
  cases hiface : srGetInterface sr.ifList interface with
  | none =>
    rw [srPrepareArpPacket, hiface] at h
    cases h
  | some iface =>
    rw [srPrepareArpPacket, hiface] at h
    rw [← Except.ok.inj h]
    obtain ⟨pieces, hpieces⟩ : ∃ pieces, [destMac.toList, iface.addr.toList, bytes16 ethertypeArp,
      bytes16 arpHrdEthernet, bytes16 ethertypeIp, [6, 4], bytes16 arpOp, iface.addr.toList,
      bytes32 iface.ip, arpTha.toList, bytes32 arpTip] = pieces := ⟨_, rfl⟩
    have hframe : destMac.toList ++ iface.addr.toList ++ bytes16 ethertypeArp ++
        bytes16 arpHrdEthernet ++ bytes16 ethertypeIp ++ [6, 4] ++ bytes16 arpOp ++
        iface.addr.toList ++ bytes32 iface.ip ++ arpTha.toList ++ bytes32 arpTip =
          pieces.flatten := by
      rw [← hpieces]
      simp only [List.flatten_cons, List.flatten_nil, List.append_nil, List.append_assoc]
    have hlens : pieces.map List.length = [6, 6, 2, 2, 2, 2, 2, 6, 4, 6, 4] := by
      rw [← hpieces]
      simp only [List.map_cons, List.map_nil, List.Vector.toList_length]
      rfl
    have hoff (k : ℕ) : ((pieces.take k).map List.length).sum =
        (([6, 6, 2, 2, 2, 2, 2, 6, 4, 6, 4] : List ℕ).take k).sum := by
      rw [List.map_take, hlens]
    have hslice (k : ℕ) (piece : List UInt8) (hpiece : pieces[k]? = some piece) {n : ℕ}
        (hn : piece.length = n) (beyond : ℕ → UInt8) :
        (Buf.mk pieces.flatten beyond).slice
          (([6, 6, 2, 2, 2, 2, 2, 6, 4, 6, 4] : List ℕ).take k).sum n = piece :=
      hn ▸ slice_flatten hpiece (hoff k) beyond
    rw [hframe]
    refine ⟨iface, rfl, fun beyond => ⟨?_, ?_, ?_, ?_, ?_, ?_, ?_⟩⟩
    · rw [Buf.len, List.length_flatten, hlens]
      rfl
    · exact getMac_of_slice
        (hslice 1 iface.addr.toList (hpieces ▸ rfl) iface.addr.toList_length beyond)
    · exact get16_of_slice (hslice 2 (bytes16 ethertypeArp) (hpieces ▸ rfl) rfl beyond)
    · exact get16_of_slice (hslice 6 (bytes16 arpOp) (hpieces ▸ rfl) rfl beyond)
    · exact getMac_of_slice
        (hslice 7 iface.addr.toList (hpieces ▸ rfl) iface.addr.toList_length beyond)
    · exact get32_of_slice (hslice 8 (bytes32 iface.ip) (hpieces ▸ rfl) rfl beyond)
    · exact get32_of_slice (hslice 10 (bytes32 arpTip) (hpieces ▸ rfl) rfl beyond)

/-- An ARP packet of the router's own is a reply only in its own name. -/
theorem honest_srPrepareArpPacket {sr : SrInstance} {interface : String} {destMac arpTha : MacAddr}
    {arpOp : UInt16} {arpTip : UInt32} {frame : List UInt8}
    (htrue : ∀ iface ∈ sr.ifList, Truth iface.addr iface.ip)
    (h : srPrepareArpPacket sr interface destMac arpOp arpTha arpTip = .ok frame) :
    Honest Truth frame := by
  obtain ⟨iface, hiface, hfrom⟩ := isArpFrom_of_ok h
  have hlen : frame.length = etherHdrSize + arpHdrSize := (hfrom fun _ => 0).len_eq
  refine ⟨hlen.symm ▸ Nat.le_add_right _ _, fun _ _ => hlen.ge, fun beyond mac ip hreply => ?_⟩
  rw [← hreply.sha_eq, ← hreply.sip_eq, (hfrom beyond).sha_eq, (hfrom beyond).sip_eq]
  exact htrue iface (srGetInterface_mem hiface)

/-- An IP packet of the router's own is no ARP packet. -/
theorem honest_srPrepareIpPacket {sr : SrInstance} {payloadLen : ℕ} {destIp srcIp : UInt32}
    {destMac : MacAddr} {protocol : UInt8} {interface : String} {hdr : List UInt8}
    (h : srPrepareIpPacket sr payloadLen destIp destMac srcIp protocol interface = .ok hdr)
    (message : List UInt8) : Honest Truth (hdr ++ message) := by
  have htype (beyond : ℕ → UInt8) : (Buf.mk (hdr ++ message) beyond).get16 12 = ethertypeIp := by
    cases hiface : srGetInterface sr.ifList interface with
    | none =>
      rw [srPrepareIpPacket, hiface] at h
      cases h
    | some iface =>
      rw [srPrepareIpPacket, hiface] at h
      rw [← Except.ok.inj h, List.append_assoc, List.append_assoc (_ ++ _)]
      apply get16_of_slice
      refine slice_middle ?_ rfl _ _
      rw [List.length_append, List.Vector.toList_length, List.Vector.toList_length]
  have hno (beyond : ℕ → UInt8) (harp : (Buf.mk (hdr ++ message) beyond).get16 12 = ethertypeArp) :
      False := by
    rw [htype] at harp
    exact absurd harp (by decide)
  exact ⟨(leaves_srPrepareIpPacket h message).long, fun beyond harp => (hno beyond harp).elim,
    fun beyond mac ip hreply => (hno beyond hreply.type_eq).elim⟩

/-- That a frame is honest is such a property, when the interfaces know their addresses. -/
theorem frameRule_honest {ifList : List SrIf}
    (htrue : ∀ iface ∈ ifList, Truth iface.addr iface.ip) :
    FrameRule ifList (fun packet => Honest Truth packet.bytes)
      (fun frame interface => Leaves ifList frame interface ∧ Honest Truth frame) where
  leaves h := h.1
  arp h hframe :=
    ⟨h ▸ leaves_srPrepareArpPacket hframe, honest_srPrepareArpPacket (h ▸ htrue) hframe⟩
  ip message h hhdr :=
    ⟨h ▸ leaves_srPrepareIpPacket hhdr message, honest_srPrepareIpPacket hhdr message⟩
  forward h hnot hiface := ⟨leaves_forwardedBuf hiface h.long, honest_forwardedBuf h hnot _⟩
  dhost mac h := ⟨h.1.overwrite_dhost mac, h.2.overwrite_dhost mac⟩

/-! ## The caches -/

/-- What the main thread has read of a reply is true. -/
def Todo.Truthful (Truth : MacAddr → UInt32 → Prop) : Todo → Prop
  | .replyLookup mac ip => Truth mac ip
  | .replyInsert mac ip => Truth mac ip
  | _ => True

/-- What the cache holds is true, and what is about to get there. -/
structure Truthful (Truth : MacAddr → UInt32 → Prop) (s : State) : Prop where
  entries : ∀ i, (s.sr.cache.entries i).valid = true →
    Truth (s.sr.cache.entries i).mac (s.sr.cache.entries i).ip
  main : s.main.Truthful Truth

/-- An entry that does not expire stays as it is. -/
theorem expireEntries_of_valid {curtime : ℕ} {cache : SrArpcache} {i : Fin srArpcacheSz}
    (h : ((expireEntries curtime cache).entries i).valid = true) :
    (expireEntries curtime cache).entries i = cache.entries i := by
  unfold expireEntries at h ⊢
  simp only at h ⊢
  split at h
  · cases h
  · rename_i hunexpired
    rw [if_neg hunexpired]

/-- What the main thread has to do with a packet that came in, if anything: what an ARP reply says
it takes from the reply. -/
theorem srHandlepacket_todo {sr : SrInstance} {packet : Buf} {interface : String}
    {entries : List LogEntry} {todo : Todo}
    (h : (srHandlepacket sr packet interface).val = .ok (entries, todo)) :
    todo = .idle ∨ (∃ mac ip, IsArpReply packet mac ip ∧ todo = .replyLookup mac ip) ∨
      ∃ nextHopIp buf iface, todo = .forwardLookup nextHopIp buf iface := by
  have hidle {result : Except Fault (List LogEntry)}
      (hresult : (result.map fun entries => (entries, Todo.idle)) = .ok (entries, todo)) :
      todo = .idle := by
    cases result with
    | error fault => cases hresult
    | ok sent => exact (Prod.mk.inj (Except.ok.inj hresult)).2.symm
  unfold srHandlepacket at h
  simp only [Traced.val_bind, Traced.val_ite, Traced.val_pure] at h
  split at h
  · exact .inl (Prod.mk.inj (Except.ok.inj h)).2.symm
  · split at h
    · exact .inl (hidle h)
    · split at h
      · rename_i hreply
        obtain ⟨htype, hop⟩ := (packetIsArp_val packet arpOpReply).mp hreply
        refine .inr (.inl ⟨packet.getMac 22, packet.get32 28, ⟨htype, hop, rfl, rfl⟩, ?_⟩)
        exact (Prod.mk.inj (Except.ok.inj h)).2.symm
      · split at h
        · split at h
          · exact .inl (hidle h)
          · split at h
            · exact .inl (hidle h)
            · exact .inl (Prod.mk.inj (Except.ok.inj h)).2.symm
        · rw [srForwardPacket_val] at h
          split at h
          · exact .inl (Prod.mk.inj (Except.ok.inj h)).2.symm
          · split at h
            · exact .inl (hidle h)
            · cases hroute : srRtLookupIp sr.routingTable (packet.get32 30) with
              | none =>
                simp only [hroute] at h
                exact .inl (hidle h)
              | some entry =>
                cases hiface : srGetInterface sr.ifList entry.interface with
                | none =>
                  simp only [hroute, hiface] at h
                  cases h
                | some iface =>
                  simp only [hroute, hiface] at h
                  exact .inr (.inr ⟨_, _, _, (Prod.mk.inj (Except.ok.inj h)).2.symm⟩)

namespace Truthful

variable {s s' : State}

theorem receive (h : Truthful Truth s) {packet : Buf}
    (hpacket : ∀ mac ip, IsArpReply packet mac ip → Truth mac ip) (interface : String) :
    Outcome (Truthful Truth) (fun _ => True) (receive packet interface s) := by
  by_cases hidle : s.main = .idle
  · rw [receive_of_idle hidle]
    cases hval : (srHandlepacket s.sr packet interface).val with
    | error fault => trivial
    | ok result =>
      obtain ⟨entries, todo⟩ := result
      refine ⟨h.entries, ?_⟩
      change todo.Truthful Truth
      rcases srHandlepacket_todo hval with rfl | ⟨mac, ip, hreply, rfl⟩ | ⟨ip, buf, iface, rfl⟩
      · trivial
      · exact hpacket mac ip hreply
      · trivial
  · rw [receive_of_busy hidle]
    exact h

theorem mainMove (h : Truthful Truth s) (hmove : MainMove s s') : Truthful Truth s' := by
  have hmain := h.main
  have hinsert {mac : MacAddr} {ip : UInt32} (htruth : Truth mac ip) (i : Fin srArpcacheSz)
      (hvalid : ((srArpcacheInsert s.sr.cache mac ip s.time).2.entries i).valid = true) :
      Truth ((srArpcacheInsert s.sr.cache mac ip s.time).2.entries i).mac
        ((srArpcacheInsert s.sr.cache mac ip s.time).2.entries i).ip := by
    rcases srArpcacheInsert_entries s.sr.cache mac ip s.time with heq | ⟨j, -, heq⟩
    · rw [heq] at hvalid ⊢
      exact h.entries i hvalid
    · rw [heq] at hvalid ⊢
      by_cases hij : i = j
      · subst hij
        rw [Function.update_self]
        exact htruth
      · rw [Function.update_of_ne hij] at hvalid ⊢
        exact h.entries i hvalid
  cases hmove with
  | idle hs => exact h
  | replyUnknown mac ip hs hunknown =>
    rw [hs] at hmain
    exact ⟨h.entries, hmain⟩
  | insert mac ip hs hno =>
    rw [hs] at hmain
    exact ⟨hinsert hmain, trivial⟩
  | insertUnlink mac ip before req after hs hreqs hip =>
    rw [hs] at hmain
    exact ⟨hinsert hmain, trivial⟩
  | _ => exact ⟨h.entries, trivial⟩

theorem sweeperTurn (h : Truthful Truth s) :
    Outcome (Truthful Truth) (fun _ => True) (sweeperTurn s) := by
  refine (sweeperTurn_frame s).mono (fun s' hframe => ⟨fun i hvalid => ?_, ?_⟩) fun _ _ => trivial
  · have hentries : s'.sr.cache.entries = (expireEntries s.time s.sr.cache).entries :=
      hframe.entries_eq
    rw [hentries] at hvalid ⊢
    have heq := expireEntries_of_valid hvalid
    rw [heq] at hvalid ⊢
    exact h.entries i hvalid
  · rw [hframe.main_eq]
    exact h.main

end Truthful

/-! ## Runs of a network -/

/-- The router has sent the frame over the interface. That of an ARP request is known from the
frame. -/
def HasSent (s : State) (frame : List UInt8) (interface : String) : Prop :=
  .answered frame interface true ∈ s.log ∨ .forwarded frame interface true ∈ s.log ∨
    (∃ packet mac, .sentQueued packet mac true ∈ s.log ∧
      frame = packet.sentTo mac ∧ interface = packet.iface) ∨
    ∃ ip time, .arpRequest ip time frame true ∈ s.log ∧ srSendPacket s.sr frame interface = true

/-- A step of a network: a thread of a router makes a step, or time passes there, or a frame comes
in that was sent over an interface with a link to it, or by a host. -/
inductive NetStep {ρ : Type} [DecidableEq ρ] (links : ρ × String → ρ × String → Prop)
    (Host : List UInt8 → Prop) (net : ρ → State) : (ρ → State) → Prop
  | own (r : ρ) (act : Act) (hact : ∀ packet interface, act ≠ .receive packet interface) (s : State)
      (hstep : step act (net r) = .ok s) : NetStep links Host net (Function.update net r s)
  | link (r r' : ρ) (interface interface' : String) (hlink : links (r, interface) (r', interface'))
      (frame : List UInt8) (hsent : HasSent (net r) frame interface) (beyond : ℕ → UInt8)
      (s : State)
      (hstep : step (.receive ⟨frame, beyond⟩ interface') (net r') = .ok s) :
      NetStep links Host net (Function.update net r' s)
  | host (r : ρ) (interface : String) (frame : List UInt8) (hhost : Host frame)
      (beyond : ℕ → UInt8) (s : State)
      (hstep : step (.receive ⟨frame, beyond⟩ interface) (net r) = .ok s) :
      NetStep links Host net (Function.update net r s)

/-- Every router of the network knows its own addresses and nothing false. -/
def NetTruthful {ρ : Type} (Truth : MacAddr → UInt32 → Prop) (net : ρ → State) : Prop :=
  ∀ r, ∃ ifList routingTable, (∀ iface ∈ ifList, Truth iface.addr iface.ip) ∧
    Sends ifList routingTable
      (fun frame interface => Leaves ifList frame interface ∧ Honest Truth frame) (net r) ∧
    Truthful Truth (net r)

namespace NetTruthful

variable {ρ : Type} {net : ρ → State}

theorem honest_of_hasSent (h : NetTruthful Truth net) {r : ρ} {frame : List UInt8}
    {interface : String} (hsent : HasSent (net r) frame interface) : Honest Truth frame := by
  obtain ⟨ifList, routingTable, -, hsends, -⟩ := h r
  rcases hsent with hlog | hlog | ⟨packet, mac, hlog, rfl, -⟩ | ⟨ip, time, hlog, -⟩
  · exact (hsends.log _ hlog).1.2
  · exact (hsends.log _ hlog).1.2
  · exact (hsends.log _ hlog).1.2
  · obtain ⟨⟨iface, hframe⟩, -⟩ := hsends.log _ hlog
    exact hframe.2

variable [DecidableEq ρ]

/-- A router makes a step, with an honest frame if one comes in. -/
theorem update (h : NetTruthful Truth net) {r : ρ} {act : Act}
    (hact : ∀ packet interface, act = .receive packet interface → Honest Truth packet.bytes)
    {s : State} (hstep : step act (net r) = .ok s) :
    NetTruthful Truth (Function.update net r s) := by
  intro r'
  by_cases hr : r' = r
  · subst hr
    rw [Function.update_self]
    obtain ⟨ifList, routingTable, htrue, hsends, htruthful⟩ := h r'
    refine ⟨ifList, routingTable, htrue,
      (hsends.step (frameRule_honest htrue) hact).result hstep, ?_⟩
    cases act with
    | receive packet interface =>
      have hpacket (mac : MacAddr) (ip : UInt32) : IsArpReply packet mac ip → Truth mac ip :=
        (hact packet interface rfl).truth packet.beyond mac ip
      exact (htruthful.receive hpacket interface).result hstep
    | main => exact htruthful.mainMove ((mainStep_outcome _).result hstep)
    | sweep => exact htruthful.sweeperTurn.result hstep
    | wait usec =>
      rw [← Except.ok.inj hstep]
      exact ⟨htruthful.entries, htruthful.main⟩
  · rw [Function.update_of_ne hr]
    exact h r'

theorem step {links : ρ × String → ρ × String → Prop} {Host : List UInt8 → Prop}
    (hhost : ∀ frame, Host frame → Honest Truth frame) (h : NetTruthful Truth net)
    {net' : ρ → State} (hstep : NetStep links Host net net') : NetTruthful Truth net' := by
  cases hstep with
  | own r act hact s hstep =>
    exact h.update (fun packet interface heq => absurd heq (hact _ _)) hstep
  | link r r' interface interface' hlink frame hsent beyond s hstep =>
    refine h.update (fun packet interface heq => ?_) hstep
    rw [← (Act.receive.inj heq).1]
    exact h.honest_of_hasSent hsent
  | host r interface frame hframe beyond s hstep =>
    refine h.update (fun packet interface heq => ?_) hstep
    rw [← (Act.receive.inj heq).1]
    exact hhost frame hframe

end NetTruthful

/-- **The caches of a network are right**, and no router sends a false ARP reply, when the routers
know their own addresses and the hosts are honest. -/
theorem caches_truthful {ρ : Type} [DecidableEq ρ] (links : ρ × String → ρ × String → Prop)
    (Host : List UInt8 → Prop) (Truth : MacAddr → UInt32 → Prop)
    (hhost : ∀ frame, Host frame → Honest Truth frame) (ifLists : ρ → List SrIf)
    (htrue : ∀ r, ∀ iface ∈ ifLists r, Truth iface.addr iface.ip) (routingTables : ρ → List SrRt)
    (nows : ρ → ℕ) (net : ρ → State)
    (hrun : Relation.ReflTransGen (NetStep links Host)
      (fun r => srInit (ifLists r) (routingTables r) (nows r)) net) (r : ρ) :
    (∀ i, ((net r).sr.cache.entries i).valid = true →
        Truth ((net r).sr.cache.entries i).mac ((net r).sr.cache.entries i).ip) ∧
      ∀ frame interface, HasSent (net r) frame interface → Honest Truth frame := by
  have hnet : NetTruthful Truth net := by
    induction hrun with
    | refl =>
      refine fun r => ⟨ifLists r, routingTables r, htrue r, Sends.srInit _ _ _ _, ?_, trivial⟩
      exact fun i hvalid => absurd hvalid Bool.false_ne_true
    | tail _ hstep ih => exact ih.step hhost hstep
  obtain ⟨-, -, -, -, htruthful⟩ := hnet r
  exact ⟨htruthful.entries, fun frame interface => hnet.honest_of_hasSent⟩

/-- Two addresses on the network of `oneInterface`. -/
def twoAddresses (mac : MacAddr) (ip : UInt32) : Prop :=
  mac = ownMac ∧ ip = 0x0a000001 ∨ mac = neighbourMac ∧ ip = 0x0a000002

/-- One router, and a host that sends a reply. -/
theorem caches_truthful_neighbour :
    ∃ net : Unit → State,
      Relation.ReflTransGen (NetStep (fun _ _ => False) fun frame => frame = neighbourReply.bytes)
        (fun _ => srInit oneInterface.ifList [] 0) net ∧
      ((net ()).sr.cache.entries 0).valid = true ∧
      twoAddresses ((net ()).sr.cache.entries 0).mac ((net ()).sr.cache.entries 0).ip := by
  have hhost : ∀ frame, frame = neighbourReply.bytes → Honest twoAddresses frame := by
    rintro frame rfl
    refine ⟨by decide, fun _ _ => by decide, fun beyond mac ip hreply => .inr ?_⟩
    have hget (i : ℕ) (hi : i < 42) :
        (Buf.mk neighbourReply.bytes beyond).get i = neighbourReply.get i :=
      @get_of_bytes_eq ⟨_, beyond⟩ neighbourReply rfl i hi
    rw [← hreply.sha_eq, ← hreply.sip_eq, getMac_of_get_eq fun i _ _ => hget i (by omega),
      get32_of_get_eq fun i _ _ => hget i (by omega)]
    exact ⟨isArpReply_neighbourReply.sha_eq, isArpReply_neighbourReply.sip_eq⟩
  have hupdate (s s' : State) : Function.update (fun _ : Unit => s) () s' = fun _ => s' :=
    funext fun _ => Function.update_self ..
  have hmain {s s' : State} (hstep : step .main s = .ok s') :
      NetStep (fun _ _ => False) (fun frame => frame = neighbourReply.bytes) (fun _ : Unit => s)
        fun _ => s' :=
    hupdate s s' ▸ .own () .main (fun _ _ => by rintro ⟨⟩) s' hstep
  obtain ⟨s₁, s₂, s₃, h₁, h₂, h₃, hvalid⟩ : ∃ s₁ s₂ s₃,
      step (.receive neighbourReply "eth1") (srInit oneInterface.ifList [] 0) = .ok s₁ ∧
        step .main s₁ = .ok s₂ ∧ step .main s₂ = .ok s₃ ∧
          (s₃.sr.cache.entries 0).valid = true :=
    ⟨_, _, _, rfl, rfl, rfl, rfl⟩
  have hreceive : NetStep (fun _ _ => False) (fun frame => frame = neighbourReply.bytes)
      (fun _ : Unit => srInit oneInterface.ifList [] 0) fun _ => s₁ := by
    rw [← hupdate (srInit oneInterface.ifList [] 0) s₁]
    refine .host () "eth1" neighbourReply.bytes ?_ (fun _ => 0) s₁ ?_
    · rfl
    · exact h₁
  have hrun := ((Relation.ReflTransGen.single hreceive).tail (hmain h₂)).tail (hmain h₃)
  exact ⟨_, hrun, hvalid, (caches_truthful (fun _ _ => False) _ twoAddresses hhost
    (fun _ => oneInterface.ifList) (fun _ => List.forall_mem_singleton.mpr (.inl ⟨rfl, rfl⟩))
    (fun _ => []) (fun _ => 0) _ hrun ()).1 0 hvalid⟩

end NetworkSim.Router
