import NetworkSim.Router.Consistency
import NetworkSim.Router.Slices
import NetworkSim.Router.Sweep

/-!
# What is handed to `sr_send_packet`

`sr_send_packet` refuses a frame that is shorter than an Ethernet header, that is for an interface
which does not exist, or whose source is not the address of the interface; and no caller looks at
what it returns. All frames of the router pass, in every run in which the packets that come in have
an Ethernet header (`nothing_refused`). When these come over interfaces that exist, and every route
has its interface, then all that can stop the router is a sweep that finds no route to the source of
a packet (`only_sweeps_stop`).
-/

namespace NetworkSim.Router

/-! ## Frames -/

/-- The frame passes the checks of `sr_send_packet`. -/
structure Leaves (ifList : List SrIf) (frame : List UInt8) (interface : String) : Prop where
  long : etherHdrSize ≤ frame.length
  shost : ∃ iface, srGetInterface ifList interface = some iface ∧
    (frame.drop 6).take 6 = iface.addr.toList

namespace Leaves

variable {ifList : List SrIf} {frame : List UInt8} {interface : String}

theorem srSendPacket {sr : SrInstance} (h : Leaves sr.ifList frame interface) :
    srSendPacket sr frame interface = true := by
  obtain ⟨iface, hiface, hshost⟩ := h.shost
  rw [Router.srSendPacket, if_neg (not_lt.mpr h.long), hiface]
  exact decide_eq_true hshost

theorem interface_ne (h : Leaves ifList frame interface) :
    srGetInterface ifList interface ≠ none := by
  obtain ⟨iface, hiface, -⟩ := h.shost
  exact fun hnone => Option.some_ne_none iface (hiface.symm.trans hnone)

theorem overwrite_dhost (h : Leaves ifList frame interface) (mac : MacAddr) :
    Leaves ifList (overwrite 0 mac.toList frame) interface := by
  obtain ⟨iface, hiface, hshost⟩ := h.shost
  refine ⟨(length_overwrite 0 mac.toList frame).symm ▸ h.long, iface, hiface, ?_⟩
  rw [(headerOf_overwrite_dhost mac frame).2.2 6 le_rfl, hshost]

end Leaves

variable {sr : SrInstance} {interface : String}

/-- A header of the router's own, with whatever message behind it. -/
theorem leaves_srPrepareIpPacket {payloadLen : ℕ} {destIp srcIp : UInt32} {destMac : MacAddr}
    {protocol : UInt8} {hdr : List UInt8}
    (h : srPrepareIpPacket sr payloadLen destIp destMac srcIp protocol interface = .ok hdr)
    (message : List UInt8) : Leaves sr.ifList (hdr ++ message) interface := by
  cases hiface : srGetInterface sr.ifList interface with
  | none =>
    rw [srPrepareIpPacket, hiface] at h
    cases h
  | some iface =>
    obtain ⟨ether, hether, hshost, rfl⟩ := srPrepareIpPacket_ok hiface h
    refine ⟨?_, iface, hiface, ?_⟩
    · rw [List.append_assoc, List.length_append, hether]
      exact Nat.le_add_right _ _
    · rw [List.append_assoc]
      exact hshost _

theorem leaves_srPrepareArpPacket {destMac arpTha : MacAddr} {arpOp : UInt16} {arpTip : UInt32}
    {frame : List UInt8}
    (h : srPrepareArpPacket sr interface destMac arpOp arpTha arpTip = .ok frame) :
    Leaves sr.ifList frame interface := by
  cases hiface : srGetInterface sr.ifList interface with
  | none =>
    rw [srPrepareArpPacket, hiface] at h
    cases h
  | some iface =>
    rw [srPrepareArpPacket, hiface] at h
    rw [← Except.ok.inj h]
    refine ⟨?_, iface, hiface, ?_⟩
    · simp only [List.length_append, List.Vector.toList_length]
      exact Nat.le_trans (by decide : 14 ≤ 6 + 6 + 2) (by
        rw [bytes16, List.length_cons, List.length_cons, List.length_nil]
        omega)
    · simp only [List.append_assoc]
      rw [List.drop_left' destMac.toList_length, List.take_left' iface.addr.toList_length]

theorem srPrepareIpPacket_none {payloadLen : ℕ} {destIp srcIp : UInt32} {destMac : MacAddr}
    {protocol : UInt8} {fault : Fault}
    (h : srPrepareIpPacket sr payloadLen destIp destMac srcIp protocol interface = .error fault) :
    srGetInterface sr.ifList interface = none := by
  rw [srPrepareIpPacket] at h
  cases hiface : srGetInterface sr.ifList interface with
  | none => rfl
  | some iface =>
    rw [hiface] at h
    cases h

theorem srPrepareArpPacket_none {destMac arpTha : MacAddr} {arpOp : UInt16} {arpTip : UInt32}
    {fault : Fault}
    (h : srPrepareArpPacket sr interface destMac arpOp arpTha arpTip = .error fault) :
    srGetInterface sr.ifList interface = none := by
  rw [srPrepareArpPacket] at h
  cases hiface : srGetInterface sr.ifList interface with
  | none => rfl
  | some iface =>
    rw [hiface] at h
    cases h

/-- The copy that `sr_forward_packet` makes of a packet has the interface's address as source. -/
theorem leaves_forwardedBuf {ifList : List SrIf} {iface : SrIf}
    (hiface : srGetInterface ifList interface = some iface) {packet : Buf}
    (hlen : etherHdrSize ≤ packet.len) :
    Leaves ifList (forwardedBuf packet iface.addr).bytes interface := by
  have hbytes : (forwardedBuf packet iface.addr).bytes.length = packet.len :=
    len_forwardedBuf packet iface.addr
  refine ⟨hbytes.symm ▸ hlen, iface, hiface, ?_⟩
  have hether : etherHdrSize = 14 := rfl
  have hslice : (forwardedBuf packet iface.addr).slice 6 6 = iface.addr.toList := by
    apply slice_set iface.addr.toList_length
    rw [Buf.len_set, len_decrementedBuf]
    omega
  rw [← hslice, slice_eq_take_drop]
  change 6 + 6 ≤ (forwardedBuf packet iface.addr).bytes.length
  omega

/-! ## The invariant -/

/-- A property of frames and the interfaces they are for that all frames of a router have which
receives packets with `Accepts`: its own, the copies it forwards, and these with the destination
that they get in the end. -/
structure FrameRule (ifList : List SrIf) (Accepts : Buf → Prop) (P : List UInt8 → String → Prop) :
    Prop where
  leaves : ∀ {frame interface}, P frame interface → Leaves ifList frame interface
  arp : ∀ {sr interface destMac arpOp arpTha arpTip frame}, sr.ifList = ifList →
    srPrepareArpPacket sr interface destMac arpOp arpTha arpTip = .ok frame → P frame interface
  ip : ∀ {sr payloadLen destIp destMac srcIp protocol interface hdr} message, sr.ifList = ifList →
    srPrepareIpPacket sr payloadLen destIp destMac srcIp protocol interface = .ok hdr →
      P (hdr ++ message) interface
  forward : ∀ {packet interface iface}, Accepts packet → (packetIsArpReply packet).val = false →
    srGetInterface ifList interface = some iface →
      P (forwardedBuf packet iface.addr).bytes interface
  dhost : ∀ {frame interface} (mac : MacAddr), P frame interface →
    P (overwrite 0 mac.toList frame) interface

/-- What was handed to `sr_send_packet` has `P`, and was not refused. -/
def LogEntry.Sent (P : List UInt8 → String → Prop) : LogEntry → Prop
  | .answered frame iface sent => P frame iface ∧ sent = true
  | .forwarded frame iface sent => P frame iface ∧ sent = true
  | .arpRequest _ _ frame sent => (∃ iface, P frame iface) ∧ sent = true
  | .sentQueued packet mac sent =>
    P (packet.sentTo mac) packet.iface ∧ sent = true
  | _ => True

/-- What the main thread has in hand has `P`. -/
def Todo.Meets (P : List UInt8 → String → Prop) : Todo → Prop
  | .replySend _ _ packets => ∀ packet ∈ packets, P packet.buf.bytes packet.iface
  | .forwardLookup _ buf iface => P buf.bytes iface
  | .forwardQueue _ buf iface => P buf.bytes iface
  | .forwardRequest _ iface => ∃ frame, P frame iface
  | .forwardSend _ buf iface => P buf.bytes iface
  | _ => True

/-- All that was handed to `sr_send_packet` has `P`, and so has all that waits. -/
structure Sends (ifList : List SrIf) (routingTable : List SrRt) (P : List UInt8 → String → Prop)
    (s : State) : Prop where
  ifList_eq : s.sr.ifList = ifList
  routingTable_eq : s.sr.routingTable = routingTable
  log : ∀ entry ∈ s.log, entry.Sent P
  waiting : ∀ req ∈ s.requests, ∀ packet ∈ req.packets, P packet.buf.bytes packet.iface
  main : s.main.Meets P

/-- A packet came over an interface that does not exist, or there is a route over one. -/
def Astray (ifList : List SrIf) (routingTable : List SrRt) (interface : String) : Prop :=
  srGetInterface ifList interface = none ∨
    ∃ entry ∈ routingTable, srGetInterface ifList entry.interface = none

namespace Sends

variable {ifList : List SrIf} {routingTable : List SrRt} {Accepts : Buf → Prop}
  {P : List UInt8 → String → Prop} {s s' : State}

/-- A step that adds to the history, and queues nothing. -/
theorem extend (h : Sends ifList routingTable P s) (added : List LogEntry)
    (hifList : s'.sr.ifList = s.sr.ifList) (htable : s'.sr.routingTable = s.sr.routingTable)
    (hlog : s'.log = added ++ s.log) (hadded : ∀ entry ∈ added, entry.Sent P)
    (hwaiting : ∀ req ∈ s'.requests, ∀ packet ∈ req.packets,
      ∃ req' ∈ s.requests, packet ∈ req'.packets)
    (hmain : s'.main.Meets P) : Sends ifList routingTable P s' := by
  refine ⟨hifList.trans h.ifList_eq, htable.trans h.routingTable_eq, ?_, ?_, hmain⟩
  · rw [hlog]
    exact List.forall_mem_append.mpr ⟨hadded, h.log⟩
  · intro req hreq packet hpacket
    obtain ⟨req', hreq', hpacket'⟩ := hwaiting req hreq packet hpacket
    exact h.waiting req' hreq' packet hpacket'

/-- A step that only adds to the history. -/
theorem record (h : Sends ifList routingTable P s) {added : List LogEntry}
    (hadded : ∀ entry ∈ added, entry.Sent P) : Sends ifList routingTable P (s.record added) :=
  h.extend added rfl rfl rfl hadded (fun req hreq _ hpacket => ⟨req, hreq, hpacket⟩) h.main

/-- The main thread goes on. -/
theorem setMain (h : Sends ifList routingTable P s) {todo : Todo} (htodo : todo.Meets P) :
    Sends ifList routingTable P { s with main := todo } :=
  h.extend [] rfl rfl rfl (fun _ hentry => absurd hentry List.not_mem_nil)
    (fun req hreq _ hpacket => ⟨req, hreq, hpacket⟩) htodo

/-- A packet is queued. -/
theorem queuereq (h : Sends ifList routingTable P s) (ip : UInt32) {buf : Buf} {iface : String}
    (transit : Bool) (hbuf : P buf.bytes iface) :
    Sends ifList routingTable P (queuereq ip buf iface transit s) := by
  obtain ⟨created, hlog, hcreated⟩ := log_queuereq ip buf iface transit s
  have hnew : ∀ packet ∈ (SrPacket.mk buf iface s.serials).toQueue,
      P packet.buf.bytes packet.iface := by
    intro packet hpacket
    rw [mem_toQueue hpacket]
    exact hbuf
  refine ⟨h.ifList_eq, h.routingTable_eq, ?_, ?_, h.main⟩
  · rw [hlog, List.forall_mem_append, List.forall_mem_append]
    refine ⟨List.forall_mem_map.mpr fun _ _ => trivial, fun entry hentry => ?_, h.log⟩
    rw [hcreated entry hentry]
    trivial
  · have hwaiting := h.waiting
    rcases queuereq_cases ip buf iface transit s with
      ⟨-, hreqs, -⟩ | ⟨before, req, after, hreqs, -, -, hreqs', -⟩
    · rw [hreqs, List.forall_mem_cons]
      exact ⟨hnew, hwaiting⟩
    · rw [hreqs, List.forall_mem_append, List.forall_mem_cons] at hwaiting
      obtain ⟨hbefore, hreq, hafter⟩ := hwaiting
      rw [hreqs', List.forall_mem_append, List.forall_mem_cons, List.forall_mem_append]
      exact ⟨hbefore, ⟨hnew, hreq⟩, hafter⟩

theorem leaves (h : Sends ifList routingTable P s) (hP : FrameRule ifList Accepts P)
    {frame : List UInt8} {interface : String} (hframe : P frame interface) :
    Leaves s.sr.ifList frame interface := h.ifList_eq.symm ▸ hP.leaves hframe

/-- A request of ARP is sent. -/
theorem srSendArpRequest (h : Sends ifList routingTable P s) (hP : FrameRule ifList Accepts P)
    (ip : UInt32) (interface : String) :
    Outcome (Sends ifList routingTable P)
      (fun fault => fault = .assertion ∧ srGetInterface ifList interface = none)
      (srSendArpRequest ip interface s) := by
  rw [Router.srSendArpRequest]
  cases hprepare : srPrepareArpPacket s.sr interface (List.Vector.replicate 6 0xff) arpOpRequest
      (List.Vector.replicate 6 0) ip with
  | error fault =>
    exact ⟨srPrepareArpPacket_fault fault hprepare, h.ifList_eq ▸ srPrepareArpPacket_none hprepare⟩
  | ok packet =>
    have hpacket := hP.arp h.ifList_eq hprepare
    refine h.record (List.forall_mem_singleton.mpr ⟨⟨interface, hpacket⟩, ?_⟩)
    exact (h.leaves hP hpacket).srSendPacket

/-! ### Packets that come in -/

/-- An answer is sent, if its interface is there. -/
theorem handled_answer (h : Sends ifList routingTable P s) (hP : FrameRule ifList Accepts P)
    (interface : String)
    (f : List UInt8 → List UInt8) {result : Except Fault (List UInt8)}
    (hok : ∀ buf, result = .ok buf → P (f buf) interface)
    (herror : ∀ fault, result = .error fault → srGetInterface s.sr.ifList interface = none) :
    Outcome (Sends ifList routingTable P) (fun _ => Astray ifList routingTable interface)
      (s.handled ((result.map fun buf => [answer s.sr interface (f buf)]).map
        fun entries => (entries, .idle))) := by
  cases result with
  | error fault => exact .inl (h.ifList_eq ▸ herror fault rfl)
  | ok buf =>
    have hanswer : (answer s.sr interface (f buf)).Sent P :=
      ⟨hok buf rfl, (h.leaves hP (hok buf rfl)).srSendPacket⟩
    exact (h.record (List.forall_mem_singleton.mpr hanswer)).setMain trivial

theorem handled_nil (h : Sends ifList routingTable P s) {E : Fault → Prop} :
    Outcome (Sends ifList routingTable P) E (s.handled (.ok ([], .idle))) :=
  h.setMain trivial

theorem handled_srSendIcmpError (h : Sends ifList routingTable P s)
    (hP : FrameRule ifList Accepts P) (packet : Buf) (interface : String) (type code : UInt8) :
    Outcome (Sends ifList routingTable P) (fun _ => Astray ifList routingTable interface)
      (s.handled ((srSendIcmpError s.sr packet interface type code).val.map
        fun entries => (entries, .idle))) :=
  h.handled_answer hP interface (fun hdr => hdr ++ _)
    (fun _ hhdr => hP.ip _ h.ifList_eq hhdr) fun _ => srPrepareIpPacket_none

theorem handled_srForwardPacket (h : Sends ifList routingTable P s)
    (hP : FrameRule ifList Accepts P) {packet : Buf} (haccepts : Accepts packet)
    (hnot : (packetIsArpReply packet).val = false) (interface : String) :
    Outcome (Sends ifList routingTable P) (fun _ => Astray ifList routingTable interface)
      (s.handled (srForwardPacket s.sr packet interface).val) := by
  rw [srForwardPacket_val]
  split
  · exact h.handled_nil
  · split
    · exact h.handled_srSendIcmpError hP packet interface 11 0
    · cases hroute : srRtLookupIp s.sr.routingTable (packet.get32 30) with
      | none => exact h.handled_srSendIcmpError hP packet interface 3 0
      | some entry =>
        cases hiface : srGetInterface s.sr.ifList entry.interface with
        | none =>
          simp only [hiface]
          refine .inr ⟨entry, h.routingTable_eq ▸ srRtLookupIp_mem hroute, ?_⟩
          exact h.ifList_eq ▸ hiface
        | some iface =>
          simp only [hiface]
          exact h.setMain (hP.forward haccepts hnot (h.ifList_eq ▸ hiface))

theorem receive (h : Sends ifList routingTable P s) (hP : FrameRule ifList Accepts P)
    {packet : Buf} (haccepts : Accepts packet) (interface : String) :
    Outcome (Sends ifList routingTable P) (fun _ => Astray ifList routingTable interface)
      (receive packet interface s) := by
  by_cases hidle : s.main = .idle
  · rw [receive_of_idle hidle]
    unfold srHandlepacket
    simp only [Traced.val_bind, Traced.val_ite, Traced.val_pure]
    split
    · exact h.handled_nil
    · split
      · exact h.handled_answer hP interface id (fun _ => hP.arp h.ifList_eq)
          fun _ => srPrepareArpPacket_none
      · split
        · have hreply : (LogEntry.arpReply packet.arSha.val packet.arSip.val).Sent P := trivial
          exact (h.record (List.forall_mem_singleton.mpr hreply)).setMain trivial
        · rename_i hnot
          split
          · split
            · unfold srSendIcmpResponse
              simp only [Traced.val_bind, Traced.val_ite, Traced.val_pure]
              split
              · exact h.handled_nil
              · exact h.handled_answer hP interface (fun hdr => hdr ++ _)
                  (fun _ hhdr => hP.ip _ h.ifList_eq hhdr) fun _ => srPrepareIpPacket_none
            · split
              · exact h.handled_srSendIcmpError hP packet interface 3 3
              · exact h.handled_nil
          · exact h.handled_srForwardPacket hP haccepts (Bool.eq_false_iff.mpr hnot) interface
  · rw [receive_of_busy hidle]
    exact h

/-! ### The main thread -/

/-- A request is taken from the queue. -/
theorem unlink (h : Sends ifList routingTable P s) {before after : List SrArpreq} {req : SrArpreq}
    (hreqs : s.requests = before ++ req :: after) (cache : SrArpcache)
    (hcache : cache.requests = before ++ after) :
    Sends ifList routingTable P (s.setCache cache) ∧
      ∀ packet ∈ req.packets, P packet.buf.bytes packet.iface := by
  have hwaiting := h.waiting
  rw [hreqs, List.forall_mem_append, List.forall_mem_cons] at hwaiting
  obtain ⟨hbefore, hreq, hafter⟩ := hwaiting
  refine ⟨⟨h.ifList_eq, h.routingTable_eq, h.log, ?_, h.main⟩, hreq⟩
  rw [State.requests_setCache, hcache]
  exact List.forall_mem_append.mpr ⟨hbefore, hafter⟩

/-- A frame is sent with the destination that was missing. -/
theorem sent_dhost (h : Sends ifList routingTable P s) (hP : FrameRule ifList Accepts P) {buf : Buf}
    {interface : String} (hbuf : P buf.bytes interface) (mac : MacAddr) :
    P (buf.set 0 mac.toList).bytes interface ∧
      srSendPacket s.sr (buf.set 0 mac.toList).bytes interface = true :=
  ⟨hP.dhost mac hbuf, (h.leaves hP (hP.dhost mac hbuf)).srSendPacket⟩

theorem mainStep (h : Sends ifList routingTable P s) (hP : FrameRule ifList Accepts P) :
    Outcome (Sends ifList routingTable P) (fun _ => False) (mainStep s) := by
  have hmain' := h.main
  cases hmain : s.main with
  | idle =>
    simp only [Router.mainStep, hmain]
    exact h
  | replyLookup mac ip =>
    simp only [Router.mainStep, hmain]
    split
    · exact h.setMain trivial
    · exact h.setMain trivial
  | replyInsert mac ip =>
    have hinsert : srArpcacheInsert s.sr.cache mac ip s.time =
        ((Router.unlink ip s.requests).1, ⟨(srArpcacheInsert s.sr.cache mac ip s.time).2.entries,
          (Router.unlink ip s.requests).2⟩) := rfl
    generalize (srArpcacheInsert s.sr.cache mac ip s.time).2.entries = entries at hinsert
    rcases unlink_cases ip s.requests with
      ⟨hunlink, -⟩ | ⟨before, req, after, hreqs, -, -, hunlink⟩
    · rw [hunlink] at hinsert
      simp only [Router.mainStep, hmain, hinsert]
      exact h.extend [] rfl rfl rfl (fun _ hentry => absurd hentry List.not_mem_nil)
        (fun req hreq _ hpacket => ⟨req, hreq, hpacket⟩) trivial
    · rw [hunlink] at hinsert
      simp only [Router.mainStep, hmain, hinsert]
      obtain ⟨hrest, hpackets⟩ := h.unlink hreqs ⟨entries, before ++ after⟩ rfl
      exact hrest.setMain hpackets
  | replySend mac ip packets =>
    rw [hmain] at hmain'
    cases packets with
    | nil =>
      simp only [Router.mainStep, hmain]
      exact h.setMain trivial
    | cons packet packets =>
      simp only [Router.mainStep, hmain]
      obtain ⟨hpacket, hpackets⟩ := List.forall_mem_cons.mp hmain'
      have htodo : (Todo.replySend mac ip packets).Meets P := hpackets
      refine (h.record (List.forall_mem_singleton.mpr ?_)).setMain htodo
      exact h.sent_dhost hP hpacket mac
  | replyUnlink mac ip =>
    rcases unlink_cases ip s.requests with
      ⟨hunlink, -⟩ | ⟨before, req, after, hreqs, -, -, hunlink⟩
    · simp only [Router.mainStep, hmain, hunlink]
      exact h.setMain trivial
    · simp only [Router.mainStep, hmain, hunlink, foldl_sendQueued]
      obtain ⟨hrest, hpackets⟩ := h.unlink hreqs ⟨s.sr.cache.entries, before ++ after⟩ rfl
      refine setMain (hrest.record fun entry hentry => ?_) trivial
      obtain ⟨packet, hpacket, rfl⟩ := List.mem_map.mp (List.mem_reverse.mp hentry)
      exact h.sent_dhost hP (hpackets packet hpacket) mac
  | forwardLookup nextHopIp buf iface =>
    rw [hmain] at hmain'
    simp only [Router.mainStep, hmain]
    split
    · exact h.setMain hmain'
    · exact h.setMain hmain'
  | forwardQueue nextHopIp buf iface =>
    rw [hmain] at hmain'
    simp only [Router.mainStep, hmain]
    have htodo : (Todo.forwardRequest nextHopIp iface).Meets P := ⟨_, hmain'⟩
    exact (h.queuereq nextHopIp true hmain').setMain htodo
  | forwardRequest nextHopIp iface =>
    rw [hmain] at hmain'
    simp only [Router.mainStep, hmain]
    obtain ⟨frame, hframe⟩ := hmain'
    have htodo : Todo.idle.Meets P := trivial
    refine ((h.setMain htodo).srSendArpRequest hP nextHopIp iface).mono (fun _ => id) ?_
    exact fun fault hfault => (hP.leaves hframe).interface_ne hfault.2
  | forwardSend mac buf iface =>
    rw [hmain] at hmain'
    simp only [Router.mainStep, hmain]
    refine setMain (h.record (List.forall_mem_singleton.mpr ?_)) trivial
    exact h.sent_dhost hP hmain' mac

/-! ### The sweeper -/

/-- A report to the source of a packet that is given up. -/
theorem srSendIcmpHostUnreachable (h : Sends ifList routingTable P s)
    (hP : FrameRule ifList Accepts P) (packet : SrPacket) :
    Outcome (Sends ifList routingTable P)
      (fun fault => fault = .nullRoute ∨
        ∃ entry ∈ routingTable, srGetInterface ifList entry.interface = none)
      (srSendIcmpHostUnreachable packet s) := by
  have hreported : ∀ entry ∈ [LogEntry.hostUnreachable packet], entry.Sent P :=
    List.forall_mem_singleton.mpr trivial
  have hrecorded := h.record hreported
  rw [Router.srSendIcmpHostUnreachable]
  cases hroute : srRtLookupIp s.sr.routingTable (packet.buf.get32 26) with
  | none => exact .inl rfl
  | some entry =>
    cases hiface : srGetInterface s.sr.ifList entry.interface with
    | none =>
      simp only [hiface]
      refine .inr ⟨entry, h.routingTable_eq ▸ srRtLookupIp_mem hroute, ?_⟩
      exact h.ifList_eq ▸ hiface
    | some iface =>
      cases hprepare : srPrepareIpPacket s.sr icmpT11HdrSize (packet.buf.get32 26) iface.addr 0
          ipProtocolIcmp entry.interface with
      | error fault =>
        have hnone := srPrepareIpPacket_none hprepare
        exact absurd (hiface.symm.trans hnone) (Option.some_ne_none iface)
      | ok hdr =>
        have hframe := hP.ip (icmpT11Hdr 3 1 (packet.buf.slice etherHdrSize ipHdrSize)
          (packet.buf.slice (etherHdrSize + ipHdrSize) 8)) h.ifList_eq hprepare
        simp only [hiface, hprepare, State.sr_record]
        cases srArpcacheLookup s.sr.cache entry.gw with
        | none =>
          have hqueued := @queuereq _ _ _ _ hrecorded entry.gw ⟨_, fun _ => 0⟩ _ false hframe
          refine (hqueued.srSendArpRequest hP entry.gw entry.interface).mono (fun _ => id) ?_
          rintro fault ⟨-, hnone⟩
          exact absurd hnone (hP.leaves hframe).interface_ne
        | some arpentry =>
          refine hrecorded.record (List.forall_mem_singleton.mpr ?_)
          exact @sent_dhost _ _ _ _ _ h hP ⟨_, fun _ => 0⟩ _ hframe arpentry.mac

/-- A request is sent again. -/
theorem resend (h : Sends ifList routingTable P s) (hP : FrameRule ifList Accepts P)
    {before after : List SrArpreq} {req : SrArpreq}
    (hreqs : s.requests = before ++ req :: after) (curtime : ℕ) :
    Outcome (fun s' => s'.requests.length = s.requests.length ∧ Sends ifList routingTable P s')
      (fun fault => fault = .noPackets) (resend curtime before req after s) := by
  have hwaiting := h.waiting
  rw [hreqs, List.forall_mem_append, List.forall_mem_cons] at hwaiting
  obtain ⟨hbefore, hreq, hafter⟩ := hwaiting
  obtain ⟨ip, sent, timesSent, packets⟩ := req
  cases packets with
  | nil => exact rfl
  | cons packet packets =>
    have hset : Sends ifList routingTable P (s.setRequests (before ++
        ⟨ip, curtime, timesSent + 1, packet :: packets⟩ :: after)) := by
      refine ⟨h.ifList_eq, h.routingTable_eq, h.log, ?_, h.main⟩
      rw [State.requests_setRequests, List.forall_mem_append, List.forall_mem_cons]
      exact ⟨hbefore, hreq, hafter⟩
    refine ((srSendArpRequest_outcome ip packet.iface _).and
      (hset.srSendArpRequest hP ip packet.iface)).mono ?_ ?_
    · rintro s' ⟨⟨frame, sent', rfl⟩, hs'⟩
      refine ⟨?_, hs'⟩
      rw [State.requests_record, State.requests_setRequests, hreqs]
      simp only [List.length_append, List.length_cons]
    · rintro fault ⟨-, -, hnone⟩
      exact absurd hnone (hP.leaves (hreq packet List.mem_cons_self)).interface_ne

theorem sweeperTurn (h : Sends ifList routingTable P s) (hP : FrameRule ifList Accepts P) :
    Outcome (Sends ifList routingTable P)
      (fun fault => fault = .noPackets ∨ fault = .nullRoute ∨
        ∃ entry ∈ routingTable, srGetInterface ifList entry.interface = none)
      (sweeperTurn s) := by
  have hexpired : Sends ifList routingTable P (s.setCache (expireEntries s.time s.sr.cache)) :=
    ⟨h.ifList_eq, h.routingTable_eq, h.log, h.waiting, h.main⟩
  have hloop : Outcome (fun s' => 0 ≤ s'.requests.length ∧ Sends ifList routingTable P s')
      (fun fault => fault = .noPackets ∨ fault = .nullRoute ∨
        ∃ entry ∈ routingTable, srGetInterface ifList entry.interface = none)
      (Router.sweeperTurn s) := by
    apply sweepLoop_outcome
      (P := fun n s' => n ≤ s'.requests.length ∧ Sends ifList routingTable P s')
    · exact fun n s' h' => h'.1
    · rintro before req after s' - ⟨hlen, h'⟩ -
      exact ⟨by omega, h'⟩
    · rintro before req after s' hreqs ⟨-, h'⟩ - -
      have hreports := @hostUnreachables_outcome _ _ req.packets
        (fun packet _ s'' (h'' : Sends ifList routingTable P s'') =>
          h''.srSendIcmpHostUnreachable hP packet) s' h'
      refine (hreports.and (hostUnreachables_grown req.packets s')).mono ?_ fun fault h => .inr h.1
      rintro s'' ⟨h'', -, hgrown⟩
      rw [hreqs] at hgrown
      obtain ⟨before', req', after', hreqs', -, -, hafter⟩ := hgrown.split
      rw [hafter.length_eq, srArpreqDestroy_eq hreqs']
      obtain ⟨hrest, -⟩ := h''.unlink hreqs' ⟨s''.sr.cache.entries, before' ++ after'⟩ rfl
      refine ⟨?_, hrest.record ?_⟩
      · simp only [State.requests_record, State.requests_setRequests, List.length_append]
        omega
      · refine List.forall_mem_append.mpr ⟨List.forall_mem_map.mpr fun _ _ => trivial, ?_⟩
        exact List.forall_mem_singleton.mpr trivial
    · rintro before req after s' hreqs ⟨hlen, h'⟩ - -
      refine (h'.resend hP hreqs s.time).mono (fun s'' h'' => ⟨?_, h''.2⟩) fun fault => .inl
      omega
    · exact ⟨le_rfl, hexpired⟩
  exact hloop.mono (fun s' h' => h'.2) fun _ h' => h'

theorem step (h : Sends ifList routingTable P s) (hP : FrameRule ifList Accepts P) {act : Act}
    (hacts : ∀ packet interface, act = .receive packet interface → Accepts packet) :
    Outcome (Sends ifList routingTable P) (fun _ => True) (step act s) := by
  cases act with
  | receive packet interface =>
    exact (h.receive hP (hacts packet interface rfl) interface).mono (fun _ => id)
      fun _ _ => trivial
  | main => exact (h.mainStep hP).mono (fun _ => id) fun _ _ => trivial
  | sweep => exact (h.sweeperTurn hP).mono (fun _ => id) fun _ _ => trivial
  | wait usec => exact ⟨h.ifList_eq, h.routingTable_eq, h.log, h.waiting, h.main⟩

theorem srInit (ifList : List SrIf) (routingTable : List SrRt) (P : List UInt8 → String → Prop)
    (now : ℕ) : Sends ifList routingTable P (srInit ifList routingTable now) :=
  ⟨rfl, rfl, fun _ hentry => absurd hentry List.not_mem_nil,
    fun _ hreq => absurd hreq List.not_mem_nil, trivial⟩

theorem runActs (h : Sends ifList routingTable P s) (hP : FrameRule ifList Accepts P)
    {acts : List Act}
    (hacts : ∀ packet interface, .receive packet interface ∈ acts → Accepts packet)
    (hrun : runActs acts s = .ok s') : Sends ifList routingTable P s' := by
  have hrun' : Outcome (Sends ifList routingTable P) (fun _ => True) (Router.runActs acts s) := by
    refine runActs_outcome (fun act hact s₁ h₁ => h₁.step hP fun packet interface heq => ?_) h
    exact hacts packet interface (heq ▸ hact)
  exact hrun'.result hrun

end Sends

/-- That a frame leaves is such a property. -/
theorem frameRule_leaves (ifList : List SrIf) :
    FrameRule ifList (fun packet => etherHdrSize ≤ packet.len) (Leaves ifList) where
  leaves h := h
  arp h hframe := h ▸ leaves_srPrepareArpPacket hframe
  ip message h hhdr := h ▸ leaves_srPrepareIpPacket hhdr message
  forward hlen _ hiface := leaves_forwardedBuf hiface hlen
  dhost mac h := h.overwrite_dhost mac

/-- **No frame is refused**: whatever the router hands to `sr_send_packet` is sent. (A step that
faults leaves no history; what a sweep has sent before it faults is not covered.) -/
theorem nothing_refused (ifList : List SrIf) (routingTable : List SrRt) (now : ℕ) (acts : List Act)
    (hlong : ∀ packet interface, .receive packet interface ∈ acts → etherHdrSize ≤ packet.len)
    (s : State) (hrun : runActs acts (srInit ifList routingTable now) = .ok s) :
    ∀ entry ∈ s.log, entry.Sent (Leaves ifList) :=
  ((Sends.srInit ifList routingTable _ now).runActs (frameRule_leaves ifList) hlong hrun).log

/-- Two packets wait for their next hop. -/
theorem nothing_refused_two_pings :
    ∃ s, runActs twoPings (srInit oneInterface.ifList oneInterface.routingTable 0) = .ok s ∧
      s.log ≠ [] ∧ ∀ entry ∈ s.log, entry.Sent (Leaves oneInterface.ifList) := by
  have hsent := nothing_refused oneInterface.ifList oneInterface.routingTable 0 twoPings
    (by simp [twoPings, pingPacket, Buf.len, etherHdrSize])
  exact ⟨_, rfl, List.cons_ne_nil _ _, hsent _ rfl⟩

/-! ## How the router stops -/

/-- A run that stops does so in one of its steps. -/
theorem runActs_error {acts : List Act} {s : State} {fault : Fault}
    (h : runActs acts s = .error fault) :
    ∃ before act after s', acts = before ++ act :: after ∧ runActs before s = .ok s' ∧
      step act s' = .error fault := by
  induction acts generalizing s with
  | nil => cases h
  | cons act acts ih =>
    rw [runActs] at h
    split at h
    · rename_i hstep
      exact ⟨[], act, acts, s, rfl, rfl, Except.error.inj h ▸ hstep⟩
    · rename_i s₁ hstep
      obtain ⟨before, act', after, s', rfl, hrun, hfault⟩ := ih h
      refine ⟨act :: before, act', after, s', rfl, ?_, hfault⟩
      rw [runActs, hstep]
      exact hrun

theorem ThreadsConsistent.srInit (ifList : List SrIf) (routingTable : List SrRt) (now : ℕ) :
    ThreadsConsistent (srInit ifList routingTable now) :=
  ⟨⟨List.nodup_nil, fun _ _ hi => absurd hi Bool.false_ne_true,
    fun _ hreq => absurd hreq List.not_mem_nil⟩, trivial⟩

theorem ThreadsConsistent.runActs {s s' : State} (h : ThreadsConsistent s) {acts : List Act}
    (hlong : ∀ packet interface, .receive packet interface ∈ acts → etherHdrSize ≤ packet.len)
    (hrun : runActs acts s = .ok s') : ThreadsConsistent s' := by
  have hrun' : Outcome ThreadsConsistent (fun _ => True) (Router.runActs acts s) := by
    refine runActs_outcome (fun act hact s₁ h₁ => ?_) h
    cases act with
    | receive packet interface =>
      have hlen : packet.len ≠ 0 := by
        have hpacket : 14 ≤ packet.len := hlong packet interface hact
        omega
      exact (receive_outcome packet interface s₁).mono (fun s₂ => h₁.received hlen)
        fun _ _ => trivial
    | main => exact (mainStep_outcome s₁).mono (fun s₂ => h₁.mainMove) fun _ _ => trivial
    | sweep => exact h₁.sweeperTurn.mono (fun _ => id) fun _ _ => trivial
    | wait usec => exact ⟨h₁.toCacheConsistent.congr rfl, h₁.main_fits⟩
  exact hrun'.result hrun

/-- **Only a sweep stops the router**, and only one that finds no route to the source of a packet:
of one that waits, or of a message of the router's own. -/
theorem only_sweeps_stop (ifList : List SrIf) (routingTable : List SrRt) (now : ℕ)
    (hverified : srVerifyRoutingTable ifList routingTable = 0) (acts : List Act)
    (hacts : ∀ packet interface, .receive packet interface ∈ acts →
      etherHdrSize ≤ packet.len ∧ srGetInterface ifList interface ≠ none)
    (fault : Fault) (hstop : runActs acts (srInit ifList routingTable now) = .error fault) :
    fault = .nullRoute ∧ ∃ before after s, acts = before ++ .sweep :: after ∧
      runActs before (srInit ifList routingTable now) = .ok s ∧
        ((∃ req ∈ s.requests, ∃ packet ∈ req.packets,
            ¬ Routed routingTable (packet.buf.get32 26)) ∨
          ¬ OwnAddressesRouted ifList routingTable) := by
  obtain ⟨before, act, after, s, rfl, hrun, hfault⟩ := runActs_error hstop
  have hlong : ∀ packet interface, .receive packet interface ∈ before →
      etherHdrSize ≤ packet.len := fun packet interface hmem =>
    (hacts packet interface (List.mem_append_left _ hmem)).1
  have hrule := frameRule_leaves ifList
  have hsends := (Sends.srInit ifList routingTable _ now).runActs hrule hlong hrun
  have hthreads := (ThreadsConsistent.srInit ifList routingTable now).runActs hlong hrun
  have hroutes : ¬ ∃ entry ∈ routingTable, srGetInterface ifList entry.interface = none :=
    fun ⟨entry, hentry, hnone⟩ => srGetInterface_of_verified hverified hentry hnone
  cases act with
  | receive packet interface =>
    obtain ⟨hlen, hknown⟩ := hacts packet interface (List.mem_append_right _ List.mem_cons_self)
    exact absurd ((hsends.receive hrule hlen interface).failure hfault)
      (not_or.mpr ⟨hknown, hroutes⟩)
  | main => exact absurd ((hsends.mainStep hrule).failure hfault) not_false
  | wait usec => cases hfault
  | sweep =>
    have hnull : fault = .nullRoute := by
      rcases (hsends.sweeperTurn hrule).failure hfault with heq | heq | hnone
      · exact absurd heq (hthreads.sweeperTurn.failure hfault)
      · exact heq
      · exact absurd hnone hroutes
    refine ⟨hnull, before, after, s, rfl, hrun, ?_⟩
    by_contra hall
    obtain ⟨hwaiting, hown⟩ := not_or.mp hall
    have hrouted : WaitingRouted ifList routingTable s := by
      refine ⟨hsends.ifList_eq, hsends.routingTable_eq, fun req hreq packet hpacket => ?_⟩
      by_contra hnot
      exact hwaiting ⟨req, hreq, packet, hpacket, hnot⟩
    exact (hrouted.sweeperTurn (not_not.mp hown)).failure hfault hnull

/-- A packet from an address without a route waits, and nobody answers. -/
theorem only_sweeps_stop_stray :
    ∃ before after s, nobodyAnswers strayPacket = before ++ .sweep :: after ∧
      runActs before (srInit oneInterface.ifList oneInterface.routingTable 0) = .ok s ∧
        ((∃ req ∈ s.requests, ∃ packet ∈ req.packets,
            ¬ Routed oneInterface.routingTable (packet.buf.get32 26)) ∨
          ¬ OwnAddressesRouted oneInterface.ifList oneInterface.routingTable) := by
  refine (only_sweeps_stop oneInterface.ifList oneInterface.routingTable 0 (by decide)
    (nobodyAnswers strayPacket) ?_ .nullRoute rfl).2
  intro packet interface hmem
  obtain ⟨rfl, rfl⟩ : packet = strayPacket ∧ interface = "eth1" := by
    simpa [nobodyAnswers] using hmem
  exact ⟨by decide, by decide⟩

end NetworkSim.Router
