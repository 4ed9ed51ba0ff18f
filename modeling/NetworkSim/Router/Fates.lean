import NetworkSim.Router.Forwarding

/-!
# What becomes of a packet that waits

A packet that `sr_forward_packet` put on the queue is found in four places: on the list of a
request, in the hands of the main thread after `sr_arpcache_insert` has unlinked the request, among
the packets that were sent, or among those that were released. Packets are told from each other by
their serial, and for each serial the lists it is on and what the history says about it are followed
through the steps of both threads (`HasFate`).
-/

namespace NetworkSim.Router

/-! ## Where a packet is -/

/-- The waiting packets with the serial `k`, each with the address it waits for. -/
def waitingAt (k : ℕ) (requests : List SrArpreq) : List (UInt32 × SrPacket) :=
  requests.flatMap fun req => (req.packets.filter (·.serial = k)).map (Prod.mk req.ip)

/-- The packets with the serial `k` that the main thread is about to send, with the destination and
the next hop. -/
def heldAt (k : ℕ) : Todo → List (MacAddr × UInt32 × SrPacket)
  | .replySend mac ip packets => (packets.filter (·.serial = k)).map fun packet => (mac, ip, packet)
  | _ => []

/-- The packet that an entry of the history is about. -/
def LogEntry.serial? : LogEntry → Option ℕ
  | .queued packet _ _ => some packet.serial
  | .sentQueued packet _ _ => some packet.serial
  | .hostUnreachable packet => some packet.serial
  | .destroyed packet => some packet.serial
  | _ => none

/-- The history of the packet with the serial `k`. -/
def story (k : ℕ) (log : List LogEntry) : List LogEntry :=
  log.filter fun entry => entry.serial? = some k

@[simp] theorem waitingAt_append (k : ℕ) (requests requests' : List SrArpreq) :
    waitingAt k (requests ++ requests') = waitingAt k requests ++ waitingAt k requests' :=
  List.flatMap_append

@[simp] theorem waitingAt_cons (k : ℕ) (req : SrArpreq) (requests : List SrArpreq) :
    waitingAt k (req :: requests) =
      (req.packets.filter (·.serial = k)).map (Prod.mk req.ip) ++ waitingAt k requests :=
  List.flatMap_cons

@[simp] theorem story_append (k : ℕ) (log log' : List LogEntry) :
    story k (log ++ log') = story k log ++ story k log' := List.filter_append ..

theorem story_of_forall {k : ℕ} {entries : List LogEntry}
    (h : ∀ entry ∈ entries, entry.serial? ≠ some k) : story k entries = [] :=
  List.filter_eq_nil_iff.mpr fun entry hentry => by simpa using h entry hentry

theorem story_map (k : ℕ) {f : SrPacket → LogEntry}
    (hf : ∀ packet, (f packet).serial? = some packet.serial)
    (packets : List SrPacket) :
    story k (packets.map f) = (packets.filter (·.serial = k)).map f := by
  unfold story
  rw [List.filter_map]
  congr 1
  refine List.filter_congr fun packet _ => ?_
  simp [hf]

theorem story_sentAll (k : ℕ) (sr : SrInstance) (mac : MacAddr) (packets : List SrPacket) :
    story k (sentAll sr mac packets) = sentAll sr mac (packets.filter (·.serial = k)) := by
  unfold sentAll
  rw [story, List.filter_reverse, ← story, story_map k fun _ => rfl]

/-- A packet that is queued is found nowhere under another serial. -/
theorem view_queuereq {k : ℕ} {s : State} (hk : k ≠ s.serials) (ip : UInt32) (buf : Buf)
    (iface : String) (transit : Bool) :
    waitingAt k (queuereq ip buf iface transit s).requests = waitingAt k s.requests ∧
      story k (queuereq ip buf iface transit s).log = story k s.log := by
  have hqueue : (SrPacket.mk buf iface s.serials).toQueue.filter (·.serial = k) = [] := by
    refine List.filter_eq_nil_iff.mpr fun packet hpacket => ?_
    rw [mem_toQueue hpacket]
    simpa using hk.symm
  have hstory :
      story k ((SrPacket.mk buf iface s.serials).toQueue.map (.queued · ip transit)) = [] := by
    rw [story_map k fun _ => rfl, hqueue, List.map_nil]
  have hcreated : story k [.created ip] = [] := rfl
  rcases queuereq_cases ip buf iface transit s with
    ⟨-, hreqs, hlog⟩ | ⟨before, req, after, hreqs, -, -, hreqs', hlog⟩
  · rw [hreqs, hlog, waitingAt_cons, hqueue, List.append_cons, story_append, story_append, hstory,
      hcreated]
    exact ⟨rfl, rfl⟩
  · rw [hreqs', hlog, hreqs, story_append, hstory]
    simp [hqueue]

/-- A packet that is queued is found under its own serial. -/
theorem waitingAt_queuereq_self {s : State} (hwaiting : waitingAt s.serials s.requests = [])
    (ip : UInt32) (buf : Buf) (iface : String) (transit : Bool)
    (hqueue : (SrPacket.mk buf iface s.serials).toQueue = [⟨buf, iface, s.serials⟩]) :
    waitingAt s.serials (queuereq ip buf iface transit s).requests =
      [(ip, ⟨buf, iface, s.serials⟩)] := by
  have hfilter : [SrPacket.mk buf iface s.serials].filter (·.serial = s.serials) =
      [⟨buf, iface, s.serials⟩] := List.filter_eq_self.mpr fun packet hpacket => by
    rw [List.mem_singleton.mp hpacket]
    exact decide_eq_true rfl
  rcases queuereq_cases ip buf iface transit s with
    ⟨-, hreqs, -⟩ | ⟨before, req, after, hreqs, -, hip, hreqs', -⟩
  · rw [hreqs, hqueue, waitingAt_cons, hfilter, hwaiting]
    rfl
  · rw [hreqs, waitingAt_append, waitingAt_cons, List.append_eq_nil_iff, List.append_eq_nil_iff,
      List.map_eq_nil_iff] at hwaiting
    obtain ⟨hbefore, hreq, hafter⟩ := hwaiting
    rw [hreqs', hqueue, waitingAt_append, waitingAt_cons, List.filter_append, hfilter, hreq,
      hbefore, hafter, hip]
    rfl

/-! ## Fates -/

/-- What can become of a packet. -/
inductive Fate
  | waiting
  | held
  | sent
  | released

/-- The packet `packet`, queued for the next hop `ip` by `sr_forward_packet`,

* is on one list, that of a request for `ip`,
* or is held by the main thread, to be sent with the MAC of an ARP reply for `ip`,
* or was sent with such a MAC,
* or was released after a host unreachable,

each of them once, and no two of them. -/
def HasFate (s : State) (packet : SrPacket) (ip : UInt32) : Fate → Prop
  | .waiting =>
    waitingAt packet.serial s.requests = [(ip, packet)] ∧ heldAt packet.serial s.main = [] ∧
      story packet.serial s.log = [.queued packet ip true]
  | .held =>
    waitingAt packet.serial s.requests = [] ∧
      (∃ mac, heldAt packet.serial s.main = [(mac, ip, packet)] ∧ .arpReply mac ip ∈ s.log) ∧
      story packet.serial s.log = [.queued packet ip true]
  | .sent =>
    waitingAt packet.serial s.requests = [] ∧ heldAt packet.serial s.main = [] ∧
      ∃ mac sent, story packet.serial s.log =
        [.sentQueued packet mac sent, .queued packet ip true] ∧
        .arpReply mac ip ∈ s.log
  | .released =>
    waitingAt packet.serial s.requests = [] ∧ heldAt packet.serial s.main = [] ∧
      story packet.serial s.log =
        [.destroyed packet, .hostUnreachable packet, .queued packet ip true]

/-- No packet has two fates. -/
theorem HasFate.unique {s : State} {packet : SrPacket} {ip : UInt32} {fate fate' : Fate}
    (h : HasFate s packet ip fate) (h' : HasFate s packet ip fate') : fate = fate' := by
  cases fate <;> cases fate' <;> simp_all [HasFate]

/-- A fate stays while the packet is not moved. -/
theorem HasFate.congr {s s' : State} {packet : SrPacket} {ip : UInt32} {fate : Fate}
    (h : HasFate s packet ip fate)
    (hwaiting : waitingAt packet.serial s'.requests = waitingAt packet.serial s.requests)
    (hheld : heldAt packet.serial s'.main = heldAt packet.serial s.main)
    (hstory : story packet.serial s'.log = story packet.serial s.log)
    (hlog : ∀ entry ∈ s.log, entry ∈ s'.log) : HasFate s' packet ip fate := by
  cases fate with
  | waiting => exact ⟨hwaiting.trans h.1, hheld.trans h.2.1, hstory.trans h.2.2⟩
  | held =>
    obtain ⟨hw, ⟨mac, hh, hmem⟩, hs⟩ := h
    exact ⟨hwaiting.trans hw, ⟨mac, hheld.trans hh, hlog _ hmem⟩, hstory.trans hs⟩
  | sent =>
    obtain ⟨hw, hh, mac, sent, hs, hmem⟩ := h
    exact ⟨hwaiting.trans hw, hheld.trans hh, mac, sent, hstory.trans hs, hlog _ hmem⟩
  | released => exact ⟨hwaiting.trans h.1, hheld.trans h.2.1, hstory.trans h.2.2⟩

/-! ## Unlinking -/

section Unlink

variable {k : ℕ} {before after : List SrArpreq} {req : SrArpreq}

/-- A packet that waits nowhere is not on the list of a request that is unlinked. -/
theorem unlink_of_waitingAt_nil (h : waitingAt k (before ++ req :: after) = []) :
    req.packets.filter (·.serial = k) = [] ∧ waitingAt k (before ++ after) = [] := by
  rw [waitingAt_append, waitingAt_cons, List.append_eq_nil_iff, List.append_eq_nil_iff,
    List.map_eq_nil_iff] at h
  obtain ⟨hbefore, hreq, hafter⟩ := h
  exact ⟨hreq, by rw [waitingAt_append, hbefore, hafter, List.append_nil]⟩

/-- A packet that waits once is on the list of a request that is unlinked, or stays where it is. -/
theorem unlink_of_waitingAt_singleton {ip : UInt32} {packet : SrPacket}
    (h : waitingAt k (before ++ req :: after) = [(ip, packet)]) :
    (req.packets.filter (·.serial = k) = [] ∧ waitingAt k (before ++ after) = [(ip, packet)]) ∨
      (req.packets.filter (·.serial = k) = [packet] ∧ req.ip = ip ∧
        waitingAt k (before ++ after) = []) := by
  rw [waitingAt_append, waitingAt_cons] at h
  rw [waitingAt_append]
  rcases List.append_eq_singleton_iff.mp h with ⟨hbefore, hrest⟩ | ⟨hbefore, hrest⟩
  · rcases List.append_eq_singleton_iff.mp hrest with ⟨hreq, hafter⟩ | ⟨hreq, hafter⟩
    · exact .inl ⟨List.map_eq_nil_iff.mp hreq, by rw [hbefore, hafter, List.nil_append]⟩
    · obtain ⟨other, hother, heq⟩ := List.map_eq_singleton_iff.mp hreq
      obtain ⟨hip, rfl⟩ := Prod.mk.inj heq
      exact .inr ⟨hother, hip, by rw [hbefore, hafter, List.nil_append]⟩
  · obtain ⟨hreq, hafter⟩ := List.append_eq_nil_iff.mp hrest
    exact .inl ⟨List.map_eq_nil_iff.mp hreq, by rw [hbefore, hafter, List.append_nil]⟩

end Unlink

/-! ## The invariant -/

/-- The main thread has a MAC from an ARP reply. -/
def Todo.Told (log : List LogEntry) : Todo → Prop
  | .replyLookup mac ip => .arpReply mac ip ∈ log
  | .replyInsert mac ip => .arpReply mac ip ∈ log
  | .replySend mac ip _ => .arpReply mac ip ∈ log
  | .replyUnlink mac ip => .arpReply mac ip ∈ log
  | _ => True

theorem Todo.Told.mono {log log' : List LogEntry} (hlog : ∀ entry ∈ log, entry ∈ log') {todo : Todo}
    (h : todo.Told log) : todo.Told log' := by
  cases todo with
  | replyLookup mac ip => exact hlog _ h
  | replyInsert mac ip => exact hlog _ h
  | replySend mac ip packets => exact hlog _ h
  | replyUnlink mac ip => exact hlog _ h
  | _ => trivial

/-- Every packet queued by `sr_forward_packet` has a fate. -/
structure Tracked (s : State) : Prop where
  unused : ∀ k, s.serials ≤ k →
    waitingAt k s.requests = [] ∧ heldAt k s.main = [] ∧ story k s.log = []
  told : s.main.Told s.log
  fates : ∀ packet ip, .queued packet ip true ∈ s.log → ∃ fate, HasFate s packet ip fate

namespace Tracked

variable {s s' : State}

theorem mem_story_queued {packet : SrPacket} {ip : UInt32} {log : List LogEntry} :
    .queued packet ip true ∈ story packet.serial log ↔ .queued packet ip true ∈ log := by
  unfold story
  rw [List.mem_filter]
  exact and_iff_left (by simp [LogEntry.serial?])

/-- A step that queues nothing, in which each packet gets a fate from the one it had. -/
theorem advance (h : Tracked s) (hserials : s'.serials = s.serials) (added : List LogEntry)
    (hlog : s'.log = added ++ s.log) (hadded : ∀ packet ip, .queued packet ip true ∉ added)
    (htold : s'.main.Told s'.log)
    (hunused : ∀ k, waitingAt k s.requests = [] → heldAt k s.main = [] →
      waitingAt k s'.requests = [] ∧ heldAt k s'.main = [] ∧ story k added = [])
    (hfates : ∀ packet ip fate, HasFate s packet ip fate → ∃ fate', HasFate s' packet ip fate') :
    Tracked s' := by
  refine ⟨fun k hk => ?_, htold, fun packet ip hmem => ?_⟩
  · obtain ⟨hwaiting, hheld, hstory⟩ := h.unused k (hserials ▸ hk)
    obtain ⟨hwaiting', hheld', hadded'⟩ := hunused k hwaiting hheld
    exact ⟨hwaiting', hheld', by rw [hlog, story_append, hadded', hstory, List.nil_append]⟩
  · rw [hlog] at hmem
    have hold := (List.mem_append.mp hmem).resolve_left (hadded packet ip)
    obtain ⟨fate, hfate⟩ := h.fates packet ip hold
    exact hfates packet ip fate hfate

/-- A step after which every packet is where it was. -/
theorem quiet (h : Tracked s) (hserials : s'.serials = s.serials) (added : List LogEntry)
    (hlog : s'.log = added ++ s.log) (hadded : ∀ entry ∈ added, entry.serial? = none)
    (htold : s'.main.Told s'.log)
    (hwaiting : ∀ k, waitingAt k s'.requests = waitingAt k s.requests)
    (hheld : ∀ k, heldAt k s'.main = heldAt k s.main) : Tracked s' := by
  have hstory (k : ℕ) : story k s'.log = story k s.log := by
    rw [hlog, story_append, story_of_forall, List.nil_append]
    intro entry hentry
    rw [hadded entry hentry]
    exact (Option.some_ne_none k).symm
  have hmono (entry : LogEntry) (hentry : entry ∈ s.log) : entry ∈ s'.log := by
    rw [hlog]
    exact List.mem_append_right added hentry
  refine h.advance hserials added hlog (fun packet ip hmem => ?_) htold (fun k hw hh => ?_) ?_
  · exact absurd (hadded _ hmem) (Option.some_ne_none _)
  · refine ⟨(hwaiting k).trans hw, (hheld k).trans hh, story_of_forall fun entry hentry => ?_⟩
    rw [hadded entry hentry]
    exact (Option.some_ne_none k).symm
  · intro packet ip fate hfate
    exact ⟨fate, hfate.congr (hwaiting _) (hheld _) (hstory _) hmono⟩

theorem received {packet : Buf} (h : Tracked s) (hreceived : Received packet s s') :
    Tracked s' := by
  cases hreceived with
  | ignored => exact h
  | answered hidle buf iface sent =>
    refine h.quiet rfl [_] rfl (List.forall_mem_singleton.mpr rfl) ?_ (fun _ => rfl) fun _ => rfl
    exact h.told.mono fun entry => List.mem_cons_of_mem _
  | reply hidle mac ip =>
    refine h.quiet rfl [_] rfl (List.forall_mem_singleton.mpr rfl) List.mem_cons_self
      (fun _ => rfl) fun _ => ?_
    rw [hidle]
    rfl
  | forward hidle entry iface hroute hiface =>
    refine h.quiet rfl [] rfl (fun _ h => absurd h List.not_mem_nil) trivial (fun _ => rfl)
      fun _ => ?_
    rw [hidle]
    rfl

/-- A step of the main thread between two critical sections that moves no packet. -/
theorem move (h : Tracked s) {todo : Todo} (htold : todo.Told s.log)
    (hheld : ∀ k, heldAt k todo = heldAt k s.main) : Tracked { s with main := todo } :=
  h.quiet rfl [] rfl (fun _ h => absurd h List.not_mem_nil) htold (fun _ => rfl) hheld

/-- The request for an ARP reply is unlinked. -/
theorem insertUnlink (h : Tracked s) {mac : MacAddr} {ip : UInt32} {before after : List SrArpreq}
    {req : SrArpreq} (hmain : s.main = .replyInsert mac ip)
    (hreqs : s.requests = before ++ req :: after) (hip : req.ip = ip)
    (entries : Fin srArpcacheSz → SrArpentry) :
    Tracked { s.setCache ⟨entries, before ++ after⟩ with
      main := .replySend mac ip req.packets } := by
  have htold : .arpReply mac ip ∈ s.log := by
    have htold := h.told
    rw [hmain] at htold
    exact htold
  have hidle (k : ℕ) : heldAt k s.main = [] := by
    rw [hmain]
    rfl
  refine h.advance rfl [] rfl (fun _ _ => List.not_mem_nil) htold (fun k hw _ => ?_) ?_
  · rw [hreqs] at hw
    obtain ⟨hreq, hrest⟩ := unlink_of_waitingAt_nil hw
    exact ⟨hrest, List.map_eq_nil_iff.mpr hreq, rfl⟩
  · intro packet ip' fate hfate
    cases fate with
    | waiting =>
      obtain ⟨hw, -, hs⟩ := hfate
      rw [hreqs] at hw
      rcases unlink_of_waitingAt_singleton hw with ⟨hreq, hrest⟩ | ⟨hreq, hip', hrest⟩
      · exact ⟨.waiting, hrest, List.map_eq_nil_iff.mpr hreq, hs⟩
      · obtain rfl : ip = ip' := hip.symm.trans hip'
        exact ⟨.held, hrest, ⟨mac, List.map_eq_singleton_iff.mpr ⟨packet, hreq, rfl⟩, htold⟩, hs⟩
    | held =>
      obtain ⟨-, ⟨mac', hh, -⟩, -⟩ := hfate
      rw [hidle] at hh
      exact absurd hh.symm (List.cons_ne_nil _ _)
    | sent =>
      obtain ⟨hw, -, hs⟩ := hfate
      rw [hreqs] at hw
      obtain ⟨hreq, hrest⟩ := unlink_of_waitingAt_nil hw
      exact ⟨.sent, hrest, List.map_eq_nil_iff.mpr hreq, hs⟩
    | released =>
      obtain ⟨hw, -, hs⟩ := hfate
      rw [hreqs] at hw
      obtain ⟨hreq, hrest⟩ := unlink_of_waitingAt_nil hw
      exact ⟨.released, hrest, List.map_eq_nil_iff.mpr hreq, hs⟩

/-- The main thread sends a packet that it holds. -/
theorem send (h : Tracked s) {mac : MacAddr} {ip : UInt32} {packet : SrPacket}
    {packets : List SrPacket} (hmain : s.main = .replySend mac ip (packet :: packets))
    (sent : Bool) :
    Tracked { s.record [.sentQueued packet mac sent] with main := .replySend mac ip packets } := by
  have htold : .arpReply mac ip ∈ s.log := by
    have htold := h.told
    rw [hmain] at htold
    exact htold
  have hheld (k : ℕ) : heldAt k s.main =
      if packet.serial = k then (mac, ip, packet) :: heldAt k (.replySend mac ip packets)
      else heldAt k (.replySend mac ip packets) := by
    rw [hmain]
    simp only [heldAt, List.filter_cons, decide_eq_true_eq]
    split <;> rfl
  have hstory (k : ℕ) : story k [.sentQueued packet mac sent] =
      if packet.serial = k then [.sentQueued packet mac sent] else [] := by
    unfold story
    rw [List.filter_singleton]
    simp [LogEntry.serial?]
  refine h.advance rfl [_] rfl (fun _ _ hmem => ?_) (List.mem_cons_of_mem _ htold)
    (fun k hw hh => ?_) ?_
  · cases List.mem_singleton.mp hmem
  · rw [hheld] at hh
    rw [hstory]
    split at hh
    · exact absurd hh (List.cons_ne_nil _ _)
    · exact ⟨hw, hh, by rw [if_neg ‹_›]⟩
  · intro other ip' fate hfate
    have hlog : story other.serial (State.log { s.record [.sentQueued packet mac sent] with
        main := .replySend mac ip packets }) =
        story other.serial [.sentQueued packet mac sent] ++ story other.serial s.log :=
      story_append ..
    by_cases heq : packet.serial = other.serial
    · have hheld' := hheld other.serial
      have hstory' := hstory other.serial
      rw [if_pos heq] at hheld' hstory'
      cases fate with
      | held =>
        obtain ⟨hw, ⟨mac', hh, -⟩, hs⟩ := hfate
        rw [hheld'] at hh
        obtain ⟨hpacket, hrest⟩ := List.cons.inj hh
        obtain ⟨rfl, rfl, rfl⟩ : mac = mac' ∧ ip = ip' ∧ packet = other := by simpa using hpacket
        refine ⟨.sent, hw, hrest, mac, sent, ?_, List.mem_cons_of_mem _ htold⟩
        rw [hlog, hstory', hs]
        rfl
      | waiting => exact absurd (hheld'.symm.trans hfate.2.1) (List.cons_ne_nil _ _)
      | sent => exact absurd (hheld'.symm.trans hfate.2.1) (List.cons_ne_nil _ _)
      | released => exact absurd (hheld'.symm.trans hfate.2.1) (List.cons_ne_nil _ _)
    · have hheld' := hheld other.serial
      rw [if_neg heq] at hheld'
      rw [hstory, if_neg heq, List.nil_append] at hlog
      exact ⟨fate, hfate.congr rfl hheld'.symm hlog fun _ => List.mem_cons_of_mem _⟩

/-- The request for an ARP reply is unlinked, and its packets are sent. -/
theorem unlink (h : Tracked s) {mac : MacAddr} {ip : UInt32} {before after : List SrArpreq}
    {req : SrArpreq} (hmain : s.main = .replyUnlink mac ip)
    (hreqs : s.requests = before ++ req :: after) (hip : req.ip = ip) :
    Tracked { (s.setRequests (before ++ after)).record (sentAll s.sr mac req.packets) with
      main := .idle } := by
  have htold : .arpReply mac ip ∈ s.log := by
    have htold := h.told
    rw [hmain] at htold
    exact htold
  have hidle (k : ℕ) : heldAt k s.main = [] := by
    rw [hmain]
    rfl
  have hnone {k : ℕ} (hreq : req.packets.filter (·.serial = k) = []) :
      story k (sentAll s.sr mac req.packets) = [] := by
    rw [story_sentAll, hreq]
    rfl
  have hlog (k : ℕ) : story k (sentAll s.sr mac req.packets ++ s.log) =
      story k (sentAll s.sr mac req.packets) ++ story k s.log := story_append ..
  refine h.advance rfl (sentAll s.sr mac req.packets) rfl (fun packet ip' hmem => ?_) trivial
    (fun k hw _ => ?_) fun packet ip' fate hfate => ?_
  · exact forall_mem_sentAll (p := fun entry => entry ≠ .queued packet ip' true)
      (fun _ _ _ => LogEntry.noConfusion) _ hmem rfl
  · rw [hreqs] at hw
    obtain ⟨hreq, hrest⟩ := unlink_of_waitingAt_nil hw
    exact ⟨hrest, rfl, hnone hreq⟩
  · have hstay (hreq : req.packets.filter (·.serial = packet.serial) = [])
        (hrest : waitingAt packet.serial (before ++ after) = waitingAt packet.serial s.requests) :
        HasFate { (s.setRequests (before ++ after)).record (sentAll s.sr mac req.packets) with
          main := .idle } packet ip' fate := by
      refine hfate.congr hrest (hidle _).symm ?_ fun _ => List.mem_append_right _
      rw [State.log_record, State.log_setRequests, hlog, hnone hreq]
      rfl
    cases fate with
    | waiting =>
      have hw := hfate.1
      rw [hreqs] at hw
      rcases unlink_of_waitingAt_singleton hw with ⟨hreq, hrest⟩ | ⟨hreq, hip', hrest⟩
      · exact ⟨.waiting, hstay hreq (hrest.trans hfate.1.symm)⟩
      · obtain rfl : ip = ip' := hip.symm.trans hip'
        refine ⟨.sent, hrest, rfl, mac,
          srSendPacket s.sr (packet.sentTo mac) packet.iface,
          ?_, List.mem_append_right _ htold⟩
        rw [State.log_record, State.log_setRequests, hlog, story_sentAll, hreq, hfate.2.2]
        rfl
    | held =>
      obtain ⟨-, ⟨mac', hh, -⟩, -⟩ := hfate
      rw [hidle] at hh
      exact absurd hh.symm (List.cons_ne_nil _ _)
    | sent =>
      have hw := hfate.1
      rw [hreqs] at hw
      obtain ⟨hreq, hrest⟩ := unlink_of_waitingAt_nil hw
      exact ⟨.sent, hstay hreq (hrest.trans hfate.1.symm)⟩
    | released =>
      have hw := hfate.1
      rw [hreqs] at hw
      obtain ⟨hreq, hrest⟩ := unlink_of_waitingAt_nil hw
      exact ⟨.released, hstay hreq (hrest.trans hfate.1.symm)⟩

/-- `sr_forward_packet` queues a packet. -/
theorem queue (h : Tracked s) {ip : UInt32} {buf : Buf} {iface : String}
    (hmain : s.main = .forwardQueue ip buf iface) :
    Tracked { queuereq ip buf iface true s with main := .forwardRequest ip iface } := by
  have hidle (k : ℕ) : heldAt k s.main = [] := by
    rw [hmain]
    rfl
  obtain ⟨hwaiting, -, hstory⟩ := h.unused s.serials le_rfl
  obtain ⟨created, hlog, hcreated⟩ := log_queuereq ip buf iface true s
  have hcreated' : story s.serials created = [] := by
    refine story_of_forall fun entry hentry => ?_
    rw [hcreated entry hentry]
    exact (Option.some_ne_none _).symm
  refine ⟨fun k hk => ?_, trivial, fun packet ip' hmem => ?_⟩
  · have hk' : s.serials < k := hk
    obtain ⟨hw, hs⟩ := view_queuereq hk'.ne' ip buf iface true
    obtain ⟨hw', -, hs'⟩ := h.unused k hk'.le
    exact ⟨hw.trans hw', rfl, hs.trans hs'⟩
  · by_cases hserial : packet.serial = s.serials
    · -- no entry of the history is about a packet with the next serial
      have hnew : packet ∈ (SrPacket.mk buf iface s.serials).toQueue ∧ ip' = ip := by
        rw [hlog, List.mem_append, List.mem_append] at hmem
        rcases hmem with hmem | hmem | hmem
        · obtain ⟨other, hother, heq⟩ := List.mem_map.mp hmem
          obtain ⟨rfl, rfl, -⟩ := LogEntry.queued.inj heq
          exact ⟨hother, rfl⟩
        · cases hcreated _ hmem
        · rw [← mem_story_queued, hserial, hstory] at hmem
          exact absurd hmem List.not_mem_nil
      obtain ⟨hqueued, rfl⟩ := hnew
      obtain rfl := mem_toQueue hqueued
      have hqueue := (toQueue_cases ⟨buf, iface, s.serials⟩).resolve_right
        (List.ne_nil_of_mem hqueued)
      have hfilter : [SrPacket.mk buf iface s.serials].filter (·.serial = s.serials) =
          [⟨buf, iface, s.serials⟩] := List.filter_eq_self.mpr fun packet hpacket => by
        rw [List.mem_singleton.mp hpacket]
        exact decide_eq_true rfl
      refine ⟨.waiting, waitingAt_queuereq_self hwaiting ip' buf iface true hqueue, rfl, ?_⟩
      change story s.serials (queuereq ip' buf iface true s).log = _
      rw [hlog, story_append, story_append, hcreated', hstory, hqueue, story_map _ fun _ => rfl,
        hfilter]
      rfl
    · obtain ⟨hw, hs⟩ := view_queuereq hserial ip buf iface true
      have hold : .queued packet ip' true ∈ s.log := by
        rw [← mem_story_queued, ← hs, mem_story_queued]
        exact hmem
      obtain ⟨fate, hfate⟩ := h.fates packet ip' hold
      refine ⟨fate, hfate.congr hw (hidle _).symm hs fun entry hentry => ?_⟩
      rw [hlog]
      exact List.mem_append_right _ (List.mem_append_right _ hentry)

theorem mainMove (h : Tracked s) (hmove : MainMove s s') : Tracked s' := by
  have htold := h.told
  cases hmove with
  | idle hmain => exact h
  | replyUnknown mac ip hmain hunknown =>
    rw [hmain] at htold
    exact h.move htold fun k => by rw [hmain]; rfl
  | replyKnown mac ip hmain =>
    rw [hmain] at htold
    exact h.move htold fun k => by rw [hmain]; rfl
  | insert mac ip hmain hno =>
    exact h.quiet rfl [] rfl (fun _ h => absurd h List.not_mem_nil) trivial (fun _ => rfl)
      fun k => by rw [hmain]; rfl
  | insertUnlink mac ip before req after hmain hreqs hip =>
    exact h.insertUnlink hmain hreqs hip _
  | sent mac ip hmain => exact h.move trivial fun k => by rw [hmain]; rfl
  | send mac ip packet packets sent hmain => exact h.send hmain sent
  | unlinkNone mac ip hmain => exact h.move trivial fun k => by rw [hmain]; rfl
  | unlink mac ip before req after hmain hreqs hip => exact h.unlink hmain hreqs hip
  | forwardUnknown nextHopIp buf iface hmain hunknown =>
    exact h.move trivial fun k => by rw [hmain]; rfl
  | forwardKnown nextHopIp mac buf iface hmain => exact h.move trivial fun k => by rw [hmain]; rfl
  | queue nextHopIp buf iface hmain => exact h.queue hmain
  | request nextHopIp iface packet sent hmain =>
    exact h.quiet rfl [_] rfl (List.forall_mem_singleton.mpr rfl) trivial (fun _ => rfl)
      fun k => by rw [hmain]; rfl
  | forward mac buf iface sent hmain =>
    exact h.quiet rfl [_] rfl (List.forall_mem_singleton.mpr rfl) trivial (fun _ => rfl)
      fun k => by rw [hmain]; rfl

end Tracked

/-! ## The sweep -/

/-- What the reports of some packets do to the packet with the serial `k`, if it is one of those
before or of none of those after. -/
def Reports (packets : List SrPacket) (s s' : State) : Prop :=
  Frame s s' ∧ Grown s.serials s.requests s'.requests ∧
    ∀ k, k < s.serials ∨ s'.serials ≤ k →
      waitingAt k s'.requests = waitingAt k s.requests ∧
        story k s'.log =
          ((packets.filter (·.serial = k)).map .hostUnreachable).reverse ++ story k s.log

theorem reports_of_reported {packet : SrPacket} {s s' : State} {entry : SrRt} {iface : SrIf}
    (h : Reported packet s entry iface s') : Reports [packet] s s' := by
  refine ⟨.reported h, grown_of_reported h, fun k hk => ?_⟩
  have hreport : story k [LogEntry.hostUnreachable packet] =
      (([packet].filter (·.serial = k)).map .hostUnreachable).reverse := by
    by_cases hpacket : packet.serial = k <;> simp [story, LogEntry.serial?, hpacket]
  rw [← hreport]
  cases h with
  | queued buf hmessage hunknown request sent =>
    have hne : k ≠ s.serials := by
      have hserials : k < s.serials ∨ s.serials + 1 ≤ k := hk
      omega
    have hview := view_queuereq (s := s.record [.hostUnreachable packet]) hne entry.gw
      ⟨buf, fun _ => 0⟩ entry.interface false
    rw [State.log_record, story_append] at hview
    exact hview
  | answered buf hmessage sent => exact ⟨rfl, story_append k [.hostUnreachable packet] s.log⟩

theorem Reports.cons {packet : SrPacket} {packets : List SrPacket} {s s₁ s₂ : State}
    (h : Reports [packet] s s₁) (h' : Reports packets s₁ s₂) :
    Reports (packet :: packets) s s₂ := by
  obtain ⟨hframe, hgrown, hview⟩ := h
  obtain ⟨hframe', hgrown', hview'⟩ := h'
  refine ⟨hframe.trans hframe', hgrown.trans hframe.serials_le hgrown', fun k hk => ?_⟩
  have hserials := hframe.serials_le
  have hserials' := hframe'.serials_le
  obtain ⟨hw, hs⟩ := hview k (by omega)
  obtain ⟨hw', hs'⟩ := hview' k (by omega)
  refine ⟨hw'.trans hw, ?_⟩
  rw [hs', hs, ← List.append_assoc, ← List.reverse_append, ← List.map_append, ← List.filter_append,
    List.singleton_append]

theorem hostUnreachables_reports (packets : List SrPacket) (s : State) :
    Outcome (Reports packets s) (fun _ => True) (hostUnreachables packets s) := by
  induction packets generalizing s with
  | nil => exact ⟨.refl s, .refl .., fun k _ => ⟨rfl, rfl⟩⟩
  | cons packet packets ih =>
    have hpacket : Outcome (Reports [packet] s) (fun _ => True)
        (srSendIcmpHostUnreachable packet s) := by
      refine (srSendIcmpHostUnreachable_outcome packet s).mono ?_ fun _ _ => trivial
      rintro s₁ ⟨entry, iface, -, -, hreported⟩
      exact reports_of_reported hreported
    rw [hostUnreachables_cons]
    exact hpacket.bind fun s₁ h₁ => (ih s₁).mono (fun s₂ => h₁.cons) fun _ h => h

namespace Tracked

variable {s s' : State}

/-- The sweep gives up a request: its packets are reported, and all that are on its list then are
released. -/
theorem giveUp (h : Tracked s) {before after : List SrArpreq} {req : SrArpreq}
    (hreqs : s.requests = before ++ req :: after) (hreports : Reports req.packets s s') :
    Tracked (srArpreqDestroy after.length s') := by
  obtain ⟨hframe, hgrown, hview⟩ := hreports
  rw [hreqs] at hgrown
  obtain ⟨before', req', after', hreqs', -, hgrows, hafter⟩ := hgrown.split
  obtain ⟨more, hmore, hnew⟩ := hgrows.packets_eq
  rw [hafter.length_eq, srArpreqDestroy_eq hreqs']
  -- a packet from before the reports is on the list if it was there then
  have hsame {k : ℕ} (hk : k < s.serials) :
      req'.packets.filter (·.serial = k) = req.packets.filter (·.serial = k) := by
    have hnone : more.filter (·.serial = k) = [] := by
      refine List.filter_eq_nil_iff.mpr fun packet hpacket => ?_
      have hle := hnew packet hpacket
      simp only [decide_eq_true_eq]
      omega
    rw [hmore, List.filter_append, hnone, List.nil_append]
  have hdestroyed (k : ℕ) : story k (req'.packets.map .destroyed ++ [.gaveUp req'.ip]) =
      (req'.packets.filter (·.serial = k)).map .destroyed := by
    rw [story_append, story_map k fun _ => rfl]
    exact List.append_nil _
  obtain ⟨new, hlog, hsweep⟩ := hframe.log_eq
  have hmono (entry : LogEntry) (hentry : entry ∈ s.log) :
      entry ∈ req'.packets.map .destroyed ++ [.gaveUp req'.ip] ++ s'.log := by
    rw [hlog]
    exact List.mem_append_right _ (List.mem_append_right new hentry)
  refine ⟨fun k hk => ?_, ?_, fun packet ip hmem => ?_⟩
  · obtain ⟨hwaiting, hheld, hstory⟩ := h.unused k (hframe.serials_le.trans hk)
    obtain ⟨hw, hs⟩ := hview k (.inr hk)
    rw [hwaiting, hreqs'] at hw
    rw [hreqs] at hwaiting
    rw [(unlink_of_waitingAt_nil hwaiting).1, hstory] at hs
    obtain ⟨hreq', hrest⟩ := unlink_of_waitingAt_nil hw
    refine ⟨hrest, (congrArg (heldAt k) hframe.main_eq).trans hheld, ?_⟩
    rw [State.log_record, story_append, hdestroyed, hreq', State.log_setRequests, hs]
    rfl
  · change s'.main.Told _
    rw [hframe.main_eq]
    exact h.told.mono hmono
  · have hold : .queued packet ip true ∈ s.log := by
      rcases List.mem_append.mp hmem with hmem | hmem
      · rcases List.mem_append.mp hmem with hmem | hmem
        · obtain ⟨_, _, heq⟩ := List.mem_map.mp hmem
          cases heq
        · cases List.mem_singleton.mp hmem
      · rw [State.log_setRequests, hlog] at hmem
        rcases List.mem_append.mp hmem with hmem | hmem
        · cases (hsweep _ hmem : true = false)
        · exact hmem
    obtain ⟨fate, hfate⟩ := h.fates packet ip hold
    have hlt : packet.serial < s.serials := by
      by_contra hge
      have hstory := (h.unused packet.serial (not_lt.mp hge)).2.2
      rw [← mem_story_queued, hstory] at hold
      exact absurd hold List.not_mem_nil
    obtain ⟨hw, hs⟩ := hview packet.serial (.inl hlt)
    have hstay (hreq : req.packets.filter (·.serial = packet.serial) = [])
        (hrest : waitingAt packet.serial (before' ++ after') =
          waitingAt packet.serial s'.requests) :
        HasFate ((s'.setRequests (before' ++ after')).record
          (req'.packets.map .destroyed ++ [.gaveUp req'.ip])) packet ip fate := by
      refine hfate.congr (hrest.trans hw) (congrArg _ hframe.main_eq) ?_ hmono
      rw [State.log_record, story_append, hdestroyed, hsame hlt, State.log_setRequests, hs, hreq]
      rfl
    have hgone (hwaiting : waitingAt packet.serial s.requests = []) :
        ∃ fate', HasFate ((s'.setRequests (before' ++ after')).record
          (req'.packets.map .destroyed ++ [.gaveUp req'.ip])) packet ip fate' := by
      rw [hwaiting, hreqs'] at hw
      rw [hreqs] at hwaiting
      refine ⟨fate, hstay (unlink_of_waitingAt_nil hwaiting).1 ?_⟩
      rw [(unlink_of_waitingAt_nil hw).2, hreqs', hw]
    cases fate with
    | waiting =>
      rw [hfate.1, hreqs'] at hw
      rcases unlink_of_waitingAt_singleton hw with ⟨hreq', hrest⟩ | ⟨hreq', -, hrest⟩
      · refine ⟨.waiting, hstay ((hsame hlt).symm.trans hreq') ?_⟩
        rw [hrest, hreqs', hw]
      · refine ⟨.released, hrest, (congrArg _ hframe.main_eq).trans hfate.2.1, ?_⟩
        rw [State.log_record, story_append, hdestroyed, hreq', State.log_setRequests, hs,
          ← hsame hlt, hreq', hfate.2.2]
        rfl
    | held => exact hgone hfate.1
    | sent => exact hgone hfate.1
    | released => exact hgone hfate.1

theorem sweeperTurn (h : Tracked s) : Outcome Tracked (fun _ => True) (sweeperTurn s) := by
  have hexpired : Tracked (s.setCache (expireEntries s.time s.sr.cache)) :=
    h.quiet rfl [] rfl (fun _ h => absurd h List.not_mem_nil) h.told (fun _ => rfl) fun _ => rfl
  have hloop : Outcome (fun s => 0 ≤ s.requests.length ∧ Tracked s) (fun _ => True)
      (Router.sweeperTurn s) := by
    apply sweepLoop_outcome (P := fun n s => n ≤ s.requests.length ∧ Tracked s)
    · exact fun n s h => h.1
    · rintro before req after s' - ⟨hlen, h'⟩ -
      exact ⟨by omega, h'⟩
    · rintro before req after s' hreqs ⟨-, h'⟩ - -
      refine (hostUnreachables_reports req.packets s').mono (fun s'' hreports => ?_) fun _ h => h
      refine ⟨?_, h'.giveUp hreqs hreports⟩
      have hgrown := hreports.2.1
      rw [hreqs] at hgrown
      obtain ⟨before', req', after', hreqs', -, -, hafter⟩ := hgrown.split
      rw [hafter.length_eq, srArpreqDestroy_eq hreqs']
      simp only [State.requests_record, State.requests_setRequests, List.length_append]
      omega
    · rintro before req after s' hreqs ⟨-, h'⟩ - -
      refine (resend_outcome s.time before after req s').mono ?_ fun _ _ => trivial
      rintro s'' ⟨packet, sent, rfl⟩
      refine ⟨?_, h'.quiet rfl [_] rfl (List.forall_mem_singleton.mpr rfl)
        (h'.told.mono fun entry => List.mem_cons_of_mem _) (fun k => ?_) fun _ => rfl⟩
      · simp only [State.requests_record, State.requests_setRequests, List.length_append,
          List.length_cons]
        omega
      · simp only [State.requests_record, State.requests_setRequests, hreqs, waitingAt_append,
          waitingAt_cons]
    · exact ⟨le_rfl, hexpired⟩
  exact hloop.mono (fun s h => h.2) fun fault h => h

end Tracked

/-- **No packet is lost or handled twice while it waits**: in every state that is reached, a packet
that `sr_forward_packet` has queued has one of the four fates, and only one. -/
theorem queued_packet_has_one_fate (ifList : List SrIf) (routingTable : List SrRt) (now : ℕ)
    (acts : List Act) (s : State) (hs : runActs acts (srInit ifList routingTable now) = .ok s)
    (packet : SrPacket) (ip : UInt32) (hqueued : .queued packet ip true ∈ s.log) :
    ∃! fate, HasFate s packet ip fate := by
  have hinit : Tracked (srInit ifList routingTable now) :=
    ⟨fun _ _ => ⟨rfl, rfl, rfl⟩, trivial, fun _ _ h => absurd h List.not_mem_nil⟩
  have hrun : Outcome Tracked (fun _ => True) (runActs acts (srInit ifList routingTable now)) := by
    refine runActs_outcome (fun act _ s h => ?_) hinit
    cases act with
    | receive packet interface =>
      exact (receive_outcome packet interface s).mono (fun s' => h.received) fun _ _ => trivial
    | main => exact (mainStep_outcome s).mono (fun s' => h.mainMove) fun _ _ => trivial
    | sweep => exact h.sweeperTurn
    | wait usec =>
      exact h.quiet rfl [] rfl (fun _ h => absurd h List.not_mem_nil) h.told (fun _ => rfl)
        fun _ => rfl
  obtain ⟨fate, hfate⟩ := (hrun.result hs).fates packet ip hqueued
  exact ⟨fate, hfate, fun fate' hfate' => hfate'.unique hfate⟩

/-- A ping is forwarded to 10.0.0.2, which is not known, and then its ARP reply comes in. -/
def pingThenReply : List Act :=
  [.receive (pingPacket 64 0x66 0xdd) "eth1", .main, .main, .main,
    .receive ⟨[2, 0, 0, 0, 0, 1, 2, 0, 0, 0, 0, 2, 8, 6, 0, 1, 8, 0, 6, 4, 0, 2, 2, 0, 0, 0, 0, 2,
      10, 0, 0, 2, 2, 0, 0, 0, 0, 1, 10, 0, 0, 1], fun _ => 0⟩ "eth1", .main, .main]

/-- The packet that is queued. -/
def queuedPing : SrPacket :=
  ⟨forwardedBuf (pingPacket 64 0x66 0xdd) ownMac, "eth1", 0⟩

theorem queued_packet_has_one_fate_ping :
    ∃ s, runActs pingThenReply (srInit oneInterface.ifList oneInterface.routingTable 0) = .ok s ∧
      ∃! fate, HasFate s queuedPing 0x0a000002 fate := by
  refine ⟨_, rfl, queued_packet_has_one_fate oneInterface.ifList oneInterface.routingTable 0
    pingThenReply _ rfl queuedPing 0x0a000002 ?_⟩
  exact List.mem_cons_of_mem _ (List.mem_cons_of_mem _ List.mem_cons_self)

/-- While the main thread holds the packet, it is on no list, not sent and not released. -/
theorem held_packet_in_no_place :
    ∃ s, runActs pingThenReply (srInit oneInterface.ifList oneInterface.routingTable 0) = .ok s ∧
      .queued queuedPing 0x0a000002 true ∈ s.log ∧ ¬ HasFate s queuedPing 0x0a000002 .waiting ∧
      ¬ HasFate s queuedPing 0x0a000002 .sent ∧ ¬ HasFate s queuedPing 0x0a000002 .released := by
  refine ⟨_, rfl, List.mem_cons_of_mem _ (List.mem_cons_of_mem _ List.mem_cons_self), ?_, ?_, ?_⟩
  · rintro ⟨hwaiting, -⟩
    exact absurd hwaiting.symm (List.cons_ne_nil _ _)
  · rintro ⟨-, hheld, -⟩
    exact absurd hheld (List.cons_ne_nil _ _)
  · rintro ⟨-, hheld, -⟩
    exact absurd hheld (List.cons_ne_nil _ _)

end NetworkSim.Router
