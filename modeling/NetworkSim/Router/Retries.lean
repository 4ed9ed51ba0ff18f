import NetworkSim.Router.Forwarding

/-!
# Retries of ARP requests

Up to five ARP requests are sent for a pending request, a second apart, and then it is given up.
`sr_forward_packet` sends the first of them and the sweep the others, and only the sweep takes note
of it. The count comes out right (`retries_disciplined`) when whoever sends the first ARP request
for a next hop also makes the pending request, and nobody else sends one before the sweep is due.
-/

namespace NetworkSim.Router

/-! ## Disciplined histories -/

/-- The times at which ARP requests for `ip` were sent since the latest pending request for it was
made, with the latest first. -/
def requestTimes (ip : UInt32) : List LogEntry → List ℕ
  | [] => []
  | .created ip' :: log => if ip' = ip then [] else requestTimes ip log
  | .arpRequest ip' time _ _ :: log =>
    if ip' = ip then time :: requestTimes ip log else requestTimes ip log
  | _ :: log => requestTimes ip log

/-- The retry discipline, in all the history: for a pending request at most five ARP requests are
sent, any two of them a second apart; five have been sent when it is given up, and when a host
unreachable goes out for a packet that was queued on it. -/
structure RetryDiscipline (log : List LogEntry) : Prop where
  atMostFive : ∀ older ip, older <:+ log → (requestTimes ip older).length ≤ 5
  apart : ∀ older ip, older <:+ log →
    (requestTimes ip older).Pairwise fun later earlier => earlier + 1000000 ≤ later
  gaveUp : ∀ older ip, .gaveUp ip :: older <:+ log → (requestTimes ip older).length = 5
  reported : ∀ older packet, .hostUnreachable packet :: older <:+ log →
    ∃ ip transit, .queued packet ip transit ∈ older ∧ (requestTimes ip older).length = 5

/-- What an entry of a disciplined history comes after. -/
def LogEntry.Disciplined (older : List LogEntry) : LogEntry → Prop
  | .arpRequest ip time _ _ =>
    (requestTimes ip older).length < 5 ∧ ∀ earlier ∈ requestTimes ip older, earlier + 1000000 ≤ time
  | .gaveUp ip => (requestTimes ip older).length = 5
  | .hostUnreachable packet =>
    ∃ ip transit, .queued packet ip transit ∈ older ∧ (requestTimes ip older).length = 5
  | _ => True

/-- An entry that has nothing to do with retries. -/
def LogEntry.Quiet : LogEntry → Prop
  | .created _ => False
  | .arpRequest .. => False
  | .gaveUp _ => False
  | .hostUnreachable _ => False
  | _ => True

theorem LogEntry.Quiet.disciplined {entry : LogEntry} (h : entry.Quiet) (older : List LogEntry) :
    entry.Disciplined older := by
  cases entry <;> trivial

theorem requestTimes_of_quiet {added : List LogEntry} (h : ∀ entry ∈ added, entry.Quiet)
    (ip : UInt32) (log : List LogEntry) : requestTimes ip (added ++ log) = requestTimes ip log := by
  induction added with
  | nil => rfl
  | cons entry added ih =>
    obtain ⟨hentry, hadded⟩ := List.forall_mem_cons.mp h
    rw [List.cons_append, ← ih hadded]
    cases entry <;> first | rfl | cases hentry

section RequestTimes

variable {ip ip' : UInt32} (time : ℕ) (packet : List UInt8) (sent : Bool) (log : List LogEntry)

theorem requestTimes_created_self : requestTimes ip (.created ip :: log) = [] := if_pos rfl

theorem requestTimes_created_of_ne (h : ip' ≠ ip) :
    requestTimes ip (.created ip' :: log) = requestTimes ip log := if_neg h

theorem requestTimes_arpRequest_self :
    requestTimes ip (.arpRequest ip time packet sent :: log) = time :: requestTimes ip log :=
  if_pos rfl

theorem requestTimes_arpRequest_of_ne (h : ip' ≠ ip) :
    requestTimes ip (.arpRequest ip' time packet sent :: log) = requestTimes ip log := if_neg h

end RequestTimes

namespace RetryDiscipline

theorem nil : RetryDiscipline [] := by
  refine ⟨fun older ip h => ?_, fun older ip h => ?_, fun older ip h => ?_,
    fun older packet h => ?_⟩
  · rw [List.suffix_nil.mp h]
    exact Nat.zero_le 5
  · rw [List.suffix_nil.mp h]
    exact List.Pairwise.nil
  · exact absurd (List.suffix_nil.mp h) (List.cons_ne_nil _ _)
  · exact absurd (List.suffix_nil.mp h) (List.cons_ne_nil _ _)

variable {log : List LogEntry}

/-- A history goes on with an entry. -/
theorem cons (h : RetryDiscipline log) {entry : LogEntry} (hentry : entry.Disciplined log) :
    RetryDiscipline (entry :: log) := by
  have hfive (ip : UInt32) := h.atMostFive log ip List.suffix_rfl
  have hapart (ip : UInt32) := h.apart log ip List.suffix_rfl
  refine ⟨fun older ip holder => ?_, fun older ip holder => ?_, fun older ip holder => ?_,
    fun older packet holder => ?_⟩
  · rcases List.suffix_cons_iff.mp holder with rfl | holder
    · cases entry with
      | created ip' =>
        unfold requestTimes
        split
        · exact Nat.zero_le 5
        · exact hfive ip
      | arpRequest ip' time packet sent =>
        unfold requestTimes
        split
        · rename_i heq
          rw [← heq]
          exact hentry.1
        · exact hfive ip
      | _ => exact hfive ip
    · exact h.atMostFive older ip holder
  · rcases List.suffix_cons_iff.mp holder with rfl | holder
    · cases entry with
      | created ip' =>
        unfold requestTimes
        split
        · exact List.Pairwise.nil
        · exact hapart ip
      | arpRequest ip' time packet sent =>
        unfold requestTimes
        split
        · rename_i heq
          rw [← heq]
          exact List.pairwise_cons.mpr ⟨hentry.2, hapart ip'⟩
        · exact hapart ip
      | _ => exact hapart ip
    · exact h.apart older ip holder
  · rcases List.suffix_cons_iff.mp holder with heq | holder
    · obtain ⟨rfl, rfl⟩ := List.cons.inj heq
      exact hentry
    · exact h.gaveUp older ip holder
  · rcases List.suffix_cons_iff.mp holder with heq | holder
    · obtain ⟨rfl, rfl⟩ := List.cons.inj heq
      exact hentry
    · exact h.reported older packet holder

theorem append_quiet (h : RetryDiscipline log) {added : List LogEntry}
    (hadded : ∀ entry ∈ added, entry.Quiet) : RetryDiscipline (added ++ log) := by
  induction added with
  | nil => exact h
  | cons entry added ih =>
    obtain ⟨hentry, hadded⟩ := List.forall_mem_cons.mp hadded
    exact (ih hadded).cons (hentry.disciplined _)

end RetryDiscipline

/-! ## Conditions -/

/-- The next hops for which `sr_send_icmp_host_unreachable` queues its messages about `packets`. -/
def reportHops (sr : SrInstance) (packets : List SrPacket) : List UInt32 :=
  packets.filterMap fun packet =>
    match srRtLookupIp sr.routingTable (packet.buf.get32 26) with
    | none => none
    | some entry => if (srArpcacheLookup sr.cache entry.gw).isNone then some entry.gw else none

/-- What a sweep gives up, it reports without queueing a message on a pending request. Here there
are pending requests for the addresses `pending`, and others the sweep is still to visit. -/
def ReportsFresh (sr : SrInstance) (curtime : ℕ) : List UInt32 → List SrArpreq → Prop
  | _, [] => True
  | pending, req :: after =>
    (¬ req.Recent curtime ∧ 4 ≤ req.timesSent →
        (reportHops sr req.packets).Nodup ∧
          (∀ hop ∈ reportHops sr req.packets,
            hop ∉ pending ∧ hop ≠ req.ip ∧ ∀ other ∈ after, other.ip ≠ hop) ∧
          ReportsFresh sr curtime (reportHops sr req.packets ++ pending) after) ∧
      (req.Recent curtime ∨ req.timesSent < 4 → ReportsFresh sr curtime (req.ip :: pending) after)

instance (curtime : ℕ) (req : SrArpreq) : Decidable (req.Recent curtime) :=
  inferInstanceAs (Decidable (_ ∧ _))

instance ReportsFresh.decidable (sr : SrInstance) (curtime : ℕ) : ∀ pending requests,
    Decidable (ReportsFresh sr curtime pending requests)
  | _, [] => inferInstanceAs (Decidable True)
  | pending, req :: after =>
    have := ReportsFresh.decidable sr curtime (reportHops sr req.packets ++ pending) after
    have := ReportsFresh.decidable sr curtime (req.ip :: pending) after
    have : Decidable (∀ hop ∈ reportHops sr req.packets,
        hop ∉ pending ∧ hop ≠ req.ip ∧ ∀ other ∈ after, other.ip ≠ hop) := List.decidableBAll _ _
    inferInstanceAs (Decidable ((_ → _) ∧ (_ → _)))

/-- Only the sweep sends ARP requests for a request that is pending already:

* `sr_forward_packet` queues a packet only when no other waits for the next hop,
* the sweep does not come between that and the ARP request of `sr_forward_packet`,
* nor earlier than a second after the latter,
* and it queues no message on a pending request. -/
structure SweepRetries (act : Act) (s : State) : Prop where
  queue : act = .main → ∀ nextHopIp buf iface, s.main = .forwardQueue nextHopIp buf iface →
    ∀ req ∈ s.requests, req.ip ≠ nextHopIp
  asked : act = .sweep → ∀ nextHopIp iface, s.main ≠ .forwardRequest nextHopIp iface
  due : act = .sweep → ∀ req ∈ s.requests, req.timesSent = 0 →
    ∀ time ∈ requestTimes req.ip s.log, time + 1000000 ≤ s.now
  fresh : act = .sweep →
    ReportsFresh (s.setCache (expireEntries s.time s.sr.cache)).sr s.time [] s.requests

/-- Turns of the sweeper are at least a second apart, as it sleeps for a second before each;
`elapsed` is the time since the last. -/
def SweepsApart : ℕ → List Act → Prop
  | _, [] => True
  | elapsed, .wait usec :: acts => SweepsApart (elapsed + usec) acts
  | elapsed, .sweep :: acts => 1000000 ≤ elapsed ∧ SweepsApart 0 acts
  | elapsed, .receive _ _ :: acts => SweepsApart elapsed acts
  | elapsed, .main :: acts => SweepsApart elapsed acts

theorem ReportsFresh.mono {sr : SrInstance} {curtime : ℕ} {pending pending' : List UInt32}
    {requests : List SrArpreq} (h : ReportsFresh sr curtime pending requests)
    (hsubset : pending' ⊆ pending) : ReportsFresh sr curtime pending' requests := by
  induction requests generalizing pending pending' with
  | nil => trivial
  | cons req after ih =>
    refine ⟨fun hgiveUp => ?_, fun hstays => ih (h.2 hstays) (List.cons_subset_cons _ hsubset)⟩
    obtain ⟨hnodup, hhops, hafter⟩ := h.1 hgiveUp
    refine ⟨hnodup, fun hop hhop => ?_, ih hafter (List.append_subset.mpr
      ⟨List.subset_append_left _ _, List.subset_append_of_subset_right _ hsubset⟩)⟩
    obtain ⟨hpending, hreq, hother⟩ := hhops hop hhop
    exact ⟨fun hmem => hpending (hsubset hmem), hreq, hother⟩

/-! ## Counting -/

/-- A pending request that has been sent once more often than `times_sent` says. -/
structure SrArpreq.Counted (log : List LogEntry) (now : ℕ) (req : SrArpreq) : Prop where
  length_eq : (requestTimes req.ip log).length = req.timesSent + 1
  timesSent_le : req.timesSent ≤ 4
  le_now : ∀ time ∈ requestTimes req.ip log, time ≤ now

/-- The waiting packets of a request were queued for its address. -/
def SrArpreq.Queued (log : List LogEntry) (req : SrArpreq) : Prop :=
  ∀ packet ∈ req.packets, ∃ transit, .queued packet req.ip transit ∈ log

theorem SrArpreq.Queued.mono {log log' : List LogEntry} {req : SrArpreq} (h : req.Queued log)
    (hlog : log ⊆ log') : req.Queued log' := by
  intro packet hpacket
  obtain ⟨transit, hmem⟩ := h packet hpacket
  exact ⟨transit, hlog hmem⟩

theorem SrArpreq.Counted.congr {log log' : List LogEntry} {now : ℕ} {req : SrArpreq}
    (h : req.Counted log now) (hlog : requestTimes req.ip log' = requestTimes req.ip log) :
    req.Counted log' now :=
  ⟨hlog ▸ h.length_eq, h.timesSent_le, hlog ▸ h.le_now⟩

/-- The state while the sweep runs, with the requests `before` visited or made since `s₀`, and those
`after` still to be visited. -/
structure Sweeping (s₀ : State) (before after : List SrArpreq) (s : State) : Prop where
  frame : Frame s₀ s
  requests_eq : s.requests = before ++ after
  distinct : ((before ++ after).map SrArpreq.ip).Nodup
  counted : ∀ req ∈ before ++ after, req.Counted s.log s.now
  queued : ∀ req ∈ before ++ after, req.Queued s.log
  due : ∀ req ∈ after, ∀ time ∈ requestTimes req.ip s.log, time + 1000000 ≤ s.now
  disciplined : RetryDiscipline s.log

namespace Sweeping

variable {s₀ s s' : State} {before after : List SrArpreq} {req : SrArpreq}

/-- The sweep leaves a request for later. -/
theorem skip (h : Sweeping s₀ before (req :: after) s) : Sweeping s₀ (before ++ [req]) after s := by
  have heq : before ++ [req] ++ after = before ++ req :: after := by
    rw [List.append_assoc, List.singleton_append]
  exact ⟨h.frame, heq ▸ h.requests_eq, heq ▸ h.distinct, heq ▸ h.counted, heq ▸ h.queued,
    fun other hother => h.due other (List.mem_cons_of_mem req hother), h.disciplined⟩

/-- The addresses of the other requests. -/
theorem ne_of_mem (h : Sweeping s₀ before (req :: after) s) :
    ∀ other ∈ before ++ after, other.ip ≠ req.ip := by
  have hnodup := h.distinct
  rw [List.map_append, List.map_cons, List.nodup_middle, List.nodup_cons,
    ← List.map_append] at hnodup
  exact fun other hother heq => hnodup.1 (heq ▸ List.mem_map_of_mem hother)

/-- The sweep sends another ARP request for a pending request. -/
theorem resend (h : Sweeping s₀ before (req :: after) s) (htimes : req.timesSent < 4) (curtime : ℕ)
    (packet : List UInt8) (sent : Bool) :
    Sweeping s₀ (before ++ [{ req with timesSent := req.timesSent + 1, sent := curtime }]) after
      ((s.setRequests
        (before ++ { req with timesSent := req.timesSent + 1, sent := curtime } :: after)).record
          [.arpRequest req.ip s.now packet sent]) := by
  have heq (req : SrArpreq) : before ++ [req] ++ after = before ++ req :: after := by
    rw [List.append_assoc, List.singleton_append]
  have hne := h.ne_of_mem
  obtain ⟨hframe, -, hdistinct, hcounted, hqueued, hdue, hdisciplined⟩ := h
  obtain ⟨hdueReq, hdueAfter⟩ := List.forall_mem_cons.mp hdue
  have htimes_eq (other : SrArpreq) (hother : other ∈ before ++ after) :
      requestTimes other.ip (.arpRequest req.ip s.now packet sent :: s.log) =
        requestTimes other.ip s.log :=
    requestTimes_arpRequest_of_ne _ _ _ _ (hne other hother).symm
  refine ⟨(hframe.trans (.setRequests _ s)).trans (.record ?_ _), (heq _).symm, ?_, ?_, ?_, ?_, ?_⟩
  · exact List.forall_mem_singleton.mpr trivial
  · rw [heq, List.map_append, List.map_cons]
    rw [List.map_append, List.map_cons] at hdistinct
    exact hdistinct
  · rw [heq]
    intro other hother
    rcases List.mem_append.mp hother with hmem | hmem
    · exact (hcounted other (List.mem_append_left _ hmem)).congr
        (htimes_eq other (List.mem_append_left _ hmem))
    · rcases List.mem_cons.mp hmem with rfl | hmem
      · have hreq := hcounted req (List.mem_append_right _ List.mem_cons_self)
        refine ⟨?_, htimes, ?_⟩
        · change (requestTimes req.ip (.arpRequest req.ip s.now packet sent :: s.log)).length = _
          rw [requestTimes_arpRequest_self, List.length_cons, hreq.length_eq]
        · change ∀ time ∈ requestTimes req.ip (.arpRequest req.ip s.now packet sent :: s.log), _
          rw [requestTimes_arpRequest_self]
          exact List.forall_mem_cons.mpr ⟨le_rfl, hreq.le_now⟩
      · exact (hcounted other (List.mem_append_right _ (List.mem_cons_of_mem _ hmem))).congr
          (htimes_eq other (List.mem_append_right _ hmem))
  · rw [heq]
    intro other hother
    have hlog : s.log ⊆ .arpRequest req.ip s.now packet sent :: s.log := List.subset_cons_self ..
    rcases List.mem_append.mp hother with hmem | hmem
    · exact (hqueued other (List.mem_append_left _ hmem)).mono hlog
    · rcases List.mem_cons.mp hmem with rfl | hmem
      · exact (hqueued req (List.mem_append_right _ List.mem_cons_self)).mono hlog
      · exact (hqueued other (List.mem_append_right _ (List.mem_cons_of_mem _ hmem))).mono hlog
  · intro other hother
    change ∀ time ∈ requestTimes other.ip (.arpRequest req.ip s.now packet sent :: s.log), _
    rw [htimes_eq other (List.mem_append_right _ hother)]
    exact hdueAfter other hother
  · refine hdisciplined.cons ⟨?_, hdueReq⟩
    rw [(hcounted req (List.mem_append_right _ List.mem_cons_self)).length_eq]
    omega

/-- The sweep reports a packet of a request that it gives up. -/
theorem hostUnreachable (h : Sweeping s₀ before (req :: after) s) (htimes : 4 ≤ req.timesSent)
    {packet : SrPacket} (hpacket : packet ∈ req.packets) :
    Sweeping s₀ before (req :: after) (s.record [.hostUnreachable packet]) := by
  obtain ⟨hframe, hreqs, hdistinct, hcounted, hqueued, hdue, hdisciplined⟩ := h
  have hreq : req ∈ before ++ req :: after := List.mem_append_right _ List.mem_cons_self
  have hlog : s.log ⊆ .hostUnreachable packet :: s.log := List.subset_cons_self ..
  have hsweep : ∀ e ∈ [LogEntry.hostUnreachable packet], e.OfSweep :=
    List.forall_mem_singleton.mpr trivial
  refine ⟨hframe.trans (.record hsweep s), hreqs, hdistinct,
    fun other hother => (hcounted other hother).congr rfl,
    fun other hother => (hqueued other hother).mono hlog, hdue, ?_⟩
  obtain ⟨transit, hmem⟩ := hqueued req hreq packet hpacket
  refine hdisciplined.cons ⟨req.ip, transit, hmem, ?_⟩
  have hle := (hcounted req hreq).timesSent_le
  rw [(hcounted req hreq).length_eq]
  omega

/-- The sweep adds an entry to the history that has nothing to do with retries. -/
theorem quiet (h : Sweeping s₀ before after s) {entry : LogEntry} (hquiet : entry.Quiet)
    (hsweep : entry.OfSweep) : Sweeping s₀ before after (s.record [entry]) := by
  obtain ⟨hframe, hreqs, hdistinct, hcounted, hqueued, hdue, hdisciplined⟩ := h
  have hadded : ∀ e ∈ [entry], e.Quiet := List.forall_mem_singleton.mpr hquiet
  have htimes (ip : UInt32) : requestTimes ip (entry :: s.log) = requestTimes ip s.log :=
    requestTimes_of_quiet hadded ip s.log
  have hlog : s.log ⊆ entry :: s.log := List.subset_cons_self ..
  refine ⟨hframe.trans (.record (List.forall_mem_singleton.mpr hsweep) s), hreqs, hdistinct,
    fun other hother => (hcounted other hother).congr (htimes other.ip),
    fun other hother => (hqueued other hother).mono hlog, fun other hother => ?_,
    hdisciplined.append_quiet hadded⟩
  change ∀ time ∈ requestTimes other.ip (entry :: s.log), _
  rw [htimes]
  exact hdue other hother

/-- The sweep makes a pending request of its own, and sends an ARP request for it. -/
theorem ask (h : Sweeping s₀ before after s) {ip : UInt32}
    (hno : ∀ other ∈ before ++ after, other.ip ≠ ip) (buf : Buf) (iface : String)
    (request : List UInt8) (sent : Bool) :
    ∃ queue, Sweeping s₀ (⟨ip, 0, 0, queue⟩ :: before) after
      ((queuereq ip buf iface false s).record [.arpRequest ip s.now request sent]) := by
  obtain ⟨hframe, hreqs, hdistinct, hcounted, hqueued, hdue, hdisciplined⟩ := h
  have hsweep : ∀ e ∈ [LogEntry.arpRequest ip s.now request sent], e.OfSweep :=
    List.forall_mem_singleton.mpr trivial
  have hframe' := (hframe.trans (.queuereq ip buf iface s)).trans (.record hsweep _)
  refine ⟨(SrPacket.mk buf iface s.serials).toQueue, ?_⟩
  rcases queuereq_cases ip buf iface false s with
    ⟨-, hreqs', hlog⟩ | ⟨before', other, after', hreqs', -, hip, -⟩
  case inr =>
    refine absurd hip (hno other ?_)
    rw [← hreqs, hreqs']
    exact List.mem_append_right _ List.mem_cons_self
  generalize (SrPacket.mk buf iface s.serials).toQueue = queue at hreqs' hlog
  generalize hadded : queue.map (LogEntry.queued · ip false) = added at hlog
  have hquiet : ∀ e ∈ added, e.Quiet := by
    rw [← hadded]
    exact List.forall_mem_map.mpr fun _ _ => trivial
  generalize hs' : (queuereq ip buf iface false s).record [.arpRequest ip s.now request sent] = s'
  have hlog' : s'.log = .arpRequest ip s.now request sent :: (added ++ .created ip :: s.log) := by
    rw [← hs', State.log_record, hlog, List.singleton_append]
  -- the new request is sent once, and the others as often as before
  have hnone : requestTimes ip (added ++ .created ip :: s.log) = [] := by
    rw [requestTimes_of_quiet hquiet, requestTimes_created_self]
  have hnew : requestTimes ip s'.log = [s.now] := by
    rw [hlog', requestTimes_arpRequest_self, hnone]
  have hold (other : SrArpreq) (hother : other ∈ before ++ after) :
      requestTimes other.ip s'.log = requestTimes other.ip s.log := by
    have hne := (hno other hother).symm
    rw [hlog', requestTimes_arpRequest_of_ne _ _ _ _ hne, requestTimes_of_quiet hquiet,
      requestTimes_created_of_ne _ hne]
  have hsubset : s.log ⊆ s'.log := by
    rw [hlog']
    exact fun e he => List.mem_cons_of_mem _ (List.mem_append_right _ (List.mem_cons_of_mem _ he))
  have hnow : s'.now = s.now := by
    rw [← hs']
    rfl
  refine ⟨hs' ▸ hframe', ?_, ?_, ?_, ?_, ?_, ?_⟩
  · rw [← hs', State.requests_record, hreqs', hreqs, List.cons_append]
  · rw [List.cons_append, List.map_cons, List.nodup_cons, List.mem_map]
    exact ⟨fun ⟨other, hother, hip⟩ => hno other hother hip, hdistinct⟩
  · rw [List.cons_append, List.forall_mem_cons, hnow]
    refine ⟨⟨by rw [hnew]; rfl, Nat.zero_le 4, ?_⟩,
      fun other hother => (hcounted other hother).congr (hold other hother)⟩
    rw [hnew]
    exact List.forall_mem_singleton.mpr le_rfl
  · rw [List.cons_append, List.forall_mem_cons]
    refine ⟨fun packet hpacket => ⟨false, ?_⟩,
      fun other hother => (hqueued other hother).mono hsubset⟩
    rw [hlog', ← hadded]
    exact List.mem_cons_of_mem _ (List.mem_append_left _ (List.mem_map_of_mem hpacket))
  · intro other hother
    rw [hold other (List.mem_append_right _ hother), hnow]
    exact hdue other hother
  · have hcreated : LogEntry.Disciplined s.log (.created ip) := trivial
    rw [hlog']
    refine ((hdisciplined.cons hcreated).append_quiet hquiet).cons ⟨?_, ?_⟩
    · rw [hnone]
      exact Nat.zero_lt_succ 4
    · rw [hnone]
      exact fun _ h => absurd h List.not_mem_nil

/-- A request that is given up is destroyed. -/
theorem destroy (h : Sweeping s₀ before (req :: after) s) (htimes : 4 ≤ req.timesSent) :
    Sweeping s₀ before after ((s.setRequests (before ++ after)).record
      (req.packets.map .destroyed ++ [.gaveUp req.ip])) := by
  have hsublist : (before ++ after).Sublist (before ++ req :: after) :=
    List.Sublist.append_left (List.sublist_cons_self req after) before
  obtain ⟨hframe, hreqs, hdistinct, hcounted, hqueued, hdue, hdisciplined⟩ := h
  have hreq := hcounted req (List.mem_append_right _ List.mem_cons_self)
  have hquiet : ∀ e ∈ req.packets.map LogEntry.destroyed, e.Quiet :=
    List.forall_mem_map.mpr fun _ _ => trivial
  generalize hs' : (s.setRequests (before ++ after)).record
    (req.packets.map .destroyed ++ [.gaveUp req.ip]) = s'
  have hlog : s'.log = req.packets.map .destroyed ++ .gaveUp req.ip :: s.log := by
    rw [← hs', State.log_record, State.log_setRequests, List.append_assoc, List.singleton_append]
  have hold (ip : UInt32) : requestTimes ip s'.log = requestTimes ip s.log := by
    rw [hlog, requestTimes_of_quiet hquiet]
    rfl
  have hsubset : s.log ⊆ s'.log := by
    rw [hlog]
    exact fun e he => List.mem_append_right _ (List.mem_cons_of_mem _ he)
  have hnow : s'.now = s.now := by
    rw [← hs']
    rfl
  refine ⟨?_, ?_, hdistinct.sublist (hsublist.map _), ?_, ?_, ?_, ?_⟩
  · rw [← hs']
    refine (hframe.trans (.setRequests _ s)).trans (.record ?_ _)
    refine List.forall_mem_append.mpr ⟨List.forall_mem_map.mpr fun _ _ => trivial, ?_⟩
    exact List.forall_mem_singleton.mpr trivial
  · rw [← hs']
    rfl
  · intro other hother
    rw [hnow]
    exact (hcounted other (hsublist.subset hother)).congr (hold other.ip)
  · exact fun other hother => (hqueued other (hsublist.subset hother)).mono hsubset
  · intro other hother
    rw [hold, hnow]
    exact hdue other (List.mem_cons_of_mem req hother)
  · have hgaveUp : LogEntry.Disciplined s.log (.gaveUp req.ip) := by
      have hle := hreq.timesSent_le
      change (requestTimes req.ip s.log).length = 5
      rw [hreq.length_eq]
      omega
    rw [hlog]
    exact (hdisciplined.cons hgaveUp).append_quiet hquiet

end Sweeping

theorem reportHops_cons {s₀ s : State} (hframe : Frame s₀ s) {packet : SrPacket} {entry : SrRt}
    (hroute : srRtLookupIp s.sr.routingTable (packet.buf.get32 26) = some entry)
    (packets : List SrPacket) :
    (¬ s.sr.cache.Knows entry.gw ∧
        reportHops s₀.sr (packet :: packets) = entry.gw :: reportHops s₀.sr packets) ∨
      (s.sr.cache.Knows entry.gw ∧
        reportHops s₀.sr (packet :: packets) = reportHops s₀.sr packets) := by
  rw [hframe.routingTable_eq] at hroute
  unfold SrArpcache.Knows
  rw [hframe.entries_eq]
  rcases srArpcacheLookup_cases s₀.sr.cache entry.gw with ⟨hlookup, hno⟩ | ⟨i, hvalid, hip, hlookup⟩
  · refine .inl ⟨hno, ?_⟩
    unfold reportHops
    exact List.filterMap_cons_some (by simp [hroute, hlookup])
  · refine .inr ⟨⟨i, hvalid, hip⟩, ?_⟩
    unfold reportHops
    exact List.filterMap_cons_none (by simp [hroute, hlookup])

namespace Sweeping

variable {s₀ s s' : State} {before after : List SrArpreq} {req : SrArpreq}

/-- The sweep reports packets of a request that it gives up. -/
theorem reports {packets : List SrPacket} (h : Sweeping s₀ before (req :: after) s)
    (htimes : 4 ≤ req.timesSent) (hpackets : packets ⊆ req.packets)
    (hnodup : (reportHops s₀.sr packets).Nodup)
    (hfresh : ∀ hop ∈ reportHops s₀.sr packets, ∀ other ∈ before ++ req :: after, other.ip ≠ hop) :
    Outcome
      (fun s' => ∃ new, Sweeping s₀ (new ++ before) (req :: after) s' ∧
        new.map SrArpreq.ip ⊆ reportHops s₀.sr packets)
      (fun _ => True) (hostUnreachables packets s) := by
  induction packets generalizing before s with
  | nil => exact ⟨[], h, List.nil_subset _⟩
  | cons packet packets ih =>
    obtain ⟨hpacket, hpackets⟩ := List.cons_subset.mp hpackets
    rw [hostUnreachables_cons]
    refine ((srSendIcmpHostUnreachable_outcome packet s).mono
      (fun s₁ h₁ => h₁) fun _ _ => trivial).bind ?_
    rintro s₁ ⟨entry, iface, hroute, -, hreported⟩
    have htold := h.hostUnreachable htimes hpacket
    have hrest : (reportHops s₀.sr packets).Sublist (reportHops s₀.sr (packet :: packets)) :=
      (List.sublist_cons_self packet packets).filterMap _
    cases hreported with
    | answered buf hmessage sent =>
      have hanswered : LogEntry.Quiet (.answered buf entry.interface sent) := trivial
      have h₁ := htold.quiet hanswered hmessage.type_eq
      refine (ih h₁ hpackets (hnodup.sublist hrest) fun hop hhop => ?_).mono ?_ fun _ h => h
      · exact hfresh hop (hrest.subset hhop)
      · rintro s' ⟨new, h', hnew⟩
        exact ⟨new, h', fun ip hip => hrest.subset (hnew hip)⟩
    | queued buf hmessage hunknown request sent =>
      have heq := ((reportHops_cons h.frame hroute packets).resolve_right
        fun hknown => hunknown hknown.1).2
      rw [heq, List.forall_mem_cons] at hfresh
      obtain ⟨hgw, hfresh⟩ := hfresh
      rw [heq] at hnodup hrest ⊢
      obtain ⟨hnot, hnodup⟩ := List.nodup_cons.mp hnodup
      obtain ⟨queue, h₁⟩ := htold.ask hgw ⟨buf, fun _ => 0⟩ entry.interface request sent
      refine (ih h₁ hpackets hnodup fun hop hhop => ?_).mono ?_ fun _ h => h
      · rw [List.cons_append, List.forall_mem_cons]
        refine ⟨?_, hfresh hop hhop⟩
        rintro rfl
        exact hnot hhop
      · rintro s' ⟨new, h', hnew⟩
        refine ⟨new ++ [⟨entry.gw, 0, 0, queue⟩], ?_, ?_⟩
        · rw [List.append_assoc, List.singleton_append]
          exact h'
        · rw [List.map_append, List.append_subset]
          refine ⟨fun ip hip => List.mem_cons_of_mem _ (hnew hip), ?_⟩
          exact List.cons_subset.mpr ⟨List.mem_cons_self, List.nil_subset _⟩

end Sweeping

/-- What the sweep keeps, with `n` requests still to be visited. -/
def SweepKeeps (s₀ : State) (n : ℕ) (s : State) : Prop :=
  ∃ before after, after.length = n ∧ Sweeping s₀ before after s ∧
    ReportsFresh s₀.sr s₀.time (before.map SrArpreq.ip) after

theorem sweepKeeps_split {s₀ s : State} {before after : List SrArpreq} {req : SrArpreq}
    (hreqs : s.requests = before ++ req :: after) (h : SweepKeeps s₀ (after.length + 1) s) :
    Sweeping s₀ before (req :: after) s ∧
      ReportsFresh s₀.sr s₀.time (before.map SrArpreq.ip) (req :: after) := by
  obtain ⟨before', after', hlen, hsweeping, hfresh⟩ := h
  obtain ⟨rfl, rfl⟩ := List.append_inj' (hsweeping.requests_eq.symm.trans hreqs) hlen
  exact ⟨hsweeping, hfresh⟩

/-- The sweep goes through the requests. -/
theorem sweepKeeps_sweepLoop {s₀ s : State} (h : SweepKeeps s₀ s.requests.length s) :
    Outcome (SweepKeeps s₀ 0) (fun _ => True) (sweepLoop s₀.time s.requests.length s) := by
  apply sweepLoop_outcome (P := SweepKeeps s₀)
  · rintro n s ⟨before, after, rfl, hsweeping, -⟩
    rw [hsweeping.requests_eq, List.length_append]
    exact Nat.le_add_left ..
  · intro before req after s hreqs h hrecent
    obtain ⟨hsweeping, hfresh⟩ := sweepKeeps_split hreqs h
    refine ⟨before ++ [req], after, rfl, hsweeping.skip, (hfresh.2 (.inl hrecent)).mono ?_⟩
    intro ip hip
    simpa [or_comm] using hip
  · intro before req after s hreqs h hrecent htimes
    obtain ⟨hsweeping, hfresh⟩ := sweepKeeps_split hreqs h
    obtain ⟨hnodup, hhops, hafter⟩ := hfresh.1 ⟨hrecent, htimes⟩
    refine (hsweeping.reports htimes (List.Subset.refl _) hnodup ?_).mono ?_ fun _ h => h
    · intro hop hhop
      obtain ⟨hpending, hreq, hother⟩ := hhops hop hhop
      rw [List.forall_mem_append, List.forall_mem_cons]
      exact ⟨fun other hmem hip => hpending (hip ▸ List.mem_map_of_mem hmem), hreq.symm, hother⟩
    · rintro s' ⟨new, hsweeping', hnew⟩
      rw [srArpreqDestroy_eq hsweeping'.requests_eq]
      refine ⟨new ++ before, after, rfl, hsweeping'.destroy htimes, hafter.mono ?_⟩
      rw [List.map_append]
      exact List.append_subset.mpr ⟨List.subset_append_of_subset_left _ hnew,
        List.subset_append_right _ _⟩
  · intro before req after s hreqs h hrecent htimes
    obtain ⟨hsweeping, hfresh⟩ := sweepKeeps_split hreqs h
    refine (resend_outcome s₀.time before after req s).mono ?_ fun _ _ => trivial
    rintro s' ⟨packet, sent, rfl⟩
    refine ⟨_, after, rfl, hsweeping.resend htimes s₀.time packet sent,
      (hfresh.2 (.inr htimes)).mono ?_⟩
    intro ip hip
    simpa [or_comm] using hip
  · exact h

/-! ## The invariant -/

/-- The invariant of both threads, `elapsed` after the last sweep: each pending request is counted,
apart from one for which `sr_forward_packet` is about to send the first ARP request. -/
structure Retrying (elapsed : ℕ) (s : State) : Prop where
  distinct : (s.requests.map SrArpreq.ip).Nodup
  asked : ∀ nextHopIp iface, s.main = .forwardRequest nextHopIp iface →
    ∃ req ∈ s.requests, req.ip = nextHopIp ∧ req.timesSent = 0 ∧ requestTimes nextHopIp s.log = []
  counted : ∀ req ∈ s.requests, (∀ iface, s.main ≠ .forwardRequest req.ip iface) →
    req.Counted s.log s.now
  queued : ∀ req ∈ s.requests, req.Queued s.log
  resent : ∀ req ∈ s.requests, 0 < req.timesSent → ∀ time ∈ requestTimes req.ip s.log,
    time + elapsed ≤ s.now
  disciplined : RetryDiscipline s.log

namespace Retrying

variable {elapsed : ℕ} {s s' : State}

/-- A step that neither makes nor sends a pending request. -/
theorem quiet (h : Retrying elapsed s) {added : List LogEntry}
    (hreqs : s'.requests.Sublist s.requests) (hlog : s'.log = added ++ s.log)
    (hadded : ∀ entry ∈ added, entry.Quiet) (hnow : s'.now = s.now)
    (hmain : ∀ ip iface, s.main ≠ .forwardRequest ip iface)
    (hmain' : ∀ ip iface, s'.main ≠ .forwardRequest ip iface) : Retrying elapsed s' := by
  have htimes (ip : UInt32) : requestTimes ip s'.log = requestTimes ip s.log := by
    rw [hlog, requestTimes_of_quiet hadded]
  have hsubset : s.log ⊆ s'.log := by
    rw [hlog]
    exact List.subset_append_right _ _
  refine ⟨h.distinct.sublist (hreqs.map _), fun ip iface heq => absurd heq (hmain' ip iface),
    fun req hreq _ => ?_, fun req hreq => (h.queued req (hreqs.subset hreq)).mono hsubset,
    fun req hreq hpos => ?_, ?_⟩
  · rw [hnow]
    exact (h.counted req (hreqs.subset hreq) (hmain req.ip)).congr (htimes req.ip)
  · rw [htimes, hnow]
    exact h.resent req (hreqs.subset hreq) hpos
  · rw [hlog]
    exact h.disciplined.append_quiet hadded

/-- A pending request is made for a packet that `sr_forward_packet` queues. -/
theorem queue (h : Retrying elapsed s) {ip : UInt32} {buf : Buf} {iface : String}
    (hmain : s.main = .forwardQueue ip buf iface) (hno : ∀ req ∈ s.requests, req.ip ≠ ip) :
    Retrying elapsed { queuereq ip buf iface true s with main := .forwardRequest ip iface } := by
  rcases queuereq_cases ip buf iface true s with
    ⟨-, hreqs, hlog⟩ | ⟨before, req, after, hreqs, -, hip, -⟩
  case inr =>
    refine absurd hip (hno req ?_)
    rw [hreqs]
    exact List.mem_append_right _ List.mem_cons_self
  generalize (SrPacket.mk buf iface s.serials).toQueue = queue at hreqs hlog
  generalize hadded : queue.map (LogEntry.queued · ip true) = added at hlog
  have hquiet : ∀ e ∈ added, e.Quiet := by
    rw [← hadded]
    exact List.forall_mem_map.mpr fun _ _ => trivial
  generalize hs' :
    ({ queuereq ip buf iface true s with main := .forwardRequest ip iface } : State) = s'
  have hreqs' : s'.requests = ⟨ip, 0, 0, queue⟩ :: s.requests := by
    rw [← hs', ← hreqs]
    rfl
  have hlog' : s'.log = added ++ .created ip :: s.log := by
    rw [← hs', ← hlog]
  have hnow : s'.now = s.now := by
    rw [← hs']
    rfl
  have hmain' : s'.main = .forwardRequest ip iface := by
    rw [← hs']
  have hnone : requestTimes ip s'.log = [] := by
    rw [hlog', requestTimes_of_quiet hquiet, requestTimes_created_self]
  have hold (req : SrArpreq) (hreq : req ∈ s.requests) :
      requestTimes req.ip s'.log = requestTimes req.ip s.log := by
    rw [hlog', requestTimes_of_quiet hquiet, requestTimes_created_of_ne _ (hno req hreq).symm]
  have hsubset : s.log ⊆ s'.log := by
    rw [hlog']
    exact fun e he => List.mem_append_right _ (List.mem_cons_of_mem _ he)
  refine ⟨?_, ?_, ?_, ?_, ?_, ?_⟩
  · rw [hreqs', List.map_cons, List.nodup_cons, List.mem_map]
    exact ⟨fun ⟨req, hreq, hip⟩ => hno req hreq hip, h.distinct⟩
  · intro nextHopIp iface' heq
    obtain ⟨rfl, -⟩ := Todo.forwardRequest.inj (hmain'.symm.trans heq)
    rw [hreqs']
    exact ⟨_, List.mem_cons_self, rfl, rfl, hnone⟩
  · rw [hreqs', List.forall_mem_cons]
    refine ⟨fun hne => absurd hmain' (hne iface), fun req hreq _ => ?_⟩
    rw [hnow]
    refine (h.counted req hreq fun iface' => ?_).congr (hold req hreq)
    rw [hmain]
    exact Todo.noConfusion
  · rw [hreqs', List.forall_mem_cons]
    refine ⟨fun packet hpacket => ⟨true, ?_⟩, fun req hreq => (h.queued req hreq).mono hsubset⟩
    rw [hlog', ← hadded]
    exact List.mem_append_left _ (List.mem_map_of_mem hpacket)
  · rw [hreqs', List.forall_mem_cons, hnow]
    refine ⟨fun hpos => absurd hpos (Nat.lt_irrefl 0), fun req hreq hpos => ?_⟩
    rw [hold req hreq]
    exact h.resent req hreq hpos
  · have hcreated : LogEntry.Disciplined s.log (.created ip) := trivial
    rw [hlog']
    exact (h.disciplined.cons hcreated).append_quiet hquiet

/-- `sr_forward_packet` sends the first ARP request for a pending request. -/
theorem request (h : Retrying elapsed s) {ip : UInt32} {iface : String}
    (hmain : s.main = .forwardRequest ip iface) (packet : List UInt8) (sent : Bool) :
    Retrying elapsed { s.record [.arpRequest ip s.now packet sent] with main := .idle } := by
  obtain ⟨asked, hasked, hip, htimes, hnone⟩ := h.asked ip iface hmain
  generalize hs' : ({ s.record [.arpRequest ip s.now packet sent] with main := .idle } : State) = s'
  have hreqs : s'.requests = s.requests := by
    rw [← hs']
    rfl
  have hlog : s'.log = .arpRequest ip s.now packet sent :: s.log := by
    rw [← hs']
    rfl
  have hnow : s'.now = s.now := by
    rw [← hs']
    rfl
  have hmain' : s'.main = .idle := by
    rw [← hs']
  have hsubset : s.log ⊆ s'.log := by
    rw [hlog]
    exact List.subset_cons_self ..
  have hold (req : SrArpreq) (hne : ip ≠ req.ip) :
      requestTimes req.ip s'.log = requestTimes req.ip s.log := by
    rw [hlog, requestTimes_arpRequest_of_ne _ _ _ _ hne]
  have hsame {req : SrArpreq} (hreq : req ∈ s.requests) (heq : ip = req.ip) : req = asked :=
    List.inj_on_of_nodup_map h.distinct hreq hasked (heq.symm.trans hip.symm)
  refine ⟨hreqs ▸ h.distinct, ?_, ?_, ?_, ?_, ?_⟩
  · intro nextHopIp iface' heq
    exact Todo.noConfusion (hmain'.symm.trans heq)
  · rw [hreqs, hnow]
    intro req hreq _
    by_cases heq : ip = req.ip
    · obtain rfl := hsame hreq heq
      have hone : requestTimes req.ip s'.log = [s.now] := by
        rw [hlog, hip, requestTimes_arpRequest_self, hnone]
      refine ⟨?_, ?_, ?_⟩
      · rw [hone, htimes]
        rfl
      · rw [htimes]
        exact Nat.zero_le 4
      · rw [hone]
        exact List.forall_mem_singleton.mpr le_rfl
    · refine (h.counted req hreq fun iface' hasks => heq ?_).congr (hold req heq)
      exact (Todo.forwardRequest.inj (hmain.symm.trans hasks)).1
  · rw [hreqs]
    exact fun req hreq => (h.queued req hreq).mono hsubset
  · rw [hreqs, hnow]
    intro req hreq hpos
    by_cases heq : ip = req.ip
    · rw [hsame hreq heq, htimes] at hpos
      exact absurd hpos (Nat.lt_irrefl 0)
    · rw [hold req heq]
      exact h.resent req hreq hpos
  · rw [hlog]
    refine h.disciplined.cons ⟨?_, ?_⟩
    · rw [hnone]
      exact Nat.zero_lt_succ 4
    · rw [hnone]
      exact fun _ h => absurd h List.not_mem_nil

theorem received {packet : Buf} (h : Retrying elapsed s) (hreceived : Received packet s s') :
    Retrying elapsed s' := by
  have hidle_ne {ip : UInt32} {iface : String} : Todo.idle ≠ .forwardRequest ip iface :=
    Todo.noConfusion
  cases hreceived with
  | ignored => exact h
  | answered hidle buf iface sent =>
    have hmain (ip : UInt32) (iface : String) : s.main ≠ .forwardRequest ip iface :=
      hidle ▸ hidle_ne
    exact h.quiet (.refl _) rfl (List.forall_mem_singleton.mpr trivial) rfl hmain hmain
  | reply hidle mac ip =>
    exact h.quiet (.refl _) rfl (List.forall_mem_singleton.mpr trivial) rfl
      (fun ip iface => hidle ▸ hidle_ne) fun _ _ => Todo.noConfusion
  | forward hidle entry iface hroute hiface =>
    exact h.quiet (.refl _) (List.nil_append _).symm (fun _ h => absurd h List.not_mem_nil) rfl
      (fun ip iface => hidle ▸ hidle_ne) fun _ _ => Todo.noConfusion

theorem mainMove (h : Retrying elapsed s) (hmeets : SweepRetries .main s) (hmove : MainMove s s') :
    Retrying elapsed s' := by
  have hunlink {before after : List SrArpreq} {req : SrArpreq}
      (hreqs : s.requests = before ++ req :: after) : (before ++ after).Sublist s.requests := by
    rw [hreqs]
    exact List.Sublist.append_left (List.sublist_cons_self req after) before
  -- a move from `todo` to another, neither of them the first ARP request for a next hop
  have hmoves {todo : Todo} (hmain : s.main = todo)
      (hne : ∀ ip iface, todo ≠ .forwardRequest ip iface) {added : List LogEntry}
      (hreqs : s'.requests.Sublist s.requests) (hlog : s'.log = added ++ s.log)
      (hadded : ∀ entry ∈ added, entry.Quiet) (hnow : s'.now = s.now)
      (hmain' : ∀ ip iface, s'.main ≠ .forwardRequest ip iface) : Retrying elapsed s' :=
    h.quiet hreqs hlog hadded hnow (hmain ▸ hne) hmain'
  have hnil : ∀ entry ∈ ([] : List LogEntry), entry.Quiet := fun _ h => absurd h List.not_mem_nil
  cases hmove with
  | idle hmain => exact h
  | queue nextHopIp buf iface hmain =>
    exact h.queue hmain (hmeets.queue rfl nextHopIp buf iface hmain)
  | request nextHopIp iface packet sent hmain => exact h.request hmain packet sent
  | insertUnlink mac ip before req after hmain hreqs hip =>
    exact hmoves hmain (fun _ _ => Todo.noConfusion) (hunlink hreqs) (List.nil_append _).symm hnil
      rfl fun _ _ => Todo.noConfusion
  | unlink mac ip before req after hmain hreqs hip =>
    exact hmoves hmain (fun _ _ => Todo.noConfusion) (hunlink hreqs) rfl
      (forall_mem_sentAll fun _ _ _ => trivial) rfl fun _ _ => Todo.noConfusion
  | send mac ip packet packets sent hmain =>
    exact hmoves hmain (fun _ _ => Todo.noConfusion) (.refl _) rfl
      (List.forall_mem_singleton.mpr trivial) rfl fun _ _ => Todo.noConfusion
  | forward mac buf iface sent hmain =>
    exact hmoves hmain (fun _ _ => Todo.noConfusion) (.refl _) rfl
      (List.forall_mem_singleton.mpr trivial) rfl fun _ _ => Todo.noConfusion
  | replyUnknown mac ip hmain | replyKnown mac ip hmain | insert mac ip hmain | sent mac ip hmain
  | unlinkNone mac ip hmain | forwardUnknown nextHopIp buf iface hmain
  | forwardKnown nextHopIp mac buf iface hmain =>
    exact hmoves hmain (fun _ _ => Todo.noConfusion) (.refl _) (List.nil_append _).symm hnil rfl
      fun _ _ => Todo.noConfusion

theorem wait (h : Retrying elapsed s) (usec : ℕ) :
    Retrying (elapsed + usec) { s with now := s.now + usec } := by
  refine ⟨h.distinct, h.asked, fun req hreq hmain => ?_, h.queued,
    fun req hreq hpos time htime => ?_, h.disciplined⟩
  · obtain ⟨hlen, htimes, hle⟩ := h.counted req hreq hmain
    exact ⟨hlen, htimes, fun time htime => (hle time htime).trans (Nat.le_add_right ..)⟩
  · have hle := h.resent req hreq hpos time htime
    change time + (elapsed + usec) ≤ s.now + usec
    omega

theorem sweep (h : Retrying elapsed s) (hmeets : SweepRetries .sweep s)
    (helapsed : 1000000 ≤ elapsed) :
    Outcome (Retrying 0) (fun _ => True) (step .sweep s) := by
  have hasked := hmeets.asked rfl
  have hcounted (req : SrArpreq) (hreq : req ∈ s.requests) := h.counted req hreq (hasked req.ip)
  have hstart : SweepKeeps (s.setCache (expireEntries s.time s.sr.cache)) s.requests.length
      (s.setCache (expireEntries s.time s.sr.cache)) := by
    refine ⟨[], s.requests, rfl, ⟨Frame.refl _, rfl, h.distinct, hcounted, h.queued, ?_,
      h.disciplined⟩, hmeets.fresh rfl⟩
    intro req hreq time htime
    change time + 1000000 ≤ s.now
    rcases Nat.eq_zero_or_pos req.timesSent with hzero | hpos
    · exact hmeets.due rfl req hreq hzero time htime
    · have hle := h.resent req hreq hpos time htime
      omega
  refine (sweepKeeps_sweepLoop hstart).mono ?_ fun _ h => h
  rintro s' ⟨before, after, hlen, hsweeping, -⟩
  obtain rfl := List.eq_nil_of_length_eq_zero hlen
  obtain ⟨hframe, hreqs, hdistinct, hcounted, hqueued, -, hdisciplined⟩ := hsweeping
  rw [List.append_nil] at hreqs hdistinct hcounted hqueued
  rw [← hreqs] at hdistinct hcounted hqueued
  refine ⟨hdistinct, fun ip iface heq => ?_, fun req hreq _ => hcounted req hreq, hqueued,
    fun req hreq _ => (hcounted req hreq).le_now, hdisciplined⟩
  exact absurd (hframe.main_eq.symm.trans heq) (hasked ip iface)

end Retrying

/-- **The retry discipline holds** in every state that is reached when only the sweep sends ARP
requests for requests that are pending already. -/
theorem retries_disciplined (ifList : List SrIf) (routingTable : List SrRt) (now : ℕ)
    (acts : List Act) (hacts : SweepsApart 0 acts)
    (hmeets : RunMeets SweepRetries acts (srInit ifList routingTable now)) (s : State)
    (hs : runActs acts (srInit ifList routingTable now) = .ok s) : RetryDiscipline s.log := by
  have hinit : Retrying 0 (srInit ifList routingTable now) :=
    ⟨List.nodup_nil, fun _ _ => Todo.noConfusion, fun _ h => absurd h List.not_mem_nil,
      fun _ h => absurd h List.not_mem_nil, fun _ h => absurd h List.not_mem_nil, .nil⟩
  generalize srInit ifList routingTable now = s₀ at hmeets hs hinit
  generalize 0 = elapsed at hacts hinit
  induction acts generalizing elapsed s₀ with
  | nil =>
    cases hs
    exact hinit.disciplined
  | cons act acts ih =>
    obtain ⟨hC, hnext⟩ := hmeets
    unfold runActs at hs
    split at hs
    · cases hs
    · rename_i s₁ hstep
      have hrest := ih s₁ (hnext s₁ hstep) hs
      cases act with
      | receive packet interface =>
        exact hrest elapsed hacts (hinit.received
          ((receive_outcome packet interface s₀).result hstep))
      | main => exact hrest elapsed hacts (hinit.mainMove hC ((mainStep_outcome s₀).result hstep))
      | sweep => exact hrest 0 hacts.2 ((hinit.sweep hC hacts.1).result hstep)
      | wait usec =>
        cases hstep
        exact hrest (elapsed + usec) hacts (hinit.wait usec)

/-- Two routes through `eth1`. -/
def twoRoutes : List SrRt :=
  [⟨0x0a000000, 0x0a000002, 0xff000000, "eth1"⟩, ⟨0xc0a80000, 0x0a000004, 0xffff0000, "eth1"⟩]

/-- A packet from 192.168.0.9 to 10.0.0.3. -/
def strayPacket : Buf :=
  ⟨[2, 0, 0, 0, 0, 1, 2, 0, 0, 0, 0, 2, 8, 0, 0x45, 0, 0, 28, 0, 0, 0, 0, 64, 1, 0xb0, 0x2d,
    0xc0, 0xa8, 0, 9, 10, 0, 0, 3, 8, 0, 0xf7, 0xfd, 0, 1, 0, 1], fun _ => 0⟩

/-- A packet is forwarded, and nobody answers. -/
def nobodyAnswers (packet : Buf) : List Act :=
  [.receive packet "eth1", .main, .main, .main, .wait 1000000, .sweep, .wait 1000000, .sweep,
    .wait 1000000, .sweep, .wait 1000000, .sweep, .wait 1000000, .sweep]

theorem retries_disciplined_given_up :
    ∃ s, runActs (nobodyAnswers strayPacket) (srInit oneInterface.ifList twoRoutes 0) = .ok s ∧
      .gaveUp 0x0a000002 ∈ s.log ∧ RetryDiscipline s.log := by
  have hquiet {act : Act} (hmain : act ≠ .main) (hsweep : act ≠ .sweep) (s : State) :
      SweepRetries act s :=
    ⟨fun h => absurd h hmain, fun h => absurd h hsweep, fun h => absurd h hsweep,
      fun h => absurd h hsweep⟩
  have hmain {s : State} (h : ∀ nextHopIp buf iface, s.main = .forwardQueue nextHopIp buf iface →
      ∀ req ∈ s.requests, req.ip ≠ nextHopIp) : SweepRetries .main s :=
    ⟨fun _ => h, Act.noConfusion, Act.noConfusion, Act.noConfusion⟩
  have hround {acts : List Act} {s s' : State}
      (hasked : ∀ nextHopIp iface, s.main ≠ .forwardRequest nextHopIp iface)
      (hdue : ∀ req ∈ s.requests, req.timesSent = 0 →
        ∀ time ∈ requestTimes req.ip s.log, time + 1000000 ≤ s.now + 1000000)
      (hfresh : ReportsFresh
        (s.setCache (expireEntries ((s.now + 1000000) / 1000000) s.sr.cache)).sr
        ((s.now + 1000000) / 1000000) [] s.requests)
      (hstep : step .sweep { s with now := s.now + 1000000 } = .ok s')
      (h : RunMeets SweepRetries acts s') :
      RunMeets SweepRetries (.wait 1000000 :: .sweep :: acts) s :=
    .of_ok (hquiet Act.noConfusion Act.noConfusion s) rfl
      (.of_ok ⟨Act.noConfusion, fun _ => hasked, fun _ => hdue, fun _ => hfresh⟩ hstep h)
  refine ⟨_, rfl, List.mem_cons_of_mem _ List.mem_cons_self, retries_disciplined
    oneInterface.ifList twoRoutes 0 (nobodyAnswers strayPacket) ?_ ?_ _ rfl⟩
  · simp [nobodyAnswers, SweepsApart]
  · refine .of_ok (hquiet Act.noConfusion Act.noConfusion _) rfl ?_
    refine .of_ok (hmain fun _ _ _ => Todo.noConfusion) rfl ?_
    refine .of_ok (hmain fun _ _ _ _ _ h => absurd h List.not_mem_nil) rfl ?_
    refine .of_ok (hmain fun _ _ _ => Todo.noConfusion) rfl ?_
    refine hround (fun _ _ => Todo.noConfusion) (by decide +kernel) (by decide +kernel) rfl ?_
    refine hround (fun _ _ => Todo.noConfusion) (by decide +kernel) (by decide +kernel) rfl ?_
    refine hround (fun _ _ => Todo.noConfusion) (by decide +kernel) (by decide +kernel) rfl ?_
    refine hround (fun _ _ => Todo.noConfusion) (by decide +kernel) (by decide +kernel) rfl ?_
    refine hround (fun _ _ => Todo.noConfusion) (by decide +kernel) (by decide +kernel) rfl ?_
    trivial

/-- Two packets are forwarded at once, and nobody answers. -/
def twoAtOnce : List Act :=
  [.receive (pingPacket 64 0x66 0xdd) "eth1", .main, .main, .main,
    .receive (pingPacket 64 0x66 0xdd) "eth1", .main, .main, .main, .wait 1000000, .sweep,
    .wait 1000000, .sweep, .wait 1000000, .sweep, .wait 1000000, .sweep]

/-- An ARP request goes out for each of them, and six for both. -/
theorem two_packets_undisciplined :
    SweepsApart 0 twoAtOnce ∧
      ∃ s, runActs twoAtOnce (srInit oneInterface.ifList oneInterface.routingTable 0) = .ok s ∧
        requestTimes 0x0a000002 s.log = [4000000, 3000000, 2000000, 1000000, 0, 0] ∧
        ¬ RetryDiscipline s.log := by
  refine ⟨by simp [twoAtOnce, SweepsApart], _, rfl, rfl, fun h => ?_⟩
  have hfive := h.atMostFive _ 0x0a000002 List.suffix_rfl
  exact absurd hfive (by decide)

end NetworkSim.Router
