import NetworkSim.Router.Consistency
import NetworkSim.Router.SlowPath

/-!
# The last ARP reply

What an ARP reply says should be what the cache says from then on. `sr_handle_arp_reply` inserts it
when the cache knows nothing of its sender; then the entry is found and stays, whatever else the two
threads do, until it expires (`Winning`). When the cache has an entry already, that one is left as
it is, also with another address (`last_reply_wins_iff`).
-/

namespace NetworkSim.Router

/-- `sr_arpcache_lookup` finds `mac` for `ip`. -/
def Holds (mac : MacAddr) (ip : UInt32) (s : State) : Prop :=
  ∃ entry, srArpcacheLookup s.sr.cache ip = some entry ∧ entry.mac = mac

/-- The cache has an entry that is not valid. -/
def HasRoom (s : State) : Prop := ∃ i, (s.sr.cache.entries i).valid = false

/-- The main thread is in `sr_handle_arp_reply` with a reply from `ip`, and not done with the
cache. -/
def Todo.RepliesTo (ip : UInt32) : Todo → Prop
  | .replyLookup _ ip' => ip' = ip
  | .replyInsert _ ip' => ip' = ip
  | .replyUnlink _ ip' => ip' = ip
  | _ => False

/-- A step that brings no other reply from `ip`, and in which the entry for `ip` does not expire. -/
structure Undisturbed (ip : UInt32) (act : Act) (s : State) : Prop where
  noReply : ∀ packet interface, act = .receive packet interface →
    etherHdrSize ≤ packet.len ∧ ∀ mac, ¬ IsArpReply packet mac ip
  unexpired : act = .sweep → ∀ entry, srArpcacheLookup s.sr.cache ip = some entry →
    difftime s.time entry.added ≤ srArpcacheTo

/-- Once the reply has been handled, `sr_arpcache_lookup` finds what it said and no request for its
sender is pending, until the entry expires or another reply from it arrives. -/
def LastReplyWins (s : State) (reply : Buf) (interface : String) (mac : MacAddr) (ip : UInt32) :
    Prop :=
  ∀ s₁ acts s', receive reply interface s = .ok s₁ → RunMeets (Undisturbed ip) acts s₁ →
    runActs acts s₁ = .ok s' → ¬ s'.main.RepliesTo ip →
      Holds mac ip s' ∧ ∀ req ∈ s'.requests, req.ip ≠ ip

/-! ## Entries -/

/-- The one valid entry for an address is found. -/
theorem srArpcacheLookup_of_valid {cache : SrArpcache} (hdistinct : cache.EntriesDistinct)
    {i : Fin srArpcacheSz} (hvalid : (cache.entries i).valid = true) :
    srArpcacheLookup cache (cache.entries i).ip = some (cache.entries i) := by
  rcases srArpcacheLookup_cases cache (cache.entries i).ip with ⟨-, hno⟩ | ⟨j, hj, hip, heq⟩
  · exact absurd ⟨i, hvalid, rfl⟩ hno
  · rw [heq, hdistinct j i hj hvalid hip]

/-- With room for it, the mapping is inserted. -/
theorem srArpcacheInsert_entries_of_room {cache : SrArpcache}
    (hroom : ∃ i, (cache.entries i).valid = false) (mac : MacAddr) (ip : UInt32) (now : ℕ) :
    ∃ i, (srArpcacheInsert cache mac ip now).2.entries i = ⟨mac, ip, now, true⟩ := by
  unfold srArpcacheInsert
  cases hfind : (List.finRange srArpcacheSz).find? fun i => !(cache.entries i).valid with
  | none =>
    obtain ⟨i, hi⟩ := hroom
    have hall := List.find?_eq_none.mp hfind i (List.mem_finRange i)
    simp [hi] at hall
  | some i => exact ⟨i, Function.update_self ..⟩

theorem Holds.knows {mac : MacAddr} {ip : UInt32} {s : State} (h : Holds mac ip s) :
    s.sr.cache.Knows ip := by
  obtain ⟨entry, hlookup, -⟩ := h
  by_contra hno
  rw [srArpcacheLookup_eq_none_iff.mpr hno] at hlookup
  cases hlookup

/-- What is held is an entry. -/
theorem Holds.exists_entry {mac : MacAddr} {ip : UInt32} {s : State} (h : Holds mac ip s) :
    ∃ i, (s.sr.cache.entries i).valid = true ∧ (s.sr.cache.entries i).ip = ip ∧
      (s.sr.cache.entries i).mac = mac ∧
      srArpcacheLookup s.sr.cache ip = some (s.sr.cache.entries i) := by
  obtain ⟨entry, hlookup, hmac⟩ := h
  rcases srArpcacheLookup_cases s.sr.cache ip with ⟨hnone, -⟩ | ⟨i, hvalid, hip, heq⟩
  · rw [hnone] at hlookup
    cases hlookup
  · rw [heq] at hlookup
    obtain rfl := Option.some.inj hlookup
    exact ⟨i, hvalid, hip, hmac, heq⟩

theorem holds_of_entry {s : State} (hdistinct : s.sr.cache.EntriesDistinct) {i : Fin srArpcacheSz}
    (hvalid : (s.sr.cache.entries i).valid = true) :
    Holds (s.sr.cache.entries i).mac (s.sr.cache.entries i).ip s :=
  ⟨_, srArpcacheLookup_of_valid hdistinct hvalid, rfl⟩

/-- The lookup depends on the entries only. -/
theorem Holds.congr {mac : MacAddr} {ip : UInt32} {s s' : State} (h : Holds mac ip s)
    (hentries : s'.sr.cache.entries = s.sr.cache.entries) : Holds mac ip s' := by
  unfold Holds srArpcacheLookup
  rw [hentries]
  exact h

/-- Another mapping is inserted. -/
theorem Holds.insert {mac mac' : MacAddr} {ip ip' : UInt32} {s s' : State} (h : Holds mac ip s)
    (hentries : s'.sr.cache.entries = (srArpcacheInsert s.sr.cache mac' ip' s.time).2.entries)
    (hdistinct : s'.sr.cache.EntriesDistinct) : Holds mac ip s' := by
  obtain ⟨i, hvalid, rfl, rfl, -⟩ := h.exists_entry
  have hsame : s'.sr.cache.entries i = s.sr.cache.entries i := by
    rw [hentries]
    rcases srArpcacheInsert_entries s.sr.cache mac' ip' s.time with heq | ⟨j, hj, heq⟩
    · rw [heq]
    · rw [heq, Function.update_of_ne]
      rintro rfl
      rw [hvalid] at hj
      cases hj
  have hholds := holds_of_entry (s := s') hdistinct (i := i) (by rw [hsame]; exact hvalid)
  rw [hsame] at hholds
  exact hholds

/-! ## The reply and what follows -/

/-- The main thread is about to insert the mapping, or the cache holds it. -/
structure Winning (mac : MacAddr) (ip : UInt32) (s : State) : Prop where
  consistent : ThreadsConsistent s
  phase : s.main = .replyLookup mac ip ∧ ¬ s.sr.cache.Knows ip ∧ HasRoom s ∨
    s.main = .replyInsert mac ip ∧ HasRoom s ∨ Holds mac ip s

namespace Winning

variable {mac : MacAddr} {ip : UInt32} {s s' : State}

theorem received {packet : Buf} (h : Winning mac ip s) (hlen : packet.len ≠ 0)
    (hreceived : Received packet s s') : Winning mac ip s' := by
  have hconsistent := h.consistent.received hlen hreceived
  have hholds (hidle : s.main = .idle) : Holds mac ip s := by
    rcases h.phase with ⟨hmain, -⟩ | ⟨hmain, -⟩ | hholds
    · rw [hidle] at hmain
      cases hmain
    · rw [hidle] at hmain
      cases hmain
    · exact hholds
  cases hreceived with
  | ignored => exact h
  | answered hidle buf iface sent => exact ⟨hconsistent, .inr (.inr ((hholds hidle).congr rfl))⟩
  | reply hidle mac' ip' => exact ⟨hconsistent, .inr (.inr ((hholds hidle).congr rfl))⟩
  | forward hidle entry iface hroute hiface =>
    exact ⟨hconsistent, .inr (.inr ((hholds hidle).congr rfl))⟩

/-- What the cache holds stays when the main thread makes a step: no other reply is inserted for an
address that is known. -/
theorem mainMove_of_holds (h : Winning mac ip s) (hholds : Holds mac ip s) (hmove : MainMove s s') :
    Winning mac ip s' := by
  have hconsistent := h.consistent.mainMove hmove
  refine ⟨hconsistent, .inr (.inr ?_)⟩
  cases hmove with
  | idle hmain => exact hholds
  | insert mac' ip' hmain hno => exact hholds.insert rfl hconsistent.entries_distinct
  | insertUnlink mac' ip' before req after hmain hreqs hip =>
    exact hholds.insert rfl hconsistent.entries_distinct
  | _ => exact hholds.congr rfl

/-- The mapping is inserted. -/
theorem mainStep_of_replyInsert (hmain : s.main = .replyInsert mac ip) :
    ∃ s', Router.mainStep s = .ok s' ∧
      s'.sr.cache.entries = (srArpcacheInsert s.sr.cache mac ip s.time).2.entries := by
  simp only [Router.mainStep, hmain]
  cases (srArpcacheInsert s.sr.cache mac ip s.time).1 with
  | none => exact ⟨_, rfl, rfl⟩
  | some req => exact ⟨_, rfl, rfl⟩

theorem mainStep (h : Winning mac ip s) :
    Outcome (Winning mac ip) (fun _ => True) (mainStep s) := by
  rcases h.phase with ⟨hmain, hunknown, hroom⟩ | ⟨hmain, hroom⟩ | hholds
  · have hstep : Router.mainStep s = .ok { s with main := .replyInsert mac ip } :=
      mainStep_of_unknown hmain (srArpcacheLookup_eq_none_iff.mpr hunknown)
    rw [hstep]
    exact ⟨⟨h.consistent.toCacheConsistent.congr rfl, hunknown⟩, .inr (.inl ⟨rfl, hroom⟩)⟩
  · obtain ⟨s', hstep, hentries⟩ := mainStep_of_replyInsert hmain
    have hconsistent := h.consistent.mainMove ((mainStep_outcome s).result hstep)
    rw [hstep]
    refine ⟨hconsistent, .inr (.inr ?_)⟩
    obtain ⟨i, hi⟩ := srArpcacheInsert_entries_of_room hroom mac ip s.time
    rw [← hentries] at hi
    have hholds := holds_of_entry hconsistent.entries_distinct (i := i) (by rw [hi])
    rw [hi] at hholds
    exact hholds
  · exact (mainStep_outcome s).mono (fun s' hmove => h.mainMove_of_holds hholds hmove)
      fun _ _ => trivial

theorem sweeperTurn (h : Winning mac ip s)
    (hunexpired : ∀ entry, srArpcacheLookup s.sr.cache ip = some entry →
      difftime s.time entry.added ≤ srArpcacheTo) :
    Outcome (Winning mac ip) (fun _ => True) (sweeperTurn s) := by
  refine (h.consistent.sweeperTurn.and (sweeperTurn_frame s)).mono ?_ fun _ _ => trivial
  rintro s' ⟨hconsistent, hframe⟩
  have hentries : s'.sr.cache.entries = (expireEntries s.time s.sr.cache).entries :=
    hframe.entries_eq
  have hmain : s'.main = s.main := hframe.main_eq
  have hroom (hroom : HasRoom s) : HasRoom s' := by
    obtain ⟨i, hi⟩ := hroom
    refine ⟨i, ?_⟩
    rw [hentries, Bool.eq_false_iff]
    intro hvalid
    rw [(expireEntries_entries s.time s.sr.cache i).2 hvalid] at hi
    cases hi
  refine ⟨hconsistent, ?_⟩
  rw [hmain]
  rcases h.phase with ⟨hmain, hunknown, hr⟩ | ⟨hmain, hr⟩ | hholds
  · refine .inl ⟨hmain, fun hknows => hunknown ?_, hroom hr⟩
    obtain ⟨i, hvalid, hip⟩ := hknows
    rw [hentries] at hvalid hip
    exact SrArpcache.Knows.of_expireEntries ⟨i, hvalid, hip⟩
  · exact .inr (.inl ⟨hmain, hroom hr⟩)
  · refine .inr (.inr ?_)
    obtain ⟨i, hvalid, rfl, rfl, hlookup⟩ := hholds.exists_entry
    have hsame : s'.sr.cache.entries i = s.sr.cache.entries i := by
      have hle := hunexpired _ hlookup
      rw [hentries]
      exact if_neg fun hexpired => absurd hexpired.2 (not_lt.mpr hle)
    have hholds' := holds_of_entry hconsistent.entries_distinct (i := i) (by rw [hsame, hvalid])
    rw [hsame] at hholds'
    exact hholds'

theorem step (h : Winning mac ip s) {act : Act} (hmeets : Undisturbed ip act s) :
    Outcome (Winning mac ip) (fun _ => True) (step act s) := by
  cases act with
  | receive packet interface =>
    have hlen : packet.len ≠ 0 := by
      have hlong : 14 ≤ packet.len := (hmeets.noReply packet interface rfl).1
      omega
    exact (receive_outcome packet interface s).mono (fun s' => h.received hlen) fun _ _ => trivial
  | main => exact h.mainStep
  | sweep => exact h.sweeperTurn (hmeets.unexpired rfl)
  | wait usec =>
    exact ⟨⟨h.consistent.toCacheConsistent.congr rfl, h.consistent.main_fits⟩, h.phase⟩

end Winning

/-- **The last ARP reply wins** in just those states in which the cache has no entry for its sender,
or has one that says the same already. (In every state that is reached the cache is consistent:
`cache_stays_consistent`.) -/
theorem last_reply_wins_iff (s : State) (hidle : s.main = .idle) (hconsistent : CacheConsistent s)
    (reply : Buf) (interface : String) (mac : MacAddr) (ip : UInt32)
    (hreply : IsArpReply reply mac ip) (hroom : HasRoom s ∨ s.sr.cache.Knows ip) :
    LastReplyWins s reply interface mac ip ↔
      ∀ entry, srArpcacheLookup s.sr.cache ip = some entry → entry.mac = mac := by
  have hreceive := receive_of_isArpReply hidle hreply interface
  constructor
  · intro hwins entry hlookup
    have hknown : step .main { s.record [.arpReply mac ip] with main := .replyLookup mac ip } =
        .ok { s.record [.arpReply mac ip] with main := .replyUnlink mac ip } :=
      mainStep_of_known rfl hlookup
    have hknows : s.sr.cache.Knows ip := by
      by_contra hno
      rw [srArpcacheLookup_eq_none_iff.mpr hno] at hlookup
      cases hlookup
    -- a known address has no request
    have hnone : step .main { s.record [.arpReply mac ip] with main := .replyUnlink mac ip } =
        .ok { s.record [.arpReply mac ip] with main := .idle } := by
      rcases unlink_cases ip s.requests with ⟨hunlink, -⟩ | ⟨before, req, after, hreqs, -, hip, -⟩
      · have hunlink' : unlink ip (State.requests
            { s.record [.arpReply mac ip] with main := .replyUnlink mac ip }) =
            (none, s.requests) := hunlink
        simp only [step, mainStep, hunlink']
      · have hmem : req ∈ s.requests := by
          rw [hreqs]
          exact List.mem_append_right before List.mem_cons_self
        exact absurd (hip ▸ hknows) (hconsistent.requests_fit req hmem).unknown
    have hquiet (s : State) : Undisturbed ip .main s :=
      ⟨fun _ _ => by rintro ⟨⟩, by rintro ⟨⟩⟩
    obtain ⟨⟨entry', hlookup', hmac⟩, -⟩ := hwins _ [.main, .main]
      { s.record [.arpReply mac ip] with main := .idle } hreceive
      (.of_ok (hquiet _) hknown (.of_ok (hquiet _) hnone trivial))
      ((runActs_cons_of_ok hknown _).trans (runActs_cons_of_ok hnone _)) id
    obtain rfl := Option.some.inj (hlookup.symm.trans hlookup')
    exact hmac
  · intro hsame s₁ acts s' hs₁ hmeets hs' hdone
    rw [hreceive] at hs₁
    cases hs₁
    have hstart : Winning mac ip
        { s.record [.arpReply mac ip] with main := .replyLookup mac ip } := by
      refine ⟨⟨hconsistent.congr rfl, trivial⟩, ?_⟩
      rcases srArpcacheLookup_cases s.sr.cache ip with ⟨-, hunknown⟩ | ⟨i, -, -, hlookup⟩
      · exact .inl ⟨rfl, hunknown, hroom.resolve_right hunknown⟩
      · exact .inr (.inr ⟨_, hlookup, hsame _ hlookup⟩)
    have hrun := runActs_outcome_of_meets (I := Winning mac ip) (E := fun _ => True)
      (fun act t hmeets h => h.step hmeets) hmeets hstart
    have hend := hrun.result hs'
    have hholds : Holds mac ip s' := by
      rcases hend.phase with ⟨hmain, -⟩ | ⟨hmain, -⟩ | hholds
      · exact absurd (by rw [hmain]; rfl) hdone
      · exact absurd (by rw [hmain]; rfl) hdone
      · exact hholds
    refine ⟨hholds, fun req hreq heq => ?_⟩
    exact (hend.consistent.requests_fit req hreq).unknown (heq ▸ hholds.knows)

/-- The address 02:00:00:00:00:02. -/
def neighbourMac : MacAddr := ⟨[2, 0, 0, 0, 0, 2], rfl⟩

/-- An ARP reply from 10.0.0.2 with that address. -/
def neighbourReply : Buf :=
  ⟨[2, 0, 0, 0, 0, 1, 2, 0, 0, 0, 0, 2, 8, 6, 0, 1, 8, 0, 6, 4, 0, 2, 2, 0, 0, 0, 0, 2,
    10, 0, 0, 2, 2, 0, 0, 0, 0, 1, 10, 0, 0, 1], fun _ => 0⟩

theorem isArpReply_neighbourReply : IsArpReply neighbourReply neighbourMac 0x0a000002 :=
  ⟨by decide, by decide, by decide, by decide⟩

/-- The router asks for 10.0.0.2, with a packet waiting. -/
def askingNeighbour : State :=
  ⟨{ oneInterface with
      cache := ⟨fun _ => .zero, [⟨0x0a000002, 0, 0, [⟨pingPacket 64 0x66 0xdd, "eth1", 0⟩]⟩]⟩ },
    .idle, 0, 1, []⟩

/-- It learns the address from the reply. -/
theorem last_reply_wins_iff_unknown :
    askingNeighbour.requests.map SrArpreq.ip = [0x0a000002] ∧
      LastReplyWins askingNeighbour neighbourReply "eth1" neighbourMac 0x0a000002 := by
  have hunknown (ip : UInt32) : ¬ askingNeighbour.sr.cache.Knows ip :=
    fun ⟨_, hvalid, _⟩ => Bool.noConfusion hvalid
  have hconsistent : CacheConsistent askingNeighbour := by
    refine ⟨List.nodup_singleton _, fun _ _ hvalid => Bool.noConfusion hvalid, ?_⟩
    exact List.forall_mem_singleton.mpr ⟨hunknown _, List.cons_ne_nil _ _, by decide⟩
  exact ⟨rfl, (last_reply_wins_iff askingNeighbour rfl hconsistent neighbourReply "eth1"
    neighbourMac 0x0a000002 isArpReply_neighbourReply (.inl ⟨0, rfl⟩)).mpr fun _ h => nomatch h⟩

/-- The router knows 10.0.0.2 with another address. -/
def staleNeighbour : State :=
  ⟨{ oneInterface with
      cache := ⟨fun i => if i = 0 then ⟨ownMac, 0x0a000002, 0, true⟩ else .zero, []⟩ },
    .idle, 0, 0, []⟩

/-- It keeps that one when the reply comes in. -/
theorem stale_address_stays :
    CacheConsistent staleNeighbour ∧ HasRoom staleNeighbour ∧
      IsArpReply neighbourReply neighbourMac 0x0a000002 ∧
      ¬ LastReplyWins staleNeighbour neighbourReply "eth1" neighbourMac 0x0a000002 := by
  have honly (i : Fin srArpcacheSz) (h : (staleNeighbour.sr.cache.entries i).valid = true) :
      i = 0 := by
    by_contra hne
    have hzero : staleNeighbour.sr.cache.entries i = .zero := if_neg hne
    rw [hzero] at h
    cases h
  refine ⟨⟨List.nodup_nil, fun i j hi hj _ => (honly i hi).trans (honly j hj).symm,
    fun _ h => absurd h List.not_mem_nil⟩, ⟨1, rfl⟩, isArpReply_neighbourReply, fun hwins => ?_⟩
  have hquiet (s : State) : Undisturbed 0x0a000002 .main s :=
    ⟨fun _ _ => by rintro ⟨⟩, by rintro ⟨⟩⟩
  obtain ⟨⟨entry, hlookup, hmac⟩, -⟩ := hwins _ [.main, .main] _ rfl
    (.of_ok (hquiet _) rfl (.of_ok (hquiet _) rfl trivial)) rfl id
  have hentry : srArpcacheLookup staleNeighbour.sr.cache 0x0a000002 =
      some ⟨ownMac, 0x0a000002, 0, true⟩ := rfl
  obtain rfl := Option.some.inj (hentry.symm.trans hlookup)
  exact absurd hmac (by decide)

end NetworkSim.Router
