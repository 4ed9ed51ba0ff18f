import Mathlib.Data.List.Forall2
import NetworkSim.Router.Arpcache

/-!
# What the operations of the ARP cache do

One specification for each operation of `NetworkSim.Router.Arpcache`: the entry that a lookup finds,
the request that a packet joins, the request that is unlinked, and the entries after an insertion or
an expiry.
-/

namespace NetworkSim.Router

namespace SrArpcache

/-- There is a valid entry for `ip`. -/
def Knows (cache : SrArpcache) (ip : UInt32) : Prop :=
  ∃ i, (cache.entries i).valid = true ∧ (cache.entries i).ip = ip

/-- No two valid entries are for the same address. -/
def EntriesDistinct (cache : SrArpcache) : Prop :=
  ∀ i j, (cache.entries i).valid = true → (cache.entries j).valid = true →
    (cache.entries i).ip = (cache.entries j).ip → i = j

end SrArpcache

/-! ## Lookup -/

/-- A scan that keeps the last element with a property finds one if there is any. -/
theorem foldl_last_cases {α β : Type} (p : α → Prop) [DecidablePred p] (f : α → β) (as : List α)
    (init : Option β) :
    (as.foldl (fun found a => if p a then some (f a) else found) init = init ∧ ∀ a ∈ as, ¬ p a) ∨
      ∃ a ∈ as, p a ∧ as.foldl (fun found a => if p a then some (f a) else found) init =
        some (f a) := by
  induction as generalizing init with
  | nil => exact .inl ⟨rfl, fun a ha => absurd ha List.not_mem_nil⟩
  | cons a as ih =>
    rw [List.foldl_cons]
    rcases ih (if p a then some (f a) else init) with ⟨heq, hno⟩ | ⟨a', ha', hp, heq⟩
    · by_cases hp : p a
      · rw [if_pos hp] at heq ⊢
        exact .inr ⟨a, List.mem_cons_self, hp, heq⟩
      · rw [if_neg hp] at heq ⊢
        refine .inl ⟨heq, fun a' ha' => ?_⟩
        rcases List.mem_cons.mp ha' with rfl | ha'
        · exact hp
        · exact hno a' ha'
    · exact .inr ⟨a', List.mem_cons_of_mem a ha', hp, heq⟩

theorem srArpcacheLookup_cases (cache : SrArpcache) (ip : UInt32) :
    (srArpcacheLookup cache ip = none ∧ ¬ cache.Knows ip) ∨
      ∃ i, (cache.entries i).valid = true ∧ (cache.entries i).ip = ip ∧
        srArpcacheLookup cache ip = some (cache.entries i) := by
  rcases foldl_last_cases (fun i => (cache.entries i).valid = true ∧ (cache.entries i).ip = ip)
      cache.entries (List.finRange srArpcacheSz) none with ⟨heq, hno⟩ | ⟨i, -, ⟨hvalid, hip⟩, heq⟩
  · exact .inl ⟨heq, fun ⟨i, h⟩ => hno i (List.mem_finRange i) h⟩
  · exact .inr ⟨i, hvalid, hip, heq⟩

theorem srArpcacheLookup_eq_none_iff {cache : SrArpcache} {ip : UInt32} :
    srArpcacheLookup cache ip = none ↔ ¬ cache.Knows ip := by
  rcases srArpcacheLookup_cases cache ip with ⟨hnone, hno⟩ | ⟨i, hvalid, hip, hsome⟩
  · exact iff_of_true hnone hno
  · rw [hsome]
    exact iff_of_false (Option.some_ne_none _) (not_not_intro ⟨i, hvalid, hip⟩)

/-! ## Requests -/

theorem addPacket_append {ip : UInt32} {packet : SrPacket} {before after : List SrArpreq}
    {req : SrArpreq} (hbefore : ∀ other ∈ before, other.ip ≠ ip) (hip : req.ip = ip) :
    addPacket ip packet (before ++ req :: after) =
      before ++ { req with packets := packet :: req.packets } :: after := by
  induction before with
  | nil => rw [List.nil_append, addPacket, if_pos hip, List.nil_append]
  | cons other before ih =>
    rw [List.forall_mem_cons] at hbefore
    rw [List.cons_append, addPacket, if_neg hbefore.1, ih hbefore.2, List.cons_append]

/-- The first request for an address, if there is one. -/
theorem exists_first (ip : UInt32) (requests : List SrArpreq) :
    (∀ req ∈ requests, req.ip ≠ ip) ∨
      ∃ before req after, requests = before ++ req :: after ∧ (∀ other ∈ before, other.ip ≠ ip) ∧
        req.ip = ip := by
  induction requests with
  | nil => exact .inl fun req hreq => absurd hreq List.not_mem_nil
  | cons req requests ih =>
    by_cases hip : req.ip = ip
    · exact .inr ⟨[], req, requests, rfl, fun other h => absurd h List.not_mem_nil, hip⟩
    · rcases ih with hno | ⟨before, first, after, rfl, hbefore, hfirst⟩
      · exact .inl (List.forall_mem_cons.mpr ⟨hip, hno⟩)
      · exact .inr ⟨req :: before, first, after, rfl, List.forall_mem_cons.mpr ⟨hip, hbefore⟩,
          hfirst⟩

/-- The packets that are added when `packet` is queued. -/
def SrPacket.toQueue (packet : SrPacket) : List SrPacket :=
  if packet.buf.len ≠ 0 then [packet] else []

theorem toQueue_cases (packet : SrPacket) : packet.toQueue = [packet] ∨ packet.toQueue = [] := by
  unfold SrPacket.toQueue
  split
  · exact .inl rfl
  · exact .inr rfl

theorem mem_toQueue {packet other : SrPacket} (h : other ∈ packet.toQueue) : other = packet := by
  unfold SrPacket.toQueue at h
  split at h
  · exact List.mem_singleton.mp h
  · exact absurd h List.not_mem_nil

/-- A packet joins the first request for its next hop, or a new one in front of all. -/
theorem srArpcacheQueuereq_cases (cache : SrArpcache) (ip : UInt32) (packet : SrPacket) :
    ((∀ req ∈ cache.requests, req.ip ≠ ip) ∧
        (srArpcacheQueuereq cache ip packet).requests =
          ⟨ip, 0, 0, packet.toQueue⟩ :: cache.requests) ∨
      ∃ before req after, cache.requests = before ++ req :: after ∧
        (∀ other ∈ before, other.ip ≠ ip) ∧ req.ip = ip ∧
        (srArpcacheQueuereq cache ip packet).requests =
          before ++ { req with packets := packet.toQueue ++ req.packets } :: after := by
  have heq : (srArpcacheQueuereq cache ip packet).requests =
      if packet.buf.len ≠ 0 then
        addPacket ip packet (if cache.requests.any fun req => req.ip = ip then cache.requests
          else ⟨ip, 0, 0, []⟩ :: cache.requests)
      else if cache.requests.any fun req => req.ip = ip then cache.requests
        else ⟨ip, 0, 0, []⟩ :: cache.requests := rfl
  rw [heq]
  unfold SrPacket.toQueue
  rcases exists_first ip cache.requests with hno | ⟨before, req, after, hreqs, hbefore, hip⟩
  · have hany : (cache.requests.any fun req => req.ip = ip) = false := by
      simpa using hno
    refine .inl ⟨hno, ?_⟩
    rw [hany, if_neg Bool.false_ne_true, addPacket, if_pos rfl]
    split <;> rfl
  · have hany : (cache.requests.any fun req => req.ip = ip) = true := by
      simp [hreqs, hip]
    refine .inr ⟨before, req, after, hreqs, hbefore, hip, ?_⟩
    rw [hany, if_pos rfl, hreqs, addPacket_append hbefore hip]
    split <;> rfl

theorem unlink_cases (ip : UInt32) (requests : List SrArpreq) :
    (unlink ip requests = (none, requests) ∧ ∀ req ∈ requests, req.ip ≠ ip) ∨
      ∃ before req after, requests = before ++ req :: after ∧ (∀ other ∈ before, other.ip ≠ ip) ∧
        req.ip = ip ∧ unlink ip requests = (some req, before ++ after) := by
  induction requests with
  | nil => exact .inl ⟨rfl, fun req hreq => absurd hreq List.not_mem_nil⟩
  | cons req requests ih =>
    by_cases hip : req.ip = ip
    · refine .inr ⟨[], req, requests, rfl, fun other h => absurd h List.not_mem_nil, hip, ?_⟩
      rw [unlink, if_pos hip, List.nil_append]
    · rcases ih with ⟨heq, hno⟩ | ⟨before, first, after, rfl, hbefore, hfirst, heq⟩
      · refine .inl ⟨?_, List.forall_mem_cons.mpr ⟨hip, hno⟩⟩
        rw [unlink, if_neg hip, heq]
      · refine .inr ⟨req :: before, first, after, rfl, List.forall_mem_cons.mpr ⟨hip, hbefore⟩,
          hfirst, ?_⟩
        rw [unlink, if_neg hip, heq, List.cons_append]

/-! ## Requests that grow -/

/-- The request `req'` is `req` with packets in front of its own that are none of the first `n`. -/
structure SrArpreq.Grows (n : ℕ) (req req' : SrArpreq) : Prop where
  ip_eq : req'.ip = req.ip
  sent_eq : req'.sent = req.sent
  timesSent_eq : req'.timesSent = req.timesSent
  packets_eq : ∃ more, req'.packets = more ++ req.packets ∧ ∀ packet ∈ more, n ≤ packet.serial

/-- Requests that only grew, behind new ones. -/
def Grown (n : ℕ) (requests requests' : List SrArpreq) : Prop :=
  ∃ news olds, requests' = news ++ olds ∧ List.Forall₂ (SrArpreq.Grows n) requests olds ∧
    ∀ req ∈ news, req.sent = 0 ∧ req.timesSent = 0 ∧ ∀ packet ∈ req.packets, n ≤ packet.serial

theorem SrArpreq.Grows.refl (n : ℕ) (req : SrArpreq) : req.Grows n req :=
  ⟨rfl, rfl, rfl, [], rfl, fun _ h => absurd h List.not_mem_nil⟩

theorem SrArpreq.Grows.trans {n n' : ℕ} (hle : n ≤ n') {req req' req'' : SrArpreq}
    (h : req.Grows n req') (h' : req'.Grows n' req'') : req.Grows n req'' := by
  obtain ⟨more, hmore, hserial⟩ := h.packets_eq
  obtain ⟨more', hmore', hserial'⟩ := h'.packets_eq
  refine ⟨h'.ip_eq.trans h.ip_eq, h'.sent_eq.trans h.sent_eq, h'.timesSent_eq.trans h.timesSent_eq,
    more' ++ more, by rw [hmore', hmore, List.append_assoc], ?_⟩
  rw [List.forall_mem_append]
  exact ⟨fun packet hp => hle.trans (hserial' packet hp), hserial⟩

theorem forall₂_grows_refl (n : ℕ) (requests : List SrArpreq) :
    List.Forall₂ (SrArpreq.Grows n) requests requests :=
  List.forall₂_same.mpr fun req _ => .refl n req

theorem forall₂_grows_trans {n n' : ℕ} (hle : n ≤ n')
    {requests requests' requests'' : List SrArpreq}
    (h : List.Forall₂ (SrArpreq.Grows n) requests requests')
    (h' : List.Forall₂ (SrArpreq.Grows n') requests' requests'') :
    List.Forall₂ (SrArpreq.Grows n) requests requests'' := by
  induction h generalizing requests'' with
  | nil => cases h' with
    | nil => exact .nil
  | cons hreq _ ih => cases h' with
    | cons hreq' h' => exact .cons (hreq.trans hle hreq') (ih h')

/-- What grows from a concatenation. -/
theorem forall₂_append_left {α β : Type} {R : α → β → Prop} {as as' : List α} {bs : List β}
    (h : List.Forall₂ R (as ++ as') bs) :
    ∃ cs cs', bs = cs ++ cs' ∧ List.Forall₂ R as cs ∧ List.Forall₂ R as' cs' := by
  induction as generalizing bs with
  | nil => exact ⟨[], bs, rfl, .nil, h⟩
  | cons a as ih => cases h with
    | cons hab h =>
      obtain ⟨cs, cs', rfl, hcs, hcs'⟩ := ih h
      exact ⟨_ :: cs, cs', rfl, .cons hab hcs, hcs'⟩

namespace Grown

variable {n n' : ℕ} {requests requests' requests'' : List SrArpreq}

theorem refl (n : ℕ) (requests : List SrArpreq) : Grown n requests requests :=
  ⟨[], requests, rfl, forall₂_grows_refl n requests, fun _ h => absurd h List.not_mem_nil⟩

theorem trans (hle : n ≤ n') (h : Grown n requests requests') (h' : Grown n' requests' requests'') :
    Grown n requests requests'' := by
  obtain ⟨news, olds, rfl, hgrow, hnew⟩ := h
  obtain ⟨news', olds', rfl, hgrow', hnew'⟩ := h'
  obtain ⟨mids, olds'', rfl, hmids, holds⟩ := forall₂_append_left hgrow'
  refine ⟨news' ++ mids, olds'', (List.append_assoc ..).symm,
    forall₂_grows_trans hle hgrow holds, ?_⟩
  rw [List.forall_mem_append]
  refine ⟨fun req hreq => ?_, fun req hreq => ?_⟩
  · obtain ⟨hsent, htimes, hserial⟩ := hnew' req hreq
    exact ⟨hsent, htimes, fun packet hp => hle.trans (hserial packet hp)⟩
  · obtain ⟨i, hi, rfl⟩ := List.getElem_of_mem hreq
    have hlen := hmids.length_eq
    have hgrows := List.forall₂_iff_get.mp hmids |>.2 i (hlen ▸ hi) hi
    obtain ⟨hsent, htimes, hserial⟩ := hnew _ (List.getElem_mem (hlen ▸ hi))
    obtain ⟨more, hmore, hserial'⟩ := hgrows.packets_eq
    refine ⟨hgrows.sent_eq.trans hsent, hgrows.timesSent_eq.trans htimes, ?_⟩
    change ∀ packet ∈ (mids.get ⟨i, hi⟩).packets, n ≤ packet.serial
    rw [hmore, List.forall_mem_append]
    exact ⟨fun packet hp => hle.trans (hserial' packet hp), hserial⟩

/-- What became of a request and of those behind it. -/
theorem split {before after : List SrArpreq} {req : SrArpreq}
    (h : Grown n (before ++ req :: after) requests') :
    ∃ before' req' after', requests' = before' ++ req' :: after' ∧ Grown n before before' ∧
      req.Grows n req' ∧ List.Forall₂ (SrArpreq.Grows n) after after' := by
  obtain ⟨news, olds, rfl, hgrow, hnew⟩ := h
  obtain ⟨before', rest, rfl, hbefore, hrest⟩ := forall₂_append_left hgrow
  cases hrest with
  | cons hreq hafter =>
    exact ⟨news ++ before', _, _, (List.append_assoc ..).symm, ⟨news, before', rfl, hbefore, hnew⟩,
      hreq, hafter⟩

theorem queuereq (cache : SrArpcache) (ip : UInt32) (packet : SrPacket) :
    Grown packet.serial cache.requests (srArpcacheQueuereq cache ip packet).requests := by
  have hserial : ∀ other ∈ packet.toQueue, packet.serial ≤ other.serial := by
    intro other h
    rw [mem_toQueue h]
  rcases srArpcacheQueuereq_cases cache ip packet with
    ⟨-, heq⟩ | ⟨before, req, after, hreqs, -, -, heq⟩
  · rw [heq]
    refine ⟨[_], cache.requests, rfl, forall₂_grows_refl _ _, fun req hreq => ?_⟩
    rw [List.mem_singleton.mp hreq]
    exact ⟨rfl, rfl, hserial⟩
  · rw [heq, hreqs]
    refine ⟨[], _, rfl, ?_, fun _ h => absurd h List.not_mem_nil⟩
    exact List.rel_append (forall₂_grows_refl _ before)
      (.cons ⟨rfl, rfl, rfl, packet.toQueue, rfl, hserial⟩ (forall₂_grows_refl _ after))

end Grown

/-! ## Entries -/

/-- The entries after an insertion: as they were, or one that was not valid has the mapping. -/
theorem srArpcacheInsert_entries (cache : SrArpcache) (mac : MacAddr) (ip : UInt32) (now : ℕ) :
    (srArpcacheInsert cache mac ip now).2.entries = cache.entries ∨
      ∃ i, (cache.entries i).valid = false ∧
        (srArpcacheInsert cache mac ip now).2.entries =
          Function.update cache.entries i ⟨mac, ip, now, true⟩ := by
  unfold srArpcacheInsert
  cases hfind : (List.finRange srArpcacheSz).find? fun i => !(cache.entries i).valid with
  | none => exact .inl rfl
  | some i => exact .inr ⟨i, by simpa using List.find?_some hfind, rfl⟩

theorem srArpcacheInsert_fst (cache : SrArpcache) (mac : MacAddr) (ip : UInt32) (now : ℕ) :
    (srArpcacheInsert cache mac ip now).1 = (unlink ip cache.requests).1 := rfl

/-- Entries only cease to be valid. -/
theorem expireEntries_entries (curtime : ℕ) (cache : SrArpcache) (i : Fin srArpcacheSz) :
    ((expireEntries curtime cache).entries i).ip = (cache.entries i).ip ∧
      (((expireEntries curtime cache).entries i).valid = true →
        (cache.entries i).valid = true) := by
  unfold expireEntries
  simp only
  split
  · exact ⟨rfl, Bool.noConfusion⟩
  · exact ⟨rfl, id⟩

namespace SrArpcache

theorem Knows.of_expireEntries {curtime : ℕ} {cache : SrArpcache} {ip : UInt32}
    (h : (expireEntries curtime cache).Knows ip) : cache.Knows ip := by
  obtain ⟨i, hvalid, hip⟩ := h
  obtain ⟨heq, himp⟩ := expireEntries_entries curtime cache i
  exact ⟨i, himp hvalid, heq ▸ hip⟩

theorem EntriesDistinct.expireEntries {cache : SrArpcache} (h : cache.EntriesDistinct)
    (curtime : ℕ) : (expireEntries curtime cache).EntriesDistinct := by
  intro i j hi hj hip
  obtain ⟨heq, himp⟩ := expireEntries_entries curtime cache i
  obtain ⟨heq', himp'⟩ := expireEntries_entries curtime cache j
  exact h i j (himp hi) (himp' hj) (heq ▸ heq' ▸ hip)

/-- What is known after an insertion. -/
theorem Knows.of_insert {cache : SrArpcache} {mac : MacAddr} {ip ip' : UInt32} {now : ℕ}
    (h : (srArpcacheInsert cache mac ip now).2.Knows ip') : ip' = ip ∨ cache.Knows ip' := by
  obtain ⟨i, hvalid, hip⟩ := h
  rcases srArpcacheInsert_entries cache mac ip now with heq | ⟨j, -, heq⟩
  · rw [heq] at hvalid hip
    exact .inr ⟨i, hvalid, hip⟩
  · rw [heq] at hvalid hip
    by_cases hij : i = j
    · rw [hij, Function.update_self] at hip
      exact .inl hip.symm
    · rw [Function.update_of_ne hij] at hvalid hip
      exact .inr ⟨i, hvalid, hip⟩

/-- An address that is not known may be inserted. -/
theorem EntriesDistinct.insert {cache : SrArpcache} (h : cache.EntriesDistinct) {ip : UInt32}
    (hno : ¬ cache.Knows ip) (mac : MacAddr) (now : ℕ) :
    (srArpcacheInsert cache mac ip now).2.EntriesDistinct := by
  rcases srArpcacheInsert_entries cache mac ip now with heq | ⟨k, -, heq⟩
  · unfold EntriesDistinct
    rw [heq]
    exact h
  · intro i j hi hj hip
    rw [heq] at hi hj hip
    by_cases hik : i = k <;> by_cases hjk : j = k
    · rw [hik, hjk]
    · rw [hik, Function.update_self, Function.update_of_ne hjk] at hip
      rw [Function.update_of_ne hjk] at hj
      exact absurd ⟨j, hj, hip.symm⟩ hno
    · rw [hjk, Function.update_self, Function.update_of_ne hik] at hip
      rw [Function.update_of_ne hik] at hi
      exact absurd ⟨i, hi, hip⟩ hno
    · rw [Function.update_of_ne hik] at hi hip
      rw [Function.update_of_ne hjk] at hj hip
      exact h i j hi hj hip

end SrArpcache

end NetworkSim.Router
