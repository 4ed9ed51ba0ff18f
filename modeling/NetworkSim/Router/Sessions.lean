import NetworkSim.Router.Messages
import NetworkSim.Router.Sha1Spec

/-!
# Sessions

A session begins with the server's request for authentication, which the client answers with a
digest of the salt and its key, and with the server's consent, upon which the client opens its
topology. Until then no message of another kind is handled, so that a router that has an interface,
or has done anything with a packet, is one whose client was authenticated (`authenticated_first`).
-/

namespace NetworkSim.Router

variable {env : ClientEnv} {c c' : Client}

/-! ## The answer -/

/-- The salt of a `VNS_AUTH_REQUEST`. -/
def saltOf (m : Buf) : List UInt8 := m.slice baseSize (m.get32 0 - 8).toNat

/-- The key in the file `auth_key`. -/
def keyOf (env : ClientEnv) (file : List UInt8) : List UInt8 := (fgetsKey env file).take authKeyLen

/-- The client's answer to a `VNS_AUTH_REQUEST`. -/
def answerTo (env : ClientEnv) (user file : List UInt8) (m : Buf) : List UInt8 :=
  authReply user (sha1 (saltOf m ++ keyOf env file))

/-- `Client` only sends something. -/
structure Client.Extends (c c' : Client) : Prop where
  user_eq : c'.user = c.user
  host_eq : c'.host = c.host
  template_eq : c'.template = c.template
  topoId_eq : c'.topoId = c.topoId
  sent_prefix : c.sent <+: c'.sent

theorem Client.Extends.refl (c : Client) : c.Extends c := ⟨rfl, rfl, rfl, rfl, List.prefix_rfl⟩

theorem Client.Extends.openMessage_eq (h : c.Extends c') : openMessage c' = openMessage c := by
  rw [openMessage, openMessage, h.template_eq, h.host_eq, h.topoId_eq, h.user_eq]

theorem Client.Extends.send (env : ClientEnv) (msg : List UInt8) (c : Client) :
    c.Extends (c.send env msg).2 := ⟨rfl, rfl, rfl, rfl, List.prefix_append _ _⟩

/-- What `sr_handle_auth_request` does with the result of `SHA1Result`. -/
def sendDigest (env : ClientEnv) (c : Client) (result : Bool × SHA1Context) : Bool × Client :=
  if result.1 then c.send env (authReply c.user result.2.messageDigest) else (false, c)

theorem val_srHandleAuthRequest_of_key {file : List UInt8} (hkey : env.authKey = some file)
    (hne : file ≠ []) (req : Buf) (c : Client) :
    (srHandleAuthRequest env req c).val =
      sendDigest env c (sha1Result (sha1Input (keyOf env file)
        (sha1Input (saltOf req) (sha1Reset env.sha1Memory)))) := by
  rw [srHandleAuthRequest, hkey]
  cases file with
  | nil => exact absurd rfl hne
  | cons byte file =>
    refine (Traced.val_ite _ _ _).trans ?_
    rfl

/-- `sr_handle_auth_request` sends the answer, if there is a key. -/
theorem val_srHandleAuthRequest {file : List UInt8} (hkey : env.authKey = some file)
    (hne : file ≠ []) (req : Buf) (c : Client) :
    (srHandleAuthRequest env req c).val = c.send env (answerTo env c.user file req) := by
  have hsalt : (saltOf req).length < 2 ^ 32 := by
    rw [saltOf, Buf.length_slice]
    exact UInt32.toNat_lt _
  have hlen : (keyOf env file).length ≤ 64 := List.length_take_le _ _
  have h₁ := (Absorbed.reset env.sha1Memory).sha1Input (saltOf req)
  rw [List.nil_append, if_pos (by omega)] at h₁
  have h₂ := h₁.sha1Input (keyOf env file)
  rw [if_pos (by rw [List.length_append]; omega)] at h₂
  obtain ⟨result, hresult, -, -, hdigest⟩ := h₂.sha1Result
  rw [val_srHandleAuthRequest_of_key hkey hne, hresult, sendDigest, if_pos rfl, hdigest]
  rfl

theorem val_srHandleAuthRequest_of_no_key (hkey : env.authKey = none ∨ env.authKey = some [])
    (req : Buf) (c : Client) : (srHandleAuthRequest env req c).val = (false, c) := by
  rcases hkey with hkey | hkey <;> rw [srHandleAuthRequest, hkey] <;> rfl

/-! ## The messages -/

theorem srHandleHwinfo_extends {m : Buf} (h : (srHandleHwinfo env m c).val = .ok c') :
    c.Extends c' := by
  rw [srHandleHwinfo, Traced.val_bind, val_bind_orFault] at h
  cases hloop : (hwLoop env m (numEntries (m.read32 0).val).toNat 0 c.state.sr.ifList).val with
  | error fault =>
    rw [hloop] at h
    cases h
  | ok ifList =>
    rw [hloop] at h
    rw [← Except.ok.inj h]
    exact ⟨rfl, rfl, rfl, rfl, List.prefix_rfl⟩

theorem srHandleRtable_extends (m : Buf) : c.Extends (srHandleRtable env m c).val.2 := by
  have hstate (files : List (List UInt8 × List UInt8)) : c.Extends { c with files := files } :=
    ⟨rfl, rfl, rfl, rfl, List.prefix_rfl⟩
  simp only [srHandleRtable, Traced.val_bind, Traced.val_ite]
  split
  · exact hstate _
  · exact Client.Extends.refl c

theorem srHandleAuthRequest_extends (m : Buf) : c.Extends (srHandleAuthRequest env m c).val.2 := by
  rcases Classical.em (env.authKey = none ∨ env.authKey = some []) with hkey | hkey
  · rw [val_srHandleAuthRequest_of_no_key hkey]
    exact Client.Extends.refl c
  · obtain ⟨file, hfile⟩ := Option.ne_none_iff_exists'.mp fun h => hkey (.inl h)
    rw [val_srHandleAuthRequest hfile fun h => hkey (.inr (h ▸ hfile))]
    exact Client.Extends.send env _ c

/-- Handling a message, the client at most sends something and writes files. -/
theorem srReadFromServerExpect_extends {expectedCmd : UInt32} {m : Buf} {ret : ℤ}
    (h : (srReadFromServerExpect env expectedCmd m c).val = .ok (ret, c')) : c.Extends c' := by
  rw [val_srReadFromServerExpect] at h
  split_ifs at h
  · exact (Prod.mk.inj (Except.ok.inj h)).2 ▸ Client.Extends.refl c
  · cases hread : (srReadPacket m c.state).val with
    | error fault =>
      rw [hread] at h
      cases h
    | ok s =>
      rw [hread] at h
      rw [← (Prod.mk.inj (Except.ok.inj h)).2]
      exact ⟨rfl, rfl, rfl, rfl, List.prefix_rfl⟩
  · exact (Prod.mk.inj (Except.ok.inj h)).2 ▸ Client.Extends.refl c
  · exact (Prod.mk.inj (Except.ok.inj h)).2 ▸ Client.Extends.refl c
  · cases hhwinfo : (srHandleHwinfo env m c).val with
    | error fault =>
      rw [hhwinfo] at h
      cases h
    | ok c₁ =>
      rw [hhwinfo] at h
      exact (Prod.mk.inj (Except.ok.inj h)).2 ▸ srHandleHwinfo_extends hhwinfo
  all_goals rw [← (Prod.mk.inj (Except.ok.inj h)).2]
  · exact srHandleRtable_extends m
  · exact srHandleRtable_extends m
  · exact srHandleAuthRequest_extends m
  · exact srHandleAuthRequest_extends m
  all_goals exact Client.Extends.refl c

/-- Another message than the expected one changes nothing. -/
theorem val_srReadFromServerExpect_of_ne {expectedCmd : UInt32} {m : Buf}
    (hexpected : expectedCmd ≠ 0) (hne : m.get32 4 ≠ expectedCmd) (c : Client) :
    ∃ ret : ℤ, ret ≠ 1 ∧ (srReadFromServerExpect env expectedCmd m c).val = .ok (ret, c) := by
  rw [val_srReadFromServerExpect]
  by_cases hclose : m.get32 4 = vnsClose
  · refine ⟨0, by decide, ?_⟩
    rw [if_neg fun h => h.2.2 hclose, hclose, if_neg (by decide), if_pos rfl]
  · exact ⟨-1, by decide, if_pos ⟨hexpected, hne, hclose⟩⟩

theorem val_srReadFromServerExpect_authRequest {m : Buf} (hcommand : m.get32 4 = vnsAuthRequest)
    (c : Client) :
    (srReadFromServerExpect env vnsAuthRequest m c).val =
      .ok (if (srHandleAuthRequest env m c).val.1 then 1 else -1,
        (srHandleAuthRequest env m c).val.2) := by
  rw [val_srReadFromServerExpect, hcommand, if_neg fun h => h.2.1 rfl]
  iterate 5 rw [if_neg (by decide)]
  rw [if_pos rfl]

theorem val_srReadFromServerExpect_authStatus {m : Buf} (hcommand : m.get32 4 = vnsAuthStatus)
    (c : Client) :
    (srReadFromServerExpect env vnsAuthStatus m c).val =
      .ok (if m.get 8 ≠ 0 then 1 else -1, c) := by
  rw [val_srReadFromServerExpect, hcommand, if_neg fun h => h.2.1 rfl]
  iterate 6 rw [if_neg (by decide)]
  have hval : (srHandleAuthStatus m).val = decide (m.get 8 ≠ 0) := by
    rw [srHandleAuthStatus, Traced.val_bind, Traced.val_ite]
    by_cases hok : m.get 8 = 0
    · exact (if_neg fun h => h hok).trans (decide_eq_false fun h => h hok).symm
    · exact (if_pos hok).trans (decide_eq_true hok).symm
  rw [if_pos rfl, hval]
  simp only [decide_eq_true_eq]

/-- A routing table only changes files. -/
theorem val_srReadFromServerExpect_rtable {m : Buf} (hcommand : m.get32 4 = vnsRtable)
    (c : Client) :
    ∃ ret files, (srReadFromServerExpect env vnsRtable m c).val =
      .ok (ret, { c with files := files }) := by
  rw [val_srReadFromServerExpect, hcommand, if_neg fun h => h.2.1 rfl]
  iterate 4 rw [if_neg (by decide)]
  rw [if_pos rfl]
  have hfiles : ∃ files, (srHandleRtable env m c).val.2 = { c with files := files } := by
    simp only [srHandleRtable, Traced.val_bind, Traced.val_ite]
    split
    · exact ⟨_, rfl⟩
    · exact ⟨c.files, rfl⟩
  obtain ⟨files, hfiles⟩ := hfiles
  exact ⟨_, files, by rw [hfiles]⟩

/-! ## Sessions -/

/-- There is no interface, and nothing has been done with a packet. -/
structure Untouched (s : State) : Prop where
  ifList : s.sr.ifList = []
  main : s.main = .idle
  log : s.log = []

/-- The first message is a `VNS_AUTH_REQUEST` with this answer. -/
def Answered (env : ClientEnv) (user request reply : List UInt8) : Prop :=
  ∃ file, env.authKey = some file ∧ file ≠ [] ∧
    (messageBuf (env.heap 0) request).get32 4 = vnsAuthRequest ∧
    reply = answerTo env user file (messageBuf (env.heap 0) request)

/-- The second message is a `VNS_AUTH_STATUS` that is positive. -/
def Accepted (env : ClientEnv) (status : List UInt8) : Prop :=
  (messageBuf (env.heap 1) status).get32 4 = vnsAuthStatus ∧
    (messageBuf (env.heap 1) status).get 8 ≠ 0

/-- The session began with a `VNS_AUTH_REQUEST` and a positive `VNS_AUTH_STATUS`, and what was sent
with the answer and the client's topology. -/
def Authenticated (env : ClientEnv) (c : Client) (heard : List (Option (List UInt8))) : Prop :=
  ∃ request status reply, [some request, some status] <+: heard ∧
    [reply, openMessage c] <+: c.sent ∧ Answered env c.user request reply ∧ Accepted env status

/-- How far a session can be at a phase. -/
inductive Session (env : ClientEnv) :
    Phase → Client → List (Option (List UInt8)) → Prop
  | authRequest (c : Client) (huntouched : Untouched c.state) (hsent : c.sent = []) :
    Session env .authRequest c []
  | authStatus (c : Client) (request reply : List UInt8) (huntouched : Untouched c.state)
      (hsent : c.sent = [reply]) (hanswered : Answered env c.user request reply) :
    Session env .authStatus c [some request]
  | rtable (c : Client) (heard : List (Option (List UInt8))) (huntouched : Untouched c.state)
      (hauth : Authenticated env c heard) :
    Session env .rtable c heard
  | ready (c : Client) (heard : List (Option (List UInt8))) (hauth : Authenticated env c heard) :
    Session env .ready c heard
  | closed (c : Client) (heard : List (Option (List UInt8))) (huntouched : Untouched c.state)
      (hsent : c.sent.length ≤ 1) :
    Session env .ended c heard
  | ended (c : Client) (heard : List (Option (List UInt8))) (hauth : Authenticated env c heard) :
    Session env .ended c heard

theorem Authenticated.mono {heard heard' : List (Option (List UInt8))}
    (h : Authenticated env c heard) (hextends : c.Extends c') (hheard : heard <+: heard') :
    Authenticated env c' heard' := by
  obtain ⟨request, status, reply, hmessages, hsent, hanswered, haccepted⟩ := h
  rw [← hextends.openMessage_eq] at hsent
  rw [← hextends.user_eq] at hanswered
  exact ⟨request, status, reply, hmessages.trans hheard, hsent.trans hextends.sent_prefix,
    hanswered, haccepted⟩

theorem Authenticated.enterLoop {heard : List (Option (List UInt8))}
    (h : Authenticated env c heard) :
    Session env (enterLoop env c).1 (enterLoop env c).2 heard := by
  unfold Router.enterLoop
  split
  · exact .ended c heard h
  · exact .ready _ heard (h.mono ⟨rfl, rfl, rfl, rfl, List.prefix_rfl⟩ List.prefix_rfl)

theorem afterMessage_of_ne {ret : ℤ} (h : ret ≠ 1) (phase : Phase) (c : Client) :
    afterMessage env phase ret c = (.ended, c) := if_pos h

/-- A message leads to a value that `sr_read_from_server_expect` returns. -/
theorem handleMessage_cases {phase : Phase} {beyond : ℕ → UInt8} {message : Option (List UInt8)}
    {result : Phase × Client} (h : handleMessage env phase beyond message c = .ok result) :
    (message = none ∧ result = (.ended, c)) ∨
      ∃ bytes ret c₁, message = some bytes ∧
        (srReadFromServerExpect env phase.expectedCmd (messageBuf beyond bytes) c).val =
          .ok (ret, c₁) ∧ result = afterMessage env phase ret c₁ := by
  cases message with
  | none =>
    refine .inl ⟨rfl, ?_⟩
    rw [← Except.ok.inj h]
    exact afterMessage_of_ne (by decide) phase c
  | some bytes =>
    refine .inr ⟨bytes, ?_⟩
    rw [Router.handleMessage] at h
    generalize (srReadFromServerExpect env phase.expectedCmd
      (messageBuf beyond bytes) c).val = read at h
    cases read with
    | error fault => cases h
    | ok read => exact ⟨read.1, read.2, rfl, rfl, (Except.ok.inj h).symm⟩

namespace Session

variable {phase : Phase} {heard : List (Option (List UInt8))}

/-- A session can end at any time. -/
theorem stop {heard' : List (Option (List UInt8))} (h : Session env phase c heard)
    (hmore : heard <+: heard') : Session env .ended c heard' := by
  cases h with
  | authRequest c huntouched hsent =>
    exact .closed c _ huntouched (by rw [hsent]; exact Nat.zero_le 1)
  | authStatus c request reply huntouched hsent hanswered =>
    exact .closed c _ huntouched (by rw [hsent]; exact le_rfl)
  | rtable c heard huntouched hauth => exact .ended c _ (hauth.mono (.refl c) hmore)
  | ready c heard hauth => exact .ended c _ (hauth.mono (.refl c) hmore)
  | closed c heard huntouched hsent => exact .closed c _ huntouched hsent
  | ended c heard hauth => exact .ended c _ (hauth.mono (.refl c) hmore)

/-- In `sr_connect_to_server`, every message but the expected one ends the session. -/
theorem other {bytes : List UInt8} {ret : ℤ} (h : Session env phase c heard)
    (hexpected : phase.expectedCmd ≠ 0)
    (hne : (messageBuf (env.heap heard.length) bytes).get32 4 ≠ phase.expectedCmd)
    (hread : (srReadFromServerExpect env phase.expectedCmd
      (messageBuf (env.heap heard.length) bytes) c).val = .ok (ret, c')) :
    Session env (afterMessage env phase ret c').1 (afterMessage env phase ret c').2
      (heard ++ [some bytes]) := by
  obtain ⟨ret', hret, hval⟩ := @val_srReadFromServerExpect_of_ne env _ _ hexpected hne c
  rw [hval] at hread
  obtain ⟨rfl, rfl⟩ := Prod.mk.inj (Except.ok.inj hread)
  rw [afterMessage_of_ne hret]
  exact h.stop (List.prefix_append _ _)

theorem readAuthRequest {bytes : List UInt8} {ret : ℤ} (h : Session env .authRequest c [])
    (hread : (srReadFromServerExpect env vnsAuthRequest (messageBuf (env.heap 0) bytes) c).val =
      .ok (ret, c')) :
    Session env (afterMessage env .authRequest ret c').1 (afterMessage env .authRequest ret c').2
      [some bytes] := by
  by_cases hcommand : (messageBuf (env.heap 0) bytes).get32 4 = vnsAuthRequest
  · rw [val_srReadFromServerExpect_authRequest hcommand] at hread
    obtain ⟨hret, hc'⟩ := Prod.mk.inj (Except.ok.inj hread)
    rcases Classical.em (env.authKey = none ∨ env.authKey = some []) with hkey | hkey
    · rw [val_srHandleAuthRequest_of_no_key hkey] at hret hc'
      have hne : ret ≠ 1 := by
        rw [← hret]
        exact (by decide : (-1 : ℤ) ≠ 1)
      rw [afterMessage_of_ne hne, ← hc']
      exact h.stop (List.prefix_append _ _)
    · obtain ⟨file, hfile⟩ := Option.ne_none_iff_exists'.mp fun h => hkey (.inl h)
      have hne : file ≠ [] := fun h => hkey (.inr (h ▸ hfile))
      rw [val_srHandleAuthRequest hfile hne] at hret hc'
      cases h with
      | authRequest _ huntouched hsent =>
        have huntouched' : Untouched c'.state := hc' ▸ huntouched
        have hsent' : c'.sent = [answerTo env c.user file (messageBuf (env.heap 0) bytes)] := by
          rw [← hc', Client.send, hsent]
          rfl
        have huser : c'.user = c.user := by rw [← hc']; rfl
        rw [afterMessage]
        split
        · exact .closed c' _ huntouched' (by rw [hsent']; exact le_rfl)
        · refine .authStatus c' bytes _ huntouched' hsent' ⟨file, hfile, hne, hcommand, ?_⟩
          rw [huser]
  · exact other h (by decide) hcommand hread

theorem readAuthStatus {request bytes : List UInt8} {ret : ℤ}
    (h : Session env .authStatus c [some request])
    (hread : (srReadFromServerExpect env vnsAuthStatus (messageBuf (env.heap 1) bytes) c).val =
      .ok (ret, c')) :
    Session env (afterMessage env .authStatus ret c').1 (afterMessage env .authStatus ret c').2
      [some request, some bytes] := by
  by_cases hcommand : (messageBuf (env.heap 1) bytes).get32 4 = vnsAuthStatus
  · rw [val_srReadFromServerExpect_authStatus hcommand] at hread
    obtain ⟨hret, rfl⟩ := Prod.mk.inj (Except.ok.inj hread)
    by_cases hok : (messageBuf (env.heap 1) bytes).get 8 ≠ 0
    · cases h with
      | authStatus _ _ reply huntouched hsent hanswered =>
        have hauth : Authenticated env (c.send env (openMessage c)).2
            [some request, some bytes] := by
          refine ⟨request, bytes, reply, List.prefix_rfl, ?_, hanswered, hcommand, hok⟩
          rw [Client.send, hsent]
          exact List.prefix_rfl
        rw [← hret, if_pos hok, afterMessage, if_neg (by decide)]
        change Session env (if !(c.send env (openMessage c)).1 then _ else _ : Phase × Client).1
          (if !(c.send env (openMessage c)).1 then _ else _ : Phase × Client).2 _
        split
        · exact .ended _ _ hauth
        · split
          · exact .rtable _ _ huntouched hauth
          · exact hauth.enterLoop
    · rw [← hret, if_neg hok, afterMessage_of_ne (by decide)]
      exact h.stop (List.prefix_append _ _)
  · exact other h (by decide) hcommand hread

theorem readRtable {bytes : List UInt8} {ret : ℤ} (h : Session env .rtable c heard)
    (hread : (srReadFromServerExpect env vnsRtable
      (messageBuf (env.heap heard.length) bytes) c).val = .ok (ret, c')) :
    Session env (afterMessage env .rtable ret c').1 (afterMessage env .rtable ret c').2
      (heard ++ [some bytes]) := by
  by_cases hcommand : (messageBuf (env.heap heard.length) bytes).get32 4 = vnsRtable
  · obtain ⟨ret', files, hval⟩ := @val_srReadFromServerExpect_rtable env _ hcommand c
    rw [hval] at hread
    obtain ⟨rfl, rfl⟩ := Prod.mk.inj (Except.ok.inj hread)
    cases h with
    | rtable _ _ huntouched hauth =>
      have hauth' : Authenticated env { c with files := files } (heard ++ [some bytes]) :=
        hauth.mono ⟨rfl, rfl, rfl, rfl, List.prefix_rfl⟩ (List.prefix_append _ _)
      rw [afterMessage]
      split
      · exact .ended _ _ hauth'
      · exact hauth'.enterLoop
  · exact other h (by decide) hcommand hread

theorem readReady {bytes : List UInt8} {ret : ℤ} (h : Session env .ready c heard)
    (hread : (srReadFromServerExpect env 0 (messageBuf (env.heap heard.length) bytes) c).val =
      .ok (ret, c')) :
    Session env (afterMessage env .ready ret c').1 (afterMessage env .ready ret c').2
      (heard ++ [some bytes]) := by
  cases h with
  | ready _ _ hauth =>
    have hauth' := hauth.mono (srReadFromServerExpect_extends hread)
      (List.prefix_append heard [some bytes])
    by_cases hret : ret = 1
    · have hafter : afterMessage env .ready ret c' = (.ready, c') := if_neg fun hne => hne hret
      rw [hafter]
      exact .ready _ _ hauth'
    · rw [afterMessage_of_ne hret]
      exact .ended _ _ hauth'

/-- A message is handled. -/
theorem handleMessage {result : Phase × Client} (h : Session env phase c heard)
    (hphase : phase ≠ .ended) {message : Option (List UInt8)}
    (hhandle : handleMessage env phase (env.heap heard.length) message c = .ok result) :
    Session env result.1 result.2 (heard ++ [message]) := by
  rcases handleMessage_cases hhandle with ⟨rfl, rfl⟩ | ⟨bytes, ret, c', rfl, hread, rfl⟩
  · exact h.stop (List.prefix_append _ _)
  · cases phase with
    | authRequest =>
      cases h with
      | authRequest _ huntouched hsent =>
        exact readAuthRequest (.authRequest c huntouched hsent) hread
    | authStatus =>
      cases h with
      | authStatus _ request reply huntouched hsent hanswered =>
        exact readAuthStatus (.authStatus c request reply huntouched hsent hanswered) hread
    | rtable => exact readRtable h hread
    | ready => exact readReady h hread
    | ended => exact absurd rfl hphase

end Session

/-! ## Runs -/

namespace Session

/-- Something changes the state, but not before the router is ready. -/
theorem setState {phase : Phase} {heard : List (Option (List UInt8))}
    (h : Session env phase c heard) {s : State} (hs : Untouched c.state → Untouched s) :
    Session env phase { c with state := s } heard := by
  have hextends : c.Extends { c with state := s } := ⟨rfl, rfl, rfl, rfl, List.prefix_rfl⟩
  cases h with
  | authRequest _ huntouched hsent => exact .authRequest _ (hs huntouched) hsent
  | authStatus _ request reply huntouched hsent hanswered =>
    exact .authStatus _ request reply (hs huntouched) hsent hanswered
  | rtable _ _ huntouched hauth =>
    exact .rtable _ _ (hs huntouched) (hauth.mono hextends List.prefix_rfl)
  | ready _ _ hauth => exact .ready _ _ (hauth.mono hextends List.prefix_rfl)
  | closed _ _ huntouched hsent => exact .closed _ _ (hs huntouched) hsent
  | ended _ _ hauth => exact .ended _ _ (hauth.mono hextends List.prefix_rfl)

variable {p p' : Process}

theorem threadStep (h : Session env p.phase p.client p.heard) {act : Act}
    (hstep : threadStep act p = .ok p') : Session env p'.phase p'.client p'.heard := by
  rcases threadStep_cases hstep with rfl | ⟨s, hphase, -, rfl⟩
  · exact h
  · change Session env p.phase _ _
    rw [hphase] at h ⊢
    cases h with
    | ready _ _ hauth =>
      exact .ready _ _ (hauth.mono ⟨rfl, rfl, rfl, rfl, List.prefix_rfl⟩ List.prefix_rfl)

theorem step (h : Session env p.phase p.client p.heard) {event : Event}
    (hstep : clientStep env event p = .ok p') : Session env p'.phase p'.client p'.heard := by
  cases event with
  | arrive arrival => exact Except.ok.inj hstep ▸ h
  | read =>
    rcases readMessage_cases hstep with rfl | ⟨-, rfl⟩ |
      ⟨message, socket, result, hphase, -, -, hhandle, rfl⟩
    · exact h
    · exact h.stop List.prefix_rfl
    · exact h.handleMessage hphase hhandle
  | main => exact h.threadStep hstep
  | sweep => exact h.threadStep hstep
  | wait usec =>
    rw [← Except.ok.inj hstep]
    exact h.setState fun huntouched => ⟨huntouched.ifList, huntouched.main, huntouched.log⟩

theorem run {events : List Event} (h : Session env p.phase p.client p.heard)
    (hrun : runClient env events p = .ok p') : Session env p'.phase p'.client p'.heard := by
  induction events generalizing p with
  | nil => exact Except.ok.inj hrun ▸ h
  | cons event events ih =>
    rw [runClient] at hrun
    split at hrun
    · cases hrun
    · rename_i p₁ hstep
      exact ih (h.step hstep) hrun

end Session

/-- **A router does nothing before its client is authenticated**: as soon as the loop of `main` is
reached, an interface is there, a packet was handled, or a second message was sent, the session has
begun as it should. -/
theorem authenticated_first (env : ClientEnv) (user host template : List UInt8) (topoId : UInt16)
    (now : ℕ) (events : List Event) (p : Process)
    (hrun : runClient env events (startClient user host template topoId now) = .ok p)
    (hbusy : p.phase = .ready ∨ ¬ Untouched p.client.state ∨ 1 < p.client.sent.length) :
    Authenticated env p.client p.heard := by
  have hsession : Session env p.phase p.client p.heard :=
    Session.run (.authRequest _ ⟨rfl, rfl, rfl⟩ rfl) hrun
  obtain ⟨phase, client, socket, heard⟩ := p
  cases hsession with
  | authRequest _ huntouched hsent =>
    rcases hbusy with hphase | htouched | hsent'
    · cases hphase
    · exact absurd huntouched htouched
    · rw [hsent] at hsent'
      exact absurd hsent' (by decide)
  | authStatus _ request reply huntouched hsent =>
    rcases hbusy with hphase | htouched | hsent'
    · cases hphase
    · exact absurd huntouched htouched
    · rw [hsent] at hsent'
      exact absurd hsent' (lt_irrefl 1)
  | closed _ _ huntouched hsent =>
    rcases hbusy with hphase | htouched | hsent'
    · cases hphase
    · exact absurd huntouched htouched
    · exact absurd hsent (not_le.mpr hsent')
  | rtable _ _ _ hauth => exact hauth
  | ready _ _ hauth => exact hauth
  | ended _ _ hauth => exact hauth

/-- A session that is accepted. -/
def login : List Event :=
  [.arrive (.chunk [0, 0, 0, 8, 0, 0, 0, 128]), .read,
    .arrive (.chunk [0, 0, 0, 9, 0, 0, 2, 0, 1]), .read]

theorem authenticated_first_login :
    ∃ p, runClient { noKey with authKey := some [97] } login (startClient [] [] [] 0 0) = .ok p ∧
      p.phase = .ready ∧ Authenticated { noKey with authKey := some [97] } p.client p.heard := by
  have hready : ((runClient { noKey with authKey := some [97] } login
      (startClient [] [] [] 0 0)).map Process.phase).toOption = some .ready := by
    decide +kernel
  cases hrun : runClient { noKey with authKey := some [97] } login (startClient [] [] [] 0 0) with
  | error fault =>
    rw [hrun] at hready
    cases hready
  | ok p =>
    rw [hrun] at hready
    have hphase : p.phase = .ready := Option.some.inj hready
    exact ⟨p, rfl, hphase, authenticated_first _ [] [] [] 0 0 login p hrun (.inl hphase)⟩

end NetworkSim.Router
