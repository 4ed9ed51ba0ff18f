import NetworkSim.Foundations.Quotas
import NetworkSim.Tcp.CumulativeAcks

/-!
# What one round sends

`handle_outgoing_frames` gives every receiver a budget, the congestion window rounded towards zero.
Of the slots without a timer it sends the first ones again and arms them (`resendWindows_eq`). What
is left of the budget, together with the room in the window, is the quota of the receiver in one
pass over the backlog: the pass moves what is within the quotas to the windows and leaves what is
beyond them (`sendLoop_eq`). So the round is work-conserving and first come, first served for every
receiver, whatever the mix of receivers in the backlog (`round_sends`).
-/

namespace NetworkSim.Tcp

open Quotas

variable {D : Type} {cfg : SysConfig D}

/-! ## Slots without a timer -/

/-- The slots whose timer is not set. -/
def nullTimers (slots : List SendWindowSlot) : List SendWindowSlot :=
  slots.filter (fun slot => decide (slot.timeout = none))

/-- `slots` with the timers `ts` set in the first slots that have none. -/
def armFirst : List TimeVal → List SendWindowSlot → List SendWindowSlot
  | [], slots => slots
  | _ :: _, [] => []
  | t :: ts, slot :: slots =>
    if slot.timeout = none then { slot with timeout := some t } :: armFirst ts slots
    else slot :: armFirst (t :: ts) slots

theorem nullTimers_cons_none {slot : SendWindowSlot} (h : slot.timeout = none)
    (slots : List SendWindowSlot) : nullTimers (slot :: slots) = slot :: nullTimers slots :=
  List.filter_cons_of_pos (by simpa using h)

theorem nullTimers_cons_some {slot : SendWindowSlot} (h : slot.timeout ≠ none)
    (slots : List SendWindowSlot) : nullTimers (slot :: slots) = nullTimers slots :=
  List.filter_cons_of_neg (by simpa using h)

@[simp] theorem armFirst_nil (slots : List SendWindowSlot) : armFirst [] slots = slots := by
  cases slots <;> rfl

theorem armFirst_cons_none {slot : SendWindowSlot} (h : slot.timeout = none) (t : TimeVal)
    (ts : List TimeVal) (slots : List SendWindowSlot) :
    armFirst (t :: ts) (slot :: slots) =
      { slot with timeout := some t } :: armFirst ts slots := by rw [armFirst, if_pos h]

theorem armFirst_cons_some {slot : SendWindowSlot} (h : slot.timeout ≠ none)
    (ts : List TimeVal) (slots : List SendWindowSlot) :
    armFirst ts (slot :: slots) = slot :: armFirst ts slots := by
  cases ts with
  | nil => rw [armFirst_nil, armFirst_nil]
  | cons t ts => rw [armFirst, if_neg h]

/-! ## Sending again -/

/-- In a window with consecutive numbers a frame is found where it is. -/
theorem Consecutive.findIdx? {b : UInt8} {window : List Frame} (h : Consecutive b window)
    (hlen : window.length ≤ 255) {i : ℕ} {frame : Frame} (hframe : window[i]? = some frame) :
    window.findIdx? (fun f => f.seqNum = frame.seqNum) = some i := by
  obtain ⟨hi, rfl⟩ := List.getElem?_eq_some_iff.mp hframe
  rw [List.findIdx?_eq_some_iff_getElem]
  refine ⟨hi, decide_eq_true rfl, fun j hj => ?_⟩
  intro heq
  have hsame : b + UInt8.ofNat j = b + UInt8.ofNat i :=
    (h j _ (List.getElem?_eq_getElem (hj.trans hi))).symm.trans
      ((of_decide_eq_true heq).trans (h i _ hframe))
  have hnum : UInt8.ofNat j = UInt8.ofNat i := by simpa using hsame
  have := ofNat_inj_of_lt (by omega) (by omega) hnum
  omega

theorem Resends.bound {sent : List Frame} {host host' : Host D} (h : Resends cfg sent host host')
    (hbound : SendWinBound cfg host) : SendWinBound cfg host' := by
  obtain ⟨_, _, _, _, _, _, _, rfl⟩ := h.eq
  exact hbound

/-- `retransmit_frame` on the number of the frame in slot `i` of the window for `recvId`. -/
theorem retransmitFrame_slot (hW : cfg.windowSize ≤ 255) {recvId : ℕ} (hrecv : recvId < 256)
    {b : UInt8} {window : List Frame} (hcons : Consecutive b window) {host : Host D}
    (hbound : SendWinBound cfg host) (hwin : winFrames cfg recvId host = window.map some) {i : ℕ}
    {frame : Frame} (hframe : window[i]? = some frame) :
    ∃ host' t, retransmitFrame cfg (UInt8.ofNat recvId) frame.seqNum host = .ok host' ∧
      host'.outgoingFramesHead = host.outgoingFramesHead ++ [frame] ∧
      ∀ id, sendWin cfg id host' =
        if id = recvId then
          (sendWin cfg recvId host).set i
            { cqGetItemSend cfg recvId i host with timeout := some t }
        else sendWin cfg id host := by
  have hbyte : (UInt8.ofNat recvId).toNat = recvId := by
    rw [toNat_ofNat, Nat.mod_eq_of_lt hrecv]
  have hlen := length_of_winFrames hwin
  have hi : i < cqGetLengthSend recvId host := by
    rw [hlen]
    exact (List.getElem?_eq_some_iff.mp hframe).1
  have hshort : window.length ≤ 255 := by
    rw [← hlen]
    exact (hbound recvId).trans hW
  have hwin' : winFrames cfg (UInt8.ofNat recvId).toNat host = window.map some := by
    rw [hbyte]
    exact hwin
  obtain ⟨_, t, hretransmit⟩ :=
    retransmitFrame_of_winFrames hwin' (hcons.findIdx? hshort hframe) hframe
  refine ⟨_, t, hretransmit, rfl, ?_⟩
  rw [hbyte]
  intro id
  refine (sendWin_setTimeout ?_ ?_ (some t) id).trans rfl
  · exact hbound
  · exact hi

/-- The loop over the slots from slot `i` on, `todo`; those before, `done`, have been looked at. -/
theorem resendLoop_eq (hW : cfg.windowSize ≤ 255) {recvId : ℕ} {b : UInt8} {window : List Frame}
    (hrecv : window ≠ [] → recvId < 256) (hcons : Consecutive b window)
    {done todo : List SendWindowSlot} {host : Host D} (hbound : SendWinBound cfg host)
    (hwin : winFrames cfg recvId host = window.map some)
    (hslots : sendWin cfg recvId host = done ++ todo) (c : ℕ) :
    ∃ ts host', ts.length = min (nullTimers todo).length c ∧
      resendLoop cfg recvId (List.range' done.length todo.length) c host =
        .ok (c - ts.length, host') ∧
      host'.outgoingFramesHead = host.outgoingFramesHead ++
        ((nullTimers todo).take ts.length).filterMap (·.frame) ∧
      ∀ id, sendWin cfg id host' =
        if id = recvId then done ++ armFirst ts todo else sendWin cfg id host := by
  induction todo generalizing done host c with
  | nil =>
    refine ⟨[], host, by simp [nullTimers], by simp [resendLoop], by simp [nullTimers], ?_⟩
    intro id
    rw [armFirst_nil, ← hslots]
    split
    · rename_i hid
      rw [hid]
    · rfl
  | cons slot todo ih =>
    have hi : done.length < cqGetLengthSend recvId host := by
      rw [← length_sendWin cfg, hslots, List.length_append, List.length_cons]
      omega
    have hitem : cqGetItemSend cfg recvId done.length host = slot := by
      have := @getElem?_sendWin _ cfg _ _ _ hi
      rw [hslots, List.getElem?_append_right le_rfl, Nat.sub_self, List.getElem?_cons_zero] at this
      exact (Option.some.inj this).symm
    have hsnoc (slot : SendWindowSlot) (slots : List SendWindowSlot) :
        (done ++ [slot]) ++ slots = done ++ slot :: slots := by
      rw [List.append_assoc, List.singleton_append]
    have hlength (slot : SendWindowSlot) : (done ++ [slot]).length = done.length + 1 := by
      rw [List.length_append, List.length_singleton]
    rw [List.length_cons, List.range'_succ, resendLoop, hitem]
    by_cases hsend : slot.timeout = none ∧ (c : ℤ) > 0
    · obtain ⟨n, rfl⟩ : ∃ n, c = n + 1 := ⟨c - 1, by omega⟩
      obtain ⟨frame, hframe⟩ : ∃ frame, window[done.length]? = some frame := by
        rw [length_of_winFrames hwin] at hi
        exact ⟨_, List.getElem?_eq_getElem hi⟩
      have hne : window ≠ [] := by
        rintro rfl
        simp at hframe
      have hslot : slot.frame = some frame := by
        rw [← hitem, getItem_of_winFrames hwin hi, hframe]
      obtain ⟨host₁, t, hretransmit, hout, hwindows⟩ :=
        retransmitFrame_slot hW (hrecv hne) hcons hbound hwin hframe
      obtain ⟨_, hresends⟩ := retransmitFrame_resends hretransmit
      have hslots₁ : sendWin cfg recvId host₁ =
          (done ++ [{ slot with timeout := some t }]) ++ todo := by
        rw [hwindows, if_pos rfl, hslots, hitem, List.set_append_right _ _ le_rfl, Nat.sub_self,
          List.set_cons_zero, hsnoc]
      obtain ⟨ts, host', hts, hloop, hsent, harmed⟩ := ih (hresends.bound hbound)
        ((hresends.winFrames_eq recvId).trans hwin) hslots₁ n
      rw [hlength] at hloop
      refine ⟨t :: ts, host', ?_, ?_, ?_, ?_⟩
      · rw [nullTimers_cons_none hsend.1, List.length_cons, List.length_cons, hts,
          Nat.succ_min_succ]
      · rw [if_pos hsend, derefFrame_eq_ok.mpr hslot]
        simp only [hretransmit]
        rw [Nat.cast_succ, add_sub_cancel_right, hloop, List.length_cons, Nat.cast_succ,
          add_sub_add_right_eq_sub]
      · rw [hsent, hout, nullTimers_cons_none hsend.1, List.length_cons, List.take_succ_cons,
          List.filterMap_cons_some hslot, List.append_assoc, List.singleton_append]
      · intro id
        rw [harmed, hwindows, armFirst_cons_none hsend.1, hsnoc]
        split <;> rfl
    · rw [if_neg hsend]
      obtain ⟨ts, host', hts, hloop, hsent, harmed⟩ :=
        ih hbound hwin (hslots.trans (hsnoc slot todo).symm) c
      rw [hlength] at hloop
      simp only [hsnoc] at harmed
      by_cases hnone : slot.timeout = none
      · -- the budget is used up
        have hzero : c = 0 := by
          have := not_and.mp hsend hnone
          omega
        obtain rfl : ts = [] := List.eq_nil_of_length_eq_zero (by rw [hts, hzero, Nat.min_zero])
        refine ⟨[], host', by rw [hzero, Nat.min_zero]; rfl, hloop, hsent, ?_⟩
        simpa only [armFirst_nil] using harmed
      · refine ⟨ts, host', ?_, hloop, ?_, ?_⟩
        · rw [nullTimers_cons_some hnone, hts]
        · rw [nullTimers_cons_some hnone, hsent]
        · simpa only [armFirst_cons_some hnone] using harmed

variable (cfg) in
/-- How many frames are sent again to `d` when the budget of `d` is `c d`. -/
def resendCount (c : ℕ → ℕ) (host : Host D) (d : ℕ) : ℕ :=
  min (nullTimers (sendWin cfg d host)).length (c d)

variable (cfg) in
/-- The frames sent again to `d`. -/
def resent (c : ℕ → ℕ) (host : Host D) (d : ℕ) : List Frame :=
  ((nullTimers (sendWin cfg d host)).take (resendCount cfg c host d)).filterMap (·.frame)

theorem resendCount_congr {c : ℕ → ℕ} {host host' : Host D} {d : ℕ}
    (h : sendWin cfg d host' = sendWin cfg d host) :
    resendCount cfg c host' d = resendCount cfg c host d := by rw [resendCount, resendCount, h]

theorem resent_congr {c : ℕ → ℕ} {host host' : Host D} {d : ℕ}
    (h : sendWin cfg d host' = sendWin cfg d host) :
    resent cfg c host' d = resent cfg c host d := by
  rw [resent, resent, resendCount_congr h, h]

theorem resendCount_of_nil {c : ℕ → ℕ} {host : Host D} {d : ℕ}
    (h : winFrames cfg d host = []) : resendCount cfg c host d = 0 := by
  rw [winFrames, List.map_eq_nil_iff] at h
  rw [resendCount, h]
  exact Nat.zero_min _

theorem resent_of_nil {c : ℕ → ℕ} {host : Host D} {d : ℕ} (h : winFrames cfg d host = []) :
    resent cfg c host d = [] := by
  rw [resent, resendCount_of_nil h]
  rfl

/-- **The retransmissions of a round**: in every window the first slots without a timer, as many as
the budget allows, are sent again and armed. -/
theorem resendWindows_eq (hW : cfg.windowSize ≤ 255) {b : ℕ → UInt8} {window : ℕ → List Frame}
    (hcons : ∀ d, Consecutive (b d) (window d)) {recvIds : List ℕ} (hnodup : recvIds.Nodup)
    {host : Host D} (hbound : SendWinBound cfg host)
    (hwin : ∀ d, winFrames cfg d host = (window d).map some)
    (hother : ∀ d, window d ≠ [] → d < 256 ∧ d ≠ host.id) (c : ℕ → ℕ) {budget : ℕ → ℤ}
    (hbudget : ∀ d ∈ recvIds, budget d = c d) :
    ∃ (ts : ℕ → List TimeVal) (host' : Host D),
      (∀ d, (ts d).length = if d ∈ recvIds then resendCount cfg c host d else 0) ∧
      resendWindows cfg recvIds budget host = .ok (fun d => budget d - (ts d).length, host') ∧
      host'.outgoingFramesHead =
        host.outgoingFramesHead ++ recvIds.flatMap (resent cfg c host) ∧
      ∀ d, sendWin cfg d host' = armFirst (ts d) (sendWin cfg d host) := by
  induction recvIds generalizing host budget with
  | nil =>
    refine ⟨fun _ => [], host, by simp, by simp [resendWindows], by simp, ?_⟩
    intro d
    rw [armFirst_nil]
  | cons recvId recvIds ih =>
    obtain ⟨hnotMem, hnodup'⟩ := List.nodup_cons.mp hnodup
    obtain ⟨hfirst, hbudget'⟩ := List.forall_mem_cons.mp hbudget
    rw [resendWindows]
    by_cases hself : recvId = host.id
    · have hnil : winFrames cfg recvId host = [] := by
        rw [hwin, List.map_eq_nil_iff]
        by_contra hne
        exact (hother recvId hne).2 hself
      obtain ⟨ts, host', hts, hloop, hsent, harmed⟩ := ih hnodup' hbound hwin hother hbudget'
      refine ⟨ts, host', ?_, by rw [if_pos hself, hloop], ?_, harmed⟩
      · intro d
        rw [hts]
        by_cases hd : d = recvId
        · rw [hd, if_neg hnotMem, if_pos List.mem_cons_self, resendCount_of_nil hnil]
        · simp only [List.mem_cons, hd, false_or]
      · rw [hsent, List.flatMap_cons, resent_of_nil hnil, List.nil_append]
    · have hslots : sendWin cfg recvId host = [] ++ sendWin cfg recvId host := rfl
      obtain ⟨ts₁, host₁, hts₁, hloop₁, hsent₁, harmed₁⟩ := resendLoop_eq hW
        (fun hne => (hother recvId hne).1) (hcons recvId) hbound (hwin recvId) hslots (c recvId)
      rw [List.length_nil, length_sendWin, ← List.range_eq_range', ← hfirst] at hloop₁
      rw [List.nil_append] at harmed₁
      obtain ⟨_, hresends⟩ := resendLoop_resends hloop₁
      have hid : host₁.id = host.id := by
        obtain ⟨_, _, _, _, _, _, _, rfl⟩ := hresends.eq
        rfl
      have hsame {d : ℕ} (hd : d ≠ recvId) : sendWin cfg d host₁ = sendWin cfg d host := by
        rw [harmed₁, if_neg hd]
      have hne {d : ℕ} (hd : d ∈ recvIds) : d ≠ recvId := by
        rintro rfl
        exact hnotMem hd
      have hbudget₁ (d : ℕ) (hd : d ∈ recvIds) :
          Function.update budget recvId (budget recvId - ts₁.length) d = c d := by
        rw [Function.update_of_ne (hne hd), hbudget' d hd]
      obtain ⟨ts, host', hts, hloop, hsent, harmed⟩ := ih hnodup' (hresends.bound hbound)
        (fun d => (hresends.winFrames_eq d).trans (hwin d)) (by rwa [hid]) hbudget₁
      have hlast : ts recvId = [] :=
        List.eq_nil_of_length_eq_zero ((hts recvId).trans (if_neg hnotMem))
      refine ⟨Function.update ts recvId ts₁, host', ?_, ?_, ?_, ?_⟩
      · intro d
        by_cases hd : d = recvId
        · rw [hd, Function.update_self, if_pos List.mem_cons_self, hts₁]
          rfl
        · rw [Function.update_of_ne hd, hts, resendCount_congr (hsame hd)]
          simp only [List.mem_cons, hd, false_or]
      · rw [if_neg hself, hloop₁]
        simp only [hloop]
        congr 2
        ext d
        by_cases hd : d = recvId
        · rw [hd, Function.update_self, Function.update_self, hlast, List.length_nil,
            Nat.cast_zero, sub_zero]
        · rw [Function.update_of_ne hd, Function.update_of_ne hd]
      · have hrest : recvIds.flatMap (resent cfg c host₁) = recvIds.flatMap (resent cfg c host) :=
          List.flatMap_congr fun d hd => resent_congr (hsame (hne hd))
        rw [hsent, hsent₁, hrest, hts₁, List.flatMap_cons, List.append_assoc]
        rfl
      · intro d
        rw [harmed, harmed₁]
        by_cases hd : d = recvId
        · rw [hd, Function.update_self, hlast, if_pos rfl, armFirst_nil]
        · rw [Function.update_of_ne hd, if_neg hd]

/-! ## Sending from the backlog -/

/-- The receiver that a frame is for. -/
def Frame.receiver (frame : Frame) : ℕ := frame.dstId.toNat

/-- A frame goes to the end of its window. -/
theorem sendWin_append (hW : cfg.windowSize ≤ 255) {frame : Frame} {host : Host D}
    (hlt : cqGetLengthSend frame.receiver host < cfg.windowSize) (outgoing : List Frame)
    (log : HostLog) (timeout : TimeVal) (d : ℕ) :
    sendWin cfg d (cqAppendItemSend cfg frame.receiver frame timeout
        { host with outgoingFramesHead := outgoing, log := log }) =
      sendWin cfg d host ++ if d = frame.receiver then [⟨some frame, some timeout⟩] else [] := by
  have hlt' : cqGetLengthSend frame.receiver
      { host with outgoingFramesHead := outgoing, log := log } < cfg.windowSize := hlt
  rw [sendWin_cqAppendItemSend hW hlt']
  split
  · rename_i hd
    rw [hd]
    rfl
  · rw [List.append_nil]
    rfl

/-- **The pass over the backlog**: the quota of a receiver is what its window has room for and its
budget allows. The frames within the quotas move to the windows, the others stay. -/
theorem sendLoop_eq (hW : cfg.windowSize ≤ 255) (currTimeval : TimeVal) (kept frames : List Frame)
    {budget : ℕ → ℤ} (hbudget : ∀ d, 0 ≤ budget d) (additionalTs : ℤ) {host : Host D}
    (hbound : SendWinBound cfg host) {quota : ℕ → ℕ}
    (hquota : ∀ d, quota d =
      min (cfg.windowSize - cqGetLengthSend d host) (budget d).toNat) :
    ∃ additionalTs' host', sendLoop cfg currTimeval kept frames budget additionalTs host =
        (additionalTs', host') ∧
      host'.outgoingFramesHead =
        host.outgoingFramesHead ++ within Frame.receiver quota frames ∧
      host'.bufferedOutframesHead = kept ++ beyond Frame.receiver quota frames ∧
      ∀ d, ∃ new, sendWin cfg d host' = sendWin cfg d host ++ new ∧
        new.map (·.frame) = (framesFor d (within Frame.receiver quota frames)).map some ∧
        ∀ slot ∈ new, slot.timeout ≠ none := by
  induction frames generalizing kept budget additionalTs host quota with
  | nil =>
    refine ⟨_, _, rfl, by simp [within], by simp [beyond], ?_⟩
    intro d
    exact ⟨[], by simp [sendWin, cqGetLengthSend], by simp [within], by simp⟩
  | cons frame frames ih =>
    have hlen := hbound frame.receiver
    have hpos := hbudget frame.receiver
    have hmin := hquota frame.receiver
    rw [sendLoop]
    by_cases hheld : cqGetLengthSend frame.receiver host = cfg.windowSize ∨
        budget frame.receiver = 0
    · have hzero : quota frame.receiver = 0 := by
        rw [hmin]
        rcases hheld with hfull | hspent
        · rw [hfull, Nat.sub_self, Nat.zero_min]
        · rw [hspent]
          exact Nat.min_zero _
      obtain ⟨ts, host', hloop, hout, hkept, hwindows⟩ :=
        ih (kept ++ [frame]) hbudget additionalTs hbound hquota
      rw [within_cons_zero hzero, beyond_cons_zero hzero]
      refine ⟨ts, host', (if_pos hheld).trans hloop, hout, ?_, hwindows⟩
      rw [hkept, List.append_assoc, List.singleton_append]
    · obtain ⟨hroom, hleft⟩ := not_or.mp hheld
      have hlt : cqGetLengthSend frame.receiver host < cfg.windowSize := by omega
      have hsend : quota frame.receiver ≠ 0 := by omega
      generalize timevalUsecplus currTimeval (timeoutIntervalUsec + additionalTs) = timeout
      obtain ⟨host₁, hhost₁⟩ : ∃ host₁, cqAppendItemSend cfg frame.receiver frame timeout
          { host with
            outgoingFramesHead := host.outgoingFramesHead ++ [frame]
            log := { host.log with sent := host.log.sent ++ [(frame, timeout)] } } = host₁ :=
        ⟨_, rfl⟩
      have hwin₁ (d : ℕ) : sendWin cfg d host₁ = sendWin cfg d host ++
          if d = frame.receiver then [⟨some frame, some timeout⟩] else [] := by
        rw [← hhost₁]
        exact sendWin_append hW hlt _ _ timeout d
      have hlen₁ (d : ℕ) : cqGetLengthSend d host₁ =
          cqGetLengthSend d host + if d = frame.receiver then 1 else 0 := by
        rw [← length_sendWin cfg, hwin₁, List.length_append, length_sendWin]
        split <;> rfl
      have hbudget₁ (d : ℕ) : 0 ≤ Function.update budget frame.receiver
          (budget frame.receiver - 1) d := by
        rw [Function.update_apply]
        split
        · omega
        · exact hbudget d
      have hbound₁ : SendWinBound cfg host₁ := by
        intro d
        have := hbound d
        rw [hlen₁]
        split
        · rename_i hd
          rw [hd]
          omega
        · exact this
      have hquota₁ (d : ℕ) : spend quota frame.receiver d =
          min (cfg.windowSize - cqGetLengthSend d host₁)
            (Function.update budget frame.receiver (budget frame.receiver - 1) d).toNat := by
        rw [hlen₁]
        by_cases hd : d = frame.receiver
        · rw [hd, spend_self, if_pos rfl, Function.update_self]
          omega
        · rw [spend_of_ne _ hd, if_neg hd, Function.update_of_ne hd, add_zero]
          exact hquota d
      obtain ⟨ts, host', hloop, hout, hkept, hwindows⟩ :=
        ih kept hbudget₁ (additionalTs + 10000) hbound₁ hquota₁
      have hout₁ : host₁.outgoingFramesHead = host.outgoingFramesHead ++ [frame] := by
        rw [← hhost₁, cqAppendItemSend]
        split <;> rfl
      rw [within_cons_pos hsend, beyond_cons_pos hsend]
      refine ⟨ts, host', ?_, ?_, hkept, ?_⟩
      · rw [← hhost₁] at hloop
        exact (if_neg hheld).trans hloop
      · rw [hout, hout₁, List.append_assoc, List.singleton_append]
      · intro d
        obtain ⟨new, hnew, hframes, hset⟩ := hwindows d
        rw [hnew, hwin₁, framesFor_cons]
        by_cases hd : d = frame.receiver
        · rw [if_pos hd, if_pos (show frame.dstId.toNat = d from hd.symm)]
          refine ⟨⟨some frame, some timeout⟩ :: new, ?_, ?_, ?_⟩
          · rw [List.append_assoc, List.singleton_append]
          · rw [List.map_cons, List.map_cons, hframes]
          · exact List.forall_mem_cons.mpr ⟨Option.some_ne_none timeout, hset⟩
        · rw [if_neg hd, if_neg (show ¬ frame.dstId.toNat = d from Ne.symm hd)]
          exact ⟨new, by rw [List.append_nil], hframes, hset⟩

/-! ## A round -/

variable (cfg) in
/-- How many frames of the backlog can be sent to `d`: what the window has room for and what the
retransmissions leave of the budget `c d`. -/
def sendQuota (c : ℕ → ℕ) (host : Host D) (d : ℕ) : ℕ :=
  min (cfg.windowSize - cqGetLengthSend d host) (c d - resendCount cfg c host d)

/-- **What one round sends.** With the budgets `c` and windows of consecutive numbers,
`handle_outgoing_frames` sends the first frames without a timer of every window again and arms
exactly these; then it moves the first frames of the backlog for every receiver, up to its quota, in
their order, and leaves the others in theirs. -/
theorem round_sends [CDouble D] (cfg : SysConfig D) (hW : cfg.windowSize ≤ 255)
    (currTimeval : TimeVal) (host : Host D) (b : ℕ → UInt8) (window : ℕ → List Frame)
    (hwin : ∀ d, winFrames cfg d host = (window d).map some)
    (hlen : ∀ d, (window d).length ≤ cfg.windowSize) (hcons : ∀ d, Consecutive (b d) (window d))
    (hother : ∀ d, window d ≠ [] → d < cfg.numHosts ∧ d < 256 ∧ d ≠ host.id) (c : ℕ → ℕ)
    (hc : ∀ d, CDouble.toInt (host.cc d).cwnd = c d) :
    ∃ host' moved kept, handleOutgoingFrames cfg currTimeval host = .ok host' ∧
      host'.outgoingFramesHead = host.outgoingFramesHead ++
        (List.range cfg.numHosts).flatMap (resent cfg c host) ++ moved ∧
      host'.bufferedOutframesHead = kept ∧
      moved = within Frame.receiver (sendQuota cfg c host) host.bufferedOutframesHead ∧
      kept = beyond Frame.receiver (sendQuota cfg c host) host.bufferedOutframesHead ∧
      moved.Sublist host.bufferedOutframesHead ∧ kept.Sublist host.bufferedOutframesHead ∧
      ∀ d,
        framesFor d moved =
          (framesFor d host.bufferedOutframesHead).take (sendQuota cfg c host d) ∧
        framesFor d kept =
          (framesFor d host.bufferedOutframesHead).drop (sendQuota cfg c host d) ∧
        ∃ ts new, ts.length = resendCount cfg c host d ∧
          sendWin cfg d host' = armFirst ts (sendWin cfg d host) ++ new ∧
          new.map (·.frame) = (framesFor d moved).map some ∧
          ∀ slot ∈ new, slot.timeout ≠ none := by
  have hbound : SendWinBound cfg host := by
    intro d
    rw [length_of_winFrames (hwin d)]
    exact hlen d
  obtain ⟨ts, host₁, hts, hresend, hout₁, harmed⟩ := resendWindows_eq hW hcons
    (List.nodup_range (n := cfg.numHosts)) hbound hwin (fun d hd => (hother d hd).2) c
    (fun d _ => hc d)
  obtain ⟨_, hresends⟩ := resendWindows_resends hresend
  have hlen₁ (d : ℕ) : cqGetLengthSend d host₁ = cqGetLengthSend d host := by
    rw [length_of_winFrames ((hresends.winFrames_eq d).trans (hwin d)),
      length_of_winFrames (hwin d)]
  have hbacklog : host₁.bufferedOutframesHead = host.bufferedOutframesHead := by
    obtain ⟨_, _, _, _, _, _, _, rfl⟩ := hresends.eq
    rfl
  -- a receiver that is no other host has an empty window
  have hcount (d : ℕ) : (ts d).length = resendCount cfg c host d := by
    rw [hts]
    split
    · rfl
    · rename_i hd
      have hnil : winFrames cfg d host = [] := by
        rw [hwin, List.map_eq_nil_iff]
        by_contra hne
        exact hd (List.mem_range.mpr (hother d hne).1)
      exact (resendCount_of_nil hnil).symm
  have hle (d : ℕ) : resendCount cfg c host d ≤ c d := Nat.min_le_right ..
  have hbudget (d : ℕ) :
      CDouble.toInt (host.cc d).cwnd - (ts d).length = (c d - resendCount cfg c host d : ℕ) := by
    have := hle d
    rw [hc, hcount]
    omega
  have hnonneg (d : ℕ) : 0 ≤ CDouble.toInt (host.cc d).cwnd - (ts d).length := by
    rw [hbudget]
    exact Int.natCast_nonneg _
  have hquota (d : ℕ) : sendQuota cfg c host d = min (cfg.windowSize - cqGetLengthSend d host₁)
      (CDouble.toInt (host.cc d).cwnd - (ts d).length).toNat := by
    rw [hbudget, hlen₁, Int.toNat_natCast, sendQuota]
  obtain ⟨additionalTs, host₂, hsend, hout₂, hkept, hwindows⟩ := sendLoop_eq hW
    (afterLatestTimeout currTimeval host.latestTimeout) [] host₁.bufferedOutframesHead hnonneg 0
    (hresends.bound hbound) hquota
  rw [hbacklog] at hout₂ hkept hwindows
  refine ⟨{ host₂ with
    latestTimeout := timevalUsecplus (afterLatestTimeout currTimeval host.latestTimeout)
      additionalTs }, _, _, ?_, ?_, hkept, rfl, rfl, within_sublist _ _, beyond_sublist _ _,
    fun d => ⟨filter_within _ _ d, filter_beyond _ _ d, ?_⟩⟩
  · simp only [handleOutgoingFrames, hresend, hsend]
  · rw [← hout₁]
    exact hout₂
  · obtain ⟨new, hnew, hframes, hset⟩ := hwindows d
    refine ⟨ts d, new, hcount d, ?_, hframes, hset⟩
    rw [← harmed]
    exact hnew

/-- Host 0 with the frames 254, 255 and 0 for host 1, of which 255 has a timer, in a window of four
slots, two more frames, and a congestion window of 3.5. -/
def timedOutSender : Host ℚ :=
  { wrappedSender with
    sendWindow := Function.update wrappedSender.sendWindow 7 ⟨some (dataOf 255), some ⟨0, 0⟩⟩
    bufferedOutframesHead := [dataOf 1, dataOf 2]
    cc := fun _ => ⟨7 / 2, 8, 0, .aimd⟩ }

/-- The budget of 3 is enough for the two frames without a timer and one new one. -/
theorem round_sends_timedOut :
    ∃ host', handleOutgoingFrames (lossyConfig 4 four_slots) ⟨0, 0⟩ timedOutSender = .ok host' ∧
      host'.outgoingFramesHead = [dataOf 254, dataOf 0, dataOf 1] ∧
      host'.bufferedOutframesHead = [dataOf 2] := by
  have hone (d : ℕ) (h : d ≠ 1) :
      winFrames (lossyConfig 4 four_slots) d timedOutSender = [] := by
    have hlen : cqGetLengthSend d timedOutSender = 0 :=
      congrArg UInt8.toNat (if_neg h : (if d = 1 then (3 : UInt8) else 0) = 0)
    rw [winFrames, sendWin, hlen]
    rfl
  have hcons : ∀ d, Consecutive 254 (if d = 1 then [dataOf 254, dataOf 255, dataOf 0] else []) := by
    intro d
    split
    · exact consecutive_wrapped
    · intro k frame hk
      simp at hk
  have hwin (d : ℕ) : winFrames (lossyConfig 4 four_slots) d timedOutSender =
      (if d = 1 then [dataOf 254, dataOf 255, dataOf 0] else []).map some := by
    split
    · rename_i hd
      rw [hd]
      rfl
    · rename_i hd
      exact hone d hd
  have hother (d : ℕ) (hne : (if d = 1 then [dataOf 254, dataOf 255, dataOf 0] else []) ≠ []) :
      d < 2 ∧ d < 256 ∧ d ≠ 0 := by
    obtain rfl : d = 1 := by
      by_contra hd
      exact hne (if_neg hd)
    decide
  have hbudget : CDouble.toInt (7 / 2 : ℚ) = 3 := by decide +kernel
  obtain ⟨host', _, _, hround, hout, hback, rfl, rfl, -⟩ :=
    round_sends (lossyConfig 4 four_slots) (by decide) ⟨0, 0⟩ timedOutSender (fun _ => 254) _ hwin
      (fun d => by split <;> decide) hcons hother (fun _ => 3) (fun _ => hbudget)
  refine ⟨host', hround, hout.trans ?_, hback.trans ?_⟩
  · rfl
  · rfl

end NetworkSim.Tcp
