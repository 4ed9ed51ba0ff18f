import Mathlib.Data.List.TakeWhile
import Mathlib.Data.List.Forall2
import NetworkSim.Tcp.Commands
import NetworkSim.Tcp.Main

/-!
# Fragmentation and reassembly

The frames that `handle_input_cmds` makes from a message are its fragments (`Fragments`): their
payloads, one after the other, are the message with its terminating NUL, and only the last of them
has `remaining_msg_bytes` zero. `reassemble_message` takes the fragments of one message off the
front of a list, whatever follows them, and leaves a list without the end of a message as it is.
So a stream of messages comes out as it went in, wherever the arrivals are cut
(`reassembleMessages_roundtrip`).
-/

namespace NetworkSim.Tcp

variable {D : Type}

/-! ## Copying payloads -/

theorem length_strncpy (src : List UInt8) (n : ℕ) : (strncpy src n).length = n := by
  have := (List.takeWhile_sublist (· ≠ (0 : UInt8)) (l := src.take n)).length_le
  simp only [strncpy, List.length_append, List.length_replicate]
  rw [List.length_take] at this
  omega

theorem strncpy_congr {src src' : List UInt8} {n : ℕ} (h : src.take n = src'.take n) :
    strncpy src n = strncpy src' n := by rw [strncpy, strncpy, h]

/-- A copy of a copy is the copy. -/
theorem strncpy_strncpy (src : List UInt8) (n : ℕ) : strncpy (strncpy src n) n = strncpy src n := by
  have htake : (strncpy src n).take n = strncpy src n := by
    rw [List.take_of_length_le (length_strncpy src n).le]
  have hwhile : (strncpy src n).takeWhile (· ≠ 0) = (src.take n).takeWhile (· ≠ 0) := by
    rw [strncpy,
      List.takeWhile_append_of_pos (fun a ha => by simpa using List.mem_takeWhile_imp ha)]
    rw [List.takeWhile_replicate]
    simp
  conv_lhs => rw [strncpy, htake, hwhile]
  rfl

/-- The copy of a string without NUL and its terminator. -/
theorem strncpy_of_not_mem {src : List UInt8} (h : 0 ∉ src) {n : ℕ} (hn : n ≤ src.length + 1) :
    strncpy src n = (src ++ [0]).take n := by
  have hwhile : (src.take n).takeWhile (· ≠ 0) = src.take n := by
    rw [List.takeWhile_eq_self_iff]
    intro a ha
    exact decide_eq_true fun h0 : a = 0 => h (h0 ▸ List.mem_of_mem_take ha)
  rw [strncpy, hwhile, List.length_take]
  rcases Nat.lt_or_eq_of_le hn with hlt | rfl
  · rw [List.take_append_of_le_length (by omega), Nat.min_eq_left (by omega), Nat.sub_self]
    simp
  · rw [List.take_of_length_le (by omega), List.take_of_length_le (by simp)]
    simp

/-- What is behind a frame whose length fits does not matter. -/
theorem Frame.Fits.copyPayload_eq {frame : Frame} (h : frame.Fits) (beyond : ℕ → UInt8) :
    copyPayload beyond frame = strncpy frame.data.toList frame.length.toNat := by
  refine strncpy_congr (List.take_append_of_le_length ?_)
  rw [List.Vector.toList_length]
  exact h

theorem toList_writeData (bytes : List UInt8) (data : List.Vector UInt8 framePayloadSize)
    (h : bytes.length ≤ framePayloadSize) :
    (writeData bytes data).toList.take bytes.length = bytes := by
  rw [writeData, List.Vector.toList_mk, List.take_take, Nat.min_eq_left h, List.take_left']
  rfl

/-! ## Fragments -/

/-- `frames` are the fragments of `text`. -/
inductive Fragments : List UInt8 → List Frame → Prop
  | last {text : List UInt8} {frame : Frame} (hlast : frame.remainingMsgBytes = 0)
      (hfits : frame.Fits) (htext : strncpy frame.data.toList frame.length.toNat = text) :
      Fragments text [frame]
  | more {chunk text : List UInt8} {frame : Frame} {frames : List Frame}
      (hmore : frame.remainingMsgBytes ≠ 0) (hfits : frame.Fits)
      (hchunk : strncpy frame.data.toList frame.length.toNat = chunk)
      (hrest : Fragments text frames) : Fragments (chunk ++ text) (frame :: frames)

namespace Fragments

variable {text : List UInt8} {frames : List Frame}

theorem scanMessage (h : Fragments text frames) (buffer rest : List Frame) :
    Tcp.scanMessage buffer (frames ++ rest) = some (buffer ++ frames) := by
  induction h generalizing buffer with
  | last hlast _ _ => rw [List.singleton_append, Tcp.scanMessage, if_pos hlast]
  | more hmore _ _ _ ih =>
    rw [List.cons_append, Tcp.scanMessage, if_neg hmore, ih, List.append_assoc]
    rfl

theorem popMessage (h : Fragments text frames) (beyond : ℕ → ℕ → UInt8) (copies : ℕ)
    (rest : List Frame) :
    Tcp.popMessage beyond copies frames (frames ++ rest) =
      (text, copies + frames.length, rest) := by
  induction h generalizing copies with
  | last _ hfits htext =>
    rw [List.singleton_append, Tcp.popMessage, hfits.copyPayload_eq, htext]
    simp [Tcp.popMessage]
  | more _ hfits hchunk _ ih =>
    rw [List.cons_append, Tcp.popMessage, ih, hfits.copyPayload_eq, hchunk, List.length_cons,
      Nat.add_right_comm, Nat.add_assoc]

/-- **The fragments of a message at the front of a list** are reassembled. -/
theorem reassembleMessage (h : Fragments text frames) (beyond : ℕ → ℕ → UInt8) (copies : ℕ)
    (rest : List Frame) :
    Tcp.reassembleMessage beyond copies (frames ++ rest) =
      (some text, copies + frames.length, rest) := by
  rw [Tcp.reassembleMessage, h.scanMessage, List.nil_append]
  simp only [h.popMessage]

/-- Only the last fragment ends the message. -/
theorem ne_zero_of_prefix (h : Fragments text frames) {part : List Frame} (hp : part <+: frames)
    (hlt : part.length < frames.length) : ∀ frame ∈ part, frame.remainingMsgBytes ≠ 0 := by
  induction h generalizing part with
  | last _ _ _ =>
    have : part = [] := List.eq_nil_of_length_eq_zero (by simpa using hlt)
    simp [this]
  | more hmore _ _ _ ih =>
    cases part with
    | nil => simp
    | cons frame part =>
      obtain ⟨rfl, hpart⟩ := List.cons_prefix_cons.mp hp
      intro f hf
      rcases List.mem_cons.mp hf with rfl | hf
      · exact hmore
      · exact ih hpart (by simpa using hlt) f hf

theorem length_pos (h : Fragments text frames) : 0 < frames.length := by
  cases h <;> simp

end Fragments

theorem scanMessage_of_ne_zero {frames : List Frame}
    (h : ∀ frame ∈ frames, frame.remainingMsgBytes ≠ 0) (buffer : List Frame) :
    scanMessage buffer frames = none := by
  induction frames generalizing buffer with
  | nil => rfl
  | cons frame frames ih =>
    rw [scanMessage, if_neg (h frame List.mem_cons_self)]
    exact ih (fun f hf => h f (List.mem_cons_of_mem frame hf)) _

/-- `NULL` is returned with the list unchanged. -/
theorem reassembleMessage_none {beyond : ℕ → ℕ → UInt8} {copies : ℕ} {frames : List Frame}
    (h : (reassembleMessage beyond copies frames).1 = none) :
    (reassembleMessage beyond copies frames).2 = (copies, frames) := by
  rw [reassembleMessage] at h ⊢
  split
  · rfl
  · rename_i hscan
    rw [hscan] at h
    simp at h

theorem reassembleMessage_of_ne_zero {frames : List Frame}
    (h : ∀ frame ∈ frames, frame.remainingMsgBytes ≠ 0) (beyond : ℕ → ℕ → UInt8) (copies : ℕ) :
    reassembleMessage beyond copies frames = (none, copies, frames) := by
  rw [reassembleMessage, scanMessage_of_ne_zero h]

/-! ## Making fragments -/

/-- A fragment carries its part of the message and the terminator. -/
theorem strncpy_drop {cmd : Cmd} (hnul : 0 ∉ cmd.message) {start stop : ℕ}
    (hstart : start < stop) (hstop : stop ≤ cmd.message.length + 1) :
    strncpy (cmd.message.drop start) (stop - start) =
      ((cmd.message ++ [0]).drop start).take (stop - start) := by
  rw [strncpy_of_not_mem (fun h => hnul (List.mem_of_mem_drop h))
    (by rw [List.length_drop]; omega), List.drop_append_of_le_length (by omega)]

/-- The byte that the source sets to NUL is the terminator already. -/
theorem fragmentBytes_eq {cmd : Cmd} (hnul : 0 ∉ cmd.message) {start stop : ℕ}
    (hstart : start < stop) (hstop : stop ≤ cmd.message.length + 1) :
    fragmentBytes cmd (cmd.message.length + 1) start stop =
      strncpy (cmd.message.drop start) (stop - start) := by
  rw [fragmentBytes]
  split
  · rename_i hend
    rw [strncpy_drop hnul hstart hstop, List.take_of_length_le (by simp; omega)]
    refine List.ext_getElem (by simp) fun i hi _ => ?_
    rw [List.getElem_set]
    split
    · rw [List.getElem_drop, List.getElem_append_right (by omega)]
      simp
    · rfl
  · rfl

/-- The receiver's copy of a payload is the sender's. -/
theorem strncpy_writeData {src : List UInt8} {n : ℕ} (hn : n ≤ framePayloadSize)
    (data : List.Vector UInt8 framePayloadSize) :
    strncpy (writeData (strncpy src n) data).toList (UInt8.ofNat n).toNat = strncpy src n := by
  have htake := toList_writeData (strncpy src n) data (by rwa [length_strncpy])
  rw [length_strncpy] at htake
  rw [toNat_ofNat, Nat.mod_eq_of_lt (by simp only [framePayloadSize] at hn; omega)]
  conv_rhs => rw [← strncpy_strncpy]
  refine strncpy_congr ?_
  rw [htake, List.take_of_length_le (length_strncpy src n).le]

/-- **A message is cut into fragments.** -/
theorem fragmentLoop_fragments {cmd : Cmd} (hnul : 0 ∉ cmd.message)
    (hlen : cmd.message.length + 1 ≤ 65591) {fuel start : ℕ}
    (hstart : start < cmd.message.length + 1) (hfuel : cmd.message.length + 1 ≤ start + fuel)
    (host : Host D) :
    ∃ frames, Fragments ((cmd.message ++ [0]).drop start) frames ∧
      Creates frames host (fragmentLoop cmd (cmd.message.length + 1) fuel start host) := by
  induction fuel generalizing start host with
  | zero => omega
  | succ fuel ih =>
    rw [fragmentLoop, if_pos hstart]
    generalize hstop : (if start + framePayloadSize > cmd.message.length + 1 then
      cmd.message.length + 1 else start + framePayloadSize) = stop
    simp only [framePayloadSize] at hstop
    have hstop' : stop ≤ start + framePayloadSize := by
      simp only [framePayloadSize]
      split_ifs at hstop <;> omega
    obtain ⟨frame, data, hcreate, hcmd, hlength, hrem, hdata⟩ :=
      appendFragment_creates cmd (cmd.message.length + 1) hstop' host
    have hlt : start < stop := by split_ifs at hstop <;> omega
    have hle : stop ≤ cmd.message.length + 1 := by split_ifs at hstop <;> omega
    have hbytes : strncpy frame.data.toList frame.length.toNat =
        ((cmd.message ++ [0]).drop start).take (stop - start) := by
      rw [hdata, hlength, fragmentBytes_eq hnul hlt hle, strncpy_writeData
        (by simp only [framePayloadSize]; split_ifs at hstop <;> omega), strncpy_drop hnul hlt hle]
    rcases Nat.lt_or_eq_of_le hle with hmore | hlast
    · obtain ⟨frames, hfrag, hcreates⟩ := ih hmore (by omega)
        (appendFragment cmd (cmd.message.length + 1) start stop host)
      refine ⟨[frame] ++ frames, ?_, hcreate.trans hcreates⟩
      -- the bytes still to be sent fit into the 16 bits of `remaining_msg_bytes`
      have hne : frame.remainingMsgBytes ≠ 0 := by
        intro h
        have hnat := congrArg UInt16.toNat (hrem.symm.trans h)
        rw [UInt16.toNat_ofNat'] at hnat
        simp only [UInt16.toNat_zero] at hnat
        split_ifs at hstop <;> omega
      have hsplit := (List.take_append_drop (stop - start)
        ((cmd.message ++ [0]).drop start)).symm
      rw [List.drop_drop, Nat.add_sub_cancel' hlt.le] at hsplit
      rw [hsplit]
      exact .more hne hcmd.fits hbytes hfrag
    · refine ⟨[frame], .last (by rw [hrem, hlast, Nat.sub_self]; rfl) hcmd.fits ?_, ?_⟩
      · rw [hbytes, List.take_of_length_le (by simp; omega)]
      · have hdone : fragmentLoop cmd (cmd.message.length + 1) fuel stop
            (appendFragment cmd (cmd.message.length + 1) start stop host) =
            appendFragment cmd (cmd.message.length + 1) start stop host := by
          cases fuel with
          | zero => rfl
          | succ fuel => rw [fragmentLoop, if_neg (by omega)]
        rwa [hdone]

theorem handleInputCmd_fragments {cmd : Cmd} (hnul : 0 ∉ cmd.message)
    (hlen : cmd.message.length + 1 ≤ 65591) (host : Host D) :
    ∃ frames, Fragments (cmd.message ++ [0]) frames ∧
      Creates frames host (handleInputCmd host cmd) := by
  have hwhile : cmd.message.takeWhile (· ≠ 0) = cmd.message := by
    rw [List.takeWhile_eq_self_iff]
    intro a ha
    exact decide_eq_true fun h0 : a = 0 => hnul (h0 ▸ ha)
  rw [handleInputCmd, hwhile]
  exact fragmentLoop_fragments hnul hlen (Nat.succ_pos _) (by omega) host

/-! ## Streams of messages -/

/-- The commands of a list become groups of fragments, one after the other. -/
theorem foldl_handleInputCmd_fragments (cmds : List Cmd)
    (hnul : ∀ cmd ∈ cmds, 0 ∉ cmd.message) (hlen : ∀ cmd ∈ cmds, cmd.message.length + 1 ≤ 65591)
    (host : Host D) :
    ∃ groups, List.Forall₂ (fun cmd frames => Fragments (cmd.message ++ [0]) frames) cmds groups ∧
      ∀ k, Creates (groups.take k).flatten host ((cmds.take k).foldl handleInputCmd host) := by
  induction cmds generalizing host with
  | nil => exact ⟨[], .nil, fun k => by simpa using Creates.refl host⟩
  | cons cmd cmds ih =>
    obtain ⟨frames, hfrag, hcreate⟩ := handleInputCmd_fragments (hnul cmd List.mem_cons_self)
      (hlen cmd List.mem_cons_self) host
    obtain ⟨groups, hgroups, hcreates⟩ := ih (fun c hc => hnul c (List.mem_cons_of_mem cmd hc))
      (fun c hc => hlen c (List.mem_cons_of_mem cmd hc)) (handleInputCmd host cmd)
    refine ⟨frames :: groups, .cons hfrag hgroups, fun k => ?_⟩
    cases k with
    | zero => simpa using Creates.refl host
    | succ k =>
      rw [List.take_succ_cons, List.take_succ_cons, List.flatten_cons, List.foldl_cons]
      exact hcreate.trans (hcreates k)

/-- What has arrived of a stream: the fragments of some messages, and a part of the next one that
lacks its last fragment. -/
theorem exists_arrived {cmds : List Cmd} {groups : List (List Frame)}
    (h : List.Forall₂ (fun cmd frames => Fragments (cmd.message ++ [0]) frames) cmds groups)
    {arrived : List Frame} (hp : arrived <+: groups.flatten) :
    ∃ k part, k ≤ cmds.length ∧ arrived = (groups.take k).flatten ++ part ∧
      (∀ frame ∈ part, frame.remainingMsgBytes ≠ 0) ∧
      (k < cmds.length → arrived.length < (groups.take (k + 1)).flatten.length) := by
  induction h generalizing arrived with
  | nil => exact ⟨0, [], le_rfl, by simpa using hp, by simp, by simp⟩
  | @cons cmd frames cmds groups hfrag _ ih =>
    rw [List.flatten_cons] at hp
    rcases Nat.lt_or_ge arrived.length frames.length with hlt | hge
    · have hpart := List.prefix_of_prefix_length_le hp (List.prefix_append _ _) hlt.le
      exact ⟨0, arrived, Nat.zero_le _, by simp, hfrag.ne_zero_of_prefix hpart hlt,
        fun _ => by simpa using hlt⟩
    · obtain ⟨rest, rfl⟩ := List.prefix_of_prefix_length_le (List.prefix_append _ _) hp hge
      obtain ⟨k, part, hk, rfl, hpart, hnext⟩ := ih ((List.prefix_append_right_inj frames).mp hp)
      refine ⟨k + 1, part, by simpa using hk, by simp, hpart, fun hk => ?_⟩
      have := hnext (by simpa using hk)
      simp only [List.take_succ_cons, List.flatten_cons, List.length_append] at this ⊢
      omega

/-- **The loop of reassembly** prints the messages at the front of a list and keeps the rest. -/
theorem reassembleLoop_eq {cmds : List Cmd} {groups : List (List Frame)}
    (h : List.Forall₂ (fun cmd frames => Fragments (cmd.message ++ [0]) frames) cmds groups)
    {part : List Frame} (hpart : ∀ frame ∈ part, frame.remainingMsgBytes ≠ 0) {fuel : ℕ}
    (hfuel : (groups.flatten ++ part).length ≤ fuel) (beyond : ℕ → ℕ → UInt8) (copies : ℕ) :
    reassembleLoop beyond fuel copies (groups.flatten ++ part) =
      (cmds.map (fun cmd => cmd.message ++ [0]), copies + groups.flatten.length, part) := by
  induction h generalizing fuel copies with
  | nil =>
    cases fuel with
    | zero => rfl
    | succ fuel =>
      rw [List.flatten_nil, List.nil_append, reassembleLoop, reassembleMessage_of_ne_zero hpart]
      rfl
  | @cons cmd frames cmds groups hfrag _ ih =>
    have hpos := hfrag.length_pos
    rw [List.flatten_cons, List.append_assoc] at hfuel ⊢
    rw [List.length_append] at hfuel
    obtain ⟨fuel, rfl⟩ := Nat.exists_eq_add_of_lt (show 0 < fuel by omega)
    rw [zero_add, reassembleLoop, hfrag.reassembleMessage]
    simp only [ih (show _ ≤ fuel by omega), List.map_cons, List.length_append, Nat.add_assoc]

theorem reassembleMessages_eq {srcId : ℕ} {host : Host D} {msgs : List (List UInt8)} {copies : ℕ}
    {rest : List Frame}
    (h : reassembleLoop host.env.beyond (host.recvMsgHead srcId).length host.copies
      (host.recvMsgHead srcId) = (msgs, copies, rest)) :
    reassembleMessages srcId host =
      { host with
        recvMsgHead := Function.update host.recvMsgHead srcId rest
        copies := copies
        log := { host.log with printed := host.log.printed ++ msgs } } := by
  simp only [reassembleMessages, h]

/-- A batch of frames is appended to `recv_msg_head[srcId]`, and `reassemble_message` called until
it returns `NULL`. -/
def deliverBatch (srcId : ℕ) (host : Host D) (batch : List Frame) : Host D :=
  reassembleMessages srcId
    { host with
      recvMsgHead := Function.update host.recvMsgHead srcId (host.recvMsgHead srcId ++ batch) }

/-- The frames that `handle_input_cmds` makes from `cmds`. -/
def framesOf (cmds : List Cmd) (host : Host D) : List Frame :=
  (handleInputCmds
    { host with inputCmdlistHead := cmds, bufferedOutframesHead := [] }).bufferedOutframesHead

theorem framesOf_eq {cmds : List Cmd} {host : Host D} {frames : List Frame}
    (h : Creates frames { host with inputCmdlistHead := [], bufferedOutframesHead := [] }
      (cmds.foldl handleInputCmd
        { host with inputCmdlistHead := [], bufferedOutframesHead := [] })) :
    framesOf cmds host = frames := by
  obtain ⟨_, _, heq⟩ := h.eq
  rw [framesOf, handleInputCmds]
  exact congrArg Host.bufferedOutframesHead heq

theorem deliverBatch_spec (srcId : ℕ) (host : Host D) (batch : List Frame)
    {msgs : List (List UInt8)} {copies : ℕ} {rest : List Frame}
    (h : reassembleLoop host.env.beyond (host.recvMsgHead srcId ++ batch).length host.copies
      (host.recvMsgHead srcId ++ batch) = (msgs, copies, rest)) :
    (deliverBatch srcId host batch).recvMsgHead srcId = rest ∧
      (deliverBatch srcId host batch).log.printed = host.log.printed ++ msgs := by
  rw [deliverBatch, reassembleMessages_eq (by simpa only [Function.update_self] using h)]
  exact ⟨Function.update_self .., rfl⟩

/-- After every batch, the messages that have arrived whole are printed and the rest is kept. -/
theorem foldl_deliverBatch {cmds : List Cmd} {groups : List (List Frame)}
    (h : List.Forall₂ (fun cmd frames => Fragments (cmd.message ++ [0]) frames) cmds groups)
    (srcId : ℕ) (host : Host D) (hempty : host.recvMsgHead srcId = []) (batches : List (List Frame))
    (harrived : batches.flatten <+: groups.flatten) :
    ∃ k part, k ≤ cmds.length ∧ batches.flatten = (groups.take k).flatten ++ part ∧
      (k < cmds.length → batches.flatten.length < (groups.take (k + 1)).flatten.length) ∧
      (batches.foldl (deliverBatch srcId) host).recvMsgHead srcId = part ∧
      (batches.foldl (deliverBatch srcId) host).log.printed =
        host.log.printed ++ (cmds.take k).map (fun cmd => cmd.message ++ [0]) := by
  induction batches using List.reverseRecOn with
  | nil =>
    refine ⟨0, [], Nat.zero_le _, by simp, fun hk => ?_, hempty, by simp⟩
    cases h with
    | nil => simp at hk
    | cons hfrag _ => simpa using hfrag.length_pos
  | append_singleton batches batch ih =>
    rw [List.flatten_append, List.flatten_singleton] at harrived ⊢
    obtain ⟨k, part, hk, hflat, -, hhead, hprinted⟩ :=
      ih ((List.prefix_append _ _).trans harrived)
    -- the frames kept and the new ones start the stream of the messages that are missing
    have hrest : part ++ batch <+: (groups.drop k).flatten := by
      rw [hflat, List.append_assoc] at harrived
      conv_rhs at harrived => rw [← List.take_append_drop k groups, List.flatten_append]
      exact (List.prefix_append_right_inj _).mp harrived
    obtain ⟨l, part', hl, hsplit, hpart, hnext⟩ := exists_arrived (List.forall₂_drop k h) hrest
    rw [List.length_drop] at hl hnext
    have hgroups (j : ℕ) : (groups.take (k + j)).flatten =
        (groups.take k).flatten ++ ((groups.drop k).take j).flatten := by
      rw [← List.flatten_append, ← List.take_add]
    have hloop := reassembleLoop_eq (List.forall₂_take l (List.forall₂_drop k h)) hpart le_rfl
      (batches.foldl (deliverBatch srcId) host).env.beyond
      (batches.foldl (deliverBatch srcId) host).copies
    rw [← hsplit, ← hhead] at hloop
    obtain ⟨hhead', hprinted'⟩ := deliverBatch_spec srcId _ batch hloop
    refine ⟨k + l, part', by omega, ?_, fun hkl => ?_, ?_, ?_⟩
    · rw [hflat, List.append_assoc, hsplit, hgroups, List.append_assoc]
    · have := hnext (by omega)
      rw [hflat, add_assoc, hgroups]
      simp only [List.length_append] at this ⊢
      omega
    · rw [List.foldl_append]
      exact hhead'
    · rw [List.foldl_append]
      refine hprinted'.trans ?_
      rw [hprinted, List.append_assoc, ← List.map_append, ← List.take_add]

/-- **Messages come out as they went in.** The frames made from a list of messages arrive in any
batches. After those that have arrived, with `k` the number of messages whose last frame is among
them, exactly the first `k` messages are printed, each with one NUL at its end, and the frames of
the others are kept. A call that returns `NULL` leaves the frames as they are. -/
theorem reassembleMessages_roundtrip (cmds : List Cmd) (hnul : ∀ cmd ∈ cmds, 0 ∉ cmd.message)
    (hlen : ∀ cmd ∈ cmds, cmd.message.length + 1 ≤ 65591) (sender receiver : Host D) (srcId : ℕ)
    (hempty : receiver.recvMsgHead srcId = []) (batches : List (List Frame))
    (harrived : batches.flatten <+: framesOf cmds sender) :
    (∃ k ≤ cmds.length,
      (framesOf (cmds.take k) sender).length ≤ batches.flatten.length ∧
      (k < cmds.length →
        batches.flatten.length < (framesOf (cmds.take (k + 1)) sender).length) ∧
      (batches.foldl (deliverBatch srcId) receiver).log.printed =
        receiver.log.printed ++ (cmds.take k).map (fun cmd => cmd.message ++ [0]) ∧
      (batches.foldl (deliverBatch srcId) receiver).recvMsgHead srcId =
        batches.flatten.drop (framesOf (cmds.take k) sender).length) ∧
    ∀ beyond copies frames, (reassembleMessage beyond copies frames).1 = none →
      (reassembleMessage beyond copies frames).2 = (copies, frames) := by
  refine ⟨?_, fun beyond copies frames => reassembleMessage_none⟩
  obtain ⟨groups, hgroups, hcreates⟩ := foldl_handleInputCmd_fragments cmds hnul hlen
    { sender with inputCmdlistHead := [], bufferedOutframesHead := [] }
  have hframes (k : ℕ) : framesOf (cmds.take k) sender = (groups.take k).flatten :=
    framesOf_eq (hcreates k)
  have hall : framesOf cmds sender = groups.flatten := by
    have := hframes cmds.length
    rwa [List.take_length, hgroups.length_eq, List.take_length] at this
  rw [hall] at harrived
  obtain ⟨k, part, hk, hflat, hnext, hhead, hprinted⟩ :=
    foldl_deliverBatch hgroups srcId receiver hempty batches harrived
  refine ⟨k, hk, ?_, fun hlt => ?_, hprinted, ?_⟩
  · rw [hframes, hflat, List.length_append]
    omega
  · rw [hframes]
    exact hnext hlt
  · rw [hframes, hhead, hflat, List.drop_left' rfl]

/-- Two messages, of which the second is cut: its first fragment arrives with the first message, and
its second one alone. -/
theorem reassembleMessages_roundtrip_two :
    let cmds : List Cmd := [⟨0, 1, [104, 105]⟩, ⟨0, 1, List.replicate 60 97⟩]
    let host := initHost ccBasicConfig 0 .still
    let frames := framesOf cmds host
    (deliverBatch 0 host (frames.take 2)).log.printed = [[104, 105, 0]] ∧
      (deliverBatch 0 (deliverBatch 0 host (frames.take 2)) (frames.drop 2)).log.printed =
        [[104, 105, 0], List.replicate 60 97 ++ [0]] := by
  intro cmds host frames
  have hone : (framesOf (cmds.take 1) host).length = 1 := by decide +kernel
  have htwo : (framesOf (cmds.take 2) host).length = 3 := by decide +kernel
  have hprinted (batches : List (List Frame)) (harrived : batches.flatten <+: frames) :=
    (reassembleMessages_roundtrip cmds (by decide) (by decide) host host 0 rfl batches harrived).1
  constructor
  · obtain ⟨k, hk, hle, hlt, heq, -⟩ := hprinted [frames.take 2]
      (by rw [List.flatten_singleton]; exact List.take_prefix 2 frames)
    rw [List.flatten_singleton, List.length_take, show frames.length = 3 from htwo] at hle hlt
    match k, hk with
    | 0, _ => exact absurd (hone ▸ hlt (by decide)) (by decide)
    | 1, _ => exact heq
    | 2, _ => exact absurd (htwo ▸ hle) (by decide)
  · have hall : [frames.take 2, frames.drop 2].flatten = frames := by simp
    obtain ⟨k, hk, -, hlt, heq, -⟩ := hprinted [frames.take 2, frames.drop 2]
      (hall ▸ List.prefix_rfl)
    rw [hall, show frames.length = 3 from htwo] at hlt
    match k, hk with
    | 0, _ => exact absurd (hone ▸ hlt (by decide)) (by decide)
    | 1, _ => exact absurd (htwo ▸ hlt (by decide)) (by decide)
    | 2, _ => exact heq

end NetworkSim.Tcp
