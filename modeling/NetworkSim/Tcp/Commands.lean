import NetworkSim.Tcp.ChecksumSpec
import NetworkSim.Tcp.Windows

/-!
# What becomes of commands

`handle_input_cmds` turns the commands of a host into frames, which it appends to
`buffered_outframes_head`. `Creates frames host host'` says that a host has done so and nothing
else: the frames are valid data frames, and those for each receiver carry the numbers that follow
`curr_seq_num`. Creating composes (`Creates.trans`), so it holds of a fragment, a command and the
whole list (`handleInputCmds_creates`).
-/

namespace NetworkSim.Tcp

variable {D : Type}

/-- The frames addressed to `id`. -/
def framesFor (id : ℕ) (frames : List Frame) : List Frame :=
  frames.filter (fun frame => frame.dstId.toNat = id)

@[simp] theorem framesFor_nil (id : ℕ) : framesFor id [] = [] := rfl

@[simp] theorem framesFor_append (id : ℕ) (frames frames' : List Frame) :
    framesFor id (frames ++ frames') = framesFor id frames ++ framesFor id frames' :=
  List.filter_append ..

theorem framesFor_cons (id : ℕ) (frame : Frame) (frames : List Frame) :
    framesFor id (frame :: frames) =
      if frame.dstId.toNat = id then frame :: framesFor id frames else framesFor id frames := by
  rw [framesFor, List.filter_cons]
  simp only [decide_eq_true_eq]
  rfl

/-- A data frame with its checksum set. -/
structure IsDataFrame (frame : Frame) : Prop where
  valid : frameValid frame = true
  isAck : frame.isAck = 0

/-- `host'` is `host` after it has made `frames`. -/
structure Creates (frames : List Frame) (host host' : Host D) : Prop where
  eq : ∃ currSeqNum mallocs, host' =
    { host with
      currSeqNum := currSeqNum
      mallocs := mallocs
      bufferedOutframesHead := host.bufferedOutframesHead ++ frames
      log := { host.log with created := host.log.created ++ frames } }
  data : ∀ frame ∈ frames, IsDataFrame frame
  curr : ∀ id, host'.currSeqNum id =
    host.currSeqNum id + UInt8.ofNat (framesFor id frames).length
  seqNum : ∀ id k frame, (framesFor id frames)[k]? = some frame →
    frame.seqNum = host.currSeqNum id + UInt8.ofNat k

namespace Creates

theorem refl (host : Host D) : Creates [] host host where
  eq := ⟨host.currSeqNum, host.mallocs, by simp⟩
  data frame h := by simp at h
  curr id := by simp
  seqNum id k frame h := by simp at h

/-- A frame that carries the number `curr_seq_num` of its receiver. -/
theorem single {frame : Frame} {host : Host D} (hdata : IsDataFrame frame)
    (hseq : frame.seqNum = host.currSeqNum frame.dstId.toNat) (mallocs : ℕ) :
    Creates [frame] host
      { host with
        currSeqNum := Function.update host.currSeqNum frame.dstId.toNat
          (host.currSeqNum frame.dstId.toNat + 1)
        mallocs := mallocs
        bufferedOutframesHead := host.bufferedOutframesHead ++ [frame]
        log := { host.log with created := host.log.created ++ [frame] } } where
  eq := ⟨_, _, rfl⟩
  data frame' h := by rwa [List.mem_singleton.mp h]
  curr id := by
    rw [framesFor_cons]
    by_cases hid : frame.dstId.toNat = id
    · subst hid
      simp
    · simp [hid, Function.update_of_ne (Ne.symm hid)]
  seqNum id k frame' hk := by
    rw [framesFor_cons] at hk
    split at hk
    · rename_i hid
      cases k with
      | zero =>
        obtain rfl : frame = frame' := by simpa using hk
        simp [hseq, hid]
      | succ k => simp at hk
    · simp at hk

theorem trans {frames frames' : List Frame} {host host' host'' : Host D}
    (h : Creates frames host host') (h' : Creates frames' host' host'') :
    Creates (frames ++ frames') host host'' where
  eq := by
    obtain ⟨_, _, rfl⟩ := h.eq
    obtain ⟨currSeqNum, mallocs, rfl⟩ := h'.eq
    exact ⟨currSeqNum, mallocs, by simp⟩
  data frame hframe := (List.mem_append.mp hframe).elim (h.data frame) (h'.data frame)
  curr id := by
    rw [h'.curr, h.curr, framesFor_append, List.length_append, UInt8.ofNat_add, UInt8.add_assoc]
  seqNum id k frame hk := by
    rw [framesFor_append, List.getElem?_append] at hk
    split at hk
    · exact h.seqNum id k frame hk
    · rename_i hlen
      rw [h'.seqNum id _ frame hk, h.curr, UInt8.add_assoc, ← UInt8.ofNat_add,
        Nat.add_sub_cancel' (Nat.le_of_not_lt hlen)]

end Creates

/-! ## Commands -/

/-- The length of a frame fits its payload. -/
def Frame.Fits (frame : Frame) : Prop := frame.length.toNat ≤ framePayloadSize

/-- `frame` is addressed as `cmd` says, and its length fits. -/
structure FromCmd (cmd : Cmd) (frame : Frame) : Prop where
  srcId : frame.srcId = UInt8.ofNat cmd.srcId.toNat
  dstId : frame.dstId = UInt8.ofNat cmd.dstId.toNat
  fits : frame.Fits

/-- The bytes that the fragment of `cmd` from `start` to `stop` carries. -/
def fragmentBytes (cmd : Cmd) (msgLength start stop : ℕ) : List UInt8 :=
  let bytes := strncpy (cmd.message.drop start) (stop - start)
  if stop = msgLength then bytes.set (stop - start - 1) 0 else bytes

theorem appendFragment_creates (cmd : Cmd) (msgLength : ℕ) {start stop : ℕ}
    (hstop : stop ≤ start + framePayloadSize) (host : Host D) :
    ∃ frame data, Creates [frame] host (appendFragment cmd msgLength start stop host) ∧
      FromCmd cmd frame ∧ frame.length = UInt8.ofNat (stop - start) ∧
      frame.remainingMsgBytes = UInt16.ofNat (msgLength - stop) ∧
      frame.data = writeData (fragmentBytes cmd msgLength start stop) data := by
  have hfits : (UInt8.ofNat (stop - start)).toNat ≤ framePayloadSize := by
    rw [toNat_ofNat]
    exact (Nat.mod_le _ _).trans (by omega)
  exact ⟨_, _, Creates.single ⟨frameValid_setChecksum _, rfl⟩ rfl (host.mallocs + 1),
    ⟨rfl, rfl, hfits⟩, rfl, rfl, rfl⟩

theorem fragmentLoop_creates (cmd : Cmd) (msgLength fuel start : ℕ) (host : Host D) :
    ∃ frames, Creates frames host (fragmentLoop cmd msgLength fuel start host) ∧
      ∀ frame ∈ frames, FromCmd cmd frame := by
  induction fuel generalizing start host with
  | zero => exact ⟨[], Creates.refl host, by simp⟩
  | succ fuel ih =>
    rw [fragmentLoop]
    split
    · generalize hstop : (if start + framePayloadSize > msgLength then msgLength
        else start + framePayloadSize) = stop
      have hle : stop ≤ start + framePayloadSize := by split_ifs at hstop <;> omega
      obtain ⟨frame, -, hframe, hcmd, -⟩ := appendFragment_creates cmd msgLength hle host
      obtain ⟨frames, hframes, hcmds⟩ := ih stop _
      refine ⟨[frame] ++ frames, hframe.trans hframes, fun f hf => ?_⟩
      rcases List.mem_append.mp hf with hf | hf
      · rwa [List.mem_singleton.mp hf]
      · exact hcmds f hf
    · exact ⟨[], Creates.refl host, by simp⟩

theorem foldl_handleInputCmd_creates (cmds : List Cmd) (host : Host D) :
    ∃ frames, Creates frames host (cmds.foldl handleInputCmd host) ∧
      ∀ frame ∈ frames, ∃ cmd ∈ cmds, FromCmd cmd frame := by
  induction cmds generalizing host with
  | nil => exact ⟨[], Creates.refl host, by simp⟩
  | cons cmd cmds ih =>
    obtain ⟨frames, hframes, hcmd⟩ := fragmentLoop_creates cmd
      ((cmd.message.takeWhile (· ≠ 0)).length + 1) _ 0 host
    obtain ⟨frames', hframes', hcmds⟩ := ih (handleInputCmd host cmd)
    refine ⟨frames ++ frames', hframes.trans hframes', fun f hf => ?_⟩
    rcases List.mem_append.mp hf with hf | hf
    · exact ⟨cmd, List.mem_cons_self, hcmd f hf⟩
    · obtain ⟨cmd', hmem, hf⟩ := hcmds f hf
      exact ⟨cmd', List.mem_cons_of_mem cmd hmem, hf⟩

/-- **`handle_input_cmds`** makes frames from its commands, and nothing else. -/
theorem handleInputCmds_creates (host : Host D) :
    ∃ frames, Creates frames { host with inputCmdlistHead := [] } (handleInputCmds host) ∧
      ∀ frame ∈ frames, ∃ cmd ∈ host.inputCmdlistHead, FromCmd cmd frame :=
  foldl_handleInputCmd_creates host.inputCmdlistHead { host with inputCmdlistHead := [] }

end NetworkSim.Tcp
