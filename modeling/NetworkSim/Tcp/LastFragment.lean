import NetworkSim.Tcp.Messages

/-!
# The last fragment of a message

`handle_input_cmds` cuts a message with its terminator into fragments of 56 bytes and writes into
each how many bytes are still to come (`handleInputCmd_remaining`). The number of bytes is an `int`
and the field has 16 bits, so a fragment that is followed by a multiple of 65536 bytes looks like
the last one. Whether there is such a fragment is a question of the length of the message
(`only_last_fragment_iff`).
-/

namespace NetworkSim.Tcp

variable {D : Type}

/-- The fields `remaining_msg_bytes` of the fragments of a message of `msgLength` bytes. -/
def remainingFields (msgLength : ℕ) : List UInt16 :=
  (List.range ((msgLength + 55) / framePayloadSize)).map
    (fun k => UInt16.ofNat (msgLength - framePayloadSize * (k + 1)))

theorem remainingFields_of_pos {msgLength : ℕ} (h : 0 < msgLength) :
    remainingFields msgLength =
      UInt16.ofNat (msgLength - framePayloadSize) ::
        remainingFields (msgLength - framePayloadSize) := by
  unfold remainingFields framePayloadSize
  rw [show (msgLength + 55) / 56 = (msgLength - 56 + 55) / 56 + 1 by omega, List.range_succ_eq_map,
    List.map_cons, List.map_map]
  congr 1
  refine List.map_congr_left fun k _ => ?_
  change UInt16.ofNat (msgLength - 56 * (k + 1 + 1)) = UInt16.ofNat (msgLength - 56 - 56 * (k + 1))
  congr 1
  omega

theorem fragmentLoop_remaining (cmd : Cmd) (msgLength : ℕ) {fuel start : ℕ}
    (hfuel : msgLength ≤ start + fuel) (host : Host D) :
    ∃ frames, Creates frames host (fragmentLoop cmd msgLength fuel start host) ∧
      (∀ frame ∈ frames, FromCmd cmd frame) ∧
      frames.map (·.remainingMsgBytes) = remainingFields (msgLength - start) := by
  induction fuel generalizing start host with
  | zero =>
    have hdone : msgLength - start = 0 := by omega
    exact ⟨[], Creates.refl host, by simp, by rw [hdone]; rfl⟩
  | succ fuel ih =>
    rw [fragmentLoop]
    split
    · rename_i hstart
      generalize hstop : (if start + framePayloadSize > msgLength then msgLength
        else start + framePayloadSize) = stop
      have hrest : msgLength - stop = msgLength - start - framePayloadSize := by
        split_ifs at hstop <;> omega
      have hfuel' : msgLength ≤ stop + fuel := by
        simp only [framePayloadSize] at hstop
        split_ifs at hstop <;> omega
      have hle : stop ≤ start + framePayloadSize := by split_ifs at hstop <;> omega
      obtain ⟨frame, -, hframe, hcmd, -, hremaining, -⟩ :=
        appendFragment_creates cmd msgLength hle host
      obtain ⟨frames, hframes, hcmds, hfields⟩ :=
        ih hfuel' (appendFragment cmd msgLength start stop host)
      refine ⟨[frame] ++ frames, hframe.trans hframes, List.forall_mem_cons.mpr ⟨hcmd, hcmds⟩, ?_⟩
      rw [remainingFields_of_pos (by omega), List.singleton_append, List.map_cons, hremaining,
        hfields, hrest]
    · rename_i hstart
      have hdone : msgLength - start = 0 := by omega
      exact ⟨[], Creates.refl host, by simp, by rw [hdone]; rfl⟩

/-- The length of a message with its terminator: `strlen(message) + 1`. -/
def Cmd.msgLength (cmd : Cmd) : ℕ := (cmd.message.takeWhile (· ≠ 0)).length + 1

theorem Cmd.msgLength_pos (cmd : Cmd) : 0 < cmd.msgLength := Nat.succ_pos _

/-- **The fragments of a message** say how many bytes are to come, as far as 16 bits can. -/
theorem handleInputCmd_remaining (cmd : Cmd) (host : Host D) :
    ∃ frames, Creates frames host (handleInputCmd host cmd) ∧
      (∀ frame ∈ frames, FromCmd cmd frame) ∧
      frames.map (·.remainingMsgBytes) = remainingFields cmd.msgLength :=
  fragmentLoop_remaining cmd cmd.msgLength (Nat.le_add_left ..) host

/-- Exactly the last of `frames` has `remaining_msg_bytes` zero. -/
def OnlyLastEnds (frames : List Frame) : Prop :=
  ∃ front last, frames = front ++ [last] ∧ last.remainingMsgBytes = 0 ∧
    ∀ frame ∈ front, frame.remainingMsgBytes ≠ 0

theorem onlyLastEnds_iff {frames : List Frame} :
    OnlyLastEnds frames ↔
      ∃ front, frames.map (·.remainingMsgBytes) = front ++ [0] ∧ 0 ∉ front := by
  constructor
  · rintro ⟨front, last, rfl, hlast, hfront⟩
    refine ⟨front.map (·.remainingMsgBytes), by rw [List.map_append, List.map_singleton, hlast],
      fun hmem => ?_⟩
    obtain ⟨frame, hframe, hzero⟩ := List.mem_map.mp hmem
    exact hfront frame hframe hzero
  · rintro ⟨fields, heq, hfields⟩
    obtain ⟨front, rest, rfl, rfl, hrest⟩ := List.map_eq_append_iff.mp heq
    obtain ⟨last, rfl, hlast⟩ := List.map_eq_singleton_iff.mp hrest
    exact ⟨front, last, rfl, hlast, fun frame hframe hzero =>
      hfields (hzero ▸ List.mem_map_of_mem hframe)⟩

/-- The last field is zero, and the others are the lengths that are to come modulo 65536. -/
theorem remainingFields_eq {msgLength : ℕ} (h : 0 < msgLength) :
    remainingFields msgLength = (List.range ((msgLength - 1) / 56)).map
      (fun k => UInt16.ofNat (msgLength - framePayloadSize * (k + 1))) ++ [0] := by
  unfold remainingFields framePayloadSize
  rw [show (msgLength + 55) / 56 = (msgLength - 1) / 56 + 1 by omega, List.range_succ,
    List.map_append, List.map_singleton]
  congr 2
  have hlast : msgLength - 56 * ((msgLength - 1) / 56 + 1) = 0 := by omega
  rw [hlast]
  rfl

theorem ofNat_eq_zero_iff (n : ℕ) : UInt16.ofNat n = 0 ↔ n % 65536 = 0 := by
  rw [← UInt16.toNat_inj, UInt16.toNat_ofNat']
  rfl

/-- A fragment before the last one looks like the last one exactly when 65536 or a multiple of it
is to come. -/
theorem zero_mem_remaining_iff (msgLength : ℕ) :
    0 ∈ (List.range ((msgLength - 1) / 56)).map
        (fun k => UInt16.ofNat (msgLength - framePayloadSize * (k + 1))) ↔
      ∃ k j, msgLength = 56 * (k + 1) + 65536 * (j + 1) := by
  simp only [List.mem_map, List.mem_range, ofNat_eq_zero_iff, framePayloadSize]
  constructor
  · rintro ⟨k, hk, hzero⟩
    exact ⟨k, (msgLength - 56 * (k + 1)) / 65536 - 1, by omega⟩
  · rintro ⟨k, j, rfl⟩
    exact ⟨k, by omega, by omega⟩

/-- **Only the last fragment looks like the last** exactly when the length of the message, with its
terminator, is no sum of a positive multiple of 56 and a positive multiple of 65536. -/
theorem only_last_fragment_iff (cmd : Cmd) (host : Host D) :
    ∃ frames, (handleInputCmd host cmd).bufferedOutframesHead =
        host.bufferedOutframesHead ++ frames ∧
      (OnlyLastEnds frames ↔ ¬ ∃ k j, cmd.msgLength = 56 * (k + 1) + 65536 * (j + 1)) := by
  obtain ⟨frames, hcreates, -, hfields⟩ := handleInputCmd_remaining cmd host
  obtain ⟨_, _, heq⟩ := hcreates.eq
  refine ⟨frames, by rw [heq], ?_⟩
  rw [onlyLastEnds_iff, hfields, remainingFields_eq cmd.msgLength_pos, ← zero_mem_remaining_iff]
  constructor
  · rintro ⟨front, hfront, hzero⟩
    rwa [(List.append_inj' hfront rfl).1]
  · exact fun hzero => ⟨_, rfl, hzero⟩

theorem msgLength_replicate (srcId dstId : UInt16) {byte : UInt8} (h : byte ≠ 0) (n : ℕ) :
    Cmd.msgLength ⟨srcId, dstId, List.replicate n byte⟩ = n + 1 := by
  rw [Cmd.msgLength, List.takeWhile_replicate, if_pos (by simpa using h), List.length_replicate]

/-- The first of the fragments of a message of 65591 characters looks like the last one. -/
theorem first_fragment_looks_last :
    ∃ first frames, (handleInputCmd (initHost ccBasicConfig 0 .still)
        ⟨0, 1, List.replicate 65591 97⟩).bufferedOutframesHead = first :: frames ∧
      frames ≠ [] ∧ first.remainingMsgBytes = 0 ∧ ¬ OnlyLastEnds (first :: frames) := by
  obtain ⟨frames, hcreates, -, hfields⟩ := handleInputCmd_remaining
    ⟨0, 1, List.replicate 65591 97⟩ (initHost ccBasicConfig 0 .still)
  obtain ⟨_, _, heq⟩ := hcreates.eq
  rw [msgLength_replicate 0 1 (by decide), remainingFields_of_pos (by decide),
    remainingFields_of_pos (by decide)] at hfields
  obtain ⟨first, rest, rfl, hfirst, hrest⟩ := List.map_eq_cons_iff.mp hfields
  have hne : rest ≠ [] := by
    rintro rfl
    simp at hrest
  refine ⟨first, rest, by rw [heq]; rfl, hne, hfirst, ?_⟩
  rintro ⟨front, last, hsplit, -, hfront⟩
  cases front with
  | nil => exact hne (List.cons.inj hsplit).2
  | cons frame front =>
    obtain rfl := (List.cons.inj hsplit).1
    exact hfront first List.mem_cons_self hfirst

end NetworkSim.Tcp
