import NetworkSim.Router.Client
import NetworkSim.Router.Slices

/-!
# Messages of the VNS protocol

Messages follow each other on the connection without a separator, each with its length in front.
Whenever bytes come in, however they are cut, and whatever the threads do in between, the client
reads the messages of the stream in order, each once (`heard_messages`). What `sr_send_packet`
writes is such a stream, and it is read as the packets that were sent (`sent_packets_read_back`).
-/

namespace NetworkSim.Router

/-! ## Steps -/

/-- The main thread reads nothing, or the connection fails, or a message is handled. -/
theorem readMessage_cases {env : ClientEnv} {p p' : Process} (h : readMessage env p = .ok p') :
    p' = p ∨ (readFrame 4 bodyLength p.socket = .failed ∧ p' = { p with phase := .ended }) ∨
      ∃ message socket result, p.phase ≠ .ended ∧ p.client.state.main = .idle ∧
        readFrame 4 bodyLength p.socket = .frame message socket ∧
        handleMessage env p.phase (env.heap p.heard.length) message p.client = .ok result ∧
        p' = ⟨result.1, result.2, socket, p.heard ++ [message]⟩ := by
  unfold readMessage at h
  split at h
  · exact .inl (Except.ok.inj h).symm
  · rename_i hmain hphase
    cases hframe : readFrame 4 bodyLength p.socket with
    | waiting =>
      rw [hframe] at h
      exact .inl (Except.ok.inj h).symm
    | failed =>
      rw [hframe] at h
      exact .inr (.inl ⟨rfl, (Except.ok.inj h).symm⟩)
    | frame message socket =>
      simp only [hframe] at h
      split at h
      · cases h
      · rename_i phase' client hhandle
        exact .inr (.inr ⟨message, socket, (phase', client), hphase, hmain, rfl, hhandle,
          (Except.ok.inj h).symm⟩)
  · exact .inl (Except.ok.inj h).symm

/-- A step of the threads changes their state only. -/
theorem threadStep_cases {act : Act} {p p' : Process} (h : threadStep act p = .ok p') :
    p' = p ∨ ∃ s, p.phase = .ready ∧ step act p.client.state = .ok s ∧
      p' = { p with client := { p.client with state := s } } := by
  unfold threadStep at h
  split at h
  · rename_i hphase
    split at h
    · cases h
    · rename_i s hstep
      exact .inr ⟨s, hphase, hstep, (Except.ok.inj h).symm⟩
  · exact .inl (Except.ok.inj h).symm

/-! ## The stream -/

/-- The messages at the front of a stream of bytes, and the rest. -/
def messagesOf (bytes : List UInt8) : List (Option (List UInt8)) × List UInt8 :=
  drained (takeFrame 4 bodyLength) bytes

theorem frontReader_messages : FrontReader (takeFrame 4 bodyLength) :=
  frontReader_takeFrame (by decide)

/-- What comes in from the server during a run. -/
def arrivalsOf (events : List Event) : List (Arrival UInt8) :=
  events.filterMap fun
    | .arrive arrival => some arrival
    | _ => none

/-- The messages read so far and those in the socket are the messages of the stream. -/
structure Keeps (stream : List UInt8) (p : Process) : Prop where
  noFailure : NoFailure p.socket
  messages : (messagesOf stream).1 = p.heard ++ (messagesOf (streamOf p.socket)).1
  rest : (messagesOf stream).2 = (messagesOf (streamOf p.socket)).2

theorem streamOf_append (arrivals arrivals' : List (Arrival UInt8)) :
    streamOf (arrivals ++ arrivals') = streamOf arrivals ++ streamOf arrivals' := by
  induction arrivals with
  | nil => rfl
  | cons arrival arrivals ih =>
    cases arrival with
    | chunk xs => simp only [List.cons_append, streamOf, ih, List.append_assoc]
    | interrupted => exact ih
    | failed => exact ih

namespace Keeps

variable {stream : List UInt8} {p : Process}

theorem start (user host template : List UInt8) (topoId : UInt16) (now : ℕ) :
    Keeps [] (startClient user host template topoId now) :=
  ⟨List.not_mem_nil, rfl, rfl⟩

theorem congr (h : Keeps stream p) {p' : Process} (hsocket : p'.socket = p.socket)
    (hheard : p'.heard = p.heard) : Keeps stream p' := by
  obtain ⟨hno, hmessages, hrest⟩ := h
  exact ⟨hsocket ▸ hno, by rw [hsocket, hheard, hmessages], by rw [hsocket, hrest]⟩

theorem arrive (h : Keeps stream p) {arrival : Arrival UInt8} (hno : arrival ≠ .failed) :
    Keeps (stream ++ streamOf [arrival]) { p with socket := p.socket ++ [arrival] } := by
  have hstream := frontReader_messages.drained_append stream (streamOf [arrival])
  have hsocket := frontReader_messages.drained_append (streamOf p.socket) (streamOf [arrival])
  refine ⟨fun hmem => ?_, ?_, ?_⟩
  · rcases List.mem_append.mp hmem with hmem | hmem
    · exact h.noFailure hmem
    · exact hno (List.mem_singleton.mp hmem).symm
  · rw [streamOf_append, messagesOf, messagesOf, hstream, hsocket]
    change (messagesOf stream).1 ++ _ = p.heard ++ ((messagesOf _).1 ++ _)
    rw [h.messages, List.append_assoc]
    exact congrArg (fun rest => p.heard ++ ((messagesOf (streamOf p.socket)).1 ++
      (drained _ (rest ++ streamOf [arrival])).1)) h.rest
  · rw [streamOf_append, messagesOf, messagesOf, hstream, hsocket]
    exact congrArg (fun rest => (drained _ (rest ++ streamOf [arrival])).2) h.rest

theorem read (h : Keeps stream p) {env : ClientEnv} {p' : Process}
    (hread : readMessage env p = .ok p') : Keeps stream p' := by
  have heq := @readFrame_eq UInt8 4 bodyLength p.socket h.noFailure
  rcases readMessage_cases hread with rfl | ⟨hframe, rfl⟩ |
    ⟨message, socket, result, -, -, hframe, -, rfl⟩
  · exact h
  · exact h.congr rfl rfl
  · rw [hframe] at heq
    cases htake : takeFrame 4 bodyLength (streamOf p.socket) with
    | none =>
      rw [htake] at heq
      cases heq
    | some taken =>
      rw [htake] at heq
      obtain ⟨socket', hsocket, hrest, hno⟩ := heq
      obtain ⟨rfl, rfl⟩ := FrameResult.frame.inj hsocket
      have hdrained := frontReader_messages.drained_of_some htake
      refine ⟨hno, ?_, ?_⟩
      · rw [h.messages, messagesOf, hdrained, List.append_assoc, ← hrest]
        rfl
      · rw [h.rest, messagesOf, hdrained, ← hrest]
        rfl

theorem threadStep (h : Keeps stream p) {act : Act} {p' : Process}
    (hstep : threadStep act p = .ok p') : Keeps stream p' := by
  rcases threadStep_cases hstep with rfl | ⟨s, -, -, rfl⟩
  · exact h
  · exact h.congr rfl rfl

theorem run (h : Keeps stream p) {env : ClientEnv} {events : List Event}
    (hno : NoFailure (arrivalsOf events)) {p' : Process} (hrun : runClient env events p = .ok p') :
    Keeps (stream ++ streamOf (arrivalsOf events)) p' := by
  induction events generalizing stream p with
  | nil =>
    rw [runClient] at hrun
    rw [← Except.ok.inj hrun]
    exact (List.append_nil stream).symm ▸ h
  | cons event events ih =>
    rw [runClient] at hrun
    split at hrun
    · cases hrun
    · rename_i p₁ hstep
      cases event with
      | arrive arrival =>
        have harrivals : arrivalsOf (.arrive arrival :: events) =
          [arrival] ++ arrivalsOf events := rfl
        rw [harrivals] at hno
        rw [harrivals, streamOf_append, ← List.append_assoc]
        rw [← Except.ok.inj hstep] at hrun
        exact ih (h.arrive fun heq => hno (heq ▸ List.mem_cons_self)) hno.tail hrun
      | read => exact ih (h.read hstep) hno hrun
      | main => exact ih (h.threadStep hstep) hno hrun
      | sweep => exact ih (h.threadStep hstep) hno hrun
      | wait usec =>
        rw [← Except.ok.inj hstep] at hrun
        refine ih ?_ hno hrun
        exact h.congr rfl rfl

end Keeps

/-- **The messages that are read are those of the stream**, in order and each once, however the
bytes are cut and whatever happens in between; and the client has read them all when it waits in the
middle of one. -/
theorem heard_messages (env : ClientEnv) (user host template : List UInt8) (topoId : UInt16)
    (now : ℕ) (events : List Event) (p : Process)
    (hrun : runClient env events (startClient user host template topoId now) = .ok p)
    (hno : NoFailure (arrivalsOf events)) :
    p.heard <+: (messagesOf (streamOf (arrivalsOf events))).1 ∧
      (readFrame 4 bodyLength p.socket = .waiting →
        p.heard = (messagesOf (streamOf (arrivalsOf events))).1) := by
  have hkeeps := (Keeps.start user host template topoId now).run hno hrun
  rw [List.nil_append] at hkeeps
  refine ⟨⟨_, hkeeps.messages.symm⟩, fun hwaiting => ?_⟩
  have hframe := @readFrame_eq UInt8 4 bodyLength p.socket hkeeps.noFailure
  cases htake : takeFrame 4 bodyLength (streamOf p.socket) with
  | none =>
    rw [hkeeps.messages, messagesOf, drained_of_none htake, List.append_nil]
  | some taken =>
    obtain ⟨message, bytes⟩ := taken
    rw [htake] at hframe
    obtain ⟨socket, hframe, -⟩ := hframe
    rw [hframe] at hwaiting
    cases hwaiting

/-- A client that has no key. -/
def noKey : ClientEnv where
  authKey := none
  keyMemory _ := 0
  sha1Memory := ⟨⟨0, 0, 0, 0, 0⟩, 0, 0, List.Vector.replicate 64 0, 0, false, false⟩
  sends _ := true
  opens _ := true
  interface _ := (List.Vector.replicate 6 0, 0)
  routingTable := some []
  heap _ _ := 0

/-- A request for authentication that comes in three pieces. -/
def requestInPieces : List Event :=
  [.arrive (.chunk [0, 0]), .read, .arrive .interrupted, .arrive (.chunk [0, 8, 0, 0]), .read,
    .wait 5, .arrive (.chunk [0, 128, 0]), .read]

theorem heard_messages_pieces :
    ∃ p, runClient noKey requestInPieces (startClient [] [] [] 0 0) = .ok p ∧
      p.heard = [some [0, 0, 0, 8, 0, 0, 0, 128]] ∧
      p.heard <+: (messagesOf (streamOf (arrivalsOf requestInPieces))).1 := by
  refine ⟨_, rfl, rfl, ?_⟩
  refine (heard_messages noKey [] [] [] 0 0 requestInPieces _ rfl ?_).1
  simp [NoFailure, requestInPieces, arrivalsOf]

/-! ## What `sr_send_packet` writes -/

/-- A message with its length in front that the client accepts. -/
structure WellFormed (message : List UInt8) : Prop where
  length_ge : 4 ≤ message.length
  length_le : message.length ≤ 10000
  field : message.take 4 = bytes32 (UInt32.ofNat message.length)

theorem bodyLength_bytes32 {n : ℕ} (h : n ≤ 10000) :
    bodyLength (bytes32 (UInt32.ofNat n)) = some (n - 4) := by
  have hn : (UInt32.ofNat n).toNat = n := by
    rw [UInt32.toNat_ofNat']
    omega
  have hint : intOf (UInt32.ofNat n) = n :=
    (Int.bmod_eq_of_le (by omega) (by omega)).trans (congrArg Nat.cast hn)
  rw [bytes32, bodyLength, word32_bytes32]
  refine (if_neg ?_).trans (congrArg (fun len => some (len - 4)) hn)
  omega

theorem WellFormed.takeFrame_append {message : List UInt8} (h : WellFormed message)
    (bytes : List UInt8) :
    takeFrame 4 bodyLength (message ++ bytes) = some (some message, bytes) := by
  have hge := h.length_ge
  have hbody : bodyLength ((message ++ bytes).take 4) = some (message.length - 4) := by
    rw [List.take_append_of_le_length hge, h.field, bodyLength_bytes32 h.length_le]
  rw [takeFrame_good (by rw [List.length_append]; omega) hbody, Nat.add_sub_cancel' hge,
    if_pos (by simp), List.take_left, List.drop_left]

/-- Well-formed messages are read as they are. -/
theorem messagesOf_flatten {messages : List (List UInt8)} (h : ∀ m ∈ messages, WellFormed m) :
    messagesOf messages.flatten = (messages.map some, []) := by
  induction messages with
  | nil => rfl
  | cons message messages ih =>
    have htake := (h message List.mem_cons_self).takeFrame_append messages.flatten
    have hrest := ih fun m hm => h m (List.mem_cons_of_mem _ hm)
    rw [List.flatten_cons, messagesOf, frontReader_messages.drained_of_some htake]
    change (some message :: (messagesOf _).1, (messagesOf _).2) = _
    rw [hrest]
    rfl

/-- A name that fits into `mInterfaceName` with the null byte behind it. -/
def ShortName (name : String) : Prop :=
  name.length < 16 ∧ ∀ char ∈ name.toList, char.toNat ≠ 0 ∧ char.toNat < 256

theorem stringOf_bytesOf {name : String} (h : ∀ char ∈ name.toList, char.toNat < 256) :
    stringOf (bytesOf name) = name := by
  rw [stringOf, bytesOf, List.map_map]
  have hmap : name.toList.map ((fun byte : UInt8 => Char.ofNat byte.toNat) ∘
      fun char => UInt8.ofNat char.toNat) = name.toList := by
    conv_rhs => rw [← List.map_id name.toList]
    refine List.map_congr_left fun char hchar => ?_
    have hsmall := h char hchar
    rw [Function.comp_apply, UInt8.toNat_ofNat', Nat.mod_eq_of_lt hsmall, Char.ofNat_toNat]
    rfl
  rw [hmap, String.ofList_toList]

/-- What `strncpy` writes is read as the string, when there is room for the null byte. -/
theorem cString_strncpy {n : ℕ} {string : List UInt8} (hlen : string.length < n)
    (hbytes : ∀ byte ∈ string, byte ≠ 0) (rest : List UInt8) :
    cString (strncpy n string ++ rest) = string := by
  have hzeros : List.replicate (n - string.length) (0 : UInt8) =
      0 :: List.replicate (n - string.length - 1) 0 := by
    rw [← List.replicate_succ, Nat.sub_add_cancel (by omega)]
  rw [cString, strncpy, List.take_of_length_le (by omega), List.append_assoc,
    List.takeWhile_append_of_pos (by simpa using hbytes), hzeros, List.cons_append,
    List.takeWhile_cons_of_neg (by simp), List.append_nil]

theorem length_strncpy (n : ℕ) (src : List UInt8) : (strncpy n src).length = n := by
  rw [strncpy, List.length_append, List.length_take, List.length_replicate]
  omega

@[simp] theorem length_bytes32 (x : UInt32) : (bytes32 x).length = 4 := rfl

theorem length_packetHeader (len : ℕ) (iface : String) :
    (packetHeader len iface).length = packetHeaderSize := by
  simp only [packetHeader, List.length_append, length_strncpy, length_bytes32]

theorem length_packetMessage (buf : List UInt8) (iface : String) :
    (packetMessage buf iface).length = buf.length + packetHeaderSize := by
  rw [packetMessage, List.length_append, length_packetHeader, Nat.add_comm]

theorem wellFormed_packetMessage {buf : List UInt8} (iface : String)
    (h : buf.length + packetHeaderSize ≤ 10000) : WellFormed (packetMessage buf iface) where
  length_ge := by
    rw [length_packetMessage]
    exact Nat.le_add_left_of_le (by decide)
  length_le := (length_packetMessage buf iface).symm ▸ h
  field := by
    rw [length_packetMessage]
    rfl

/-- The buffer for a well-formed message holds the message. -/
theorem messageBuf_of_wellFormed {message : List UInt8} (h : WellFormed message)
    (beyond : ℕ → UInt8) :
    messageBuf beyond message = ⟨message, fun i => message.getD i (beyond i)⟩ := by
  have hge := h.length_ge
  have hle := h.length_le
  obtain ⟨b0, b1, b2, b3, rest, rfl⟩ :
      ∃ b0 b1 b2 b3 rest, message = b0 :: b1 :: b2 :: b3 :: rest := by
    match message, hge with
    | b0 :: b1 :: b2 :: b3 :: rest, _ => exact ⟨b0, b1, b2, b3, rest, rfl⟩
  have hfield : [b0, b1, b2, b3] = bytes32 (UInt32.ofNat (b0 :: b1 :: b2 :: b3 :: rest).length) :=
    h.field
  generalize hn : (b0 :: b1 :: b2 :: b3 :: rest).length = n at hge hle hfield
  simp only [bytes32, List.cons.injEq, and_true] at hfield
  obtain ⟨rfl, rfl, rfl, rfl⟩ := hfield
  rw [messageBuf, word32_bytes32, UInt32.toNat_ofNat', Nat.mod_eq_of_lt (by omega),
    List.take_of_length_le hn.le]

section PacketMessage

variable (buf : List UInt8) (iface : String) (beyond : ℕ → UInt8)

/-- The buffer that holds a packet message. -/
def packetMessageBuf : Buf :=
  ⟨packetMessage buf iface, fun i => (packetMessage buf iface).getD i (beyond i)⟩

theorem commandOf_packetMessageBuf :
    (commandOf (packetMessageBuf buf iface beyond)).val = vnsPacket := by
  apply get32_of_slice
  rw [packetMessageBuf, packetMessage, packetHeader, List.append_assoc, List.append_assoc]
  exact slice_middle rfl rfl _ _

theorem bytes_packetOf_packetMessageBuf (h : buf.length + packetHeaderSize ≤ 10000) :
    (packetOf (packetMessageBuf buf iface beyond)).bytes = buf := by
  have hsize : packetHeaderSize = 24 := rfl
  have hlen : (UInt32.ofNat (packetMessageBuf buf iface beyond).len - 38 + 14).toNat =
      buf.length := by
    rw [Buf.len, packetMessageBuf, length_packetMessage, UInt32.toNat_add, UInt32.toNat_sub,
      UInt32.toNat_ofNat']
    simp only [UInt32.toNat_ofNat]
    omega
  have hbuf : packetMessageBuf buf iface beyond =
      ⟨packetHeader buf.length iface ++ (buf ++ []),
        (packetMessageBuf buf iface beyond).beyond⟩ := by
    rw [List.append_nil]
    rfl
  rw [packetOf, hlen, hbuf]
  exact slice_middle (length_packetHeader _ _) rfl [] _

theorem readName_packetMessageBuf (h : ShortName iface) :
    ((packetMessageBuf buf iface beyond).readName baseSize).val = iface := by
  have hname : ((packetMessageBuf buf iface beyond).slice 8 16) = strncpy 16 (bytesOf iface) := by
    rw [packetMessageBuf, packetMessage, packetHeader, List.append_assoc]
    exact slice_middle rfl (length_strncpy _ _) _ _
  have hbytes : ∀ byte ∈ bytesOf iface, byte ≠ 0 := by
    intro byte hbyte
    obtain ⟨char, hchar, rfl⟩ := List.mem_map.mp hbyte
    obtain ⟨hne, hlt⟩ := h.2 char hchar
    rw [ne_eq, ← UInt8.toNat_inj, UInt8.toNat_ofNat', Nat.mod_eq_of_lt hlt]
    exact hne
  have hlen : (bytesOf iface).length < 16 := by
    rw [bytesOf, List.length_map]
    exact h.1
  change stringOf (cString ((packetMessageBuf buf iface beyond).slice 8 (16 + 16))) = iface
  rw [slice_add, hname, cString_strncpy hlen hbytes,
    stringOf_bytesOf fun char hchar => (h.2 char hchar).2]

end PacketMessage

/-- The bytes that calls of `sr_send_packet` write, one after the other. -/
def written (sr : SrInstance) (sends : List (List UInt8 × String)) : List UInt8 :=
  ((sends.filter fun send => srSendPacket sr send.1 send.2).map fun send =>
    packetMessage send.1 send.2).flatten

/-! ## Handling a message -/

/-- What `sr_read_from_server_expect` returns, without the accesses. -/
theorem val_srReadFromServerExpect (env : ClientEnv) (expectedCmd : UInt32) (m : Buf) (c : Client) :
    (srReadFromServerExpect env expectedCmd m c).val =
      if expectedCmd ≠ 0 ∧ m.get32 4 ≠ expectedCmd ∧ m.get32 4 ≠ vnsClose then .ok (-1, c)
      else if m.get32 4 = vnsPacket then
        (srReadPacket m c.state).val.map fun s => (1, { c with state := s })
      else if m.get32 4 = vnsClose then .ok (0, c)
      else if m.get32 4 = vnsBanner then .ok (1, c)
      else if m.get32 4 = vnsHwinfo then
        (srHandleHwinfo env m c).val.map fun c => (verifyTable c, c)
      else if m.get32 4 = vnsRtable then
        .ok (if (srHandleRtable env m c).val.1 then 1 else -1, (srHandleRtable env m c).val.2)
      else if m.get32 4 = vnsAuthRequest then
        .ok (if (srHandleAuthRequest env m c).val.1 then 1 else -1,
          (srHandleAuthRequest env m c).val.2)
      else if m.get32 4 = vnsAuthStatus then
        .ok (if (srHandleAuthStatus m).val then 1 else -1, c)
      else .ok (1, c) := by
  have hcommand : (commandOf m).val = m.get32 4 := rfl
  rw [srReadFromServerExpect, Traced.val_bind, hcommand]
  iterate 8 rw [Traced.val_ite]
  refine if_congr Iff.rfl rfl (if_congr Iff.rfl ?_ (if_congr Iff.rfl rfl (if_congr Iff.rfl rfl
    (if_congr Iff.rfl ?_ (if_congr Iff.rfl ?_ (if_congr Iff.rfl ?_ (if_congr Iff.rfl ?_ rfl)))))))
  · exact val_bind_orFault _ _
  · exact val_bind_orFault _ _
  · rw [Traced.val_bind]
    cases (srHandleRtable env m c).val
    rfl
  · rw [Traced.val_bind]
    cases (srHandleAuthRequest env m c).val
    rfl
  · rw [Traced.val_bind]
    rfl

/-- A client in its loop that reads the message passes this packet on. -/
def Carries (message : List UInt8) (send : List UInt8 × String) : Prop :=
  ∀ env beyond c, ∃ beyond', handleMessage env .ready beyond (some message) c =
    (passPacket ⟨send.1, beyond'⟩ send.2 c.state).val.map fun s => (.ready, { c with state := s })

theorem carries_packetMessage {buf : List UInt8} {iface : String}
    (hlen : buf.length + packetHeaderSize ≤ 10000) (hname : ShortName iface) :
    Carries (packetMessage buf iface) (buf, iface) := by
  intro env beyond c
  have hbuf : messageBuf beyond (packetMessage buf iface) = packetMessageBuf buf iface beyond :=
    messageBuf_of_wellFormed (wellFormed_packetMessage iface hlen) beyond
  obtain ⟨packet, hpacket⟩ : ∃ packet, packetOf (packetMessageBuf buf iface beyond) = packet :=
    ⟨_, rfl⟩
  have hbytes : packet.bytes = buf :=
    hpacket ▸ bytes_packetOf_packetMessageBuf buf iface beyond hlen
  have hcommand : (packetMessageBuf buf iface beyond).get32 4 = vnsPacket :=
    commandOf_packetMessageBuf buf iface beyond
  refine ⟨packet.beyond, ?_⟩
  rw [handleMessage, hbuf, val_srReadFromServerExpect, hcommand, if_neg fun h => h.1 rfl,
    if_pos rfl, srReadPacket, Traced.val_bind, readName_packetMessageBuf buf iface beyond hname,
    hpacket, ← hbytes]
  generalize (passPacket packet iface c.state).val = passed
  cases passed with
  | error fault => rfl
  | ok s => rfl

/-- **What `sr_send_packet` writes is read back** as the packets that were sent, in order, each over
the interface that it was sent on. -/
theorem sent_packets_read_back (sr : SrInstance) (sends : List (List UInt8 × String))
    (hlen : ∀ send ∈ sends, send.1.length + packetHeaderSize ≤ 10000)
    (hnames : ∀ send ∈ sends, ShortName send.2) :
    ∃ messages, messagesOf (written sr sends) = (messages.map some, []) ∧
      List.Forall₂ Carries messages (sends.filter fun send => srSendPacket sr send.1 send.2) := by
  obtain ⟨accepted, haccepted⟩ : ∃ accepted,
      (sends.filter fun send => srSendPacket sr send.1 send.2) = accepted := ⟨_, rfl⟩
  have hmem (send : List UInt8 × String) (hsend : send ∈ accepted) : send ∈ sends :=
    List.mem_of_mem_filter (haccepted ▸ hsend)
  refine ⟨accepted.map fun send => packetMessage send.1 send.2, ?_, ?_⟩
  · rw [written, haccepted]
    refine messagesOf_flatten (List.forall_mem_map.mpr fun send hsend => ?_)
    exact wellFormed_packetMessage send.2 (hlen send (hmem send hsend))
  · rw [haccepted, List.forall₂_map_left_iff, List.forall₂_same]
    exact fun send hsend =>
      carries_packetMessage (hlen send (hmem send hsend)) (hnames send (hmem send hsend))

/-- A packet of 14 bytes that is sent over `eth0`. -/
theorem sent_packets_read_back_eth0 :
    ∃ messages, messagesOf (written ⟨[⟨"eth0", List.Vector.replicate 6 1, 0⟩], [], srArpcacheInit⟩
        [(List.replicate 14 1, "eth0")]) = (messages.map some, []) ∧
      List.Forall₂ Carries messages [(List.replicate 14 1, "eth0")] := by
  have h := sent_packets_read_back
    ⟨[⟨"eth0", List.Vector.replicate 6 1, 0⟩], [], srArpcacheInit⟩ [(List.replicate 14 1, "eth0")]
    (List.forall_mem_singleton.mpr (by decide))
    (List.forall_mem_singleton.mpr ⟨by decide, by simp⟩)
  exact h

end NetworkSim.Router
