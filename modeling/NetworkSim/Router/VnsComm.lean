import NetworkSim.Foundations.Arrivals
import NetworkSim.Router.Sha1
import NetworkSim.Router.Threads

/-!
# The connection to the VNS server

`router/sr_vns_comm.c`: messages are read from the server, and those that bring packets are handed
to `sr_handlepacket`. A message is the buffer that `sr_read_from_server_expect` fills, and its
fields are named by their offsets, as in `Buf`. What the C library does is in the environment
(`ClientEnv`): which calls succeed, and what memory holds before it is written. Nothing is logged to
a file.
-/

namespace NetworkSim.Router

/-! ## Strings -/

/-- The bytes of a C string. -/
def cString (bytes : List UInt8) : List UInt8 := bytes.takeWhile fun byte => byte ≠ 0

/-- A string from its bytes. -/
def stringOf (bytes : List UInt8) : String :=
  String.ofList (bytes.map fun byte => Char.ofNat byte.toNat)

def bytesOf (string : String) : List UInt8 := string.toList.map fun char => UInt8.ofNat char.toNat

/-- What `strncpy` writes to `n` bytes. -/
def strncpy (n : ℕ) (src : List UInt8) : List UInt8 :=
  src.take n ++ List.replicate (n - src.length) 0

/-- The name at offset `off`, as `strncmp` and `strncpy` see it with the bound
`sr_IFACE_NAMELEN`. -/
def Buf.readName (b : Buf) (off : ℕ) : Reads String := do
  let name := cString (b.slice off 32)
  Traced.emit (.bytes b.len off (min 32 (name.length + 1)))
  return stringOf name

/-- The C string at offset `off`. Of one that does not end in the buffer only the bytes there are
seen. -/
def Buf.readString (b : Buf) (off : ℕ) : Reads (List UInt8) := do
  let string := cString (b.bytes.drop off)
  Traced.emit (.bytes b.len off (string.length + 1))
  return string

/-! ## Commands -/

def vnsOpen : UInt32 := 1

def vnsClose : UInt32 := 2

def vnsPacket : UInt32 := 4

def vnsBanner : UInt32 := 8

def vnsHwinfo : UInt32 := 16

def vnsRtable : UInt32 := 32

def vnsOpenTemplate : UInt32 := 64

def vnsAuthRequest : UInt32 := 128

def vnsAuthReply : UInt32 := 256

def vnsAuthStatus : UInt32 := 512

/-- `IDSIZE`. -/
abbrev idSize : ℕ := 32

/-- `sizeof(c_base)`. -/
abbrev baseSize : ℕ := 8

/-- `sizeof(c_packet_header)`. -/
abbrev packetHeaderSize : ℕ := 24

/-- `sizeof(c_hw_entry)`. -/
abbrev hwEntrySize : ℕ := 36

/-- `sizeof(c_open)`. -/
abbrev openSize : ℕ := 108

/-- `sizeof(c_open_template)`. -/
abbrev openTemplateSize : ℕ := 70

/-- `sizeof(c_auth_reply)`. -/
abbrev authReplySize : ℕ := 12

def hwInterface : UInt32 := 1

def hwEther : UInt32 := 32

def hwEthIp : UInt32 := 64

/-- `AUTH_KEY_LEN`. -/
abbrev authKeyLen : ℕ := 64

/-- `SHA1_LEN`. -/
abbrev sha1Len : ℕ := 20

/-! ## The client -/

/-- What the C library gives the client. -/
structure ClientEnv where
  /-- The contents of the file `auth_key`, if it can be opened. -/
  authKey : Option (List UInt8)
  /-- What `auth_key` and `sha1` of `sr_handle_auth_request` hold before they are written. -/
  keyMemory : ℕ → UInt8
  sha1Memory : SHA1Context
  /-- Whether the `n`-th call of `send` sends everything. -/
  sends : ℕ → Bool
  /-- Whether the `n`-th call of `fopen` for a routing table succeeds. -/
  opens : ℕ → Bool
  /-- The address fields of the `n`-th interface before they are written. -/
  interface : ℕ → MacAddr × UInt32
  /-- What `sr_load_rt` makes of the routing table, if it can read the file. -/
  routingTable : Option (List SrRt)
  /-- What memory holds at and behind the `n`-th buffer of `sr_read_from_server_expect`. -/
  heap : ℕ → ℕ → UInt8

/-- `struct sr_instance` with the state of the threads, and what the client has done outside of
them. -/
structure Client where
  state : State
  user : List UInt8
  host : List UInt8
  template : List UInt8
  topoId : UInt16
  /-- The messages given to `send`, in order. -/
  sent : List (List UInt8)
  /-- The routing tables that were written: the name of the file and the bytes. -/
  files : List (List UInt8 × List UInt8)

/-- A call of `send`: whether it sends everything. -/
def Client.send (env : ClientEnv) (msg : List UInt8) (c : Client) : Bool × Client :=
  (env.sends c.sent.length, { c with sent := c.sent ++ [msg] })

/-- Goes on, unless there was a fault. -/
def orFault {α β : Type} (x : Except Fault α) (f : α → Reads (Except Fault β)) :
    Reads (Except Fault β) :=
  match x with
  | .error fault => pure (.error fault)
  | .ok a => f a

theorem val_orFault {α β : Type} (x : Except Fault α) (f : α → Reads (Except Fault β)) :
    (orFault x f).val = x.bind fun a => (f a).val := by
  cases x <;> rfl

theorem val_bind_orFault {α β : Type} (x : Reads (Except Fault α)) (f : α → β) :
    (do orFault (← x) fun a => return .ok (f a) : Reads (Except Fault β)).val = x.val.map f := by
  rw [Traced.val_bind, val_orFault]
  cases x.val <;> rfl

/-! ## Interfaces -/

/-- `sr_add_interface`. -/
def srAddInterface (env : ClientEnv) (name : String) (ifList : List SrIf) : List SrIf :=
  let (addr, ip) := env.interface ifList.length
  ifList ++ [⟨name, addr, ip⟩]

/-- `sr_set_ether_addr`, of the last interface. -/
def srSetEtherAddr (addr : MacAddr) (ifList : List SrIf) : Except Fault (List SrIf) :=
  if ifList = [] then .error .assertion
  else .ok (ifList.modifyLast fun iface => { iface with addr := addr })

/-- `sr_set_ether_ip`, of the last interface. -/
def srSetEtherIp (ipNbo : UInt32) (ifList : List SrIf) : Except Fault (List SrIf) :=
  if ifList = [] then .error .assertion
  else .ok (ifList.modifyLast fun iface => { iface with ip := ipNbo })

/-- The body of the loop of `sr_handle_hwinfo`. Only three keys have an effect. -/
def hwEntry (env : ClientEnv) (hwinfo : Buf) (i : ℕ) (ifList : List SrIf) :
    Reads (Except Fault (List SrIf)) := do
  let key ← hwinfo.read32 (baseSize + hwEntrySize * i)
  let value := baseSize + hwEntrySize * i + 4
  if key = hwInterface then
    let name ← hwinfo.readName value
    return .ok (srAddInterface env name ifList)
  else if key = hwEthIp then
    let ip ← hwinfo.read32 value
    return srSetEtherIp ip ifList
  else if key = hwEther then
    let addr ← hwinfo.readMac value
    return srSetEtherAddr addr ifList
  else return .ok ifList

/-- The loop of `sr_handle_hwinfo`, with `n` entries left from the `i`-th on. -/
def hwLoop (env : ClientEnv) (hwinfo : Buf) :
    ℕ → ℕ → List SrIf → Reads (Except Fault (List SrIf))
  | 0, _, ifList => return .ok ifList
  | n + 1, i, ifList => do
    orFault (← hwEntry env hwinfo i ifList) (hwLoop env hwinfo n (i + 1))

/-- `num_entries`: the difference is an unsigned number of 64 bits, and the quotient an `int`. -/
def numEntries (mLen : UInt32) : ℤ :=
  (((mLen.toUInt64 - 8) / 36).toNat : ℤ).bmod (2 ^ 32)

/-- `sr_handle_hwinfo`. -/
def srHandleHwinfo (env : ClientEnv) (hwinfo : Buf) (c : Client) :
    Reads (Except Fault Client) := do
  let mLen ← hwinfo.read32 0
  orFault (← hwLoop env hwinfo (numEntries mLen).toNat 0 c.state.sr.ifList) fun ifList =>
    return .ok { c with state := { c.state with sr := { c.state.sr with ifList := ifList } } }

/-! ## Authentication and the routing table -/

/-- `sr_handle_rtable`. The name of the file is put together in an array of `7 + IDSIZE + 1` bytes,
and the length of the table is an unsigned number of 32 bits. -/
def srHandleRtable (env : ClientEnv) (rtable : Buf) (c : Client) : Reads (Bool × Client) := do
  let id ← rtable.readString baseSize
  Traced.emit (.bytes (7 + idSize + 1) 0 (7 + id.length + 1))
  if env.opens c.files.length then
    let mLen ← rtable.read32 0
    let bytes ← rtable.readBytes (baseSize + idSize) (mLen - 8 - 32).toNat
    return (true, { c with files := c.files ++ [(bytesOf "rtable." ++ id, bytes)] })
  else return (false, c)

/-- What `fgets` leaves in `auth_key`, of a file that is not empty: at most 64 bytes of its first
line, and a null byte. -/
def fgetsKey (env : ClientEnv) (file : List UInt8) : List UInt8 :=
  let line := file.takeWhile fun byte => byte ≠ 10
  let line := (line ++ (file.drop line.length).take 1).take authKeyLen
  line ++ 0 :: (List.range (authKeyLen - line.length)).map fun i =>
    env.keyMemory (line.length + 1 + i)

/-- `Message_Digest` in network byte order. -/
def digestBytes (digest : MessageDigest) : List UInt8 :=
  bytes32 digest.a ++ bytes32 digest.b ++ bytes32 digest.c ++ bytes32 digest.d ++ bytes32 digest.e

/-- The `c_auth_reply` of `sr_handle_auth_request`. -/
def authReply (user : List UInt8) (digest : MessageDigest) : List UInt8 :=
  bytes32 (UInt32.ofNat (authReplySize + user.length + sha1Len)) ++ bytes32 vnsAuthReply ++
    bytes32 (UInt32.ofNat user.length) ++ user ++ digestBytes digest

/-- `sr_handle_auth_request`. The length of the salt is an unsigned number of 64 bits that
`SHA1Input` takes as one of 32 bits. -/
def srHandleAuthRequest (env : ClientEnv) (req : Buf) (c : Client) : Reads (Bool × Client) := do
  match env.authKey with
  | none | some [] => return (false, c)
  | some file =>
    let key := fgetsKey env file
    let mLen ← req.read32 0
    let salt ← req.readBytes baseSize (mLen - 8).toNat
    let sha1 := sha1Input (key.take authKeyLen) (sha1Input salt (sha1Reset env.sha1Memory))
    let (computed, sha1) := sha1Result sha1
    if computed then return c.send env (authReply c.user sha1.messageDigest)
    else return (false, c)

/-- `sr_handle_auth_status`. The message is only printed. -/
def srHandleAuthStatus (status : Buf) : Reads Bool := do
  let authOk ← status.readByte baseSize
  if authOk ≠ 0 then return true
  else
    let _ ← status.readString (baseSize + 1)
    return false

/-! ## Packets -/

/-- `sr_arp_req_not_for_us`. -/
def srArpReqNotForUs (ifList : List SrIf) (packet : Buf) (interface : String) :
    Reads (Except Fault Bool) := do
  if packet.len < etherHdrSize + arpHdrSize then return .ok false
  else
    match srGetInterface ifList interface with
    | none => return .error .assertion
    | some iface =>
      let type ← packet.etherType
      if type = ethertypeArp then
        let op ← packet.arOp
        if op = arpOpRequest then
          let tip ← packet.read32 38
          return .ok (decide (tip ≠ iface.ip))
        else return .ok false
      else return .ok false

/-- The packet in a message, with the length that `sr_read_from_server_expect` computes for it. -/
def packetOf (m : Buf) : Buf :=
  ⟨m.slice packetHeaderSize (UInt32.ofNat m.len - 38 + 14).toNat,
    fun i => m.get (packetHeaderSize + i)⟩

/-- What is done with a packet from the server. -/
def passPacket (packet : Buf) (interface : String) (s : State) : Reads (Except Fault State) := do
  orFault (← srArpReqNotForUs s.sr.ifList packet interface) fun notForUs => do
    if notForUs then return .ok s
    else
      orFault (← srHandlepacket s.sr packet interface) fun (entries, todo) =>
        return .ok { s.record entries with main := todo }

/-- The case `VNSPACKET` of `sr_read_from_server_expect`. -/
def srReadPacket (m : Buf) (s : State) : Reads (Except Fault State) := do
  let interface ← m.readName baseSize
  passPacket (packetOf m) interface s

/-- The `c_packet_header` that `sr_send_packet` makes for a packet of `len` bytes. -/
def packetHeader (len : ℕ) (iface : String) : List UInt8 :=
  bytes32 (UInt32.ofNat (len + packetHeaderSize)) ++ bytes32 vnsPacket ++
    strncpy 16 (bytesOf iface)

/-- The message that `sr_send_packet` writes. -/
def packetMessage (buf : List UInt8) (iface : String) : List UInt8 :=
  packetHeader buf.length iface ++ buf

/-! ## Messages -/

/-- A number of 32 bits as an `int`. -/
def intOf (x : UInt32) : ℤ := (x.toNat : ℤ).bmod (2 ^ 32)

/-- The length of what follows a length field, unless that is not accepted. A value below 4 means
that nothing follows. -/
def acceptLength (mLen : UInt32) : Option ℕ :=
  if intOf mLen > 10000 ∨ intOf mLen < 0 then none else some (mLen.toNat - 4)

/-- `acceptLength` of the field as it comes in. -/
def bodyLength : List UInt8 → Option ℕ
  | [b0, b1, b2, b3] => acceptLength (word32 b0 b1 b2 b3)
  | _ => none

/-- The buffer in which a message is read: it has the length that the message claims, and its first
field is written even if it does not have room for it. -/
def messageBuf (beyond : ℕ → UInt8) (bytes : List UInt8) : Buf :=
  match bytes with
  | b0 :: b1 :: b2 :: b3 :: _ =>
    ⟨bytes.take (word32 b0 b1 b2 b3).toNat, fun i => bytes.getD i (beyond i)⟩
  | _ => ⟨bytes, beyond⟩

/-- The command of a message. It is converted in place, and its length field was written. -/
def commandOf (m : Buf) : Reads UInt32 := do
  Traced.emit (.bytes m.len 0 4)
  m.read32 4

/-- What `sr_read_from_server_expect` returns after `sr_handle_hwinfo`. -/
def verifyTable (c : Client) : ℤ :=
  if srVerifyRoutingTable c.state.sr.ifList c.state.sr.routingTable ≠ 0 then -1 else 1

/-- `sr_read_from_server_expect`, once the message is there: the value returned, and the client. The
expected command is 0 if there is none. -/
def srReadFromServerExpect (env : ClientEnv) (expectedCmd : UInt32) (m : Buf) (c : Client) :
    Reads (Except Fault (ℤ × Client)) := do
  let command ← commandOf m
  if expectedCmd ≠ 0 ∧ command ≠ expectedCmd ∧ command ≠ vnsClose then return .ok (-1, c)
  else if command = vnsPacket then
    orFault (← srReadPacket m c.state) fun s => return .ok (1, { c with state := s })
  else if command = vnsClose then
    let _ ← m.readString baseSize
    return .ok (0, c)
  else if command = vnsBanner then
    let _ ← m.readString baseSize
    return .ok (1, c)
  else if command = vnsHwinfo then
    orFault (← srHandleHwinfo env m c) fun c => return .ok (verifyTable c, c)
  else if command = vnsRtable then
    let (ok, c) ← srHandleRtable env m c
    return .ok (if ok then 1 else -1, c)
  else if command = vnsAuthRequest then
    let (ok, c) ← srHandleAuthRequest env m c
    return .ok (if ok then 1 else -1, c)
  else if command = vnsAuthStatus then
    let ok ← srHandleAuthStatus m
    return .ok (if ok then 1 else -1, c)
  else return .ok (1, c)

end NetworkSim.Router
