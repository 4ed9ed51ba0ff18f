import NetworkSim.Router.Messages
import Mathlib.Data.List.ModifyLast

/-!
# The topology

A `VNS_HW_INFO` message is a list of keys with values, of which the client takes the names and the
addresses of interfaces. Whatever else is in the message, and in whatever order and however often
the addresses of an interface come, it leaves the client with the interfaces that it describes
(`hwinfo_builds_interfaces`).
-/

namespace NetworkSim.Router

variable {env : ClientEnv}

/-! ## Entries -/

/-- A `c_hw_entry`. -/
structure HwEntry where
  key : UInt32
  value : List.Vector UInt8 32

namespace HwEntry

variable (entry : HwEntry)

def toBytes : List UInt8 := bytes32 entry.key ++ entry.value.toList

@[simp] theorem length_toBytes : entry.toBytes.length = hwEntrySize := by
  rw [toBytes, List.length_append, List.Vector.toList_length]
  rfl

def buf : Buf := ⟨entry.value.toList, fun _ => 0⟩

def name : String := stringOf (cString entry.value.toList)

def ip : UInt32 := entry.buf.get32 0

def mac : MacAddr := entry.buf.getMac 0

/-- What an entry does to the interfaces. -/
def apply (env : ClientEnv) (ifList : List SrIf) : Except Fault (List SrIf) :=
  if entry.key = hwInterface then .ok (srAddInterface env entry.name ifList)
  else if entry.key = hwEthIp then srSetEtherIp entry.ip ifList
  else if entry.key = hwEther then srSetEtherAddr entry.mac ifList
  else .ok ifList

end HwEntry

/-- A `c_hwinfo` with these entries. -/
def hwinfoMessage (entries : List HwEntry) : List UInt8 :=
  bytes32 (UInt32.ofNat (baseSize + hwEntrySize * entries.length)) ++ bytes32 vnsHwinfo ++
    entries.flatMap HwEntry.toBytes

theorem length_flatMap_toBytes (entries : List HwEntry) :
    (entries.flatMap HwEntry.toBytes).length = hwEntrySize * entries.length := by
  induction entries with
  | nil => rfl
  | cons entry entries ih =>
    rw [List.flatMap_cons, List.length_append, HwEntry.length_toBytes, ih, List.length_cons]
    exact Nat.add_comm _ _

theorem length_hwinfoMessage (entries : List HwEntry) :
    (hwinfoMessage entries).length = baseSize + hwEntrySize * entries.length := by
  rw [hwinfoMessage, List.length_append, length_flatMap_toBytes]
  rfl

/-! ## Reading the entries -/

/-- The body of the loop applies the entry that is there. -/
theorem val_hwEntry {m : Buf} {i : ℕ} {entry : HwEntry}
    (h : m.slice (baseSize + hwEntrySize * i) hwEntrySize = entry.toBytes) (ifList : List SrIf) :
    (hwEntry env m i ifList).val = entry.apply env ifList := by
  obtain ⟨off, hoff⟩ : ∃ off, baseSize + hwEntrySize * i = off := ⟨_, rfl⟩
  rw [hoff, show hwEntrySize = 4 + 32 from rfl, slice_add, HwEntry.toBytes] at h
  obtain ⟨hkey, hvalue⟩ := List.append_inj h (m.length_slice off 4)
  have hkey' : m.get32 off = entry.key := get32_of_slice hkey
  have hbuf : m.slice (off + 4) 32 = entry.buf.slice 0 32 := by
    rw [hvalue]
    refine (Buf.slice_zero entry.value.toList _ 32 ?_ |>.trans ?_).symm
    · rw [List.Vector.toList_length]
    · rw [List.take_of_length_le (by rw [List.Vector.toList_length])]
  have hip : m.get32 (off + 4) = entry.ip := get32_of_slice_eq hbuf (by decide)
  have hmac : m.getMac (off + 4) = entry.mac := getMac_of_slice_eq hbuf (by decide)
  have hname : (m.readName (off + 4)).val = entry.name := by
    change stringOf (cString (m.slice (off + 4) 32)) = _
    rw [hvalue]
    rfl
  have hread : (m.read32 off).val = entry.key := hkey'
  rw [hwEntry, hoff, Traced.val_bind, hread, Traced.val_ite, Traced.val_ite, Traced.val_ite,
    HwEntry.apply, ← hip, ← hmac, ← hname]
  rfl

/-- The loop applies the entries in order. -/
theorem val_hwLoop {m : Buf} {front : List UInt8} (entries : List HwEntry) {i : ℕ}
    (hbytes : m.bytes = front ++ entries.flatMap HwEntry.toBytes)
    (hfront : front.length = baseSize + hwEntrySize * i) (ifList : List SrIf) :
    (hwLoop env m entries.length i ifList).val =
      entries.foldlM (fun ifList entry => entry.apply env ifList) ifList := by
  induction entries generalizing front i ifList with
  | nil => rfl
  | cons entry entries ih =>
    have hentry : m.slice (baseSize + hwEntrySize * i) hwEntrySize = entry.toBytes := by
      obtain ⟨bytes, beyond⟩ := m
      cases hbytes
      exact slice_middle hfront entry.length_toBytes _ _
    rw [List.length_cons, hwLoop, Traced.val_bind, val_orFault, val_hwEntry hentry,
      List.foldlM_cons]
    refine congrArg (Except.bind _) (funext fun ifList' => ?_)
    refine @ih (front ++ entry.toBytes) (i + 1) ?_ ?_ ifList'
    · rw [hbytes, List.flatMap_cons, List.append_assoc]
    · rw [List.length_append, hfront, HwEntry.length_toBytes, Nat.mul_add_one, Nat.add_assoc]

theorem numEntries_ofNat {n : ℕ} (h : 8 + 36 * n ≤ 10000) :
    numEntries (UInt32.ofNat (8 + 36 * n)) = n := by
  have hquotient : (((UInt32.ofNat (8 + 36 * n)).toUInt64 - 8) / 36).toNat = n := by
    have hdifference : ((UInt32.ofNat (8 + 36 * n)).toUInt64 - 8).toNat = 36 * n := by
      have hmod : (8 + 36 * n) % 2 ^ 32 = 8 + 36 * n := Nat.mod_eq_of_lt (by omega)
      rw [UInt64.toNat_sub, UInt32.toNat_toUInt64, UInt32.toNat_ofNat', hmod]
      simp only [UInt64.toNat_ofNat, Nat.reducePow, Nat.reduceMod]
      omega
    rw [UInt64.toNat_div, hdifference]
    exact Nat.mul_div_cancel_left n (by decide)
  have hn : (n : ℤ).bmod (2 ^ 32) = n := Int.bmod_eq_of_le (by omega) (by omega)
  exact (congrArg (fun k : ℕ => (k : ℤ).bmod (2 ^ 32)) hquotient).trans hn

/-! ## The message -/

/-- The buffer that holds the message. -/
theorem wellFormed_hwinfoMessage {entries : List HwEntry}
    (h : (hwinfoMessage entries).length ≤ 10000) : WellFormed (hwinfoMessage entries) where
  length_ge := by
    rw [length_hwinfoMessage]
    exact Nat.le_add_right_of_le (by decide)
  length_le := h
  field := by
    rw [length_hwinfoMessage]
    rfl

/-- `sr_handle_hwinfo` applies the entries of the message in order. -/
theorem val_srHandleHwinfo {entries : List HwEntry} (h : (hwinfoMessage entries).length ≤ 10000)
    (beyond : ℕ → UInt8) (c : Client) :
    (srHandleHwinfo env ⟨hwinfoMessage entries, beyond⟩ c).val =
      (entries.foldlM (fun ifList entry => HwEntry.apply entry env ifList) c.state.sr.ifList).map
        fun ifList =>
          { c with state := { c.state with sr := { c.state.sr with ifList := ifList } } } := by
  have hlen : 8 + 36 * entries.length ≤ 10000 := by
    rw [length_hwinfoMessage] at h
    exact h
  have hfield : (Buf.mk (hwinfoMessage entries) beyond).get32 0 =
      UInt32.ofNat (8 + 36 * entries.length) := by
    apply get32_of_slice
    rw [hwinfoMessage, List.append_assoc]
    exact @slice_middle [] (bytes32 _) 0 4 rfl rfl _ _
  have hloop := @val_hwLoop env ⟨hwinfoMessage entries, beyond⟩ _ entries 0 rfl rfl
    c.state.sr.ifList
  have hread : ((Buf.mk (hwinfoMessage entries) beyond).read32 0).val =
    UInt32.ofNat (8 + 36 * entries.length) := hfield
  have hnum := numEntries_ofNat hlen
  rw [srHandleHwinfo, Traced.val_bind, val_bind_orFault, hread, hnum, Int.toNat_natCast, hloop]

/-! ## Descriptions -/

/-- The last entry with this key. -/
def lastEntry (key : UInt32) (entries : List HwEntry) : Option HwEntry :=
  (entries.filter (·.key = key)).getLast?

theorem lastEntry_concat (key : UInt32) (entries : List HwEntry) (entry : HwEntry) :
    lastEntry key (entries ++ [entry]) =
      if entry.key = key then some entry else lastEntry key entries := by
  rw [lastEntry, List.filter_append]
  by_cases h : entry.key = key
  · rw [if_pos h, List.filter_cons_of_pos (by simpa using h), List.filter_nil,
      List.getLast?_concat]
  · rw [if_neg h, List.filter_cons_of_neg (by simpa using h), List.filter_nil, List.append_nil]
    rfl

/-- The entries behind the name of an interface: both addresses are there, and the last of each
counts. -/
structure Details (iface : SrIf) (entries : List HwEntry) : Prop where
  no_name : ∀ entry ∈ entries, entry.key ≠ hwInterface
  addr : (lastEntry hwEther entries).map HwEntry.mac = some iface.addr
  ip : (lastEntry hwEthIp entries).map HwEntry.ip = some iface.ip

/-- The entries describe the interface, beginning with its name. -/
def Describes (iface : SrIf) (entries : List HwEntry) : Prop :=
  ∃ first rest, entries = first :: rest ∧ first.key = hwInterface ∧ first.name = iface.name ∧
    Details iface rest

/-- What an entry other than a name does to the last interface. -/
def HwEntry.update (iface : SrIf) (entry : HwEntry) : SrIf :=
  if entry.key = hwEthIp then { iface with ip := entry.ip }
  else if entry.key = hwEther then { iface with addr := entry.mac }
  else iface

theorem apply_of_ne {entry : HwEntry} (h : entry.key ≠ hwInterface) (ifList : List SrIf)
    (iface : SrIf) :
    entry.apply env (ifList ++ [iface]) = .ok (ifList ++ [entry.update iface]) := by
  have hne : ifList ++ [iface] ≠ [] := by simp
  rw [HwEntry.apply, if_neg h, HwEntry.update]
  split_ifs
  · rw [srSetEtherIp, if_neg hne, List.modifyLast_concat]
  · rw [srSetEtherAddr, if_neg hne, List.modifyLast_concat]
  · rfl

theorem foldlM_apply {entries : List HwEntry} (h : ∀ entry ∈ entries, entry.key ≠ hwInterface)
    (ifList : List SrIf) (iface : SrIf) :
    entries.foldlM (fun ifList entry => HwEntry.apply entry env ifList) (ifList ++ [iface]) =
      .ok (ifList ++ [entries.foldl HwEntry.update iface]) := by
  induction entries generalizing iface with
  | nil => rfl
  | cons entry entries ih =>
    rw [List.foldlM_cons, apply_of_ne (h entry List.mem_cons_self)]
    exact ih (fun entry hentry => h entry (List.mem_cons_of_mem _ hentry)) _

theorem foldl_update_concat (entries : List HwEntry) (entry : HwEntry) (iface : SrIf) :
    (entries ++ [entry]).foldl HwEntry.update iface =
      entry.update (entries.foldl HwEntry.update iface) := by
  rw [List.foldl_append]
  rfl

theorem name_foldl_update (entries : List HwEntry) (iface : SrIf) :
    (entries.foldl HwEntry.update iface).name = iface.name := by
  induction entries using List.reverseRecOn with
  | nil => rfl
  | append_singleton entries entry ih =>
    rw [foldl_update_concat, HwEntry.update]
    split_ifs <;> exact ih

/-- The last address set is the address of the interface. -/
theorem addr_foldl_update (entries : List HwEntry) (iface : SrIf) :
    (entries.foldl HwEntry.update iface).addr =
      ((lastEntry hwEther entries).map HwEntry.mac).getD iface.addr := by
  induction entries using List.reverseRecOn with
  | nil => rfl
  | append_singleton entries entry ih =>
    rw [foldl_update_concat, HwEntry.update, lastEntry_concat]
    by_cases hip : entry.key = hwEthIp
    · rw [if_pos hip, if_neg (by rw [hip]; decide)]
      exact ih
    · rw [if_neg hip]
      split
      · rfl
      · exact ih

/-- The last IP address set is that of the interface. -/
theorem ip_foldl_update (entries : List HwEntry) (iface : SrIf) :
    (entries.foldl HwEntry.update iface).ip =
      ((lastEntry hwEthIp entries).map HwEntry.ip).getD iface.ip := by
  induction entries using List.reverseRecOn with
  | nil => rfl
  | append_singleton entries entry ih =>
    rw [foldl_update_concat, HwEntry.update, lastEntry_concat]
    by_cases hip : entry.key = hwEthIp
    · rw [if_pos hip, if_pos hip]
      rfl
    · rw [if_neg hip, if_neg hip]
      split
      · exact ih
      · exact ih

theorem Details.foldl_update {iface blank : SrIf} {entries : List HwEntry}
    (h : Details iface entries) (hname : blank.name = iface.name) :
    entries.foldl HwEntry.update blank = iface := by
  have hname' := (name_foldl_update entries blank).trans hname
  have haddr := addr_foldl_update entries blank
  have hip := ip_foldl_update entries blank
  rw [h.addr, Option.getD_some] at haddr
  rw [h.ip, Option.getD_some] at hip
  generalize entries.foldl HwEntry.update blank = updated at hname' haddr hip
  cases updated
  cases iface
  subst hname' haddr hip
  rfl

/-- The entries that describe an interface add it. -/
theorem foldlM_of_describes {iface : SrIf} {entries : List HwEntry} (h : Describes iface entries)
    (ifList : List SrIf) :
    entries.foldlM (fun ifList entry => HwEntry.apply entry env ifList) ifList =
      .ok (ifList ++ [iface]) := by
  obtain ⟨first, rest, rfl, hkey, hname, hdetails⟩ := h
  have hfirst : first.apply env ifList = .ok (srAddInterface env first.name ifList) := if_pos hkey
  rw [List.foldlM_cons, hfirst]
  refine (foldlM_apply hdetails.no_name ifList _).trans ?_
  rw [hdetails.foldl_update hname]

/-- Entries that describe interfaces add them in order. -/
theorem foldlM_of_forall₂ {ifaces : List SrIf} {blocks : List (List HwEntry)}
    (h : List.Forall₂ Describes ifaces blocks) (ifList : List SrIf) :
    blocks.flatten.foldlM (fun ifList entry => HwEntry.apply entry env ifList) ifList =
      .ok (ifList ++ ifaces) := by
  induction h generalizing ifList with
  | nil => exact congrArg Except.ok (List.append_nil ifList).symm
  | cons hiface _ ih =>
    rw [List.flatten_cons, List.foldlM_append, foldlM_of_describes hiface]
    refine (ih _).trans ?_
    rw [List.append_assoc, List.singleton_append]

theorem afterMessage_verifyTable (c c' : Client) :
    afterMessage env .ready (verifyTable c) c' =
      (if srVerifyRoutingTable c.state.sr.ifList c.state.sr.routingTable = 0 then .ready
        else .ended,
        c') := by
  rw [verifyTable]
  by_cases h : srVerifyRoutingTable c.state.sr.ifList c.state.sr.routingTable = 0
  · rw [if_neg (not_not.mpr h), if_pos h]
    rfl
  · rw [if_pos h, if_neg h]
    rfl

/-- **A hardware message gives the router the interfaces that it describes**, behind those it has,
and the client goes on just when `sr_verify_routing_table` then accepts the routing table. -/
theorem hwinfo_builds_interfaces (env : ClientEnv) (ifaces : List SrIf)
    (blocks : List (List HwEntry)) (hblocks : List.Forall₂ Describes ifaces blocks)
    (hlen : (hwinfoMessage blocks.flatten).length ≤ 10000) (beyond : ℕ → UInt8) (c : Client) :
    handleMessage env .ready beyond (some (hwinfoMessage blocks.flatten)) c =
      .ok (if srVerifyRoutingTable (c.state.sr.ifList ++ ifaces) c.state.sr.routingTable = 0 then
          .ready else .ended,
        { c with state := { c.state with sr :=
          { c.state.sr with ifList := c.state.sr.ifList ++ ifaces } } }) := by
  have hbuf := messageBuf_of_wellFormed (wellFormed_hwinfoMessage hlen) beyond
  have hcommand : (messageBuf beyond (hwinfoMessage blocks.flatten)).get32 4 = vnsHwinfo := by
    rw [hbuf]
    apply get32_of_slice
    rw [hwinfoMessage, List.append_assoc]
    exact slice_middle rfl rfl _ _
  rw [handleMessage, val_srReadFromServerExpect, hcommand, if_neg fun h => h.1 rfl]
  iterate 3 rw [if_neg (by decide)]
  rw [if_pos rfl, hbuf, val_srHandleHwinfo hlen, foldlM_of_forall₂ hblocks]
  exact congrArg Except.ok (afterMessage_verifyTable _ _)

/-- The entries for `eth0`, with its network mask between its addresses, and an address in front
that does not count. -/
def eth0Entries : List HwEntry :=
  [⟨hwInterface, ⟨[101, 116, 104, 48] ++ List.replicate 28 0, rfl⟩⟩,
    ⟨hwEther, ⟨[4, 4, 4, 4, 4, 4] ++ List.replicate 26 0, rfl⟩⟩,
    ⟨hwEthIp, ⟨[10, 0, 0, 1] ++ List.replicate 28 0, rfl⟩⟩,
    ⟨128, ⟨[255, 255, 255, 0] ++ List.replicate 28 0, rfl⟩⟩,
    ⟨hwEther, ⟨[2, 2, 2, 2, 2, 2] ++ List.replicate 26 0, rfl⟩⟩]

theorem hwinfo_builds_interfaces_eth0 :
    handleMessage noKey .ready (fun _ => 0) (some (hwinfoMessage eth0Entries))
        (startClient [] [] [] 0 0).client =
      .ok (.ended, { (startClient [] [] [] 0 0).client with
        state := srInit [⟨"eth0", List.Vector.replicate 6 2, 0x0a000001⟩] [] 0 }) := by
  have hdescribes : Describes ⟨"eth0", List.Vector.replicate 6 2, 0x0a000001⟩ eth0Entries := by
    refine ⟨_, _, rfl, rfl, by decide, ?_, ?_, ?_⟩
    all_goals decide
  have hlen : (hwinfoMessage [eth0Entries].flatten).length ≤ 10000 := by
    rw [length_hwinfoMessage]
    decide
  exact hwinfo_builds_interfaces noKey
    [⟨"eth0", List.Vector.replicate 6 2, 0x0a000001⟩] [eth0Entries] (.cons hdescribes .nil) hlen
    (fun _ => 0) (startClient [] [] [] 0 0).client

end NetworkSim.Router
