import NetworkSim.Router.Protocol

/-!
# Interfaces and the routing table

`router/sr_if.h`, `router/sr_rt.h`, `sr_get_interface`, `sr_rt_lookup_ip` and
`sr_verify_routing_table`. A name is the string that `strncmp` sees, and a linked list is the `List`
of its nodes. Addresses and masks are numbers in network byte order.
-/

namespace NetworkSim.Router

/-- `struct sr_if`. -/
structure SrIf where
  name : String
  addr : MacAddr
  ip : UInt32
  deriving DecidableEq

/-- `struct sr_rt`. -/
structure SrRt where
  dest : UInt32
  gw : UInt32
  mask : UInt32
  interface : String
  deriving DecidableEq

/-- `sr_get_interface` in the list of interfaces. -/
def srGetInterface (ifList : List SrIf) (name : String) : Option SrIf :=
  ifList.find? fun iface => iface.name = name

/-- `__builtin_popcount`. -/
def popcount (x : UInt32) : ℕ := x.toBitVec.cpop.toNat

/-- Whether the destination `ip` is one of those of a route. -/
def SrRt.Matches (entry : SrRt) (ip : UInt32) : Prop :=
  entry.dest &&& entry.mask = ip &&& entry.mask

instance (entry : SrRt) (ip : UInt32) : Decidable (entry.Matches ip) :=
  inferInstanceAs (Decidable (_ = _))

/-- The body of the loop of `sr_rt_lookup_ip`, on `match_bits` and `entry`. -/
def lookupRound (ip : UInt32) (best : ℕ × Option SrRt) (rtWalker : SrRt) : ℕ × Option SrRt :=
  if rtWalker.Matches ip then
    let bits := popcount rtWalker.mask
    if best.1 < bits then (bits, some rtWalker) else best
  else best

/-- `sr_rt_lookup_ip` in the routing table. -/
def srRtLookupIp (routingTable : List SrRt) (ip : UInt32) : Option SrRt :=
  (routingTable.foldl (lookupRound ip) (0, none)).2

/-- `sr_verify_routing_table`. -/
def srVerifyRoutingTable (ifList : List SrIf) (routingTable : List SrRt) : ℕ :=
  if ifList = [] ∨ routingTable = [] then 999
  else
    routingTable.foldl
      (fun ret entry => if srGetInterface ifList entry.interface = none then ret + 1 else ret) 0

end NetworkSim.Router
