import LibAds.ClientOutcomes
import LibAds.LocalAddress

/-!
# The connection table

`ads_connect.c` and `AdsAPI.c`: the global table of connections, how
`ADSsocketGet()` finds or opens one, and the API functions that use it. What the
operating system and the heap answer is an argument of each call. The heap is
modelled where the table lies (its blocks by address), and where the program
leaves defined behaviour a call ends in a `Fault`.
-/

namespace LibAds

open ByteMemory SocketModel

/-! ## Addresses -/

/-- The eight bytes of an `AmsAddr`. -/
def AmsAddr.bytes (addr : AmsAddr) : List UInt8 := addr.netId.b ++ toLE 2 addr.port.toNat

/-- What `memcmp()` compares them with: the partner of a connection and the low
half of its port. -/
def ADSConnection.key (dc : ADSConnection) : List UInt8 := load dc.mem partnerOffset 8

/-! ## The globals -/

/-- The globals of the library, the blocks of the heap that have been allocated
for the table and are not freed yet, and the sockets it has open. The
connections of a table are in its block, since each pointer to one is only
there. -/
structure Library where
  pADSConnectionList : Nat
  nADSConnectionCnt : Nat
  meAddr : AmsAddr
  defaultPort : Int32
  blocks : Nat → Option (List ADSConnection)
  sockets : List Int

/-- The globals at the start of the program. -/
def Library.initial : Library where
  pADSConnectionList := 0
  nADSConnectionCnt := 0
  meAddr := unsetAddr
  defaultPort := 0
  blocks := fun _ => none
  sockets := []

/-- What a loop over `nADSConnectionCnt` entries sees. -/
def Library.connections (lib : Library) : Except Fault (List ADSConnection) :=
  if lib.nADSConnectionCnt = 0 then .ok []
  else
    match lib.blocks lib.pADSConnectionList with
    | none => .error .wildPointer
    | some dcs =>
      if lib.nADSConnectionCnt ≤ dcs.length then .ok (dcs.take lib.nADSConnectionCnt)
      else .error .wildPointer

/-- The block of the table gets new entries. -/
def Library.setConnections (lib : Library) (dcs : List ADSConnection) : Library :=
  { lib with blocks := Function.update lib.blocks lib.pADSConnectionList (some dcs) }

/-! ## Opening a connection -/

/-- What the operating system and the heap answer when a connection is opened:
the descriptor for `socket()`, an `errno` where `connect()` or `setsockopt()`
fails, the interfaces, whether the two `calloc()` succeed, the address for the
list, what lies behind the new connection, and the value that `adsError` has by
chance where nothing is stored in it. -/
structure Attempt where
  socket : Int
  connect : Option Int
  setsockopt : Option Int
  ifaddrs : Option (List IfAddrs)
  newInterface : Bool
  newConnection : Bool
  list : Nat
  heap : Mem
  adsError : Int

/-- The descriptor that `socket()` returns: one that is not open yet, or -1. -/
def Attempt.descriptor (a : Attempt) (sockets : List Int) : Int :=
  if 0 ≤ a.socket ∧ a.socket ∉ sockets then a.socket else -1

/-- A socket that was not created cannot be connected. -/
def Attempt.connectFails (a : Attempt) (sockets : List Int) : Option Int :=
  if a.descriptor sockets = -1 then some 9 else a.connect

/-- The ADS code for an `errno` of `connect()` or `setsockopt()`. -/
def connectError (errno : Int) : Int := if errno = 113 then 0x274c else 0x1

def Library.openSocket (lib : Library) (fd : Int) : Library :=
  if fd = -1 then lib else { lib with sockets := fd :: lib.sockets }

/-- `ADSsocketConnect()`: the code in `*adsError` for a null pointer, or the new
connection. The operation that a connection is opened for uses its interface
without a test, so a null interface ends the call. -/
def adsSocketConnect (addr : AmsAddr) (a : Attempt) (lib : Library) :
    Except Fault (Library × Except Int ADSConnection) :=
  let socket_fd := a.descriptor lib.sockets
  let connectFails := a.connectFails lib.sockets
  let lib := lib.openSocket socket_fd
  match connectFails with
  | some errno => .ok (lib, .error (connectError errno))
  | none =>
    match a.setsockopt with
    | some errno => .ok (lib, .error (connectError errno))
    | none => do
      let (nerr, meAddr) ← adsGetMeAddress lib.meAddr AMSPORT_R0_PLC_RTS1 a.ifaddrs
      let lib := { lib with meAddr := meAddr }
      if nerr ≠ 0 then .ok (lib, .error nerr)
      else if a.newConnection = false then .ok (lib, .error a.adsError)
      else if a.newInterface = false then .error .nullInterface
      else
        let di := adsNewInterface socket_fd meAddr.netId addr.port.toNat "LinuxADS"
        .ok (lib, .ok (adsNewConnection a.heap di addr.netId addr.port.toNat))

/-- `malloc()` and `realloc()` return an address that is not in use; `realloc()`
may leave the block where it is. -/
def Attempt.listFits (a : Attempt) (lib : Library) : Prop :=
  a.list ≠ 0 ∧ ((lib.blocks a.list).isNone ∨
    (lib.nADSConnectionCnt ≠ 0 ∧ a.list = lib.pADSConnectionList))

instance (a : Attempt) (lib : Library) : Decidable (a.listFits lib) :=
  inferInstanceAs (Decidable (_ ∧ (_ ∨ _)))

/-- The end of `ADSsocketGet()`: the list is allocated or grows by one entry. -/
def Library.append (lib : Library) (a : Attempt) (dcs : List ADSConnection) (dc : ADSConnection) :
    Except Fault Library :=
  if a.listFits lib then
    let blocks := if lib.nADSConnectionCnt = 0 then lib.blocks
      else Function.update lib.blocks lib.pADSConnectionList none
    .ok { lib with
      pADSConnectionList := a.list
      nADSConnectionCnt := lib.nADSConnectionCnt + 1
      blocks := Function.update blocks a.list (some (dcs ++ [dc])) }
  else .error .nullList

/-- `ADSsocketGet()`: the code in `*adsError` for a null pointer, or the index of
the connection in the table. -/
def adsSocketGet (addr : AmsAddr) (a : Attempt) (lib : Library) :
    Except Fault (Library × Except Int Nat) := do
  let dcs ← lib.connections
  match dcs.findIdx? (fun dc => dc.key = addr.bytes) with
  | some i => .ok (lib, .ok i)
  | none =>
    let (lib, dc) ← adsSocketConnect addr a lib
    match dc with
    | .error adsError => .ok (lib, .error adsError)
    | .ok dc =>
      let i := lib.nADSConnectionCnt
      let lib ← lib.append a dcs dc
      .ok (lib, .ok i)

/-! ## Closing, and the time limit -/

/-- `ADSsocketDisconnect()` -/
def adsSocketDisconnect (lib : Library) (dc : ADSConnection) : Library :=
  { lib with sockets := lib.sockets.filter (· ≠ dc.iface.sd) }

/-- `AdsPortClose()`. The list is freed and the count reset, the pointer is not. -/
def adsPortClose (lib : Library) : Except Fault Library := do
  let dcs ← lib.connections
  let lib := dcs.foldl adsSocketDisconnect lib
  if lib.pADSConnectionList = 0 then .ok { lib with nADSConnectionCnt := 0 }
  else if (lib.blocks lib.pADSConnectionList).isNone then .error .doubleFree
  else
    .ok { lib with
      nADSConnectionCnt := 0
      blocks := Function.update lib.blocks lib.pADSConnectionList none }

/-- `AdsSetTimeout()`, the loop on one connection. -/
def ADSConnection.setTimeout (nMs : Int32) (dc : ADSConnection) : ADSConnection :=
  { dc with iface := { dc.iface with timeout := nMs.toInt } }

/-- `AdsSetTimeout()` -/
def adsSetTimeout (port nMs : Int32) (lib : Library) : Except Fault (Library × Int) :=
  if port ≤ 0 then .ok (lib, 0x18)
  else if lib.nADSConnectionCnt = 0 then .ok (lib, 0)
  else do
    let dcs ← lib.connections
    .ok (lib.setConnections (dcs.map (.setTimeout nMs)), 0)

/-! ## Requests -/

/-- The request functions of `AdsAPI.c` with their arguments; pointers to output
only matter where they are tested. The functions without `Ex` in their name
differ in the port they pass, which `ADSsocketGet()` does not use. -/
inductive ApiRequest where
  | writeControl (nAdsState nDeviceState : UInt16) (nLength : UInt32) (pData : Option Mem)
  | write (nIndexGroup nIndexOffset nLength : UInt32) (pData : Option Mem)
  | read (nIndexGroup nIndexOffset nLength : UInt32) (pData pnRead : Bool)
  | readState
  | readDeviceInfo
  | readWrite (nIndexGroup nIndexOffset nReadLength nWriteLength : UInt32)
    (pWriteData : Option Mem) (pcbReturn : Bool)

/-- The operation that a request function calls. -/
def ApiRequest.call : ApiRequest → Call
  | .writeControl nAdsState nDeviceState nLength pData =>
    .writeControl nAdsState.toNat nDeviceState.toNat pData (intOf nLength)
  | .write nIndexGroup nIndexOffset nLength pData =>
    .writeBytes (intOf nIndexGroup) (intOf nIndexOffset) (intOf nLength) pData
  | .read nIndexGroup nIndexOffset nLength pData pnRead =>
    .readBytes nIndexGroup nIndexOffset nLength pData pnRead
  | .readState => .readState
  | .readDeviceInfo => .readDeviceInfo
  | .readWrite nIndexGroup nIndexOffset nReadLength nWriteLength pWriteData pcbReturn =>
    .readWriteBytes nIndexGroup nIndexOffset nReadLength nWriteLength pWriteData pcbReturn

section Requests

variable {σ : Type} [Socket σ]

/-- What a request returns and stores, the connection it used, and the socket
after it. -/
structure RequestReply (σ : Type) where
  ret : Int
  outs : Outputs
  connection : Option Nat
  sock : σ

/-- A request on the connection at an index of the table. -/
def Library.request (lib : Library) (i : Nat) (c : Call) (s : σ) :
    Except Fault (Library × RequestReply σ) := do
  let dcs ← lib.connections
  match dcs[i]? with
  | none => .error .wildPointer
  | some dc =>
    let r ← c.exec dc s
    .ok (lib.setConnections (dcs.set i r.dc), ⟨r.ret, r.outs, some i, r.sock⟩)

/-- The request functions: find or open the connection, call the operation. -/
def adsRequest (addr : AmsAddr) (r : ApiRequest) (a : Attempt) (s : σ) (lib : Library) :
    Except Fault (Library × RequestReply σ) := do
  let (lib, dc) ← adsSocketGet addr a lib
  match dc with
  | .error adsError => .ok (lib, ⟨adsError, {}, none, s⟩)
  | .ok i => lib.request i r.call s

/-! ## Calls of the API -/

/-- A call of the API with what the system answers to it. -/
inductive ApiCall (σ : Type) where
  | request (addr : AmsAddr) (r : ApiRequest) (a : Attempt) (s : σ)
  | setTimeoutEx (port nMs : Int32)
  | setTimeout (nMs : Int32)
  | getLocalAddressEx (port : Int32) (ifaddrs : Option (List IfAddrs))
  | portOpen
  | portClose

/-- `AdsGetLocalAddressEx()`: its return value and `meAddr` after it. -/
def adsGetLocalAddressEx (port : Int32) (ifaddrs : Option (List IfAddrs)) (meAddr : AmsAddr) :
    Except Fault (Int × AmsAddr) :=
  if port ≤ 0 then .ok (0x18, meAddr)
  else adsGetMeAddress meAddr AMSPORT_R0_PLC_RTS1 ifaddrs

/-- It refuses its port, determines the address, or comes to an interface without one. -/
theorem adsGetLocalAddressEx_cases (port : Int32) (ifaddrs : Option (List IfAddrs))
    (meAddr : AmsAddr) :
    port ≤ 0 ∧ adsGetLocalAddressEx port ifaddrs meAddr = .ok (0x18, meAddr) ∨
      (¬ port ≤ 0 ∧ Located meAddr ifaddrs ∧
        adsGetLocalAddressEx port ifaddrs meAddr = .ok (localAddress meAddr ifaddrs)) ∨
      ¬ Located meAddr ifaddrs ∧
        adsGetLocalAddressEx port ifaddrs meAddr = .error .nullAddress := by
  by_cases invalid : port ≤ 0
  · exact Or.inl ⟨invalid, if_pos invalid⟩
  have asks : adsGetLocalAddressEx port ifaddrs meAddr =
      adsGetMeAddress meAddr AMSPORT_R0_PLC_RTS1 ifaddrs := if_neg invalid
  by_cases located : Located meAddr ifaddrs
  · exact Or.inr (Or.inl ⟨invalid, located, asks.trans located.eq⟩)
  · exact Or.inr (Or.inr ⟨located, asks.trans (adsGetMeAddress_unlocated located)⟩)

/-- Make the call: the globals after it and its return value. -/
def ApiCall.run (call : ApiCall σ) (lib : Library) : Except Fault (Library × Int) :=
  match call with
  | .request addr r a s => (adsRequest addr r a s lib).map fun (lib, reply) => (lib, reply.ret)
  | .setTimeoutEx port nMs => adsSetTimeout port nMs lib
  | .setTimeout nMs => adsSetTimeout lib.defaultPort nMs lib
  | .getLocalAddressEx port ifaddrs =>
    (adsGetLocalAddressEx port ifaddrs lib.meAddr).map fun (ret, meAddr) =>
      ({ lib with meAddr := meAddr }, ret)
  | .portOpen => .ok ({ lib with defaultPort := 1 }, 1)
  | .portClose => (adsPortClose lib).map fun lib => (lib, 0)

/-- The calls of the API as steps between the states of the library. -/
def apiStep (σ : Type) [Socket σ] (lib : Library) (call : ApiCall σ) (lib' : Library) : Prop :=
  ∃ ret, call.run lib = .ok (lib', ret)

end Requests

end LibAds
