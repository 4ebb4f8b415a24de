import LibAds.BlockHeap
import LibAds.TableResources
import Mathlib.Data.List.Forall2

/-!
# The heap under the table

The table is an array of pointers to connections, each of which points to its
interface: three kinds of blocks, allocated by `calloc()`, `malloc()` and
`realloc()` in `ADSsocketConnect()` and `ADSsocketGet()` and freed by
`AdsPortClose()`. Here the library runs on such a heap, and every pointer is
followed. Each call does to the table what `TableStep` says (`heapCall_safely`),
and the blocks in use are those of the table and, for an attempt that got no memory
for its connection, the interface it got, which is lost (`heap_accounted`).
-/

namespace LibAds

open ByteMemory SocketModel LabelledRuns BlockHeap

/-! ## Blocks -/

/-- `ADSConnection` as it stands in the heap, with a pointer to its interface. -/
structure ConnectionBlock where
  iface : Nat
  AnswLen : Int
  invokeId : UInt32
  dataPointer : Nat
  mem : Mem

/-- The connection with what its pointer refers to. -/
def ConnectionBlock.deref (dc : ConnectionBlock) (di : ADSInterface) : ADSConnection where
  iface := di
  AnswLen := dc.AnswLen
  invokeId := dc.invokeId
  dataPointer := dc.dataPointer
  mem := dc.mem

/-- A connection whose interface is at `iface`. -/
def ADSConnection.block (dc : ADSConnection) (iface : Nat) : ConnectionBlock where
  iface := iface
  AnswLen := dc.AnswLen
  invokeId := dc.invokeId
  dataPointer := dc.dataPointer
  mem := dc.mem

/-- The blocks that the library allocates. -/
inductive Block where
  | interface (di : ADSInterface)
  | connection (dc : ConnectionBlock)
  | list (entries : List Nat)

/-! ## The library on its heap -/

/-- The globals of the library with the open sockets and the heap. -/
structure HeapLibrary where
  pADSConnectionList : Nat
  nADSConnectionCnt : Nat
  meAddr : AmsAddr
  defaultPort : Int32
  sockets : List Int
  heap : Heap Block

def HeapLibrary.initial : HeapLibrary where
  pADSConnectionList := 0
  nADSConnectionCnt := 0
  meAddr := Library.initial.meAddr
  defaultPort := 0
  sockets := []
  heap := fun _ => none

namespace HeapLibrary

/-- `*(ADSInterface *) p` -/
def interface (L : HeapLibrary) (p : Nat) : Except Fault ADSInterface :=
  match L.heap p with
  | some (.interface di) => .ok di
  | _ => .error (if p = 0 then .nullInterface else .wildPointer)

/-- `*(ADSConnection *) p` -/
def connection (L : HeapLibrary) (p : Nat) : Except Fault ConnectionBlock :=
  match L.heap p with
  | some (.connection dc) => .ok dc
  | _ => .error .wildPointer

/-- The pointers that a loop over `nADSConnectionCnt` entries sees. -/
def entries (L : HeapLibrary) : Except Fault (List Nat) :=
  if L.nADSConnectionCnt = 0 then .ok []
  else
    match L.heap L.pADSConnectionList with
    | some (.list ps) =>
      if L.nADSConnectionCnt ≤ ps.length then .ok (ps.take L.nADSConnectionCnt)
      else .error .wildPointer
    | _ => .error .wildPointer

/-- The loop of `ADSsocketGet()` over the pointers. -/
def find (L : HeapLibrary) (addr : AmsAddr) : List Nat → Except Fault (Option Nat)
  | [] => .ok none
  | p :: ps => do
    let dc ← L.connection p
    if load dc.mem partnerOffset 8 = addr.bytes then .ok (some p) else L.find addr ps

def openSocket (L : HeapLibrary) (fd : Int) : HeapLibrary :=
  if fd = -1 then L else { L with sockets := fd :: L.sockets }

/-- `free(p)` -/
def free (L : HeapLibrary) (p : Nat) : Except Fault HeapLibrary :=
  match BlockHeap.free L.heap p with
  | some heap => .ok { L with heap := heap }
  | none => .error .doubleFree

end HeapLibrary

/-- What system and heap answer to an attempt: the addresses that the two
`calloc()` may hand out say whether they succeed. -/
structure HeapAttempt extends Attempt where
  interfaceAt : Nat
  connectionAt : Nat

/-- The end of `ADSsocketConnect()`: the two blocks. The connection gets a null
pointer where there is no memory for its interface. -/
def heapNewConnection (addr : AmsAddr) (a : HeapAttempt) (di : ADSInterface) (L : HeapLibrary) :
    HeapLibrary × Except Int Nat :=
  let dc := adsNewConnection a.heap di addr.netId addr.port.toNat
  let (heap, pdi) := alloc L.heap a.interfaceAt (.interface di)
  let (heap, pdc) := alloc heap a.connectionAt (.connection (dc.block pdi))
  ({ L with heap := heap }, if pdc = 0 then .error a.adsError else .ok pdc)

/-- `ADSsocketConnect()`: the code in `*adsError` for a null pointer, or the pointer
to the new connection. -/
def heapSocketConnect (addr : AmsAddr) (a : HeapAttempt) (L : HeapLibrary) :
    Except Fault (HeapLibrary × Except Int Nat) :=
  let socket_fd := a.descriptor L.sockets
  let connectFails := a.connectFails L.sockets
  let L := L.openSocket socket_fd
  match connectFails with
  | some errno => .ok (L, .error (connectError errno))
  | none =>
    match a.setsockopt with
    | some errno => .ok (L, .error (connectError errno))
    | none => do
      let (nerr, meAddr) ← adsGetMeAddress L.meAddr AMSPORT_R0_PLC_RTS1 a.ifaddrs
      let L := { L with meAddr := meAddr }
      if nerr ≠ 0 then .ok (L, .error nerr)
      else
        .ok (heapNewConnection addr a
          (adsNewInterface socket_fd meAddr.netId addr.port.toNat "LinuxADS") L)

/-- `malloc()` and `realloc()` return an address that is not in use; `realloc()`
may leave the block where it is. -/
def HeapLibrary.ListFits (L : HeapLibrary) (list : Nat) : Prop :=
  Available L.heap list ∨ (L.nADSConnectionCnt ≠ 0 ∧ list = L.pADSConnectionList)

instance (L : HeapLibrary) (list : Nat) : Decidable (L.ListFits list) :=
  inferInstanceAs (Decidable (_ ∨ _))

/-- The heap without the list. -/
def HeapLibrary.unlisted (L : HeapLibrary) : Heap Block :=
  if L.nADSConnectionCnt = 0 then L.heap else Function.update L.heap L.pADSConnectionList none

/-- The end of `ADSsocketGet()`: the list is allocated or grows by one entry. -/
def HeapLibrary.append (L : HeapLibrary) (list dc : Nat) : Except Fault HeapLibrary := do
  let ps ← L.entries
  if L.ListFits list then
    .ok { L with
      pADSConnectionList := list
      nADSConnectionCnt := L.nADSConnectionCnt + 1
      heap := Function.update L.unlisted list (some (.list (ps ++ [dc]))) }
  else .error .nullList

/-- `ADSsocketGet()`: the code in `*adsError` for a null pointer, or the pointer to
the connection. -/
def heapSocketGet (addr : AmsAddr) (a : HeapAttempt) (L : HeapLibrary) :
    Except Fault (HeapLibrary × Except Int Nat) := do
  let ps ← L.entries
  match ← L.find addr ps with
  | some dc => .ok (L, .ok dc)
  | none =>
    let (L, dc) ← heapSocketConnect addr a L
    match dc with
    | .error adsError => .ok (L, .error adsError)
    | .ok dc =>
      let L ← L.append a.list dc
      .ok (L, .ok dc)

namespace HeapLibrary

/-- The loop of `AdsSetTimeout()` over the pointers. -/
def setTimeouts (nMs : Int32) : List Nat → HeapLibrary → Except Fault HeapLibrary
  | [], L => .ok L
  | p :: ps, L => do
    let dc ← L.connection p
    let di ← L.interface dc.iface
    let di := { di with timeout := nMs.toInt }
    setTimeouts nMs ps { L with heap := Function.update L.heap dc.iface (some (.interface di)) }

/-- `ADSsocketDisconnect()` -/
def disconnect (L : HeapLibrary) (p : Nat) : Except Fault HeapLibrary := do
  let dc ← L.connection p
  let di ← L.interface dc.iface
  let heap := Function.update L.heap dc.iface (some (.interface { di with sd := 0 }))
  .ok { L with sockets := L.sockets.filter (· ≠ di.sd), heap := heap }

/-- `ADSFreeConnection()`, with `_ADSFreeInterface()`. -/
def freeConnection (L : HeapLibrary) (p : Nat) : Except Fault HeapLibrary := do
  let dc ← L.connection p
  let L ← L.free dc.iface
  L.free p

/-- The loop of `AdsPortClose()` over the pointers. -/
def closeAll : List Nat → HeapLibrary → Except Fault HeapLibrary
  | [], L => .ok L
  | p :: ps, L => do
    let L ← L.disconnect p
    let L ← L.freeConnection p
    closeAll ps L

end HeapLibrary

/-- `AdsSetTimeout()` -/
def heapSetTimeout (port nMs : Int32) (L : HeapLibrary) : Except Fault (HeapLibrary × Int) :=
  if port ≤ 0 then .ok (L, 0x18)
  else do
    let ps ← L.entries
    let L ← L.setTimeouts nMs ps
    .ok (L, 0)

/-- `AdsPortClose()` -/
def heapPortClose (L : HeapLibrary) : Except Fault (HeapLibrary × Int) := do
  let ps ← L.entries
  let L ← L.closeAll ps
  let L ← L.free L.pADSConnectionList
  .ok ({ L with nADSConnectionCnt := 0 }, 0)

section Requests

variable {σ : Type} [Socket σ]

/-- An operation on the connection at `p`. -/
def HeapLibrary.request (L : HeapLibrary) (p : Nat) (c : Call) (s : σ) :
    Except Fault (HeapLibrary × RequestReply σ) := do
  let dc ← L.connection p
  let di ← L.interface dc.iface
  let r ← c.exec (dc.deref di) s
  let heap := Function.update L.heap p (some (.connection (r.dc.block dc.iface)))
  .ok ({ L with heap := heap }, ⟨r.ret, r.outs, some p, r.sock⟩)

/-- The request functions. The reply names the connection by its pointer. -/
def heapRequest (addr : AmsAddr) (r : ApiRequest) (a : HeapAttempt) (s : σ) (L : HeapLibrary) :
    Except Fault (HeapLibrary × RequestReply σ) := do
  let (L, dc) ← heapSocketGet addr a L
  match dc with
  | .error adsError => .ok (L, ⟨adsError, {}, none, s⟩)
  | .ok p => L.request p r.call s

/-- A call of the API with what system and heap answer to it. -/
inductive HeapCall (σ : Type) where
  | request (addr : AmsAddr) (r : ApiRequest) (a : HeapAttempt) (s : σ)
  | setTimeoutEx (port nMs : Int32)
  | setTimeout (nMs : Int32)
  | getLocalAddressEx (port : Int32) (ifaddrs : Option (List IfAddrs))
  | portOpen
  | portClose

/-- Make the call: the library after it and its return value. -/
def HeapCall.run (call : HeapCall σ) (L : HeapLibrary) : Except Fault (HeapLibrary × Int) :=
  match call with
  | .request addr r a s => (heapRequest addr r a s L).map fun (L, reply) => (L, reply.ret)
  | .setTimeoutEx port nMs => heapSetTimeout port nMs L
  | .setTimeout nMs => heapSetTimeout L.defaultPort nMs L
  | .getLocalAddressEx port ifaddrs =>
    (adsGetLocalAddressEx port ifaddrs L.meAddr).map fun (ret, meAddr) =>
      ({ L with meAddr := meAddr }, ret)
  | .portOpen => .ok ({ L with defaultPort := 1 }, 1)
  | .portClose => heapPortClose L

end Requests

/-! ## A table in the heap -/

/-- The connection at the first address is in the heap, and its interface at the
second. -/
structure ConnectionAt (h : Heap Block) (e : Nat × Nat) (dc : ADSConnection) : Prop where
  connection : h e.1 = some (.connection (dc.block e.2))
  interface : h e.2 = some (.interface dc.iface)

/-- The blocks of entries. -/
def entryBlocks (es : List (Nat × Nat)) : List Nat := es.flatMap fun e => [e.1, e.2]

/-- The block of the list; the pointer refers to none as long as nothing is counted. -/
def HeapLibrary.listBlock (L : HeapLibrary) : List Nat :=
  if L.nADSConnectionCnt = 0 then [] else [L.pADSConnectionList]

/-- The globals and the heap hold a table, whose connections and interfaces are at
the addresses `es`. The blocks in use are those and the list, and some that the
table does not know: they are lost, or a connection is about to be put there. -/
structure HeapLibrary.Holds (L : HeapLibrary) (T : Table) (es : List (Nat × Nat))
    (lost : List Nat) : Prop where
  count : L.nADSConnectionCnt = es.length
  list : es ≠ [] → L.heap L.pADSConnectionList = some (.list (es.map Prod.fst))
  entries : List.Forall₂ (ConnectionAt L.heap) es T.connections
  owns : Owns L.heap (L.listBlock ++ entryBlocks es ++ lost)
  sockets : L.sockets = T.sockets
  meAddr : L.meAddr = T.meAddr
  defaultPort : L.defaultPort = T.defaultPort

theorem HeapLibrary.initial_holds : HeapLibrary.initial.Holds .initial [] [] :=
  ⟨rfl, fun some => absurd rfl some, .nil, .nil, rfl, rfl, rfl⟩

/-- The library after an attempt, whose blocks come after that. -/
def HeapLibrary.attempted (L : HeapLibrary) (a : Attempt) (T : Table) : HeapLibrary :=
  { L with sockets := a.sockets T, meAddr := a.meAddr T }

section Entries

variable {L : HeapLibrary} {T : Table} {e : Nat × Nat} {es : List (Nat × Nat)} {lost : List Nat}
  {dc : ADSConnection} {dcs : List ADSConnection} {h h' : Heap Block} {addr : AmsAddr}

theorem ConnectionAt.connection_eq (entry : ConnectionAt L.heap e dc) :
    L.connection e.1 = .ok (dc.block e.2) := by
  rw [HeapLibrary.connection, entry.connection]

theorem ConnectionAt.interface_eq (entry : ConnectionAt L.heap e dc) :
    L.interface e.2 = .ok dc.iface := by
  rw [HeapLibrary.interface, entry.interface]

/-- Entries only depend on their own blocks. -/
theorem entries_congr (entries : List.Forall₂ (ConnectionAt h) es dcs)
    (same : ∀ a ∈ entryBlocks es, h' a = h a) : List.Forall₂ (ConnectionAt h') es dcs := by
  induction entries with
  | nil => exact .nil
  | @cons e dc es dcs entry _ ih =>
      have own := List.forall_mem_append.mp (same : ∀ a ∈ [e.1, e.2] ++ entryBlocks es, h' a = h a)
      have first := own.1 e.1 (by simp)
      have second := own.1 e.2 (by simp)
      exact .cons ⟨first.trans entry.connection, second.trans entry.interface⟩ (ih own.2)

theorem HeapLibrary.Holds.entries_eq (holds : L.Holds T es lost) :
    L.entries = .ok (es.map Prod.fst) := by
  unfold HeapLibrary.entries
  rw [holds.count]
  by_cases empty : es = []
  · subst empty
    rfl
  · have positive := List.length_pos_iff.mpr empty
    have whole : (es.map Prod.fst).take es.length = es.map Prod.fst :=
      List.take_of_length_le (List.length_map Prod.fst).le
    rw [if_neg (by omega), holds.list empty]
    simp only [List.length_map, Nat.le_refl, if_true, whole]

/-- The loop of `ADSsocketGet()` finds what the table has. -/
theorem find_eq (entries : List.Forall₂ (ConnectionAt L.heap) es dcs) :
    L.find addr (es.map Prod.fst) =
      .ok ((dcs.findIdx? fun dc => dc.key = addr.bytes).bind fun i => (es.map Prod.fst)[i]?) := by
  induction entries with
  | nil => rfl
  | @cons e dc es dcs entry _ ih =>
      rw [List.map_cons, HeapLibrary.find, entry.connection_eq, List.findIdx?_cons]
      simp only [bind, Except.bind]
      by_cases own : dc.key = addr.bytes
      · have compared : load (dc.block e.2).mem partnerOffset 8 = addr.bytes := own
        simp [compared, own]
      · have compared : ¬ load (dc.block e.2).mem partnerOffset 8 = addr.bytes := own
        rw [if_neg compared, ih]
        cases dcs.findIdx? fun dc => dc.key = addr.bytes <;> simp [own]

theorem HeapLibrary.Holds.attempted (holds : L.Holds T es lost) (a : Attempt) :
    (L.attempted a T).Holds { T with sockets := a.sockets T, meAddr := a.meAddr T } es lost :=
  ⟨holds.count, holds.list, holds.entries, holds.owns, rfl, rfl, holds.defaultPort⟩

/-- A table that is not empty has a list. -/
theorem HeapLibrary.Holds.listed (holds : L.Holds T es lost) (some : es ≠ []) :
    L.pADSConnectionList ∈ L.listBlock := by
  have counted : L.nADSConnectionCnt ≠ 0 := by
    rw [holds.count]
    exact (List.length_pos_iff.mpr some).ne'
  rw [HeapLibrary.listBlock, if_neg counted]
  exact List.mem_singleton_self _

theorem HeapLibrary.Holds.distinct (holds : L.Holds T es lost) : (entryBlocks es).Nodup :=
  (List.nodup_append.mp (List.nodup_append.mp holds.owns.distinct).1).2.1

/-- The list is in no block of an entry. -/
theorem HeapLibrary.Holds.list_ne (holds : L.Holds T es lost) (some : es ≠ []) {b : Nat}
    (own : b ∈ entryBlocks es) : L.pADSConnectionList ≠ b :=
  (List.nodup_append.mp (List.nodup_append.mp holds.owns.distinct).1).2.2 _ (holds.listed some) b
    own

theorem mem_blocks {b : Nat} (own : b ∈ entryBlocks es) :
    b ∈ L.listBlock ++ entryBlocks es ++ lost :=
  List.mem_append_left _ (List.mem_append_right _ own)

/-- A block is allocated that the table does not know. -/
theorem HeapLibrary.Holds.alloc (holds : L.Holds T es lost) {p : Nat}
    (available : Available L.heap p) (b : Block) :
    ({ L with heap := Function.update L.heap p (some b) } : HeapLibrary).Holds T es
      (p :: lost) := by
  have fresh := holds.owns.not_mem available
  rw [List.mem_append, List.mem_append, not_or, not_or] at fresh
  have kept : ∀ a, a ≠ p → Function.update L.heap p (some b) a = L.heap a :=
    fun a other => Function.update_of_ne other _ _
  refine ⟨holds.count, fun some => ?_, ?_, ?_, holds.sockets, holds.meAddr, holds.defaultPort⟩
  · exact (kept _ fun same => fresh.1.1 (same ▸ holds.listed some)).trans (holds.list some)
  · exact entries_congr holds.entries fun a own => kept a fun same => fresh.1.2 (same ▸ own)
  · exact (holds.owns.alloc available b).perm List.perm_middle.symm

end Entries

/-! ## Opening a connection -/

section Connecting

variable {L : HeapLibrary} {T : Table} {es : List (Nat × Nat)} {lost : List Nat} {addr : AmsAddr}
  {a : HeapAttempt}

/-- The attempt as the table sees it: whether there is memory for its blocks. -/
def HeapAttempt.on (a : HeapAttempt) (h : Heap Block) : Attempt :=
  { a.toAttempt with
    newInterface := Available h a.interfaceAt
    newConnection := Available h a.connectionAt ∧ a.connectionAt ≠ a.interfaceAt }

/-- The attempt gets memory for an interface, and none for a connection with it. -/
def Attempt.loses (a : Attempt) : Bool := a.newInterface && !a.newConnection

/-- The attempt comes to its allocations. -/
def Attempt.Reaches (a : Attempt) (T : Table) : Prop :=
  a.Connects T ∧ (localAddress T.meAddr a.ifaddrs).1 = 0

/-- The attempt finds memory for a connection. -/
def HeapAttempt.Granted (a : HeapAttempt) (h : Heap Block) : Prop :=
  Available h a.connectionAt ∧ a.connectionAt ≠ a.interfaceAt

theorem HeapAttempt.succeeds_iff :
    (a.on L.heap).Succeeds T ↔ a.Reaches T ∧ a.Granted L.heap := by
  unfold Attempt.Reaches
  rw [and_assoc]
  exact and_congr_right fun _ => and_congr_right fun _ => decide_eq_true_iff

theorem HeapLibrary.Holds.openSocket (holds : L.Holds T es lost) (a : Attempt) :
    L.openSocket (a.descriptor T.sockets) = { L with sockets := a.sockets T } := by
  unfold HeapLibrary.openSocket Attempt.sockets
  split
  · rw [← holds.sockets]
  · rw [holds.sockets]

/-- An attempt that fails before its allocations. -/
theorem heapSocketConnect_unreached (holds : L.Holds T es lost) (located : a.Locatable T)
    (fails : ¬ a.Reaches T) :
    heapSocketConnect addr a L =
      .ok (L.attempted a.toAttempt T, .error (a.toAttempt.code T)) := by
  by_cases connects : a.Connects T
  · have unknown : (localAddress T.meAddr a.ifaddrs).1 ≠ 0 := fun zero => fails ⟨connects, zero⟩
    have cached : a.meAddr T = (localAddress T.meAddr a.ifaddrs).2 := if_pos connects
    unfold heapSocketConnect HeapLibrary.attempted Attempt.code
    dsimp only
    rw [cached, holds.sockets, holds.openSocket]
    simp only [connects.1, connects.2, holds.meAddr, (located connects).eq, bind, Except.bind,
      if_pos unknown]
  · have cached : a.meAddr T = L.meAddr := (if_neg connects).trans holds.meAddr.symm
    unfold heapSocketConnect HeapLibrary.attempted Attempt.code
    dsimp only
    rw [cached, holds.sockets, holds.openSocket]
    rcases connected : a.connectFails T.sockets with _ | errno
    · rcases option : a.setsockopt with _ | errno
      · exact absurd ⟨connected, option⟩ connects
      · rfl
    · rfl

/-- One that comes to an interface without an address. -/
theorem heapSocketConnect_unlocated (holds : L.Holds T es lost) (unlocated : ¬ a.Locatable T) :
    heapSocketConnect addr a L = .error .nullAddress := by
  obtain ⟨⟨connected, option⟩, null⟩ := Classical.not_imp.mp unlocated
  unfold heapSocketConnect
  dsimp only
  rw [holds.sockets, holds.openSocket]
  simp only [connected, option, holds.meAddr, adsGetMeAddress_unlocated null, bind, Except.bind]

/-- One that comes to them. -/
theorem heapSocketConnect_reached (holds : L.Holds T es lost) (reaches : a.Reaches T) :
    heapSocketConnect addr a L =
      .ok (heapNewConnection addr a (a.toAttempt.connection addr T).iface
        (L.attempted a.toAttempt T)) := by
  have cached : a.meAddr T = (localAddress T.meAddr a.ifaddrs).2 := if_pos reaches.1
  unfold heapSocketConnect HeapLibrary.attempted Attempt.connection
  dsimp only
  rw [cached, holds.sockets, holds.openSocket]
  simp only [reaches.1.1, reaches.1.2, holds.meAddr, (located_of_zero reaches.2).eq, reaches.2,
    bind, Except.bind]
  rfl

theorem Attempt.Reaches.code {a : Attempt} (reaches : a.Reaches T) : a.code T = a.adsError := by
  obtain ⟨⟨connected, option⟩, known⟩ := reaches
  simp only [Attempt.code, connected, option, known, ne_eq, not_true_eq_false, if_false]

/-- The library after the two blocks of a connection have been allocated. -/
def HeapLibrary.connected (L : HeapLibrary) (a : HeapAttempt) (dc : ADSConnection) :
    HeapLibrary :=
  { L with
    heap := Function.update (Function.update L.heap a.interfaceAt (some (.interface dc.iface)))
      a.connectionAt (some (.connection (dc.block a.interfaceAt))) }

theorem heapNewConnection_both (holds : L.Holds T es lost) (granted : a.Granted L.heap)
    (interface : Available L.heap a.interfaceAt) (di : ADSInterface) :
    let dc := adsNewConnection a.heap di addr.netId addr.port.toNat
    heapNewConnection addr a di L = (L.connected a dc, .ok a.connectionAt) ∧
      (L.connected a dc).Holds T es (a.connectionAt :: a.interfaceAt :: lost) ∧
      ConnectionAt (L.connected a dc).heap (a.connectionAt, a.interfaceAt) dc := by
  have connection : Available (Function.update L.heap a.interfaceAt (some (.interface di)))
      a.connectionAt := ⟨granted.1.1, by rw [Function.update_of_ne granted.2]; exact granted.1.2⟩
  unfold heapNewConnection
  simp only [alloc_of_available interface, alloc_of_available connection, if_neg granted.1.1]
  refine ⟨rfl, (holds.alloc interface _).alloc connection _, Function.update_self .., ?_⟩
  exact (Function.update_of_ne (Ne.symm granted.2) _ _).trans (Function.update_self ..)

/-- A connection without an interface. -/
theorem heapNewConnection_null (holds : L.Holds T es lost) (granted : a.Granted L.heap)
    (null : ¬ Available L.heap a.interfaceAt) (di : ADSInterface) :
    ∃ (L' : HeapLibrary) (dc : ADSConnection),
      heapNewConnection addr a di L = (L', .ok a.connectionAt) ∧
      L'.Holds T es (a.connectionAt :: lost) ∧
      L'.heap a.connectionAt = some (.connection (dc.block 0)) := by
  unfold heapNewConnection
  simp only [alloc_of_not_available null, alloc_of_available granted.1, if_neg granted.1.1]
  exact ⟨_, _, rfl, holds.alloc granted.1 _, Function.update_self ..⟩

/-- No connection: its interface, if there is one, is lost. -/
theorem heapNewConnection_refused (holds : L.Holds T es lost) (refused : ¬ a.Granted L.heap)
    (di : ADSInterface) :
    ∃ (L' : HeapLibrary) (lost' : List Nat),
      heapNewConnection addr a di L = (L', .error a.adsError) ∧ L'.Holds T es lost' ∧
      lost'.length = lost.length + (a.on L.heap).loses.toNat := by
  unfold heapNewConnection
  by_cases interface : Available L.heap a.interfaceAt
  · have none : ¬ Available (Function.update L.heap a.interfaceAt (some (.interface di)))
        a.connectionAt := by
      intro available
      have other : a.connectionAt ≠ a.interfaceAt := by
        intro same
        have free := available.2
        rw [same, Function.update_self] at free
        cases free
      refine refused ⟨⟨available.1, ?_⟩, other⟩
      rw [← Function.update_of_ne other (some (.interface di)) L.heap]
      exact available.2
    have loses : (a.on L.heap).loses = true := by
      simp only [HeapAttempt.on, Attempt.loses, Bool.and_eq_true, Bool.not_eq_true',
        decide_eq_true_eq, decide_eq_false_iff_not]
      exact ⟨interface, refused⟩
    simp only [alloc_of_available interface, alloc_of_not_available none, if_true, loses]
    exact ⟨_, _, rfl, holds.alloc interface _, rfl⟩
  · have none : ¬ Available L.heap a.connectionAt := by
      intro available
      exact refused ⟨available, fun same => interface (same ▸ available)⟩
    have loses : (a.on L.heap).loses = false := by
      simp only [HeapAttempt.on, Attempt.loses, Bool.and_eq_false_iff, decide_eq_false_iff_not]
      exact Or.inl interface
    simp only [alloc_of_not_available interface, alloc_of_not_available none, if_true, loses]
    exact ⟨_, _, rfl, holds, rfl⟩

/-- **No connection.** All that may have changed is the sockets and the local
address, and an interface may be lost. -/
theorem heapSocketConnect_failed (holds : L.Holds T es lost) (located : a.Locatable T)
    (fails : ¬ (a.on L.heap).Succeeds T) :
    ∃ (L' : HeapLibrary) (lost' : List Nat),
      heapSocketConnect addr a L = .ok (L', .error ((a.on L.heap).code T)) ∧
      L'.Holds { T with sockets := a.sockets T, meAddr := a.meAddr T } es lost' ∧
      lost'.length ≤ lost.length + (a.on L.heap).loses.toNat := by
  by_cases reaches : a.Reaches T
  · have refused : ¬ a.Granted L.heap :=
      fun granted => fails (HeapAttempt.succeeds_iff.mpr ⟨reaches, granted⟩)
    obtain ⟨L', lost', made, holds', length⟩ :=
      @heapNewConnection_refused _ _ _ _ addr a (holds.attempted a.toAttempt) refused
        (a.toAttempt.connection addr T).iface
    refine ⟨L', lost', ?_, holds', length.le⟩
    rw [heapSocketConnect_reached holds reaches, made]
    exact congrArg (fun code => Except.ok (L', Except.error code)) reaches.code.symm
  · exact ⟨_, lost, heapSocketConnect_unreached holds located reaches, holds.attempted _,
      Nat.le_add_right ..⟩

/-- Without the list its block is free, and all others are what they were. -/
theorem HeapLibrary.Holds.unlisted (holds : L.Holds T es lost) :
    Owns L.unlisted (entryBlocks es ++ lost) ∧
      ∀ p ∈ entryBlocks es ++ lost, L.unlisted p = L.heap p := by
  have owns := holds.owns
  unfold HeapLibrary.listBlock at owns
  unfold HeapLibrary.unlisted
  split at owns
  · next none =>
      rw [if_pos none]
      exact ⟨owns, fun _ _ => rfl⟩
  · next some =>
      rw [if_neg some]
      have fresh := (List.nodup_cons.mp owns.distinct).1
      refine ⟨owns.free.2, fun p inside => Function.update_of_ne ?_ _ _⟩
      rintro rfl
      exact fresh inside

/-- The list, where it is put, takes no block in use. -/
theorem HeapLibrary.Holds.available (holds : L.Holds T es lost) {list : Nat}
    (fits : L.ListFits list) : Available L.unlisted list := by
  unfold HeapLibrary.unlisted
  split
  · next none => exact fits.resolve_right fun stays => stays.1 none
  · next some =>
      have listed : L.pADSConnectionList ∈ L.listBlock ++ entryBlocks es ++ lost := by
        rw [HeapLibrary.listBlock, if_neg some]
        exact List.mem_append_left _ (List.mem_append_left _ (List.mem_singleton_self _))
      rcases eq_or_ne list L.pADSConnectionList with rfl | other
      · refine ⟨fun null => holds.owns.notNull (null ▸ listed), ?_⟩
        rw [Function.update_self]
        rfl
      · have available := fits.resolve_right fun stays => other stays.2
        exact ⟨available.1, by rw [Function.update_of_ne other]; exact available.2⟩

/-- The list with another entry, and no other block changed. -/
theorem HeapLibrary.Holds.append_eq (holds : L.Holds T es lost) {list : Nat}
    (fits : L.ListFits list) (p : Nat) :
    ∃ heap : Heap Block,
      L.append list p = .ok { L with
        pADSConnectionList := list
        nADSConnectionCnt := L.nADSConnectionCnt + 1
        heap := heap } ∧
      heap list = some (.list (es.map Prod.fst ++ [p])) ∧
      Owns heap (list :: (entryBlocks es ++ lost)) ∧
      ∀ b ∈ entryBlocks es ++ lost, heap b = L.heap b := by
  obtain ⟨owns, kept⟩ := holds.unlisted
  have available := holds.available fits
  refine ⟨_, ?_, Function.update_self .., owns.alloc available _, fun b inside => ?_⟩
  · unfold HeapLibrary.append
    rw [holds.entries_eq]
    simp only [bind, Except.bind, if_pos fits]
  · have other : b ≠ list := fun same => owns.not_mem available (same ▸ inside)
    rw [Function.update_of_ne other, kept b inside]

theorem HeapLibrary.Holds.append_unfit (holds : L.Holds T es lost) {list : Nat}
    (unfit : ¬ L.ListFits list) (p : Nat) : L.append list p = .error .nullList := by
  unfold HeapLibrary.append
  rw [holds.entries_eq]
  simp only [bind, Except.bind, if_neg unfit]

theorem entryBlocks_concat (es : List (Nat × Nat)) (e : Nat × Nat) :
    entryBlocks (es ++ [e]) = entryBlocks es ++ [e.1, e.2] := by
  rw [entryBlocks, List.flatMap_append, List.flatMap_singleton, ← entryBlocks]

/-- The interfaces have addresses, and the heap has an interface and a place for the
list. -/
structure HeapAttempt.Served (a : HeapAttempt) (L : HeapLibrary) : Prop where
  addressed : AllAddressed a.ifaddrs
  interface : Available L.heap a.interfaceAt
  list : L.ListFits a.list
  notInterface : a.list ≠ a.interfaceAt
  notConnection : a.list ≠ a.connectionAt

theorem HeapAttempt.Served.connected (served : a.Served L) (dc : ADSConnection) :
    (L.connected a dc).ListFits a.list := by
  refine served.list.imp_left fun available => ⟨available.1, ?_⟩
  dsimp only [HeapLibrary.connected]
  rw [Function.update_of_ne served.notConnection, Function.update_of_ne served.notInterface]
  exact available.2

/-- The list gets an entry whose blocks the table did not know before. -/
theorem HeapLibrary.Holds.append {e : Nat × Nat} {dc : ADSConnection}
    (holds : L.Holds T es (e.1 :: e.2 :: lost)) (entry : ConnectionAt L.heap e dc) {list : Nat}
    (fits : L.ListFits list) :
    ∃ L' : HeapLibrary, L.append list e.1 = .ok L' ∧
      L'.Holds { T with connections := T.connections ++ [dc] } (es ++ [e]) lost := by
  obtain ⟨heap, made, block, owns, kept⟩ := holds.append_eq fits e.1
  have same : ∀ b ∈ entryBlocks (es ++ [e]), heap b = L.heap b := by
    intro b own
    rw [entryBlocks_concat] at own
    refine kept b ?_
    rw [show entryBlocks es ++ e.1 :: e.2 :: lost = entryBlocks es ++ [e.1, e.2] ++ lost by simp]
    exact List.mem_append_left _ own
  refine ⟨_, made, ?_, fun _ => ?_, ?_, ?_, holds.sockets, holds.meAddr, holds.defaultPort⟩
  · rw [holds.count, List.length_append, List.length_singleton]
  · exact block.trans (by rw [List.map_append, List.map_singleton])
  · exact entries_congr (List.rel_append holds.entries (.cons entry .nil)) same
  · rw [entryBlocks_concat]
    unfold HeapLibrary.listBlock
    rw [if_neg (Nat.succ_ne_zero _)]
    simpa using owns

end Connecting

/-! ## Requests -/

/-- A call returns as wanted, or ends since it is not served: it has followed no
wild pointer and freed no block twice. -/
def Safely {α : Type} (served : Prop) (P : α → Prop) : Except Fault α → Prop
  | .ok result => P result
  | .error fault => (fault ≠ .wildPointer ∧ fault ≠ .doubleFree) ∧ ¬ served

/-- A call that is executed where its data have room. -/
theorem Safely.exec {σ α : Type} [Socket σ] {served : Prop} {P : α → Prop} {c : Call}
    {dc : ADSConnection} {s : σ} {f : CallResult σ → α} (room : served → c.InConnection)
    (ok : P (f (c.run dc s))) : Safely served P ((c.exec dc s).map f) := by
  rcases ran : c.exec dc s with fault | r
  · refine ⟨?_, fun serves => ?_⟩
    · rcases Call.exec_eq_error ran with rfl | rfl <;> exact ⟨nofun, nofun⟩
    · rw [Call.exec_eq_ok.mpr ⟨room serves, rfl⟩] at ran
      cases ran
  · obtain ⟨-, rfl⟩ := Call.exec_eq_ok.mp ran
    exact ok

section Requests

variable {σ : Type} [Socket σ] {L : HeapLibrary} {T : Table} {e : Nat × Nat}
  {es : List (Nat × Nat)} {lost : List Nat} {addr : AmsAddr} {a : HeapAttempt}
  {dc dc' : ADSConnection} {dcs : List ADSConnection} {h : Heap Block} {i : Nat}
  {r : ApiRequest} {s : σ}

omit [Socket σ] in
theorem mem_entryBlocks (inside : e ∈ es) : e.1 ∈ entryBlocks es ∧ e.2 ∈ entryBlocks es :=
  ⟨List.mem_flatMap_of_mem inside (by simp), List.mem_flatMap_of_mem inside (by simp)⟩

/-- A connection is written where it stands. -/
theorem entries_set (entries : List.Forall₂ (ConnectionAt h) es dcs)
    (distinct : (entryBlocks es).Nodup)
    (entry : es[i]? = some e) (present : dcs[i]? = some dc) (kept : dc'.iface = dc.iface) :
    List.Forall₂ (ConnectionAt (Function.update h e.1 (some (.connection (dc'.block e.2))))) es
      (dcs.set i dc') := by
  induction entries generalizing i with
  | nil => cases entry
  | @cons e' dc₁ es dcs first rest ih =>
      have parts := List.nodup_append.mp (distinct : ([e'.1, e'.2] ++ entryBlocks es).Nodup)
      cases i with
      | zero =>
          cases entry
          cases present
          have other : e.2 ≠ e.1 := by simpa [eq_comm] using parts.1
          refine .cons ⟨Function.update_self .., ?_⟩ (entries_congr rest fun b own => ?_)
          · rw [Function.update_of_ne other, kept, first.interface]
          · exact Function.update_of_ne (Ne.symm (parts.2.2 _ (by simp) b own)) _ _
      | succ i =>
          have entry : es[i]? = some e := entry
          have own := (mem_entryBlocks (List.mem_of_getElem? entry)).1
          refine .cons ⟨?_, ?_⟩ (ih parts.2.1 entry present)
          · rw [Function.update_of_ne (parts.2.2 _ (by simp) _ own), first.connection]
          · rw [Function.update_of_ne (parts.2.2 _ (by simp) _ own), first.interface]

theorem connectionAt_of_getElem? (entries : List.Forall₂ (ConnectionAt h) es dcs)
    (entry : es[i]? = some e) (present : dcs[i]? = some dc) : ConnectionAt h e dc := by
  obtain ⟨bound, rfl⟩ := List.getElem?_eq_some_iff.mp entry
  obtain ⟨bound', rfl⟩ := List.getElem?_eq_some_iff.mp present
  exact entries.get bound bound'

theorem HeapLibrary.Holds.setConnection (holds : L.Holds T es lost) (entry : es[i]? = some e)
    (present : T.connections[i]? = some dc) (kept : dc'.iface = dc.iface) :
    ({ L with heap := Function.update L.heap e.1 (some (.connection (dc'.block e.2))) } :
      HeapLibrary).Holds { T with connections := T.connections.set i dc' } es lost := by
  have own := (mem_entryBlocks (List.mem_of_getElem? entry)).1
  refine ⟨holds.count, fun some => ?_, entries_set holds.entries holds.distinct entry present kept,
    holds.owns.write (mem_blocks own) _, holds.sockets, holds.meAddr, holds.defaultPort⟩
  exact (Function.update_of_ne (holds.list_ne some own) _ _).trans (holds.list some)

/-- A request on a connection of the table, at its address. -/
theorem HeapLibrary.Holds.request (holds : L.Holds T es lost) (entry : es[i]? = some e)
    (present : T.connections[i]? = some dc) (c : Call) (s : σ) :
    ∃ L' : HeapLibrary,
      L'.Holds { T with connections := T.connections.set i (c.run dc s).dc } es lost ∧
      L.request e.1 c s = (c.exec dc s).map fun _ =>
        (L', ⟨(c.run dc s).ret, (c.run dc s).outs, some e.1, (c.run dc s).sock⟩) := by
  refine ⟨_, holds.setConnection entry present (Call.run_iface c dc s), ?_⟩
  have stands := connectionAt_of_getElem? holds.entries entry present
  unfold HeapLibrary.request
  rw [stands.connection_eq]
  have whole : (dc.block e.2).deref dc.iface = dc := rfl
  have interface : L.interface (dc.block e.2).iface = .ok dc.iface := stands.interface_eq
  simp only [bind, Except.bind, interface, whole]
  rcases ran : c.exec dc s with fault | r
  · rfl
  · obtain ⟨-, rfl⟩ := Call.exec_eq_ok.mp ran
    rfl

/-- A request whose connection is in the table. -/
theorem heapRequest_found (holds : L.Holds T es lost) (finds : T.Finds addr i dc)
    (entry : es[i]? = some e) : heapRequest addr r a s L = L.request e.1 r.call s := by
  have found : L.find addr (es.map Prod.fst) = .ok (some e.1) := by
    rw [find_eq holds.entries, finds.findIdx, Option.bind_some, List.getElem?_map, entry]
    rfl
  unfold heapRequest heapSocketGet
  rw [holds.entries_eq]
  simp only [bind, Except.bind, found]

theorem heapSocketGet_missed (holds : L.Holds T es lost) (misses : T.Misses addr) :
    heapSocketGet addr a L =
      match heapSocketConnect addr a L with
      | .error fault => .error fault
      | .ok (L, .error adsError) => .ok (L, .error adsError)
      | .ok (L, .ok dc) => (L.append a.list dc).map fun L => (L, .ok dc) := by
  unfold heapSocketGet
  rw [holds.entries_eq]
  simp only [bind, Except.bind, find_eq holds.entries, misses.findIdx, Option.bind_none]
  rcases heapSocketConnect addr a L with fault | ⟨L, adsError | dc⟩
  · rfl
  · rfl
  · cases L.append a.list dc <;> rfl

/-- A request for which a connection is opened. -/
theorem heapRequest_opened (holds : L.Holds T es lost) (misses : T.Misses addr)
    (reaches : a.Reaches T) {L' : HeapLibrary} {p : Nat}
    (opened : heapNewConnection addr a (a.toAttempt.connection addr T).iface
      (L.attempted a.toAttempt T) = (L', .ok p)) :
    heapRequest addr r a s L = (L'.append a.list p).bind fun L => L.request p r.call s := by
  unfold heapRequest
  rw [heapSocketGet_missed holds misses, heapSocketConnect_reached holds reaches, opened]
  dsimp only
  cases L'.append a.list p <;> rfl

/-- A connection without an interface is no use to the request it is opened for. -/
theorem heapRequest_null (holds : L.Holds T es lost) {p : Nat}
    (block : L.heap p = some (.connection (dc.block 0))) (unlisted : p ∈ lost) (list : Nat)
    (c : Call) :
    ∃ fault, ((L.append list p).bind fun L => L.request p c s) = .error fault ∧
      (fault = .nullInterface ∨ fault = .nullList) := by
  by_cases fits : L.ListFits list
  · obtain ⟨heap, made, -, owns, kept⟩ := holds.append_eq fits p
    have null := owns.eq_none owns.notNull
    have same := (kept p (List.mem_append_right _ unlisted)).trans block
    refine ⟨.nullInterface, ?_, Or.inl rfl⟩
    rw [made]
    simp only [Except.bind, HeapLibrary.request, bind, HeapLibrary.connection, same,
      HeapLibrary.interface, ADSConnection.block, null, if_true]
  · exact ⟨.nullList, by rw [holds.append_unfit fits]; rfl, Or.inr rfl⟩

/-- After a request the heap holds a table that the request leads to, with the same
reply, and an interface may have been lost. -/
def HeapLibrary.Requested (L : HeapLibrary) (T : Table) (lost : List Nat) (addr : AmsAddr)
    (r : ApiRequest) (a : HeapAttempt) (s : σ) (after : HeapLibrary × RequestReply σ) : Prop :=
  ∃ T' es' lost' connection,
    T.Request addr r (a.on L.heap) s T' { after.2 with connection := connection } ∧
    after.1.Holds T' es' lost' ∧ lost'.length ≤ lost.length + (a.on L.heap).loses.toNat

theorem heapRequest_finds (holds : L.Holds T es lost) (finds : T.Finds addr i dc) :
    Safely (a.Served L ∧ r.call.InConnection) (L.Requested T lost addr r a s)
      (heapRequest addr r a s L) := by
  have bound : i < es.length := by
    rw [holds.entries.length_eq]
    exact (List.getElem?_eq_some_iff.mp finds.entry).1
  have entry := List.getElem?_eq_getElem bound
  obtain ⟨L', holds', made⟩ := holds.request entry finds.entry r.call s
  rw [heapRequest_found holds finds entry, made]
  exact .exec And.right ⟨_, es, lost, some i, .found finds, holds', Nat.le_add_right ..⟩

/-- The request on a connection that was opened with its interface. -/
theorem heapRequest_opens (holds : L.Holds T es lost) (misses : T.Misses addr)
    (succeeds : (a.on L.heap).Succeeds T) (interface : Available L.heap a.interfaceAt) :
    Safely (a.Served L ∧ r.call.InConnection) (L.Requested T lost addr r a s)
      (heapRequest addr r a s L) := by
  obtain ⟨reaches, granted⟩ := HeapAttempt.succeeds_iff.mp succeeds
  obtain ⟨opened, holds₁, entry⟩ := heapNewConnection_both (holds.attempted a.toAttempt) granted
    interface (a.toAttempt.connection addr T).iface
  rw [heapRequest_opened holds misses reaches opened]
  by_cases fits : ((L.attempted a.toAttempt T).connected a
      (a.toAttempt.connection addr T)).ListFits a.list
  · obtain ⟨L₂, made, holds₂⟩ := holds₁.append entry fits
    have last : (es ++ [(a.connectionAt, a.interfaceAt)])[T.connections.length]? =
        some (a.connectionAt, a.interfaceAt) := by
      rw [← holds.entries.length_eq]
      exact List.getElem?_concat_length
    obtain ⟨L', holds', request⟩ := holds₂.request last List.getElem?_concat_length r.call s
    rw [made, Except.bind, request]
    refine .exec And.right ⟨_, es ++ [(a.connectionAt, a.interfaceAt)], lost,
      some T.connections.length, .opened misses succeeds, ?_, Nat.le_add_right ..⟩
    dsimp only at holds'
    rw [List.set_append_right _ _ (Nat.le_refl _), Nat.sub_self] at holds'
    exact holds'
  · rw [holds₁.append_unfit fits]
    refine ⟨⟨nofun, nofun⟩, fun ⟨served, _⟩ => fits ?_⟩
    exact HeapAttempt.Served.connected
      ⟨served.addressed, interface, served.list, served.notInterface, served.notConnection⟩ _

/-- **A request on the heap** does to the table what a request does to it, unless it
is not served. -/
theorem heapRequest_safely (holds : L.Holds T es lost) :
    Safely (a.Served L ∧ r.call.InConnection) (L.Requested T lost addr r a s)
      (heapRequest addr r a s L) := by
  rcases T.lookup addr with ⟨i, dc, finds⟩ | misses
  · exact heapRequest_finds holds finds
  rcases (a.on L.heap).ends T with succeeds | ⟨located, fails⟩ | unlocated
  · by_cases interface : Available L.heap a.interfaceAt
    · exact heapRequest_opens holds misses succeeds interface
    · obtain ⟨reaches, granted⟩ := HeapAttempt.succeeds_iff.mp succeeds
      obtain ⟨L₁, dc, opened, holds₁, block⟩ := heapNewConnection_null
        (holds.attempted a.toAttempt) granted interface (a.toAttempt.connection addr T).iface
      obtain ⟨fault, failed, kind⟩ :=
        heapRequest_null (s := s) holds₁ block List.mem_cons_self a.list r.call
      rw [heapRequest_opened holds misses reaches opened, failed]
      refine ⟨?_, fun served => interface served.1.interface⟩
      rcases kind with rfl | rfl <;> exact ⟨nofun, nofun⟩
  · obtain ⟨L', lost', failed, holds', length⟩ :=
      @heapSocketConnect_failed _ _ _ _ addr _ holds located fails
    unfold heapRequest
    rw [heapSocketGet_missed holds misses, failed]
    exact ⟨_, es, lost', none, .failed misses located fails, holds', length⟩
  · unfold heapRequest
    rw [heapSocketGet_missed holds misses, heapSocketConnect_unlocated holds unlocated]
    exact ⟨⟨nofun, nofun⟩, fun served => unlocated fun _ => served.1.addressed.located⟩

end Requests

/-! ## The loops over the table -/

section Loops

variable {L : HeapLibrary} {T : Table} {e : Nat × Nat} {es : List (Nat × Nat)}
  {lost rest blocks : List Nat} {dc : ADSConnection} {dcs : List ADSConnection}

theorem entryBlocks_cons (e : Nat × Nat) (es : List (Nat × Nat)) :
    entryBlocks (e :: es) = e.1 :: e.2 :: entryBlocks es := rfl

/-- The loop of `AdsSetTimeout()` writes the interfaces of the entries, one by one. -/
theorem setTimeouts_eq (nMs : Int32) (entries : List.Forall₂ (ConnectionAt L.heap) es dcs)
    (distinct : (entryBlocks es).Nodup) (owns : Owns L.heap blocks)
    (inside : ∀ b ∈ entryBlocks es, b ∈ blocks) :
    ∃ heap : Heap Block,
      L.setTimeouts nMs (es.map Prod.fst) = .ok { L with heap := heap } ∧
      List.Forall₂ (ConnectionAt heap) es (dcs.map (.setTimeout nMs)) ∧ Owns heap blocks ∧
      ∀ b, b ∉ entryBlocks es → heap b = L.heap b := by
  induction es generalizing L dcs with
  | nil =>
      cases entries
      exact ⟨L.heap, rfl, .nil, owns, fun _ _ => rfl⟩
  | cons e es ih =>
      rcases entries with _ | @⟨_, dc, _, dcs, entry, entries⟩
      rw [entryBlocks_cons, List.nodup_cons, List.nodup_cons, List.mem_cons, not_or] at distinct
      rw [entryBlocks_cons, List.forall_mem_cons, List.forall_mem_cons] at inside
      obtain ⟨⟨other, first⟩, second, distinct⟩ := distinct
      have kept : ∀ b, b ≠ e.2 → Function.update L.heap e.2
          (some (.interface (dc.setTimeout nMs).iface)) b = L.heap b :=
        fun b other => Function.update_of_ne other _ _
      obtain ⟨heap, made, entries', owns', same⟩ :=
        @ih
          { L with
            heap := Function.update L.heap e.2 (some (.interface (dc.setTimeout nMs).iface)) } dcs
          (entries_congr entries fun b own => kept b fun same => second (same ▸ own)) distinct
          (owns.write inside.2.1 _) inside.2.2
      refine ⟨heap, ?_, .cons ⟨?_, ?_⟩ entries', owns', fun b outside => ?_⟩
      · rw [List.map_cons, HeapLibrary.setTimeouts, entry.connection_eq]
        simp only [bind, Except.bind, ADSConnection.block, entry.interface_eq]
        exact made
      · exact ((same e.1 first).trans (kept e.1 other)).trans entry.connection
      · exact (same e.2 second).trans (Function.update_self ..)
      · rw [entryBlocks_cons, List.mem_cons, List.mem_cons, not_or, not_or] at outside
        exact (same b outside.2.2).trans (kept b outside.2.1)

/-- `ADSsocketDisconnect()` and `ADSFreeConnection()` on an entry. -/
theorem closeConnection_eq (entry : ConnectionAt L.heap e dc)
    (owns : Owns L.heap (e.1 :: e.2 :: rest)) :
    ∃ heap : Heap Block,
      ((L.disconnect e.1).bind fun L => L.freeConnection e.1) =
        .ok { L with sockets := L.sockets.filter (· ≠ dc.iface.sd), heap := heap } ∧
      Owns heap rest ∧ ∀ b ∈ rest, heap b = L.heap b := by
  obtain ⟨first, second⟩ := List.nodup_cons.mp owns.distinct
  rw [List.mem_cons, not_or] at first
  have written := owns.write (b := .interface { dc.iface with sd := 0 })
    (List.mem_cons_of_mem _ List.mem_cons_self)
  obtain ⟨freed, owns₁⟩ := (written.perm (List.Perm.swap ..)).free
  obtain ⟨freed', owns₂⟩ := owns₁.free
  have stands : Function.update L.heap e.2 (some (.interface { dc.iface with sd := 0 })) e.1 =
      some (.connection (dc.block e.2)) :=
    (Function.update_of_ne first.1 _ _).trans entry.connection
  refine ⟨_, ?_, owns₂, fun b inside => ?_⟩
  · unfold HeapLibrary.disconnect HeapLibrary.freeConnection HeapLibrary.free
    rw [entry.connection_eq]
    simp only [bind, Except.bind, ADSConnection.block, entry.interface_eq, HeapLibrary.connection,
      stands, freed, freed']
  · have other : b ≠ e.1 := fun same => first.2 (same ▸ inside)
    have other' : b ≠ e.2 := fun same => (List.nodup_cons.mp second).1 (same ▸ inside)
    rw [Function.update_of_ne other, Function.update_of_ne other', Function.update_of_ne other']

theorem filter_closed (fds : List Int) (dc : ADSConnection) (dcs : List ADSConnection) :
    (fds.filter (· ≠ dc.iface.sd)).filter (fun fd => ∀ dc ∈ dcs, fd ≠ dc.iface.sd) =
      fds.filter fun fd => ∀ dc' ∈ dc :: dcs, fd ≠ dc'.iface.sd := by
  rw [List.filter_filter]
  apply List.filter_congr
  intro fd _
  rw [Bool.eq_iff_iff]
  simp [and_comm]

/-- The loop of `AdsPortClose()` frees the blocks of the entries, and these alone. -/
theorem closeAll_eq (entries : List.Forall₂ (ConnectionAt L.heap) es dcs)
    (owns : Owns L.heap (entryBlocks es ++ rest)) :
    ∃ heap : Heap Block,
      L.closeAll (es.map Prod.fst) =
        .ok { L with
          sockets := L.sockets.filter fun fd => ∀ dc ∈ dcs, fd ≠ dc.iface.sd
          heap := heap } ∧
      Owns heap rest := by
  induction es generalizing L dcs with
  | nil =>
      cases entries
      exact ⟨L.heap, by simp [HeapLibrary.closeAll], owns⟩
  | cons e es ih =>
      rcases entries with _ | @⟨_, dc, _, dcs, entry, entries⟩
      obtain ⟨heap, closed, owns₁, same⟩ := closeConnection_eq entry owns
      obtain ⟨heap', made, owns'⟩ :=
        @ih { L with sockets := L.sockets.filter (· ≠ dc.iface.sd), heap := heap } dcs
          (entries_congr entries fun b own => same b (List.mem_append_left _ own)) owns₁
      refine ⟨heap', ?_, owns'⟩
      have step : (L.closeAll (e.1 :: es.map Prod.fst)) =
          ((L.disconnect e.1).bind fun L => L.freeConnection e.1).bind
            (HeapLibrary.closeAll (es.map Prod.fst)) := by
        rw [HeapLibrary.closeAll]
        cases L.disconnect e.1 <;> rfl
      rw [List.map_cons, step, closed, Except.bind, made, ← filter_closed]

end Loops

/-! ## Runs -/

section Runs

variable {σ : Type} [Socket σ] {L L' : HeapLibrary} {T : Table} {es : List (Nat × Nat)}
  {lost : List Nat}

/-- The call as the table sees it. -/
def HeapCall.on (call : HeapCall σ) (h : Heap Block) : ApiCall σ :=
  match call with
  | .request addr r a s => .request addr r (a.on h) s
  | .setTimeoutEx port nMs => .setTimeoutEx port nMs
  | .setTimeout nMs => .setTimeout nMs
  | .getLocalAddressEx port ifaddrs => .getLocalAddressEx port ifaddrs
  | .portOpen => .portOpen
  | .portClose => .portClose

/-- The heap serves the call, the data of a request have room, and the interfaces
have addresses. -/
def HeapCall.Served (call : HeapCall σ) (L : HeapLibrary) : Prop :=
  match call with
  | .request _ r a _ => a.Served L ∧ r.call.InConnection
  | .getLocalAddressEx _ ifaddrs => AllAddressed ifaddrs
  | _ => True

/-- The call may lose an interface. -/
def ApiCall.loses : ApiCall σ → Bool
  | .request _ _ a _ => a.loses
  | _ => false

/-- The calls as steps of the library on its heap. -/
def heapStep (σ : Type) [Socket σ] (L : HeapLibrary) (call : ApiCall σ) (L' : HeapLibrary) :
    Prop :=
  ∃ (made : HeapCall σ) (ret : Int), made.on L.heap = call ∧ made.run L = .ok (L', ret)

/-- The port is not closed when nothing is counted and the list has been freed. -/
def closesOnce (L : HeapLibrary) (call : ApiCall σ) : Prop :=
  call = .portClose → L.nADSConnectionCnt ≠ 0 ∨ L.pADSConnectionList = 0

omit [Socket σ] in
theorem heapSetTimeout_eq (holds : L.Holds T es lost) (port nMs : Int32) :
    ∃ L' : HeapLibrary, heapSetTimeout port nMs L = .ok (L', if port ≤ 0 then 0x18 else 0) ∧
      L'.Holds (if port ≤ 0 then T
        else { T with connections := T.connections.map (.setTimeout nMs) }) es lost := by
  unfold heapSetTimeout
  by_cases invalid : port ≤ 0
  · simp only [if_pos invalid]
    exact ⟨L, rfl, holds⟩
  · obtain ⟨heap, made, entries, owns, same⟩ :=
      setTimeouts_eq nMs holds.entries holds.distinct holds.owns fun _ => mem_blocks
    simp only [if_neg invalid, holds.entries_eq, bind, Except.bind, made]
    refine ⟨_, rfl, holds.count, fun some => ?_, entries, owns, holds.sockets, holds.meAddr,
      holds.defaultPort⟩
    exact (same _ fun own => holds.list_ne some own rfl).trans (holds.list some)

omit [Socket σ] in
/-- Closing frees all blocks but those that are lost. -/
theorem heapPortClose_eq (holds : L.Holds T es lost)
    (closes : L.nADSConnectionCnt ≠ 0 ∨ L.pADSConnectionList = 0) :
    ∃ L' : HeapLibrary, heapPortClose L = .ok (L', 0) ∧
      L'.Holds { T with
        connections := []
        sockets := T.sockets.filter fun fd => ∀ dc ∈ T.connections, fd ≠ dc.iface.sd } [] lost := by
  have owns : Owns L.heap (entryBlocks es ++ (L.listBlock ++ lost)) := by
    refine holds.owns.perm ?_
    rw [← List.append_assoc]
    exact List.perm_append_comm.append_right lost
  obtain ⟨heap, closed, owns'⟩ := closeAll_eq holds.entries owns
  obtain ⟨heap', freed, owns''⟩ : ∃ heap', BlockHeap.free heap L.pADSConnectionList = some heap' ∧
      Owns heap' lost := by
    unfold HeapLibrary.listBlock at owns'
    split at owns'
    · next none => exact ⟨heap, if_pos (closes.resolve_left (not_not_intro none)), owns'⟩
    · exact ⟨_, owns'.free⟩
  unfold heapPortClose HeapLibrary.free
  simp only [holds.entries_eq, bind, Except.bind, closed, freed]
  refine ⟨_, rfl, rfl, fun some => absurd rfl some, .nil, owns'', ?_, holds.meAddr,
    holds.defaultPort⟩
  rw [holds.sockets]

/-- **A call on the heap** does to the table what `TableStep` says, unless it is not
served. -/
theorem heapCall_safely (holds : L.Holds T es lost) (call : HeapCall σ)
    (closes : closesOnce L (call.on L.heap)) :
    Safely (call.Served L) (fun after => ∃ T' es' lost', TableStep σ T (call.on L.heap) T' ∧
      after.1.Holds T' es' lost' ∧ lost'.length ≤ lost.length + (call.on L.heap).loses.toNat)
      (call.run L) := by
  have timeouts : ∀ port nMs, ∃ L' ret T', heapSetTimeout port nMs L = .ok (L', ret) ∧
      TableStep σ T (.setTimeoutEx port nMs) T' ∧ L'.Holds T' es lost := by
    intro port nMs
    obtain ⟨L', made, holds'⟩ := heapSetTimeout_eq holds port nMs
    by_cases invalid : port ≤ 0
    · rw [if_pos invalid] at holds'
      exact ⟨L', _, T, made, .noTimeout invalid, holds'⟩
    · rw [if_neg invalid] at holds'
      exact ⟨L', _, _, made, .timeout invalid, holds'⟩
  cases call with
  | request addr r a s =>
      have safely := @heapRequest_safely σ _ L T es lost addr a r s holds
      rw [HeapCall.run]
      rcases made : heapRequest addr r a s L with fault | ⟨L', reply⟩ <;> rw [made] at safely
      · exact safely
      · obtain ⟨T', es', lost', connection, request, rest⟩ := safely
        exact ⟨T', es', lost', .request request, rest⟩
  | setTimeoutEx port nMs =>
      obtain ⟨L', ret, T', made, step, holds'⟩ := timeouts port nMs
      rw [HeapCall.run, made]
      exact ⟨T', es, lost, step, holds', Nat.le_refl _⟩
  | setTimeout nMs =>
      obtain ⟨L', ret, T', made, step, holds'⟩ := timeouts L.defaultPort nMs
      rw [HeapCall.run, made]
      rw [holds.defaultPort] at step
      exact ⟨T', es, lost, .defaultTimeout step, holds', Nat.le_refl _⟩
  | getLocalAddressEx port ifaddrs =>
      rw [HeapCall.run, holds.meAddr]
      rcases adsGetLocalAddressEx_cases port ifaddrs T.meAddr with
        ⟨invalid, eq⟩ | ⟨valid, located, eq⟩ | ⟨unlocated, eq⟩ <;> rw [eq]
      · rw [← holds.meAddr]
        exact ⟨T, es, lost, .noLocalAddress invalid, holds, Nat.le_refl _⟩
      · exact ⟨_, es, lost, .localAddress valid located, ⟨holds.count, holds.list,
          holds.entries, holds.owns, holds.sockets, rfl, holds.defaultPort⟩, Nat.le_refl _⟩
      · exact ⟨⟨by simp, by simp⟩, fun addressed => unlocated (AllAddressed.located addressed)⟩
  | portOpen =>
      exact ⟨_, es, lost, .portOpen, ⟨holds.count, holds.list, holds.entries, holds.owns,
        holds.sockets, holds.meAddr, rfl⟩, Nat.le_refl _⟩
  | portClose =>
      obtain ⟨L', made, holds'⟩ := heapPortClose_eq holds (closes rfl)
      rw [HeapCall.run, made]
      exact ⟨_, [], lost, .portClose, holds', Nat.le_refl _⟩

/-- Runs keep the table in the heap. -/
theorem heapRun_holds {calls : List (ApiCall σ)} {lost : List Nat}
    (run : Run (Guarded closesOnce (heapStep σ)) L calls L') (holds : L.Holds T es lost) :
    ∃ T' es' lost', Run (TableStep σ) T calls T' ∧ L'.Holds T' es' lost' ∧
      lost'.length ≤ lost.length + calls.countP ApiCall.loses := by
  apply Run.history (I := fun calls L' => ∃ T' es' lost', Run (TableStep σ) T calls T' ∧
    L'.Holds T' es' lost' ∧ lost'.length ≤ lost.length + calls.countP ApiCall.loses) run
  · exact ⟨T, es, lost, .nil T, holds, Nat.le_refl _⟩
  · rintro calls L₁ call L₂ ⟨T₁, es₁, lost₁, run₁, holds₁, bound⟩ ⟨closes, made, ret, rfl, eq⟩
    have safely := heapCall_safely holds₁ made closes
    rw [eq] at safely
    obtain ⟨T₂, es₂, lost₂, step, holds₂, length⟩ := safely
    refine ⟨T₂, es₂, lost₂, run₁.snoc step, holds₂, ?_⟩
    rw [List.countP_append, List.countP_singleton]
    cases loses : (made.on L₁.heap).loses <;> simp [loses] at length ⊢ <;> omega

/-- **The blocks of the library.** In a run that closes no list twice, the calls do to
the table what `TableStep` says, and the blocks in use are those of the table (its
list, its connections and their interfaces) and some that are lost, no more than
attempts that got memory for an interface only. -/
theorem heap_accounted (calls : List (ApiCall σ)) (L : HeapLibrary)
    (run : Run (Guarded closesOnce (heapStep σ)) .initial calls L) :
    ∃ T es lost, Run (TableStep σ) .initial calls T ∧ L.Holds T es lost ∧
      lost.length ≤ calls.countP ApiCall.loses := by
  obtain ⟨T, es, lost, steps, holds, bound⟩ := heapRun_holds run HeapLibrary.initial_holds
  exact ⟨T, es, lost, steps, holds, by simpa using bound⟩

/-- The attempt of `grantedAttempt`, with blocks for its connection. -/
def plcAttempt : HeapAttempt := { grantedAttempt with interfaceAt := 256, connectionAt := 512 }

/-- The state of the PLC is read. -/
def heapPlcState : HeapCall Script := .request plcAddress .readState plcAttempt ⟨[], [], []⟩

/-- The same call as the empty table sees it. -/
def openPlcState : ApiCall Script := heapPlcState.on HeapLibrary.initial.heap

theorem openPlcState_counts :
    ∃ L, Run (Guarded closesOnce (heapStep Script)) .initial [openPlcState] L ∧
      L.nADSConnectionCnt ≠ 0 := by
  have served : heapPlcState.Served .initial :=
    ⟨⟨by decide, by decide, Or.inl (by decide), by decide, by decide⟩, by decide⟩
  have safely := heapCall_safely HeapLibrary.initial_holds heapPlcState nofun
  rcases made : heapPlcState.run .initial with fault | ⟨L, ret⟩ <;> rw [made] at safely
  · exact absurd served safely.2
  · obtain ⟨T, es, lost, step, holds, -⟩ := safely
    refine ⟨L, .single ⟨nofun, heapPlcState, ret, rfl, made⟩, ?_⟩
    rw [holds.count, holds.entries.length_eq]
    cases step with
    | request request =>
        cases request with
        | found finds => exact absurd nofun finds.not_misses
        | failed _ _ fails => exact absurd (by decide) fails
        | opened => simp

theorem heap_accounted_connected :
    ∃ L, Run (Guarded closesOnce (heapStep Script)) .initial [openPlcState] L ∧
      ∃ T es lost, Run (TableStep Script) .initial [openPlcState] T ∧ L.Holds T es lost ∧
        lost.length ≤ [openPlcState].countP ApiCall.loses := by
  obtain ⟨L, run, -⟩ := openPlcState_counts
  exact ⟨L, run, heap_accounted [openPlcState] L run⟩

/-- **Pointers.** After such a run every call that closes no list twice follows no
dangling pointer and frees no block twice; if the heap serves it, it returns. -/
theorem heap_safe (calls : List (ApiCall σ)) (L : HeapLibrary)
    (run : Run (Guarded closesOnce (heapStep σ)) .initial calls L) (call : HeapCall σ)
    (closes : closesOnce L (call.on L.heap)) :
    (∀ fault, call.run L = .error fault → fault ≠ .wildPointer ∧ fault ≠ .doubleFree) ∧
      (call.Served L → ∃ L' ret, call.run L = .ok (L', ret)) := by
  obtain ⟨T, es, lost, -, holds, -⟩ := heapRun_holds run HeapLibrary.initial_holds
  have safely := heapCall_safely holds call closes
  rcases made : call.run L with fault | ⟨L', ret⟩ <;> rw [made] at safely
  · refine ⟨fun fault' same => ?_, fun served => absurd served safely.2⟩
    cases same
    exact safely.1
  · exact ⟨nofun, fun _ => ⟨L', ret, rfl⟩⟩

theorem heap_safe_connected :
    ∃ L, Run (Guarded closesOnce (heapStep Script)) .initial [openPlcState] L ∧
      (∀ fault, (HeapCall.portClose : HeapCall Script).run L = .error fault →
        fault ≠ .wildPointer ∧ fault ≠ .doubleFree) ∧
      ((HeapCall.portClose : HeapCall Script).Served L →
        ∃ L' ret, (HeapCall.portClose : HeapCall Script).run L = .ok (L', ret)) := by
  obtain ⟨L, run, counts⟩ := openPlcState_counts
  exact ⟨L, run, heap_safe [openPlcState] L run .portClose fun _ => Or.inl counts⟩

/-- **After closing.** Where no attempt has lost an interface, closing the port leaves
no block in use. -/
theorem heap_released (calls : List (ApiCall σ)) (L L' : HeapLibrary)
    (run : Run (Guarded closesOnce (heapStep σ)) .initial calls L)
    (closed : Guarded closesOnce (heapStep σ) L .portClose L')
    (kept : ∀ call ∈ calls, call.loses = false) (p : Nat) : L'.heap p = none := by
  obtain ⟨T, es, lost, -, holds, bound⟩ := heapRun_holds run HeapLibrary.initial_holds
  have none : lost = [] := by
    have counted : calls.countP ApiCall.loses = 0 :=
      List.countP_eq_zero.mpr fun call inside => by simp [kept call inside]
    exact List.eq_nil_of_length_eq_zero (by simpa [counted] using bound)
  obtain ⟨closes, made, ret, close, eq⟩ := closed
  obtain ⟨L₁, freed, holds'⟩ := heapPortClose_eq holds (closes rfl)
  cases made <;> cases close
  rw [HeapCall.run, freed] at eq
  cases eq
  have owns := holds'.owns
  have uncounted : L'.nADSConnectionCnt = 0 := holds'.count
  rw [none, HeapLibrary.listBlock, if_pos uncounted] at owns
  exact owns.eq_none List.not_mem_nil

theorem heap_released_connected :
    ∃ L L', Run (Guarded closesOnce (heapStep Script)) .initial [openPlcState] L ∧
      Guarded closesOnce (heapStep Script) L .portClose L' ∧ L'.heap 512 = none := by
  obtain ⟨L, run, counts⟩ := openPlcState_counts
  obtain ⟨T, es, lost, -, holds, -⟩ := heapRun_holds run HeapLibrary.initial_holds
  obtain ⟨L', made, -⟩ := heapPortClose_eq holds (Or.inl counts)
  have closed : Guarded closesOnce (heapStep Script) L .portClose L' :=
    ⟨fun _ => Or.inl counts, .portClose, 0, rfl, made⟩
  exact ⟨L, L', run, closed, heap_released [openPlcState] L L' run closed (by decide) 512⟩

end Runs

end LibAds
