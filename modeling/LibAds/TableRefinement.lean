import LibAds.ConnectionTable
import LibAds.LabelledRuns

/-!
# What the table is for

Seen from outside, the library keeps a list of connections. A request is made on
the first one with the key of its address; when there is none a connection is
opened and put at the end. `Table` is the library without the heap, `TableStep`
what its calls do, and `apiStep_refines` says that the code, with its pointer,
its count and its blocks, does just that.
-/

namespace LibAds

open ByteMemory SocketModel LabelledRuns

/-! ## The abstract table -/

/-- The connections in their order, the open sockets, the cached local address
and the port of the simple functions. -/
structure Table where
  connections : List ADSConnection
  sockets : List Int
  meAddr : AmsAddr
  defaultPort : Int32

/-- The globals refer to a table: the count is its length, and unless it is
empty the pointer is not NULL and refers to a block that holds it. -/
structure Library.Holds (lib : Library) (T : Table) : Prop where
  count : lib.nADSConnectionCnt = T.connections.length
  notNull : T.connections ≠ [] → lib.pADSConnectionList ≠ 0
  block : T.connections ≠ [] → lib.blocks lib.pADSConnectionList = some T.connections
  sockets : lib.sockets = T.sockets
  meAddr : lib.meAddr = T.meAddr
  defaultPort : lib.defaultPort = T.defaultPort

/-- No connection has the key of an address. -/
def Table.Misses (T : Table) (addr : AmsAddr) : Prop := ∀ dc ∈ T.connections, dc.key ≠ addr.bytes

/-- The connection at an index is the first with the key of an address. -/
structure Table.Finds (T : Table) (addr : AmsAddr) (i : Nat) (dc : ADSConnection) : Prop where
  entry : T.connections[i]? = some dc
  key : dc.key = addr.bytes
  first : ∀ j dc', j < i → T.connections[j]? = some dc' → dc'.key ≠ addr.bytes

/-- Socket and option are granted. -/
def Attempt.Connects (a : Attempt) (T : Table) : Prop :=
  a.connectFails T.sockets = none ∧ a.setsockopt = none

/-- The attempt comes to no interface without an address. -/
def Attempt.Locatable (a : Attempt) (T : Table) : Prop :=
  a.Connects T → Located T.meAddr a.ifaddrs

/-- The attempt ends in a connection. -/
def Attempt.Succeeds (a : Attempt) (T : Table) : Prop :=
  a.Connects T ∧ (localAddress T.meAddr a.ifaddrs).1 = 0 ∧ a.newConnection = true

instance (a : Attempt) (T : Table) : Decidable (a.Connects T) :=
  inferInstanceAs (Decidable (_ ∧ _))

instance (a : Attempt) (T : Table) : Decidable (a.Locatable T) :=
  inferInstanceAs (Decidable (_ → _))

instance (a : Attempt) (T : Table) : Decidable (a.Succeeds T) :=
  inferInstanceAs (Decidable (_ ∧ _ ∧ _))

/-- How an attempt ends: in a connection, with a code, or at an interface without
an address. -/
theorem Attempt.ends (a : Attempt) (T : Table) :
    a.Succeeds T ∨ a.Locatable T ∧ ¬ a.Succeeds T ∨ ¬ a.Locatable T := by
  tauto

/-- The cached address after an attempt. -/
def Attempt.meAddr (a : Attempt) (T : Table) : AmsAddr :=
  if a.Connects T then (localAddress T.meAddr a.ifaddrs).2 else T.meAddr

/-- The sockets after an attempt: a descriptor that was created stays open,
whatever fails after that. -/
def Attempt.sockets (a : Attempt) (T : Table) : List Int :=
  if a.descriptor T.sockets = -1 then T.sockets else a.descriptor T.sockets :: T.sockets

/-- The connection that a successful attempt makes. -/
def Attempt.connection (a : Attempt) (addr : AmsAddr) (T : Table) : ADSConnection :=
  adsNewConnection a.heap
    (adsNewInterface (a.descriptor T.sockets) (a.meAddr T).netId addr.port.toNat "LinuxADS")
    addr.netId addr.port.toNat

/-- The code of an attempt that fails. -/
def Attempt.code (a : Attempt) (T : Table) : Int :=
  match a.connectFails T.sockets with
  | some errno => connectError errno
  | none =>
    match a.setsockopt with
    | some errno => connectError errno
    | none =>
      if (localAddress T.meAddr a.ifaddrs).1 ≠ 0 then (localAddress T.meAddr a.ifaddrs).1
      else a.adsError

section Requests

variable {σ : Type} [Socket σ]

/-- What a request does to the table, and its reply. -/
inductive Table.Request (T : Table) (addr : AmsAddr) (r : ApiRequest) (a : Attempt) (s : σ) :
    Table → RequestReply σ → Prop
  | found {i : Nat} {dc : ADSConnection} (finds : T.Finds addr i dc) :
    Request T addr r a s { T with connections := T.connections.set i (r.call.run dc s).dc }
      ⟨(r.call.run dc s).ret, (r.call.run dc s).outs, some i, (r.call.run dc s).sock⟩
  | failed (misses : T.Misses addr) (located : a.Locatable T) (fails : ¬ a.Succeeds T) :
    Request T addr r a s { T with sockets := a.sockets T, meAddr := a.meAddr T }
      ⟨a.code T, {}, none, s⟩
  | opened (misses : T.Misses addr) (succeeds : a.Succeeds T) :
    Request T addr r a s
      { T with
        connections := T.connections ++ [(r.call.run (a.connection addr T) s).dc]
        sockets := a.sockets T
        meAddr := a.meAddr T }
      ⟨(r.call.run (a.connection addr T) s).ret, (r.call.run (a.connection addr T) s).outs,
        some T.connections.length, (r.call.run (a.connection addr T) s).sock⟩

/-- What a call of the API does to the table. -/
inductive TableStep (σ : Type) [Socket σ] (T : Table) : ApiCall σ → Table → Prop
  | request {addr : AmsAddr} {r : ApiRequest} {a : Attempt} {s : σ} {T' : Table}
    {reply : RequestReply σ} (made : T.Request addr r a s T' reply) :
    TableStep σ T (.request addr r a s) T'
  | timeout {port nMs : Int32} (valid : ¬ port ≤ 0) :
    TableStep σ T (.setTimeoutEx port nMs)
      { T with connections := T.connections.map (.setTimeout nMs) }
  | noTimeout {port nMs : Int32} (invalid : port ≤ 0) : TableStep σ T (.setTimeoutEx port nMs) T
  | defaultTimeout {nMs : Int32} {T' : Table}
    (step : TableStep σ T (.setTimeoutEx T.defaultPort nMs) T') :
    TableStep σ T (.setTimeout nMs) T'
  | localAddress {port : Int32} {ifaddrs : Option (List IfAddrs)} (valid : ¬ port ≤ 0)
    (located : Located T.meAddr ifaddrs) :
    TableStep σ T (.getLocalAddressEx port ifaddrs)
      { T with meAddr := (LibAds.localAddress T.meAddr ifaddrs).2 }
  | noLocalAddress {port : Int32} {ifaddrs : Option (List IfAddrs)} (invalid : port ≤ 0) :
    TableStep σ T (.getLocalAddressEx port ifaddrs) T
  | portOpen : TableStep σ T .portOpen { T with defaultPort := 1 }
  | portClose : TableStep σ T .portClose
    { T with
      connections := []
      sockets := T.sockets.filter fun fd => ∀ dc ∈ T.connections, fd ≠ dc.iface.sd }

end Requests

/-! ## Looking up a connection -/

section Lookup

variable {lib : Library} {T : Table} {addr : AmsAddr} {a : Attempt}

theorem Library.Holds.connections (holds : lib.Holds T) : lib.connections = .ok T.connections := by
  unfold Library.connections
  by_cases empty : T.connections = []
  · rw [if_pos (by rw [holds.count, empty]; rfl), empty]
  · have positive := List.length_pos_iff.mpr empty
    rw [if_neg (by rw [holds.count]; omega), holds.block empty]
    simp only [holds.count, Nat.le_refl, if_true, List.take_length]

theorem Table.Finds.findIdx {i : Nat} {dc : ADSConnection} (finds : T.Finds addr i dc) :
    T.connections.findIdx? (fun dc => dc.key = addr.bytes) = some i := by
  obtain ⟨bound, rfl⟩ := List.getElem?_eq_some_iff.mp finds.entry
  refine List.findIdx?_eq_some_iff_getElem.mpr ⟨bound, by simpa using finds.key, ?_⟩
  intro j before
  simpa using finds.first j _ before (List.getElem?_eq_getElem (by omega))

theorem Table.Misses.findIdx (misses : T.Misses addr) :
    T.connections.findIdx? (fun dc => dc.key = addr.bytes) = none :=
  List.findIdx?_eq_none_iff.mpr fun dc inside => by simpa using misses dc inside

/-- A table has a first connection for an address or none. -/
theorem Table.lookup (T : Table) (addr : AmsAddr) :
    (∃ i dc, T.Finds addr i dc) ∨ T.Misses addr := by
  rcases found : T.connections.findIdx? (fun dc => dc.key = addr.bytes) with _ | i
  · apply Or.inr
    intro dc inside
    simpa using List.findIdx?_eq_none_iff.mp found dc inside
  · obtain ⟨bound, key, first⟩ := List.findIdx?_eq_some_iff_getElem.mp found
    refine Or.inl ⟨i, T.connections[i], List.getElem?_eq_getElem bound, by simpa using key, ?_⟩
    intro j dc' before entry
    obtain ⟨inside, rfl⟩ := List.getElem?_eq_some_iff.mp entry
    simpa using first j before

theorem Table.Finds.not_misses {i : Nat} {dc : ADSConnection} (finds : T.Finds addr i dc) :
    ¬ T.Misses addr := by
  intro misses
  obtain ⟨bound, rfl⟩ := List.getElem?_eq_some_iff.mp finds.entry
  exact misses _ (List.getElem_mem bound) finds.key

/-- The globals after an attempt. -/
def Library.attempted (lib : Library) (a : Attempt) (T : Table) : Library :=
  { lib with sockets := a.sockets T, meAddr := a.meAddr T }

theorem Library.Holds.openSocket (holds : lib.Holds T) :
    lib.openSocket (a.descriptor T.sockets) = { lib with sockets := a.sockets T } := by
  unfold Library.openSocket Attempt.sockets
  split
  · rw [← holds.sockets]
  · rw [holds.sockets]

/-- A socket that is not connected, or whose option is refused. -/
theorem adsSocketConnect_refused (holds : lib.Holds T) (refused : ¬ a.Connects T) :
    adsSocketConnect addr a lib = .ok (lib.attempted a T, .error (a.code T)) := by
  have cached : a.meAddr T = lib.meAddr := (if_neg refused).trans holds.meAddr.symm
  unfold adsSocketConnect Library.attempted Attempt.code
  dsimp only
  rw [cached, holds.sockets, holds.openSocket]
  rcases connects : a.connectFails T.sockets with _ | errno
  · rcases option : a.setsockopt with _ | errno
    · exact absurd ⟨connects, option⟩ refused
    · rfl
  · rfl

/-- A connected socket: the rest is `AdsGetMeAddress()` and the heap. -/
theorem adsSocketConnect_connected (holds : lib.Holds T) (connects : a.Connects T)
    (located : Located T.meAddr a.ifaddrs) :
    adsSocketConnect addr a lib =
      if a.Succeeds T then
        if a.newInterface = false then .error .nullInterface
        else .ok (lib.attempted a T, .ok (a.connection addr T))
      else .ok (lib.attempted a T, .error (a.code T)) := by
  have cached : a.meAddr T = (localAddress T.meAddr a.ifaddrs).2 := if_pos connects
  have succeeds : a.Succeeds T ↔ (localAddress T.meAddr a.ifaddrs).1 = 0 ∧
    a.newConnection = true := and_iff_right connects
  rcases connects with ⟨connected, option⟩
  unfold adsSocketConnect Library.attempted Attempt.code Attempt.connection
  dsimp only
  rw [cached, holds.sockets, holds.openSocket]
  simp only [connected, option, holds.meAddr, located.eq, succeeds, bind, Except.bind]
  generalize localAddress T.meAddr a.ifaddrs = local'
  by_cases zero : local'.1 = 0
  · cases a.newConnection <;> simp [zero]
  · simp [zero]

/-- A connected socket, and an interface without an address. -/
theorem adsSocketConnect_unlocated (holds : lib.Holds T) (unlocated : ¬ a.Locatable T) :
    adsSocketConnect addr a lib = .error .nullAddress := by
  obtain ⟨⟨connected, option⟩, null⟩ := Classical.not_imp.mp unlocated
  unfold adsSocketConnect
  dsimp only
  rw [holds.sockets, holds.openSocket]
  simp only [connected, option, holds.meAddr, adsGetMeAddress_unlocated null, bind, Except.bind]

theorem Attempt.Succeeds.located (succeeds : a.Succeeds T) : Located T.meAddr a.ifaddrs :=
  located_of_zero succeeds.2.1

theorem Library.Holds.attempted (holds : lib.Holds T) :
    (lib.attempted a T).Holds { T with sockets := a.sockets T, meAddr := a.meAddr T } :=
  ⟨holds.count, holds.notNull, holds.block, rfl, rfl, holds.defaultPort⟩

/-- The list is allocated for the first connection and grows for every other. -/
theorem Library.Holds.append (holds : lib.Holds T) (fits : a.listFits lib)
    (dc : ADSConnection) :
    ∃ lib', lib.append a T.connections dc = .ok lib' ∧ lib'.pADSConnectionList = a.list ∧
      lib'.Holds { T with connections := T.connections ++ [dc] } := by
  refine ⟨_, if_pos fits, rfl, ?_⟩
  refine ⟨?_, fun _ => fits.1, fun _ => Function.update_self .., holds.sockets, holds.meAddr,
    holds.defaultPort⟩
  rw [List.length_append, List.length_singleton, ← holds.count]

theorem Library.Holds.setConnections (holds : lib.Holds T) {dcs : List ADSConnection}
    (length : dcs.length = T.connections.length) :
    (lib.setConnections dcs).Holds { T with connections := dcs } := by
  refine ⟨holds.count.trans length.symm, fun some => holds.notNull ?_,
    fun _ => Function.update_self .., holds.sockets, holds.meAddr, holds.defaultPort⟩
  exact List.ne_nil_of_length_pos (length ▸ List.length_pos_iff.mpr some)

/-! ## Finding or opening a connection -/

theorem adsSocketGet_found (holds : lib.Holds T) {i : Nat} {dc : ADSConnection}
    (finds : T.Finds addr i dc) : adsSocketGet addr a lib = .ok (lib, .ok i) := by
  unfold adsSocketGet
  rw [holds.connections]
  simp only [bind, Except.bind, finds.findIdx]

theorem adsSocketConnect_failed (holds : lib.Holds T) (located : a.Locatable T)
    (fails : ¬ a.Succeeds T) :
    adsSocketConnect addr a lib = .ok (lib.attempted a T, .error (a.code T)) := by
  by_cases connects : a.Connects T
  · rw [adsSocketConnect_connected holds connects (located connects), if_neg fails]
  · exact adsSocketConnect_refused holds connects

theorem adsSocketGet_failed (holds : lib.Holds T) (misses : T.Misses addr)
    (located : a.Locatable T) (fails : ¬ a.Succeeds T) :
    adsSocketGet addr a lib = .ok (lib.attempted a T, .error (a.code T)) := by
  unfold adsSocketGet
  rw [holds.connections]
  simp only [bind, Except.bind, misses.findIdx, adsSocketConnect_failed holds located fails]

theorem adsSocketGet_unlocated (holds : lib.Holds T) (misses : T.Misses addr)
    (unlocated : ¬ a.Locatable T) : adsSocketGet addr a lib = .error .nullAddress := by
  unfold adsSocketGet
  rw [holds.connections]
  simp only [bind, Except.bind, misses.findIdx, adsSocketConnect_unlocated holds unlocated]

/-- Where a connection is opened the heap decides what happens. -/
theorem adsSocketGet_opened (holds : lib.Holds T) (misses : T.Misses addr)
    (succeeds : a.Succeeds T) :
    adsSocketGet addr a lib =
      if a.newInterface = false then .error .nullInterface
      else ((lib.attempted a T).append a T.connections (a.connection addr T)).map
        fun lib => (lib, .ok T.connections.length) := by
  unfold adsSocketGet
  rw [holds.connections]
  simp only [bind, Except.bind, misses.findIdx,
    adsSocketConnect_connected holds succeeds.1 succeeds.located, if_pos succeeds]
  by_cases null : a.newInterface = false
  · simp only [if_pos null]
  · simp only [if_neg null]
    have count : (lib.attempted a T).nADSConnectionCnt = T.connections.length := holds.count
    rw [count]
    cases (lib.attempted a T).append a T.connections (a.connection addr T) <;> rfl

end Lookup

/-! ## Requests -/

section Requests

variable {σ : Type} [Socket σ] {lib lib' : Library} {T : Table} {addr : AmsAddr} {a : Attempt}
  {r : ApiRequest} {s : σ} {reply : RequestReply σ}

theorem Library.Holds.request (holds : lib.Holds T) {i : Nat} {dc : ADSConnection}
    (entry : T.connections[i]? = some dc) (c : Call) (s : σ) :
    lib.request i c s = (c.exec dc s).map fun r =>
      (lib.setConnections (T.connections.set i r.dc), ⟨r.ret, r.outs, some i, r.sock⟩) := by
  unfold Library.request
  rw [holds.connections]
  simp only [bind, Except.bind, entry]
  cases c.exec dc s <;> rfl

/-- The connection that was just opened is the last one. -/
theorem Library.Holds.request_last (holds : lib.Holds T) {dcs : List ADSConnection}
    {dc : ADSConnection} (opened : T.connections = dcs ++ [dc]) (c : Call) (s : σ) :
    lib.request dcs.length c s = (c.exec dc s).map fun r =>
      (lib.setConnections (dcs ++ [r.dc]), ⟨r.ret, r.outs, some dcs.length, r.sock⟩) := by
  have entry : T.connections[dcs.length]? = some dc := by
    rw [opened]
    exact List.getElem?_concat_length
  have last : ∀ dc', (dcs ++ [dc]).set dcs.length dc' = dcs ++ [dc'] := by
    intro dc'
    rw [List.set_append_right _ _ (Nat.le_refl _), Nat.sub_self, List.set_cons_zero]
  simp only [holds.request entry, opened, last]

/-- A request on a table, by the way it finds its connection. -/
theorem adsRequest_found (holds : lib.Holds T) {i : Nat} {dc : ADSConnection}
    (finds : T.Finds addr i dc) : adsRequest addr r a s lib = lib.request i r.call s := by
  unfold adsRequest
  rw [adsSocketGet_found holds finds]
  rfl

theorem adsRequest_failed (holds : lib.Holds T) (misses : T.Misses addr)
    (located : a.Locatable T) (fails : ¬ a.Succeeds T) :
    adsRequest addr r a s lib = .ok (lib.attempted a T, ⟨a.code T, {}, none, s⟩) := by
  unfold adsRequest
  rw [adsSocketGet_failed holds misses located fails]
  rfl

theorem adsRequest_unlocated (holds : lib.Holds T) (misses : T.Misses addr)
    (unlocated : ¬ a.Locatable T) : adsRequest addr r a s lib = .error .nullAddress := by
  unfold adsRequest
  rw [adsSocketGet_unlocated holds misses unlocated]
  rfl

theorem adsRequest_opened (holds : lib.Holds T) (misses : T.Misses addr)
    (succeeds : a.Succeeds T) (interface : a.newInterface = true) (fits : a.listFits lib) :
    ∃ lib₁ : Library,
      lib₁.Holds
        { T with
          connections := T.connections ++ [a.connection addr T]
          sockets := a.sockets T
          meAddr := a.meAddr T } ∧
      lib₁.pADSConnectionList = a.list ∧
      adsRequest addr r a s lib = lib₁.request T.connections.length r.call s := by
  obtain ⟨lib₁, appended, list, holds₁⟩ :=
    (holds.attempted (a := a)).append fits (a.connection addr T)
  refine ⟨lib₁, holds₁, list, ?_⟩
  unfold adsRequest
  rw [adsSocketGet_opened holds misses succeeds, interface, appended]
  rfl

/-- An allocation that fails where a connection is opened ends the call. -/
theorem adsRequest_unallocated (holds : lib.Holds T) (misses : T.Misses addr)
    (succeeds : a.Succeeds T) (fails : ¬ (a.newInterface = true ∧ a.listFits lib)) :
    ∃ fault, (fault = .nullInterface ∨ fault = .nullList) ∧
      adsRequest addr r a s lib = .error fault := by
  unfold adsRequest
  rw [adsSocketGet_opened holds misses succeeds]
  by_cases null : a.newInterface = false
  · exact ⟨.nullInterface, Or.inl rfl, by rw [if_pos null]; rfl⟩
  · have unfit : ¬ a.listFits (lib.attempted a T) :=
      fun fits => fails ⟨by simpa using null, fits⟩
    exact ⟨.nullList, Or.inr rfl, by rw [if_neg null, Library.append, if_neg unfit]; rfl⟩

/-- **A request refines the abstract one.** The list only moves to a block that
holds connections, and only then the heap changes. -/
theorem adsRequest_refines (holds : lib.Holds T)
    (made : adsRequest addr r a s lib = .ok (lib', reply)) :
    ∃ T', T.Request addr r a s T' reply ∧ lib'.Holds T' ∧
      ((lib'.pADSConnectionList = lib.pADSConnectionList ∧ lib'.blocks = lib.blocks) ∨
        T'.connections ≠ []) := by
  rcases T.lookup addr with ⟨i, dc, finds⟩ | misses
  · rw [adsRequest_found holds finds, holds.request finds.entry] at made
    rcases ran : r.call.exec dc s with fault | result <;> rw [ran] at made <;> cases made
    obtain ⟨-, rfl⟩ := Call.exec_eq_ok.mp ran
    refine ⟨_, .found finds, holds.setConnections (List.length_set ..), Or.inr ?_⟩
    exact List.ne_nil_of_mem (List.mem_of_getElem? (List.getElem?_set_self
      (List.getElem?_eq_some_iff.mp finds.entry).1))
  rcases a.ends T with succeeds | ⟨located, fails⟩ | unlocated
  · by_cases allocated : a.newInterface = true ∧ a.listFits lib
    · obtain ⟨lib₁, holds₁, -, request⟩ :=
        adsRequest_opened (r := r) (s := s) holds misses succeeds allocated.1 allocated.2
      rw [request, holds₁.request_last rfl] at made
      rcases ran : r.call.exec (a.connection addr T) s with fault | result <;>
        rw [ran] at made <;> cases made
      obtain ⟨-, rfl⟩ := Call.exec_eq_ok.mp ran
      exact ⟨_, .opened misses succeeds, holds₁.setConnections (by simp), Or.inr (by simp)⟩
    · obtain ⟨fault, -, failed⟩ :=
        adsRequest_unallocated (r := r) (s := s) holds misses succeeds allocated
      rw [failed] at made
      cases made
  · rw [adsRequest_failed holds misses located fails] at made
    cases made
    exact ⟨_, .failed misses located fails, holds.attempted, Or.inl ⟨rfl, rfl⟩⟩
  · rw [adsRequest_unlocated holds misses unlocated] at made
    cases made

/-- Requests with room for their data return where the local address can be asked
for and the heap serves them. -/
theorem adsRequest_returns (holds : lib.Holds T) (located : T.Misses addr → a.Locatable T)
    (allocated : T.Misses addr → a.Succeeds T → a.newInterface = true ∧ a.listFits lib)
    (inside : r.call.InConnection) :
    ∃ lib' reply, adsRequest addr r a s lib = .ok (lib', reply) := by
  have ran : ∀ dc, r.call.exec dc s = .ok (r.call.run dc s) :=
    fun _ => Call.exec_eq_ok.mpr ⟨inside, rfl⟩
  rcases T.lookup addr with ⟨i, dc, finds⟩ | misses
  · rw [adsRequest_found holds finds, holds.request finds.entry, ran]
    exact ⟨_, _, rfl⟩
  · by_cases succeeds : a.Succeeds T
    · have served := allocated misses succeeds
      obtain ⟨lib₁, holds₁, -, request⟩ :=
        adsRequest_opened (r := r) (s := s) holds misses succeeds served.1 served.2
      rw [request, holds₁.request_last rfl, ran]
      exact ⟨_, _, rfl⟩
    · rw [adsRequest_failed holds misses (located misses) succeeds]
      exact ⟨_, _, rfl⟩

omit [Socket σ] in
/-- What is the same of a connection before and after is the same of the table. -/
theorem Table.Finds.map_set {β : Type} {f : ADSConnection → β} {i : Nat} {dc dc' : ADSConnection}
    (finds : T.Finds addr i dc) (kept : f dc' = f dc) :
    (T.connections.set i dc').map f = T.connections.map f := by
  obtain ⟨bound, rfl⟩ := List.getElem?_eq_some_iff.mp finds.entry
  rw [List.map_set, kept]
  exact (congrArg _ (List.getElem_map _).symm).trans (List.set_getElem_self (by simpa using bound))

/-! ## All calls -/

omit [Socket σ] in
/-- Closing the connections of a table closes their descriptors. -/
theorem foldl_disconnect (dcs : List ADSConnection) (lib : Library) :
    dcs.foldl adsSocketDisconnect lib =
      { lib with sockets := lib.sockets.filter fun fd => ∀ dc ∈ dcs, fd ≠ dc.iface.sd } := by
  induction dcs generalizing lib with
  | nil => simp
  | cons dc dcs ih =>
      rw [List.foldl_cons, ih]
      simp only [adsSocketDisconnect, List.filter_filter, List.forall_mem_cons]
      congr 1
      apply List.filter_congr
      intro fd _
      rw [Bool.eq_iff_iff]
      simp [and_comm]

/-- `AdsPortClose()` on a table: it stops at a list that is freed already. -/
theorem adsPortClose_eq (holds : lib.Holds T) :
    adsPortClose lib =
      if lib.pADSConnectionList ≠ 0 ∧ (lib.blocks lib.pADSConnectionList).isNone then
        .error .doubleFree
      else
        .ok { lib with
          nADSConnectionCnt := 0
          sockets := T.sockets.filter fun fd => ∀ dc ∈ T.connections, fd ≠ dc.iface.sd
          blocks := if lib.pADSConnectionList = 0 then lib.blocks
            else Function.update lib.blocks lib.pADSConnectionList none } := by
  unfold adsPortClose
  rw [holds.connections]
  simp only [bind, Except.bind, foldl_disconnect, holds.sockets]
  by_cases null : lib.pADSConnectionList = 0
  · simp [null]
  · by_cases freed : (lib.blocks lib.pADSConnectionList).isNone <;> simp [null, freed]

theorem adsSetTimeout_eq (holds : lib.Holds T) (port nMs : Int32) :
    ∃ lib', adsSetTimeout port nMs lib = .ok (lib', if port ≤ 0 then 0x18 else 0) ∧
      lib'.pADSConnectionList = lib.pADSConnectionList ∧
      lib'.Holds (if port ≤ 0 then T
        else { T with connections := T.connections.map (.setTimeout nMs) }) := by
  unfold adsSetTimeout
  by_cases invalid : port ≤ 0
  · simp only [if_pos invalid]
    exact ⟨lib, rfl, rfl, holds⟩
  · simp only [if_neg invalid]
    by_cases empty : lib.nADSConnectionCnt = 0
    · rw [if_pos empty]
      have none : T.connections = [] := List.eq_nil_of_length_eq_zero (holds.count.symm.trans empty)
      refine ⟨lib, rfl, rfl, ?_⟩
      rw [none, List.map_nil, ← none]
      exact holds
    · rw [if_neg empty, holds.connections]
      exact ⟨_, rfl, rfl, holds.setConnections (List.length_map ..)⟩

theorem adsRequest_step (made : adsRequest addr r a s lib = .ok (lib', reply)) :
    apiStep σ lib (.request addr r a s) lib' :=
  ⟨reply.ret, by simp only [ApiCall.run, made, Except.map]⟩

/-- **The library refines its table.** Every call of the API takes the globals
from one table to another as `TableStep` says, and the pointer only moves to a
block that holds connections. -/
theorem apiStep_refines {call : ApiCall σ} (holds : lib.Holds T)
    (step : apiStep σ lib call lib') :
    ∃ T', TableStep σ T call T' ∧ lib'.Holds T' ∧
      (lib'.pADSConnectionList = lib.pADSConnectionList ∨ T'.connections ≠ []) := by
  obtain ⟨ret, run⟩ := step
  have timeouts : ∀ port nMs, adsSetTimeout port nMs lib = .ok (lib', ret) →
      ∃ T', TableStep σ T (.setTimeoutEx port nMs) T' ∧ lib'.Holds T' ∧
        (lib'.pADSConnectionList = lib.pADSConnectionList ∨ T'.connections ≠ []) := by
    intro port nMs set
    obtain ⟨lib₁, eq, pointer, holds₁⟩ := adsSetTimeout_eq holds port nMs
    rw [eq] at set
    cases set
    by_cases invalid : port ≤ 0
    · rw [if_pos invalid] at holds₁
      exact ⟨_, .noTimeout invalid, holds₁, Or.inl pointer⟩
    · rw [if_neg invalid] at holds₁
      exact ⟨_, .timeout invalid, holds₁, Or.inl pointer⟩
  cases call with
  | request addr r a s =>
      rcases made : adsRequest addr r a s lib with fault | ⟨lib₁, reply⟩ <;>
        simp only [ApiCall.run, made, Except.map] at run
      · cases run
      · cases run
        obtain ⟨T', request, holds', list⟩ := adsRequest_refines holds made
        exact ⟨T', .request request, holds', list.imp_left And.left⟩
  | setTimeoutEx port nMs => exact timeouts port nMs run
  | setTimeout nMs =>
      obtain ⟨T', step, rest⟩ := timeouts lib.defaultPort nMs run
      rw [holds.defaultPort] at step
      exact ⟨T', .defaultTimeout step, rest⟩
  | getLocalAddressEx port ifaddrs =>
      simp only [ApiCall.run, holds.meAddr] at run
      rcases adsGetLocalAddressEx_cases port ifaddrs T.meAddr with
        ⟨invalid, eq⟩ | ⟨valid, located, eq⟩ | ⟨-, eq⟩ <;> rw [eq] at run
      · rw [← holds.meAddr] at run
        cases run
        exact ⟨_, .noLocalAddress invalid, holds, Or.inl rfl⟩
      · cases run
        exact ⟨_, .localAddress valid located, ⟨holds.count, holds.notNull, holds.block,
          holds.sockets, rfl, holds.defaultPort⟩, Or.inl rfl⟩
      · cases run
  | portOpen =>
      cases run
      exact ⟨_, .portOpen, ⟨holds.count, holds.notNull, holds.block, holds.sockets, holds.meAddr,
        rfl⟩, Or.inl rfl⟩
  | portClose =>
      simp only [ApiCall.run, adsPortClose_eq holds] at run
      split at run
      · cases run
      · cases run
        exact ⟨_, .portClose, ⟨rfl, fun some => absurd rfl some, fun some => absurd rfl some, rfl,
          holds.meAddr, holds.defaultPort⟩, Or.inl rfl⟩

/-- **The invariant rule of the table.** In a run of calls of the API the globals
go on referring to a table, and what the steps of the table keep, holds. -/
theorem table_invariant {step : Library → ApiCall σ → Library → Prop}
    {I : Library → Table → Prop} {calls : List (ApiCall σ)} (run : Run step lib calls lib')
    (api : ∀ lib call lib', step lib call lib' → apiStep σ lib call lib') (holds : lib.Holds T)
    (start : I lib T)
    (keeps : ∀ lib call lib' T T', lib.Holds T → I lib T → step lib call lib' →
      TableStep σ T call T' →
      (lib'.pADSConnectionList = lib.pADSConnectionList ∨ T'.connections ≠ []) → I lib' T') :
    ∃ T', lib'.Holds T' ∧ I lib' T' := by
  apply Run.invariant (I := fun lib => ∃ T, lib.Holds T ∧ I lib T) run ⟨T, holds, start⟩
  rintro lib call lib' ⟨T, holds, before⟩ taken
  obtain ⟨T', made, holds', list⟩ := apiStep_refines holds (api _ _ _ taken)
  exact ⟨T', holds', keeps _ _ _ _ _ holds before taken made list⟩

/-- Every state that calls of the API reach refers to a table. -/
theorem apiRun_holds {calls : List (ApiCall σ)} (run : Run (apiStep σ) lib calls lib')
    (holds : lib.Holds T) : ∃ T', lib'.Holds T' := by
  obtain ⟨T', holds', -⟩ :=
    table_invariant (I := fun _ _ => True) run (fun _ _ _ => id) holds trivial
      fun _ _ _ _ _ _ _ _ _ _ => trivial
  exact ⟨T', holds'⟩

/-- The program starts with an empty table. -/
def Table.initial : Table := ⟨[], [], Library.initial.meAddr, 0⟩

omit [Socket σ] in
theorem Library.initial_holds : Library.initial.Holds Table.initial :=
  ⟨rfl, fun some => absurd rfl some, fun some => absurd rfl some, rfl, rfl, rfl⟩

end Requests

end LibAds
