import LibAds.RequestStream
import LibAds.TableResources
import Mathlib.Data.List.Nodup

/-!
# One connection for each address

The table is for a list of addresses without duplicates (`Table.For`). A request
extends that list at its end when its address is not there and a connection is
opened, only `AdsPortClose()` empties it, and an address in it has its index for
good: the connection of a request is found again by every later one.
-/

namespace LibAds

open ByteMemory SocketModel LabelledRuns

/-! ## Keys -/

section Keys

variable {dc : ADSConnection} {addr addr' : AmsAddr}

/-- The address a connection is for, as it stands in its fields. -/
def ADSConnection.address (dc : ADSConnection) : AmsNetId × UInt32 := (dc.partner, dc.AMSport)

/-- The same of an `AmsAddr`, whose port is half as wide. -/
def AmsAddr.address (addr : AmsAddr) : AmsNetId × UInt32 := (addr.netId, addr.port.toUInt32)

theorem AmsAddr.address_inj : addr.address = addr'.address ↔ addr = addr' := by
  rcases addr with ⟨netId, port⟩
  rcases addr' with ⟨netId', port'⟩
  simp only [AmsAddr.address, Prod.mk.injEq, AmsAddr.mk.injEq]
  refine and_congr_right fun _ => ⟨fun equal => ?_, congrArg UInt16.toUInt32⟩
  have values := congrArg UInt32.toNat equal
  rw [UInt16.toNat_toUInt32, UInt16.toNat_toUInt32] at values
  exact UInt16.toNat_inj.mp values

theorem AmsAddr.bytes_inj : addr.bytes = addr'.bytes ↔ addr = addr' := by
  refine ⟨fun equal => ?_, congrArg AmsAddr.bytes⟩
  rcases addr with ⟨⟨b, size⟩, port⟩
  rcases addr' with ⟨⟨b', size'⟩, port'⟩
  obtain ⟨netIds, ports⟩ := List.append_inj equal (size.trans size'.symm)
  have values := congrArg ofLE ports
  have small := port.toNat_lt
  have small' := port'.toNat_lt
  rw [ofLE_toLE_of_lt (by omega), ofLE_toLE_of_lt (by omega)] at values
  cases netIds
  cases UInt16.toNat_inj.mp values
  rfl

/-- The four bytes of the port begin with the two of an `AmsAddr`. -/
theorem ADSConnection.key_of_address (isFor : dc.address = addr.address) :
    dc.key = addr.bytes := by
  obtain ⟨partner, port⟩ := Prod.mk.inj isFor
  have netId : load dc.mem partnerOffset 6 = addr.netId.b := congrArg AmsNetId.b partner
  have whole : load dc.mem portOffset (2 + 2) =
      toLE 2 addr.port.toNat ++ toLE 2 (addr.port.toNat / 256 / 256) := by
    have spelled := toLE_ofLE (load dc.mem portOffset 4)
    rw [length_load, ← toNat_get32] at spelled
    have value : (get32 dc.mem portOffset).toNat = addr.port.toNat := by
      rw [← UInt16.toNat_toUInt32, ← port]
      rfl
    rw [← spelled, value]
    rfl
  obtain ⟨low, -⟩ := load_append_inj whole (length_toLE ..)
  show load dc.mem partnerOffset (6 + 2) = _
  rw [load_add, netId]
  exact congrArg (addr.netId.b ++ ·) low

/-- **The comparison.** For a connection that is for some address, `memcmp()`
over the eight bytes from `partner` on decides whether it is for a given one. -/
theorem ADSConnection.key_iff (isFor : dc.address = addr'.address) :
    dc.key = addr.bytes ↔ dc.address = addr.address := by
  rw [ADSConnection.key_of_address isFor, isFor, AmsAddr.bytes_inj, AmsAddr.address_inj]

/-- A new connection is for the address it was opened for. -/
theorem Attempt.connection_address (a : Attempt) (addr : AmsAddr) (T : Table) :
    (a.connection addr T).address = addr.address := by
  have netId := addr.netId.size
  have small := addr.port.toNat_lt
  have port : UInt32.ofInt addr.port.toNat = addr.port.toUInt32 := by
    apply UInt32.toNat_inj.mp
    rw [toNat_ofInt_natCast (by omega), UInt16.toNat_toUInt32]
  simp only [Attempt.connection, adsNewConnection, ADSConnection.address, ADSConnection.partner,
    ADSConnection.AMSport, AmsNetId.read, AmsAddr.address, get32_put32_same, port]
  congr 2
  rw [load_put32_disjoint (by unfold portOffset; omega), load_store_of_length netId]

end Keys

/-! ## A table for a list of addresses -/

section Addresses

variable {σ : Type} [Socket σ] {lib lib' : Library} {T T' : Table} {addrs : List AmsAddr}
  {addr : AmsAddr} {a : Attempt}

/-- The connections of a table are for the addresses of a list, one each. -/
structure Table.For (T : Table) (addrs : List AmsAddr) : Prop where
  distinct : addrs.Nodup
  entries : T.connections.map (·.address) = addrs.map (·.address)

theorem Table.initial_for : Table.initial.For [] := ⟨List.nodup_nil, rfl⟩

theorem Table.For.nodup (isFor : T.For addrs) : (T.connections.map (·.address)).Nodup := by
  rw [isFor.entries]
  exact List.Nodup.map (fun _ _ same => AmsAddr.address_inj.mp same) isFor.distinct

/-- Every connection is for some address of the list. -/
theorem Table.For.addressed (isFor : T.For addrs) {dc : ADSConnection}
    (inside : dc ∈ T.connections) : ∃ addr ∈ addrs, dc.address = addr.address := by
  have mapped := List.mem_map_of_mem (f := (·.address)) inside
  rw [isFor.entries] at mapped
  obtain ⟨addr, listed, equal⟩ := List.mem_map.mp mapped
  exact ⟨addr, listed, equal.symm⟩

theorem Table.For.key_iff (isFor : T.For addrs) {dc : ADSConnection}
    (inside : dc ∈ T.connections) (addr : AmsAddr) :
    dc.key = addr.bytes ↔ dc.address = addr.address := by
  obtain ⟨own, -, equal⟩ := isFor.addressed inside
  exact ADSConnection.key_iff equal

/-- The index of an address in the table is its index in the list. -/
theorem Table.For.finds_iff (isFor : T.For addrs) {i : Nat} {dc : ADSConnection} :
    T.Finds addr i dc ↔ T.connections[i]? = some dc ∧ dc.address = addr.address := by
  constructor
  · intro finds
    exact ⟨finds.entry, (isFor.key_iff (List.mem_of_getElem? finds.entry) addr).mp finds.key⟩
  · rintro ⟨entry, equal⟩
    refine ⟨entry, ADSConnection.key_of_address equal, fun j dc' before entry' key => ?_⟩
    -- An earlier connection with this key would be for the same address.
    have equal' := (isFor.key_iff (List.mem_of_getElem? entry') addr).mp key
    have first : (T.connections.map (·.address))[j]? = some addr.address := by
      rw [List.getElem?_map, entry', ← equal']
      rfl
    have second : (T.connections.map (·.address))[i]? = some addr.address := by
      rw [List.getElem?_map, entry, ← equal]
      rfl
    obtain ⟨bound, -⟩ := List.getElem?_eq_some_iff.mp first
    exact absurd ((List.getElem?_inj bound isFor.nodup).mp (first.trans second.symm))
      (Nat.ne_of_lt before)

theorem Table.For.misses_iff (isFor : T.For addrs) :
    T.Misses addr ↔ ∀ dc ∈ T.connections, dc.address ≠ addr.address :=
  forall₂_congr fun _ inside => not_congr (isFor.key_iff inside addr)

theorem Table.For.misses_iff_not_mem (isFor : T.For addrs) : T.Misses addr ↔ addr ∉ addrs := by
  rw [isFor.misses_iff]
  constructor
  · intro misses listed
    have mapped := List.mem_map_of_mem (f := (·.address)) listed
    rw [← isFor.entries] at mapped
    obtain ⟨dc, inside, equal⟩ := List.mem_map.mp mapped
    exact misses dc inside equal
  · intro new dc inside equal
    obtain ⟨own, listed, same⟩ := isFor.addressed inside
    exact new (AmsAddr.address_inj.mp (same.symm.trans equal) ▸ listed)

/-! ## What a call does to the addresses -/

/-- The heap serves the attempt; its answers only matter where it is asked. -/
def Attempt.served (a : Attempt) (lib : Library) : Prop :=
  a.newInterface = true ∧ a.newConnection = true ∧ a.listFits lib

/-- A request fits the packet buffer and the heap serves it. -/
def served (lib : Library) : ApiCall σ → Prop
  | .request _ r a _ => r.call.Fits ∧ a.served lib
  | _ => True

/-- What a connection keeps as long as it is in the table: its address and its
descriptor. -/
def ADSConnection.identity (dc : ADSConnection) : (AmsNetId × UInt32) × Int :=
  (dc.address, dc.iface.sd)

/-- A table holds the connections of another one, with more behind them. -/
def Table.Extends (T' T : Table) : Prop :=
  T.connections.map (·.identity) <+: T'.connections.map (·.identity)

theorem Call.run_identity {c : Call} (fits : c.Fits) (dc : ADSConnection) (s : σ) :
    (c.run dc s).dc.identity = dc.identity := by
  obtain ⟨⟨iface, partner, port⟩, -⟩ := Call.run_keeps fits dc s
  simp only [ADSConnection.identity, ADSConnection.address, iface, partner, port]

/-- The identities of a table after a request are those before it, or one more
for an address that was not there. -/
theorem Table.Request.identities {r : ApiRequest} {s : σ} {reply : RequestReply σ}
    (fits : r.call.Fits) (made : T.Request addr r a s T' reply) :
    T'.connections.map (·.identity) = T.connections.map (·.identity) ∨
      T.Misses addr ∧ T'.connections.map (·.identity) =
        T.connections.map (·.identity) ++ [(a.connection addr T).identity] := by
  cases made with
  | found finds => exact Or.inl (finds.map_set (Call.run_identity fits _ _))
  | failed => exact Or.inl rfl
  | opened misses =>
      refine Or.inr ⟨misses, ?_⟩
      rw [List.map_append, List.map_singleton, Call.run_identity fits]

/-- Only closing takes connections out of a table. -/
theorem TableStep.extends {call : ApiCall σ} (step : TableStep σ T call T')
    (serves : served lib call) (open' : call ≠ .portClose) : T'.Extends T := by
  induction step with
  | request made =>
      unfold Table.Extends
      rcases made.identities serves.1 with same | ⟨-, longer⟩
      · exact ⟨[], by rw [List.append_nil, same]⟩
      · exact ⟨_, longer.symm⟩
  | timeout =>
      unfold Table.Extends
      rw [List.map_map]
      exact List.prefix_rfl
  | noTimeout => exact List.prefix_rfl
  | defaultTimeout _ ih => exact ih trivial nofun
  | localAddress => exact List.prefix_rfl
  | noLocalAddress => exact List.prefix_rfl
  | portOpen => exact List.prefix_rfl
  | portClose => exact absurd rfl open'

/-- Connections that keep their identities stay for the same addresses. -/
theorem Table.For.same (isFor : T.For addrs)
    (same : T'.connections.map (·.identity) = T.connections.map (·.identity)) : T'.For addrs := by
  have addresses := congrArg (List.map Prod.fst) same
  rw [List.map_map, List.map_map] at addresses
  exact ⟨isFor.distinct, addresses.trans isFor.entries⟩

/-- A connection at the end is for one more address. -/
theorem Table.For.longer (isFor : T.For addrs) (misses : T.Misses addr)
    (longer : T'.connections.map (·.identity) =
      T.connections.map (·.identity) ++ [(a.connection addr T).identity]) :
    T'.For (addrs ++ [addr]) := by
  have addresses := congrArg (List.map Prod.fst) longer
  rw [List.map_append, List.map_map, List.map_map] at addresses
  constructor
  · apply isFor.distinct.append (List.nodup_singleton addr)
    rw [List.disjoint_singleton]
    exact isFor.misses_iff_not_mem.mp misses
  · rw [List.map_append, ← isFor.entries]
    exact addresses.trans (congrArg (_ ++ [·]) (a.connection_address addr T))

theorem Table.Request.addresses {r : ApiRequest} {s : σ} {reply : RequestReply σ}
    (made : T.Request addr r a s T' reply) (fits : r.call.Fits) (isFor : T.For addrs) :
    ∃ addrs', T'.For addrs' := by
  rcases made.identities fits with kept | ⟨misses, longer⟩
  · exact ⟨addrs, isFor.same kept⟩
  · exact ⟨addrs ++ [addr], isFor.longer misses longer⟩

/-- The table stays one for a list of addresses. -/
theorem TableStep.addresses {call : ApiCall σ} (step : TableStep σ T call T')
    (serves : served lib call) (isFor : T.For addrs) : ∃ addrs', T'.For addrs' := by
  induction step with
  | request made => exact made.addresses serves.1 isFor
  | timeout => exact ⟨addrs, isFor.same (List.map_map ..)⟩
  | noTimeout => exact ⟨addrs, isFor⟩
  | defaultTimeout _ ih => exact ih trivial
  | localAddress => exact ⟨addrs, isFor.same rfl⟩
  | noLocalAddress => exact ⟨addrs, isFor⟩
  | portOpen => exact ⟨addrs, isFor.same rfl⟩
  | portClose => exact ⟨[], List.nodup_nil, rfl⟩

/-- A connection keeps its index and its identity in a table that grows. -/
theorem Table.Extends.getElem? (extends' : T'.Extends T) {i : Nat} {dc : ADSConnection}
    (entry : T.connections[i]? = some dc) :
    ∃ dc', T'.connections[i]? = some dc' ∧ dc'.identity = dc.identity := by
  obtain ⟨bound, rfl⟩ := List.getElem?_eq_some_iff.mp entry
  have kept := List.prefix_iff_getElem?.mp extends' i (by simpa using bound)
  rw [List.getElem?_map, List.getElem_map] at kept
  exact Option.map_eq_some_iff.mp kept

/-- The connection that a request reports is for its address. -/
theorem Table.Request.connection {r : ApiRequest} {s : σ} {reply : RequestReply σ} {i : Nat}
    (isFor : T.For addrs) (fits : r.call.Fits) (made : T.Request addr r a s T' reply)
    (used : reply.connection = some i) :
    ∃ dc, T'.connections[i]? = some dc ∧ dc.address = addr.address := by
  have address : ∀ dc, (r.call.run dc s).dc.address = dc.address := fun dc =>
    congrArg Prod.fst (Call.run_identity fits dc s)
  cases made with
  | found finds =>
      cases used
      obtain ⟨bound, -⟩ := List.getElem?_eq_some_iff.mp finds.entry
      exact ⟨_, List.getElem?_set_self bound, (address _).trans (isFor.finds_iff.mp finds).2⟩
  | failed => cases used
  | opened =>
      cases used
      exact ⟨_, List.getElem?_concat_length, (address _).trans (a.connection_address addr T)⟩

/-! ## `ADSsocketConnect()` from its result -/

theorem adsSocketConnect_ok {lib₁ : Library} {dc : ADSConnection} (holds : lib.Holds T)
    (connected : adsSocketConnect addr a lib = .ok (lib₁, .ok dc)) :
    a.Succeeds T ∧ a.newInterface = true ∧ lib₁ = lib.attempted a T ∧
      dc = a.connection addr T := by
  rcases a.ends T with succeeds | ⟨located, fails⟩ | unlocated
  · rw [adsSocketConnect_connected holds succeeds.1 succeeds.located, if_pos succeeds] at connected
    split at connected
    · cases connected
    · next interface =>
        cases connected
        exact ⟨succeeds, by simpa using interface, rfl, rfl⟩
  · rw [adsSocketConnect_failed holds located fails] at connected
    cases connected
  · rw [adsSocketConnect_unlocated holds unlocated] at connected
    cases connected

theorem adsSocketConnect_error {lib₁ : Library} {adsError : Int} (holds : lib.Holds T)
    (refused : adsSocketConnect addr a lib = .ok (lib₁, .error adsError)) :
    (a.Locatable T ∧ ¬ a.Succeeds T) ∧ lib₁ = lib.attempted a T ∧ adsError = a.code T := by
  rcases a.ends T with succeeds | ⟨located, fails⟩ | unlocated
  · rw [adsSocketConnect_connected holds succeeds.1 succeeds.located, if_pos succeeds] at refused
    split at refused <;> cases refused
  · rw [adsSocketConnect_failed holds located fails] at refused
    cases refused
    exact ⟨⟨located, fails⟩, rfl, rfl⟩
  · rw [adsSocketConnect_unlocated holds unlocated] at refused
    cases refused

end Addresses

/-! ## The law of the table -/

section Law

variable {σ : Type} [Socket σ]

/-- The interfaces that a call may be given to examine. -/
def ApiCall.interfaces : ApiCall σ → Option (List IfAddrs)
  | .request _ _ a _ => a.ifaddrs
  | .getLocalAddressEx _ ifaddrs => ifaddrs
  | _ => none

/-- The table of the library has one connection for each of its addresses, is
searched by address, grows at its end only, and is emptied by closing only. -/
structure Library.OnePerAddress (σ : Type) [Socket σ] (lib : Library)
    (dcs : List ADSConnection) : Prop where
  table : lib.connections = .ok dcs
  count : dcs.length = lib.nADSConnectionCnt
  distinct : (dcs.map (·.address)).Nodup
  compared : ∀ dc ∈ dcs, ∀ addr : AmsAddr, dc.key = addr.bytes ↔ dc.address = addr.address
  found : ∀ (addr : AmsAddr) (a : Attempt) (i : Nat),
    (i < dcs.length ∧ adsSocketGet addr a lib = .ok (lib, .ok i)) ↔
      ∃ dc, dcs[i]? = some dc ∧ dc.address = addr.address
  opened : ∀ (addr : AmsAddr) (a : Attempt) (lib₁ : Library) (dc : ADSConnection),
    a.listFits lib → (∀ dc ∈ dcs, dc.address ≠ addr.address) →
    adsSocketConnect addr a lib = .ok (lib₁, .ok dc) →
    ∃ lib', adsSocketGet addr a lib = .ok (lib', .ok dcs.length) ∧
      lib'.connections = .ok (dcs ++ [dc]) ∧ dc.address = addr.address ∧
      lib'.sockets = dc.iface.sd :: lib.sockets
  failed : ∀ (addr : AmsAddr) (a : Attempt) (lib₁ : Library) (adsError : Int),
    (∀ dc ∈ dcs, dc.address ≠ addr.address) →
    adsSocketConnect addr a lib = .ok (lib₁, .error adsError) →
    adsSocketGet addr a lib = .ok (lib₁, .error adsError) ∧ lib₁.connections = .ok dcs
  closed : ∀ lib', adsPortClose lib = .ok lib' → lib'.connections = .ok []
  returns : ∀ call : ApiCall σ, served lib call → (∃ lib', apiStep σ lib call lib') ∨
    call = .portClose ∧ dcs = [] ∧ call.run lib = .error .doubleFree ∨
    ¬ AllAddressed call.interfaces ∧ call.run lib = .error .nullAddress

variable {lib : Library} {T : Table} {addrs : List AmsAddr}

/-- A call with a heap that serves it only stops at a list freed already, which
is then empty, or at an interface without an address. -/
theorem Library.Holds.returns (holds : lib.Holds T) (call : ApiCall σ) (serves : served lib call) :
    (∃ lib', apiStep σ lib call lib') ∨
      call = .portClose ∧ T.connections = [] ∧ call.run lib = .error .doubleFree ∨
      ¬ AllAddressed call.interfaces ∧ call.run lib = .error .nullAddress := by
  cases call with
  | request addr r a s =>
      obtain ⟨fits, interface, -, list⟩ := serves
      by_cases located : T.Misses addr → a.Locatable T
      · obtain ⟨lib', reply, made⟩ := @adsRequest_returns σ _ lib T addr a r s holds located
          (fun _ _ => ⟨interface, list⟩) fits.inConnection
        exact Or.inl ⟨lib', adsRequest_step made⟩
      · obtain ⟨misses, unlocated⟩ := Classical.not_imp.mp located
        refine Or.inr (Or.inr ⟨fun addressed => unlocated fun _ => addressed.located, ?_⟩)
        simp only [ApiCall.run, adsRequest_unlocated holds misses unlocated, Except.map]
  | setTimeoutEx port nMs =>
      obtain ⟨lib', eq, -⟩ := adsSetTimeout_eq holds port nMs
      exact Or.inl ⟨lib', _, eq⟩
  | setTimeout nMs =>
      obtain ⟨lib', eq, -⟩ := adsSetTimeout_eq holds lib.defaultPort nMs
      exact Or.inl ⟨lib', _, eq⟩
  | getLocalAddressEx port ifaddrs =>
      unfold apiStep
      rcases adsGetLocalAddressEx_cases port ifaddrs lib.meAddr with
        ⟨-, eq⟩ | ⟨-, -, eq⟩ | ⟨unlocated, eq⟩ <;> rw [ApiCall.run, eq]
      · exact Or.inl ⟨_, _, rfl⟩
      · exact Or.inl ⟨_, _, rfl⟩
      · exact Or.inr (Or.inr ⟨fun addressed => unlocated addressed.located, rfl⟩)
  | portOpen => exact Or.inl ⟨_, _, rfl⟩
  | portClose =>
      have close := adsPortClose_eq holds
      split at close
      · next freed =>
          refine Or.inr (Or.inl ⟨rfl, ?_, by simp only [ApiCall.run, close, Except.map]⟩)
          by_contra nonempty
          have free := freed.2
          rw [holds.block nonempty] at free
          cases free
      · exact Or.inl ⟨_, 0, congrArg (Except.map fun lib => (lib, (0 : Int))) close⟩

/-- `ADSsocketGet()` returns a connection of the table, and opens no socket,
exactly when it is the one of the address. -/
theorem Library.Holds.found_iff (holds : lib.Holds T) (isFor : T.For addrs) (addr : AmsAddr)
    (a : Attempt) (i : Nat) :
    (i < T.connections.length ∧ adsSocketGet addr a lib = .ok (lib, .ok i)) ↔
      ∃ dc, T.connections[i]? = some dc ∧ dc.address = addr.address := by
  constructor
  · rintro ⟨bound, got⟩
    rcases T.lookup addr with ⟨j, dc, finds⟩ | misses
    · rw [adsSocketGet_found holds finds] at got
      cases got
      exact ⟨dc, isFor.finds_iff.mp finds⟩
    · rcases a.ends T with succeeds | ⟨located, fails⟩ | unlocated
      · rw [adsSocketGet_opened holds misses succeeds] at got
        split at got
        · cases got
        · cases appended : (lib.attempted a T).append a T.connections (a.connection addr T) <;>
            rw [appended] at got <;> cases got
          exact absurd bound (Nat.lt_irrefl _)
      · rw [adsSocketGet_failed holds misses located fails] at got
        simp only [Except.ok.injEq, Prod.mk.injEq, reduceCtorEq, and_false] at got
      · rw [adsSocketGet_unlocated holds misses unlocated] at got
        cases got
  · rintro ⟨dc, entry, equal⟩
    have finds := isFor.finds_iff.mpr ⟨entry, equal⟩
    obtain ⟨bound, -⟩ := List.getElem?_eq_some_iff.mp entry
    exact ⟨bound, adsSocketGet_found holds finds⟩

/-- A table for a list of addresses meets the law. -/
theorem Library.Holds.onePerAddress (holds : lib.Holds T) (isFor : T.For addrs) :
    lib.OnePerAddress σ T.connections where
  table := holds.connections
  count := holds.count.symm
  distinct := isFor.nodup
  compared := fun dc inside addr => isFor.key_iff inside addr
  found := holds.found_iff isFor
  opened := by
    intro addr a lib₁ dc fits none connected
    obtain ⟨succeeds, interface, rfl, rfl⟩ := adsSocketConnect_ok holds connected
    obtain ⟨lib', appended, -, holds'⟩ :=
      (holds.attempted (a := a)).append fits (a.connection addr T)
    refine ⟨lib', ?_, holds'.connections, a.connection_address addr T, ?_⟩
    · rw [adsSocketGet_opened holds (isFor.misses_iff.mpr none) succeeds, interface, appended]
      rfl
    · rw [holds'.sockets, holds.sockets]
      exact if_neg succeeds.descriptor
  failed := by
    intro addr a lib₁ adsError none refused
    obtain ⟨⟨located, fails⟩, rfl, rfl⟩ := adsSocketConnect_error holds refused
    exact ⟨adsSocketGet_failed holds (isFor.misses_iff.mpr none) located fails,
      holds.attempted.connections⟩
  closed := by
    intro lib' close
    rw [adsPortClose_eq holds] at close
    split at close <;> cases close
    exact if_pos rfl
  returns := holds.returns

/-- Until the connections are closed, requests to an address use the one at an
index: it is the same connection, and `ADSsocketGet()` returns it and nothing
else changes. -/
def Library.Reuses (σ : Type) [Socket σ] (lib : Library) (addr : AmsAddr) (i : Nat) : Prop :=
  ∀ (calls : List (ApiCall σ)) (lib' : Library), (∀ call ∈ calls, call ≠ .portClose) →
    Run (Guarded served (apiStep σ)) lib calls lib' →
    ∃ dcs dcs' dc dc', lib.connections = .ok dcs ∧ lib'.connections = .ok dcs' ∧
      dcs[i]? = some dc ∧ dcs'[i]? = some dc' ∧ dc'.iface.sd = dc.iface.sd ∧
      ∀ a, adsSocketGet addr a lib' = .ok (lib', .ok i)

theorem Library.Holds.reuses {addr : AmsAddr} {i : Nat} {dc : ADSConnection}
    (holds : lib.Holds T) (isFor : T.For addrs) (entry : T.connections[i]? = some dc)
    (equal : dc.address = addr.address) : lib.Reuses σ addr i := by
  intro calls lib' open' run
  obtain ⟨T', holds', ⟨addrs', isFor'⟩, extends'⟩ :
      ∃ T', lib'.Holds T' ∧ (∃ addrs', T'.For addrs') ∧ T'.Extends T := by
    apply table_invariant (run.guarded open') (fun _ _ _ taken => taken.2.2) holds
      ⟨⟨addrs, isFor⟩, List.prefix_rfl⟩
    rintro lib₁ call lib₂ T₁ T₂ - ⟨⟨addrs₁, isFor₁⟩, extends₁⟩ ⟨stays, serves, -⟩ made -
    exact ⟨made.addresses serves isFor₁, extends₁.trans (made.extends serves stays)⟩
  obtain ⟨dc', entry', kept⟩ := extends'.getElem? entry
  obtain ⟨address, descriptor⟩ := Prod.mk.inj kept
  refine ⟨_, _, dc, dc', holds.connections, holds'.connections, entry, entry', descriptor,
    fun a => ?_⟩
  exact adsSocketGet_found holds' (isFor'.finds_iff.mpr ⟨entry', address.trans equal⟩)

/-- **The connection table.** In every run of the library whose requests fit and
whose allocations succeed, the table has one connection for each of its
addresses, and a connection that a request used is the one of its address until
the connections are closed. -/
theorem table_one_per_address (calls : List (ApiCall σ)) (lib : Library)
    (run : Run (Guarded served (apiStep σ)) .initial calls lib) :
    (∃ dcs, lib.OnePerAddress σ dcs) ∧
      ∀ (addr : AmsAddr) (r : ApiRequest) (a : Attempt) (s : σ) (lib' : Library)
        (reply : RequestReply σ) (i : Nat), r.call.Fits →
        adsRequest addr r a s lib = .ok (lib', reply) → reply.connection = some i →
        lib'.Reuses σ addr i := by
  obtain ⟨T, holds, addrs, isFor⟩ : ∃ T, lib.Holds T ∧ ∃ addrs, T.For addrs := by
    apply table_invariant run (fun _ _ _ => And.right) Library.initial_holds
      ⟨_, Table.initial_for⟩
    rintro lib₁ call lib₂ T₁ T₂ - ⟨addrs₁, isFor₁⟩ taken made -
    exact made.addresses taken.1 isFor₁
  refine ⟨⟨T.connections, holds.onePerAddress isFor⟩, ?_⟩
  intro addr r a s lib' reply i fits made used
  obtain ⟨T', request, holds', -⟩ := adsRequest_refines holds made
  obtain ⟨dc, entry, equal⟩ := request.connection isFor fits used
  obtain ⟨addrs', isFor'⟩ := request.addresses fits isFor
  exact holds'.reuses isFor' entry equal

/-- The state of a PLC is read, and its connection is the first of the table. -/
theorem readPlcState_entry :
    ∃ lib T, apiStep Script .initial readPlcState lib ∧ lib.Holds T ∧
      ∃ dc, T.connections[0]? = some dc ∧ dc.address = plcAddress.address := by
  obtain ⟨lib, reply, made, used⟩ := readPlcState_made
  obtain ⟨T, request, holds, -⟩ := adsRequest_refines Library.initial_holds made
  have fits : ApiRequest.readState.call.Fits := trivial
  exact ⟨lib, T, adsRequest_step made, holds, request.connection Table.initial_for fits used⟩

/-- A list that is there can grow where it is. -/
theorem Library.Holds.listFits {a : Attempt} (holds : lib.Holds T) (isFor : T.For addrs)
    (some : addrs ≠ []) (same : lib.pADSConnectionList = a.list) : a.listFits lib := by
  have counted : T.connections ≠ [] := by
    intro empty
    have entries := isFor.entries
    rw [empty] at entries
    exact some (List.map_eq_nil_iff.mp entries.symm)
  refine ⟨same ▸ holds.notNull counted, Or.inr ⟨?_, same.symm⟩⟩
  rw [holds.count]
  exact (List.length_pos_iff.mpr counted).ne'

/-- A request that is granted uses the connection at the index of its address,
and a new address is put at the end. -/
theorem adsRequest_granted {addr : AmsAddr} {r : ApiRequest} {a : Attempt} (holds : lib.Holds T)
    (isFor : T.For addrs) (fits : r.call.Fits) (serves : a.served lib)
    (succeeds : addr ∉ addrs → a.Succeeds T) (s : σ) :
    ∃ lib' T' reply, adsRequest addr r a s lib = .ok (lib', reply) ∧
      reply.connection = some (addrs.idxOf addr) ∧ lib'.Holds T' ∧
      T'.For (if addr ∈ addrs then addrs else addrs ++ [addr]) ∧
      T'.sockets = (if addr ∈ addrs then T.sockets else a.sockets T) ∧
      lib'.pADSConnectionList = (if addr ∈ addrs then lib.pADSConnectionList else a.list) := by
  have ran : ∀ dc, r.call.exec dc s = .ok (r.call.run dc s) :=
    fun _ => Call.exec_eq_ok.mpr ⟨fits.inConnection, rfl⟩
  by_cases listed : addr ∈ addrs
  · simp only [if_pos listed]
    have entry : (T.connections.map (·.address))[addrs.idxOf addr]? = some addr.address := by
      rw [isFor.entries, List.getElem?_map, List.getElem?_idxOf listed]
      rfl
    rw [List.getElem?_map] at entry
    obtain ⟨dc, entry, equal⟩ := Option.map_eq_some_iff.mp entry
    have finds := isFor.finds_iff.mpr ⟨entry, equal⟩
    have request := adsRequest_found (r := r) (a := a) (s := s) holds finds
    rw [holds.request entry, ran] at request
    exact ⟨_, _, _, request, rfl, holds.setConnections (List.length_set ..),
      isFor.same (finds.map_set (Call.run_identity fits dc s)), rfl, rfl⟩
  · simp only [if_neg listed, List.idxOf_eq_length listed]
    have misses := isFor.misses_iff_not_mem.mpr listed
    obtain ⟨lib₁, holds₁, list, request⟩ :=
      adsRequest_opened (r := r) (s := s) holds misses (succeeds listed) serves.1 serves.2.2
    have count : T.connections.length = addrs.length := by
      simpa using congrArg List.length isFor.entries
    rw [holds₁.request_last rfl, ran] at request
    refine ⟨_, _, _, request, congrArg some count, holds₁.setConnections (by simp), ?_, rfl, list⟩
    refine isFor.longer (a := a) misses ?_
    rw [List.map_append, List.map_singleton, Call.run_identity fits]

/-- Another port of the same PLC. -/
def otherAddress : AmsAddr := { plcAddress with port := 802 }

/-- The next descriptor, with the list left where it is. -/
def nextAttempt : Attempt := { grantedAttempt with socket := 4 }

/-- The state is read there. -/
def readOtherState : ApiCall Script := .request otherAddress .readState nextAttempt ⟨[], [], []⟩

/-- Two addresses are asked, and the first one again: then the table has both, and
serves the first one once more. -/
theorem readTwice_run :
    ∃ lib T, Run (Guarded served (apiStep Script)) .initial
        [readPlcState, readOtherState, readPlcState] lib ∧
      lib.Holds T ∧ T.For [plcAddress, otherAddress] ∧ grantedAttempt.served lib := by
  have fits : ApiRequest.readState.call.Fits := trivial
  have serves₀ : grantedAttempt.served .initial := ⟨rfl, rfl, by decide⟩
  -- The first request finds an empty table.
  obtain ⟨lib₁, T₁, _, made₁, -, holds₁, isFor₁, sockets₁, list₁⟩ :=
    @adsRequest_granted Script _ .initial .initial [] plcAddress .readState grantedAttempt
      Library.initial_holds Table.initial_for fits serves₀ (fun _ => by decide) ⟨[], [], []⟩
  rw [if_neg List.not_mem_nil] at isFor₁ sockets₁ list₁
  have serves₁ : nextAttempt.served lib₁ :=
    ⟨rfl, rfl, holds₁.listFits isFor₁ (List.cons_ne_nil _ _) list₁⟩
  have succeeds₁ : nextAttempt.Succeeds T₁ := by
    have located : (localAddress T₁.meAddr nextAttempt.ifaddrs).1 = 0 := by
      unfold localAddress adsGetMeAddress
      split <;> rfl
    refine ⟨⟨?_, rfl⟩, located, rfl⟩
    rw [sockets₁]
    decide
  -- The second one is put behind it.
  obtain ⟨lib₂, T₂, _, made₂, -, holds₂, isFor₂, -, list₂⟩ :=
    @adsRequest_granted Script _ lib₁ T₁ _ otherAddress .readState nextAttempt holds₁ isFor₁ fits
      serves₁ (fun _ => succeeds₁) ⟨[], [], []⟩
  rw [if_neg (by decide)] at isFor₂ list₂
  have serves₂ : grantedAttempt.served lib₂ :=
    ⟨rfl, rfl, holds₂.listFits isFor₂ (List.cons_ne_nil _ _) list₂⟩
  obtain ⟨lib₃, T₃, _, made₃, -, holds₃, isFor₃, -, list₃⟩ :=
    @adsRequest_granted Script _ lib₂ T₂ _ plcAddress .readState grantedAttempt holds₂ isFor₂ fits
      serves₂ (fun new => absurd (by decide) new) ⟨[], [], []⟩
  rw [if_pos (by decide)] at isFor₃ list₃
  exact ⟨lib₃, T₃, .cons ⟨⟨fits, serves₀⟩, adsRequest_step made₁⟩
    (.cons ⟨⟨fits, serves₁⟩, adsRequest_step made₂⟩
      (.single ⟨⟨fits, serves₂⟩, adsRequest_step made₃⟩)), holds₃, isFor₃,
    rfl, rfl, holds₃.listFits isFor₃ (List.cons_ne_nil _ _) (list₃.trans list₂)⟩

/-- The table has two connections, and a fourth request reuses the first. -/
theorem table_one_per_address_connected :
    ∃ lib lib' dcs reply, Run (Guarded served (apiStep Script)) .initial
        [readPlcState, readOtherState, readPlcState] lib ∧
      lib.OnePerAddress Script dcs ∧ dcs.length = 2 ∧
      adsRequest plcAddress .readState grantedAttempt (⟨[], [], []⟩ : Script) lib =
        .ok (lib', reply) ∧
      reply.connection = some 0 ∧ lib'.Reuses Script plcAddress 0 := by
  have fits : ApiRequest.readState.call.Fits := trivial
  obtain ⟨lib, T, run, holds, isFor, serves⟩ := readTwice_run
  obtain ⟨lib', -, reply, made, used, -⟩ :=
    @adsRequest_granted Script _ lib T _ plcAddress .readState grantedAttempt holds isFor fits
      serves (fun new => absurd (by decide) new) ⟨[], [], []⟩
  obtain ⟨⟨dcs, law⟩, reuses⟩ :=
    table_one_per_address [readPlcState, readOtherState, readPlcState] lib run
  refine ⟨lib, lib', dcs, reply, run, law, ?_, made, used, ?_⟩
  · rw [law.count, holds.count]
    simpa using congrArg List.length isFor.entries
  · exact reuses plcAddress .readState grantedAttempt ⟨[], [], []⟩ lib' reply 0 fits made used

end Law

end LibAds
