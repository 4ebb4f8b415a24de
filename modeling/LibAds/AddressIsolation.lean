import LibAds.CallDependence
import LibAds.PurgedRuns
import LibAds.TableLookup
import Mathlib.Data.Fintype.EquivFin

/-!
# Addresses do not disturb each other

Requests to several addresses over one library. Each address has its own peer:
how the attempts to connect to it go, and what its socket answers. The calls to
an address depend on its peer and on its connection only, and no call to another
one touches these. What is shared shows in neither: the place in the table, the
descriptor and the heap are not looked at, and the cached local address is the
one that would be determined again.
-/

namespace LibAds

open ByteMemory SocketModel LabelledRuns

/-! ## The local address -/

/-- With these interfaces `AdsGetMeAddress()` answers as it does at first. -/
def Determined (ifaddrs : Option (List IfAddrs)) (meAddr : AmsAddr) : Prop :=
  adsGetMeAddress meAddr AMSPORT_R0_PLC_RTS1 ifaddrs =
    adsGetMeAddress unsetAddr AMSPORT_R0_PLC_RTS1 ifaddrs

section Determined

variable {ifaddrs : Option (List IfAddrs)} {meAddr : AmsAddr}

theorem Determined.located_iff (determined : Determined ifaddrs meAddr) :
    Located meAddr ifaddrs ↔ Located unsetAddr ifaddrs := by
  rw [LibAds.located_iff, determined, ← LibAds.located_iff]

theorem Determined.code_eq (determined : Determined ifaddrs meAddr) :
    (localAddress meAddr ifaddrs).1 = (localAddress unsetAddr ifaddrs).1 := by
  unfold localAddress
  rw [determined]
  cases adsGetMeAddress unsetAddr AMSPORT_R0_PLC_RTS1 ifaddrs <;> rfl

/-- What it caches answers as the cache was found. -/
theorem Determined.cached (determined : Determined ifaddrs meAddr) :
    Determined ifaddrs (localAddress meAddr ifaddrs).2 := by
  unfold localAddress
  rw [determined]
  rcases first : adsGetMeAddress unsetAddr AMSPORT_R0_PLC_RTS1 ifaddrs with fault | after
  · exact determined
  · exact (adsGetMeAddress_again first).trans first.symm

end Determined

/-! ## Peers -/

/-- How an attempt to connect goes: whether `socket()` gives a descriptor, and
the `errno` where `connect()` or `setsockopt()` fails. -/
structure ConnectOutcome where
  socket : Bool
  connect : Option Int
  setsockopt : Option Int
  deriving DecidableEq, Repr

/-- What answers at an address: the outcomes of the coming attempts, after which
every attempt is granted, and the socket. -/
structure Peer (σ : Type) where
  outcomes : List ConnectOutcome
  sock : σ

def Peer.next {σ : Type} (peer : Peer σ) : ConnectOutcome := peer.outcomes.headD ⟨true, none, none⟩

/-- An attempt goes as scripted, with the local interfaces as they are and a heap
that serves it. Which descriptor and which blocks it gets is left open. -/
structure Attempt.Meets (a : Attempt) (o : ConnectOutcome) (ifaddrs : Option (List IfAddrs))
    (lib : Library) : Prop where
  socket : a.descriptor lib.sockets = -1 ↔ o.socket = false
  connect : a.connect = o.connect
  setsockopt : a.setsockopt = o.setsockopt
  ifaddrs : a.ifaddrs = ifaddrs
  served : a.served lib

/-- The table has a connection with the key of an address. -/
def Library.has (lib : Library) (addr : AmsAddr) : Bool :=
  match lib.connections with
  | .ok dcs => dcs.any fun dc => dc.key = addr.bytes
  | .error _ => false

/-- The library, the peers it talks to, and for each descriptor the address of the
peer that it was connected to. -/
structure System (σ : Type) where
  lib : Library
  peers : AmsAddr → Peer σ
  ends : Int → Option AmsAddr

section Systems

variable {σ : Type}

/-- The start of the program. -/
def System.initial (peers : AmsAddr → Peer σ) : System σ := ⟨.initial, peers, fun _ => none⟩

/-- The peers after a request to an address, before anything is sent: an attempt to
connect is made where the table has no connection, and uses up an outcome. -/
def System.tried (S : System σ) (addr : AmsAddr) : AmsAddr → Peer σ :=
  if S.lib.has addr then S.peers
  else Function.update S.peers addr
    { S.peers addr with outcomes := (S.peers addr).outcomes.tail }

/-- What the descriptors are connected to after that. -/
def System.connected (S : System σ) (addr : AmsAddr) (a : Attempt) : Int → Option AmsAddr :=
  if S.lib.has addr = false ∧ a.connectFails S.lib.sockets = none then
    Function.update S.ends (a.descriptor S.lib.sockets) (some addr)
  else S.ends

/-- The address at the other end of the descriptor in the interface of a connection. -/
def System.endOf (S : System σ) (i : Nat) : Option AmsAddr :=
  match S.lib.connections with
  | .ok dcs => dcs[i]?.bind fun dc => S.ends dc.iface.sd
  | .error _ => none

/-- An input of the system is a request to an address, its output what the
request returns and stores. What the request sends and receives goes through the
descriptor of the connection it uses, to the peer at its other end. -/
def requestStep [Socket σ] (ifaddrs : Option (List IfAddrs)) (S : System σ)
    (l : (AmsAddr × ApiRequest) × (Int × Outputs)) (S' : System σ) : Prop :=
  let ((addr, r), out) := l
  ∃ a s reply, a.Meets (S.peers addr).next ifaddrs S.lib ∧
    adsRequest addr r a s S.lib = .ok (S'.lib, reply) ∧ out = (reply.ret, reply.outs) ∧
    S'.ends = S.connected addr a ∧
    match reply.connection with
    | none => S'.peers = S.tried addr
    | some i => ∃ other, S'.endOf i = some other ∧ s = (S.peers other).sock ∧
      S'.peers = Function.update (S.tried addr) other
        { S.tried addr other with sock := reply.sock }

end Systems

section Entries

variable {σ : Type} [Socket σ] {T T' : Table} {addr other : AmsAddr} {r : ApiRequest}
  {a : Attempt} {s : σ} {reply : RequestReply σ}

omit [Socket σ] in
theorem Table.Finds.unique {i j : Nat} {dc dc' : ADSConnection} (finds : T.Finds addr i dc)
    (finds' : T.Finds addr j dc') : i = j ∧ dc = dc' := by
  obtain rfl := Option.some.inj (finds.findIdx.symm.trans finds'.findIdx)
  exact ⟨rfl, Option.some.inj (finds.entry.symm.trans finds'.entry)⟩

theorem Call.run_key {c : Call} (fits : c.Fits) (dc : ADSConnection) (s : σ) :
    (c.run dc s).dc.key = dc.key := by
  apply load_congr
  intro i _
  rw [Call.run_mem (by unfold partnerOffset; omega)]
  exact Call.request_behind fits (by omega)

omit [Socket σ] in
theorem Attempt.connection_key (a : Attempt) (addr : AmsAddr) (T : Table) :
    (a.connection addr T).key = addr.bytes :=
  ADSConnection.key_of_address (a.connection_address addr T)

/-- The connection that a request uses has the key of its address. -/
theorem Table.Request.used_key (fits : r.call.Fits) (made : T.Request addr r a s T' reply) {i : Nat}
    (used : reply.connection = some i) :
    ∃ dc, T'.connections[i]? = some dc ∧ dc.key = addr.bytes := by
  cases made with
  | found finds =>
      cases used
      exact ⟨_, List.getElem?_set_self (List.getElem?_eq_some_iff.mp finds.entry).1,
        (Call.run_key fits _ s).trans finds.key⟩
  | failed => cases used
  | opened =>
      cases used
      exact ⟨_, List.getElem?_concat_length,
        (Call.run_key fits _ s).trans (a.connection_key addr T)⟩

/-- A request leaves the entry of another address. -/
theorem Table.Request.finds_other (fits : r.call.Fits) (others : addr ≠ other)
    (made : T.Request addr r a s T' reply) {j : Nat} {dc : ADSConnection}
    (finds : T.Finds other j dc) : T'.Finds other j dc := by
  have differ : addr.bytes ≠ other.bytes := fun same => others (AmsAddr.bytes_inj.mp same)
  cases made with
  | @found i own used =>
      have apart : i ≠ j := by
        rintro rfl
        obtain rfl := Option.some.inj (used.entry.symm.trans finds.entry)
        exact differ (used.key.symm.trans finds.key)
      refine ⟨(List.getElem?_set_ne apart).trans finds.entry, finds.key, ?_⟩
      intro k dc' before entry
      by_cases here : i = k
      · subst here
        rw [List.getElem?_set_self (List.getElem?_eq_some_iff.mp used.entry).1] at entry
        cases entry
        rw [Call.run_key fits, used.key]
        exact differ
      · rw [List.getElem?_set_ne here] at entry
        exact finds.first k dc' before entry
  | failed => exact ⟨finds.entry, finds.key, finds.first⟩
  | opened =>
      obtain ⟨bound, -⟩ := List.getElem?_eq_some_iff.mp finds.entry
      refine ⟨(List.getElem?_append_left bound).trans finds.entry, finds.key, ?_⟩
      intro k dc' before entry
      rw [List.getElem?_append_left (by omega)] at entry
      exact finds.first k dc' before entry

theorem Table.Request.misses_other (fits : r.call.Fits) (others : addr ≠ other)
    (made : T.Request addr r a s T' reply) (misses : T.Misses other) : T'.Misses other := by
  have differ : addr.bytes ≠ other.bytes := fun same => others (AmsAddr.bytes_inj.mp same)
  cases made with
  | found used =>
      intro dc inside
      rcases List.mem_or_eq_of_mem_set inside with before | rfl
      · exact misses dc before
      · rw [Call.run_key fits, used.key]
        exact differ
  | failed => exact misses
  | opened =>
      intro dc inside
      rcases List.mem_append.mp inside with before | last
      · exact misses dc before
      · rw [List.mem_singleton.mp last, Call.run_key fits, Attempt.connection_key]
        exact differ

end Entries

/-! ## Attempts with the same outcome -/

section Attempts

variable {lib : Library} {T : Table} {a a' : Attempt} {o : ConnectOutcome}
  {ifaddrs : Option (List IfAddrs)}

theorem Attempt.Meets.connects_iff (meets : a.Meets o ifaddrs lib) (holds : lib.Holds T) :
    a.Connects T ↔ o.socket = true ∧ o.connect = none ∧ o.setsockopt = none := by
  have created := meets.socket
  rw [holds.sockets] at created
  unfold Attempt.Connects Attempt.connectFails
  rw [meets.connect, meets.setsockopt, ← and_assoc]
  apply and_congr_left
  intro _
  cases uncreated : o.socket with
  | false =>
      rw [if_pos (created.mpr uncreated)]
      exact iff_of_false nofun (fun both => nomatch both.1)
  | true =>
      rw [if_neg (fun none => by simp [created.mp none] at uncreated)]
      exact (and_iff_right rfl).symm

/-- Whether an attempt succeeds is a matter of its outcome and of the interfaces. -/
theorem Attempt.Meets.succeeds_iff (meets : a.Meets o ifaddrs lib) (holds : lib.Holds T)
    (determined : Determined ifaddrs T.meAddr) :
    a.Succeeds T ↔ (o.socket = true ∧ o.connect = none ∧ o.setsockopt = none) ∧
      (localAddress unsetAddr ifaddrs).1 = 0 := by
  unfold Attempt.Succeeds
  rw [meets.connects_iff holds, meets.ifaddrs, determined.code_eq]
  exact and_congr_right fun _ => and_iff_left meets.served.2.1

/-- So is whether it can ask for the local address. -/
theorem Attempt.Meets.locatable_iff (meets : a.Meets o ifaddrs lib) (holds : lib.Holds T)
    (determined : Determined ifaddrs T.meAddr) :
    a.Locatable T ↔ ((o.socket = true ∧ o.connect = none ∧ o.setsockopt = none) →
      Located unsetAddr ifaddrs) := by
  unfold Attempt.Locatable
  rw [meets.connects_iff holds, meets.ifaddrs, determined.located_iff]

/-- The cached address stays one that would be determined again. -/
theorem Attempt.Meets.determined (meets : a.Meets o ifaddrs lib)
    (determined : Determined ifaddrs T.meAddr) : Determined ifaddrs (a.meAddr T) := by
  unfold Attempt.meAddr
  rw [meets.ifaddrs]
  split
  · exact determined.cached
  · exact determined

variable {lib₁ : Library} {T₁ : Table} (meets : a.Meets o ifaddrs lib) (holds : lib.Holds T)
  (determined : Determined ifaddrs T.meAddr) (meets' : a'.Meets o ifaddrs lib₁)
  (holds' : lib₁.Holds T₁) (determined' : Determined ifaddrs T₁.meAddr)

include meets holds meets' holds' in
theorem Attempt.Meets.connectFails_eq : a.connectFails T.sockets = a'.connectFails T₁.sockets := by
  have created := meets.socket.trans meets'.socket.symm
  rw [holds.sockets, holds'.sockets] at created
  unfold Attempt.connectFails
  rw [meets.connect, meets'.connect]
  exact if_congr created rfl rfl

include meets holds determined meets' holds' determined' in
/-- Attempts with the same outcome that fail have the same code. -/
theorem Attempt.Meets.code_eq (fails : ¬ a.Succeeds T) : a.code T = a'.code T₁ := by
  have connectFails := meets.connectFails_eq holds meets' holds'
  unfold Attempt.code
  rw [← connectFails, meets.setsockopt, meets'.setsockopt, meets.ifaddrs, meets'.ifaddrs,
    determined.code_eq, determined'.code_eq]
  rcases connected : a.connectFails T.sockets with _ | errno
  · rcases option : o.setsockopt with _ | errno
    · have connects : a.Connects T := ⟨connected, meets.setsockopt.trans option⟩
      have undetermined : (localAddress unsetAddr ifaddrs).1 ≠ 0 := by
        intro zero
        rw [meets.succeeds_iff holds determined, ← meets.connects_iff holds] at fails
        exact fails ⟨connects, zero⟩
      simp only [undetermined, ne_eq, not_false_eq_true, if_true]
    · rfl
  · rfl

end Attempts

/-! ## One step of the system -/

section Systems

variable {σ : Type} [Socket σ] {S S' S₁ : System σ} {T T' : Table} {addr other : AmsAddr}
  {r : ApiRequest} {out : Int × Outputs} {o : ConnectOutcome} {ifaddrs : Option (List IfAddrs)}

omit [Socket σ] in
theorem Library.Holds.has_iff {lib : Library} (holds : lib.Holds T) :
    lib.has addr = true ↔ ¬ T.Misses addr := by
  unfold Library.has Table.Misses
  rw [holds.connections]
  simp

/-- What every state of a system without closing has: the globals refer to a
table, the cached address is as determined, before the first connection nothing
is allocated, and the descriptor of every connection is open and connected to
the address whose key the connection has. -/
structure System.Sound (ifaddrs : Option (List IfAddrs)) (S : System σ) (T : Table) : Prop where
  holds : S.lib.Holds T
  determined : Determined ifaddrs T.meAddr
  unused : T.connections = [] → ∀ p, S.lib.blocks p = none
  routed : ∀ dc ∈ T.connections, dc.iface.sd ∈ T.sockets ∧
    ∃ own, S.ends dc.iface.sd = some own ∧ dc.key = own.bytes

omit [Socket σ] in
theorem System.initial_sound (ifaddrs : Option (List IfAddrs)) (peers : AmsAddr → Peer σ) :
    (System.initial peers).Sound ifaddrs .initial :=
  ⟨Library.initial_holds, rfl, fun _ _ => rfl, nofun⟩

omit [Socket σ] in
/-- The descriptor of a connection leads to the address of the connection. -/
theorem System.Sound.endOf (sound : S.Sound ifaddrs T) {i : Nat} {dc : ADSConnection}
    (entry : T.connections[i]? = some dc) (key : dc.key = addr.bytes) : S.endOf i = some addr := by
  obtain ⟨-, own, connected, key'⟩ := sound.routed dc (List.mem_of_getElem? entry)
  obtain rfl := AmsAddr.bytes_inj.mp (key.symm.trans key')
  unfold System.endOf
  rw [sound.holds.connections]
  dsimp only
  rw [entry]
  exact connected

omit [Socket σ] in
/-- A descriptor that is open stays connected to what it was. -/
theorem System.connected_of_mem {a : Attempt} {fd : Int} (opened : fd ∈ S.lib.sockets) :
    S.connected addr a fd = S.ends fd := by
  unfold System.connected
  split
  · next connects =>
      have fresh : fd ≠ a.descriptor S.lib.sockets := by
        rintro rfl
        have created := connects.2
        unfold Attempt.descriptor at opened
        unfold Attempt.connectFails Attempt.descriptor at created
        split at opened
        · next free => exact free.2 opened
        · next refused =>
            rw [if_neg refused] at created
            cases created
      exact Function.update_of_ne fresh _ _
  · rfl

/-- A request leaves every descriptor connected to the address of its connection. -/
theorem Table.Request.routed {a : Attempt} {s : σ} {reply : RequestReply σ}
    (sound : S.Sound ifaddrs T) (fits : r.call.Fits) (made : T.Request addr r a s T' reply) :
    ∀ dc ∈ T'.connections, dc.iface.sd ∈ T'.sockets ∧
      ∃ own, S.connected addr a dc.iface.sd = some own ∧ dc.key = own.bytes := by
  have before : ∀ dc ∈ T.connections, dc.iface.sd ∈ a.sockets T ∧
      ∃ own, S.connected addr a dc.iface.sd = some own ∧ dc.key = own.bytes := by
    intro dc inside
    obtain ⟨opened, own, connected, key⟩ := sound.routed dc inside
    refine ⟨?_, own, ?_, key⟩
    · unfold Attempt.sockets
      split
      · exact opened
      · exact List.mem_cons_of_mem _ opened
    · rw [System.connected_of_mem (sound.holds.sockets ▸ opened), connected]
  cases made with
  | @found i dc finds =>
      have known := List.mem_of_getElem? finds.entry
      have kept : S.connected addr a = S.ends :=
        if_neg fun new => absurd (sound.holds.has_iff.mpr finds.not_misses) (by simp [new.1])
      rw [kept]
      intro dc' inside
      rcases List.mem_or_eq_of_mem_set inside with before | rfl
      · exact sound.routed dc' before
      · rw [Call.run_iface, Call.run_key fits]
        exact sound.routed dc known
  | failed => exact before
  | opened misses succeeds =>
      intro dc inside
      rcases List.mem_append.mp inside with old | new
      · exact before dc old
      · rw [List.mem_singleton.mp new, Call.run_iface, Call.run_key fits]
        have created := succeeds.descriptor
        have has : S.lib.has addr = false := by
          rw [Bool.eq_false_iff]
          exact fun has => sound.holds.has_iff.mp has misses
        have connects := succeeds.1.1
        refine ⟨?_, addr, ?_, a.connection_key addr T⟩
        · show a.descriptor T.sockets ∈ a.sockets T
          rw [Attempt.sockets, if_neg created]
          exact List.mem_cons_self
        · rw [← sound.holds.sockets] at connects
          rw [System.connected, if_pos ⟨has, connects⟩, sound.holds.sockets]
          exact Function.update_self ..

/-- A request that meets its outcome takes a sound state to a sound one. -/
theorem System.Sound.request {a : Attempt} {s : σ} {reply : RequestReply σ}
    (sound : S.Sound ifaddrs T) (fits : r.call.Fits) (meets : a.Meets o ifaddrs S.lib)
    (made : adsRequest addr r a s S.lib = .ok (S'.lib, reply))
    (ends : S'.ends = S.connected addr a) :
    ∃ T', T.Request addr r a s T' reply ∧ S'.Sound ifaddrs T' := by
  obtain ⟨T', request, holds', list⟩ := adsRequest_refines sound.holds made
  refine ⟨T', request, holds', ?_, ?_, ends ▸ request.routed sound fits⟩
  · cases request with
    | found => exact sound.determined
    | failed => exact meets.determined sound.determined
    | opened => exact meets.determined sound.determined
  · intro empty p
    rw [(list.resolve_right (not_not_intro empty)).2]
    refine sound.unused ?_ p
    cases request with
    | found => simpa using empty
    | failed => exact empty
    | opened => exact absurd (List.append_eq_nil_iff.mp empty).2 (List.cons_ne_nil _ _)

omit [Socket σ] in
theorem System.tried_update (S : System σ) (addr : AmsAddr) (sock : σ) :
    Function.update (S.tried addr) addr { S.tried addr addr with sock := sock } =
      Function.update S.peers addr
        ⟨if S.lib.has addr then (S.peers addr).outcomes else (S.peers addr).outcomes.tail,
          sock⟩ := by
  unfold System.tried
  split <;> simp

/-- **A request goes to the peer of its address.** Whatever descriptor it goes
through, it is one of the table, and only the peer of its address changes. -/
theorem requestStep_refines (sound : S.Sound ifaddrs T) (fits : r.call.Fits)
    (step : requestStep ifaddrs S ((addr, r), out) S') :
    ∃ a T' reply, a.Meets (S.peers addr).next ifaddrs S.lib ∧
      T.Request addr r a (S.peers addr).sock T' reply ∧ S'.Sound ifaddrs T' ∧
      out = (reply.ret, reply.outs) ∧
      S'.peers = Function.update S.peers addr
        ⟨if S.lib.has addr then (S.peers addr).outcomes else (S.peers addr).outcomes.tail,
          reply.sock⟩ := by
  obtain ⟨a, s, reply, meets, made, output, ends, routes⟩ := step
  obtain ⟨T', request, sound'⟩ := sound.request fits meets made ends
  rcases used : reply.connection with _ | i <;> rw [used] at routes
  · -- Nothing was sent: the socket that was given to the request does not matter.
    cases request with
    | found => cases used
    | opened => cases used
    | failed misses located fails =>
        refine ⟨a, _, ⟨a.code T, {}, none, (S.peers addr).sock⟩, meets,
          .failed misses located fails, sound', output, ?_⟩
        rw [← System.tried_update, routes]
        have own : (S.tried addr addr).sock = (S.peers addr).sock := by
          unfold System.tried
          split <;> simp
        rw [← own, Function.update_eq_self]
  · obtain ⟨other, leads, rfl, peers⟩ := routes
    obtain ⟨dc, entry, key⟩ := request.used_key fits used
    obtain rfl := Option.some.inj (leads.symm.trans (sound'.endOf entry key))
    exact ⟨a, T', reply, meets, request, sound', output, peers.trans (S.tried_update _ _)⟩

omit [Socket σ] in
/-- The operating system can always answer as scripted. -/
theorem System.Sound.exists_attempt (sound : S.Sound ifaddrs T) (o : ConnectOutcome) :
    ∃ a : Attempt, a.Meets o ifaddrs S.lib := by
  obtain ⟨n, fresh⟩ := Infinite.exists_notMem_finset (S.lib.sockets.map Int.toNat).toFinset
  rw [List.mem_toFinset] at fresh
  have unopened : (n : Int) ∉ S.lib.sockets := fun opened => fresh (List.mem_map_of_mem opened)
  refine ⟨⟨if o.socket then n else -1, o.connect, o.setsockopt, ifaddrs, true, true,
    if T.connections = [] then 1 else S.lib.pADSConnectionList, fun _ => 0, 0⟩,
    ?_, rfl, rfl, rfl, rfl, rfl, ?_⟩
  · unfold Attempt.descriptor
    cases o.socket with
    | false => simp
    | true => simp [unopened]
  · unfold Attempt.listFits
    by_cases empty : T.connections = []
    · simp [empty, sound.unused empty]
    · have counted : S.lib.nADSConnectionCnt ≠ 0 := by
        rw [sound.holds.count]
        exact fun zero => empty (List.eq_nil_of_length_eq_zero zero)
      simp [empty, counted, sound.holds.notNull empty]

/-- A request within bounds can be made in every state, unless it would come to an
interface without an address. -/
theorem System.Sound.exists_step (sound : S.Sound ifaddrs T) (addr : AmsAddr)
    (fits : r.call.Fits)
    (located : T.Misses addr → ((S.peers addr).next.socket = true ∧
      (S.peers addr).next.connect = none ∧ (S.peers addr).next.setsockopt = none) →
      Located unsetAddr ifaddrs) :
    ∃ out S', requestStep ifaddrs S ((addr, r), out) S' := by
  obtain ⟨a, meets⟩ := sound.exists_attempt (S.peers addr).next
  obtain ⟨lib', reply, made⟩ := @adsRequest_returns σ _ S.lib T addr a r (S.peers addr).sock
    sound.holds
    (fun misses => (meets.locatable_iff sound.holds sound.determined).mpr (located misses))
    (fun _ _ => ⟨meets.served.1, meets.served.2.2⟩) fits.inConnection
  rcases used : reply.connection with _ | i
  · refine ⟨_, ⟨lib', S.tried addr, S.connected addr a⟩, a, _, reply, meets, made, rfl, rfl, ?_⟩
    rw [used]
  · let after : System σ := ⟨lib', Function.update (S.tried addr) addr
      { S.tried addr addr with sock := reply.sock }, S.connected addr a⟩
    obtain ⟨T', request, sound'⟩ : ∃ T', T.Request addr r a (S.peers addr).sock T' reply ∧
        after.Sound ifaddrs T' := sound.request fits meets made rfl
    obtain ⟨dc, entry, key⟩ := request.used_key fits used
    refine ⟨_, after, a, _, reply, meets, made, rfl, rfl, ?_⟩
    rw [used]
    exact ⟨addr, sound'.endOf entry key, rfl, rfl⟩

/-! ## What an address sees -/

/-- A request on a connection leaves it the one of its address. -/
theorem Table.Finds.after {i : Nat} {dc : ADSConnection} {c : Call} (finds : T.Finds addr i dc)
    (fits : c.Fits) (s : σ) :
    Table.Finds { T with connections := T.connections.set i (c.run dc s).dc } addr i
      (c.run dc s).dc := by
  obtain ⟨bound, -⟩ := List.getElem?_eq_some_iff.mp finds.entry
  refine ⟨List.getElem?_set_self bound, (Call.run_key fits dc s).trans finds.key, ?_⟩
  intro j dc' before entry
  rw [List.getElem?_set_ne (by omega)] at entry
  exact finds.first j dc' before entry

omit [Socket σ] in
/-- A connection at the end is found where there was none. -/
theorem Table.Misses.append {dc : ADSConnection} (misses : T.Misses addr)
    (key : dc.key = addr.bytes) (sockets : List Int) (meAddr : AmsAddr) :
    Table.Finds ⟨T.connections ++ [dc], sockets, meAddr, T.defaultPort⟩ addr
      T.connections.length dc := by
  refine ⟨List.getElem?_concat_length, key, fun j dc' before entry => ?_⟩
  rw [List.getElem?_append_left before] at entry
  exact misses dc' (List.mem_of_getElem? entry)

end Systems

end LibAds
