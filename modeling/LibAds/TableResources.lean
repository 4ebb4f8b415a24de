import LibAds.TableRefinement

/-!
# The resources of the table

Two laws about what the table owns. Its block: `AdsPortClose()` frees the list
but keeps the pointer, so the pointer dangles until the next connection. Its
sockets: an attempt to connect that fails after `socket()` never closes the
descriptor, and nothing else knows it.
-/

namespace LibAds

open ByteMemory SocketModel LabelledRuns

variable {σ : Type} [Socket σ] {lib lib' : Library} {T T' : Table}

/-! ## The block of the list -/

/-- The list is NULL or an allocated block with as many entries as are counted. -/
def Library.ListLive (lib : Library) : Prop :=
  lib.pADSConnectionList = 0 ∨
    ∃ dcs, lib.blocks lib.pADSConnectionList = some dcs ∧ dcs.length = lib.nADSConnectionCnt

/-- No call frees the list twice or uses it after it was freed. -/
def Library.ListSafe (σ : Type) [Socket σ] (lib : Library) : Prop :=
  ∀ call : ApiCall σ, call.run lib ≠ .error .doubleFree ∧ call.run lib ≠ .error .wildPointer

theorem Library.Holds.listLive (holds : lib.Holds T)
    (null : T.connections = [] → lib.pADSConnectionList = 0) : lib.ListLive := by
  by_cases empty : T.connections = []
  · exact Or.inl (null empty)
  · exact Or.inr ⟨T.connections, holds.block empty, holds.count.symm⟩

/-- A request frees nothing twice and follows no pointer to a freed block. -/
theorem adsRequest_fault {addr : AmsAddr} {r : ApiRequest} {a : Attempt} {s : σ} {fault : Fault}
    (holds : lib.Holds T) (failed : adsRequest addr r a s lib = .error fault) :
    fault ≠ .doubleFree ∧ fault ≠ .wildPointer := by
  have ran : ∀ {dc : ADSConnection} {f : CallResult σ → Library × RequestReply σ},
      (r.call.exec dc s).map f = .error fault → fault ≠ .doubleFree ∧ fault ≠ .wildPointer := by
    intro dc f failed
    rcases eq : r.call.exec dc s with fault' | result <;> rw [eq] at failed <;> cases failed
    rcases Call.exec_eq_error eq with rfl | rfl <;> exact ⟨nofun, nofun⟩
  rcases T.lookup addr with ⟨i, dc, finds⟩ | misses
  · rw [adsRequest_found holds finds, holds.request finds.entry] at failed
    exact ran failed
  rcases a.ends T with succeeds | ⟨located, fails⟩ | unlocated
  · by_cases allocated : a.newInterface = true ∧ a.listFits lib
    · obtain ⟨lib₁, holds₁, -, request⟩ :=
        adsRequest_opened (r := r) (s := s) holds misses succeeds allocated.1 allocated.2
      rw [request, holds₁.request_last rfl] at failed
      exact ran failed
    · obtain ⟨fault', kind, unallocated⟩ :=
        adsRequest_unallocated (r := r) (s := s) holds misses succeeds allocated
      rw [unallocated] at failed
      cases failed
      rcases kind with rfl | rfl <;> exact ⟨nofun, nofun⟩
  · rw [adsRequest_failed holds misses located fails] at failed
    cases failed
  · rw [adsRequest_unlocated holds misses unlocated] at failed
    cases failed
    exact ⟨nofun, nofun⟩

/-- While the list is live no call faults on it. -/
theorem Library.Holds.listSafe (holds : lib.Holds T) (live : lib.ListLive) : lib.ListSafe σ := by
  have returns : ∀ {result : Except Fault (Library × Int)} {after : Library × Int},
      result = .ok after → result ≠ .error .doubleFree ∧ result ≠ .error .wildPointer := by
    rintro _ after rfl
    simp
  have timeouts : ∀ port nMs, adsSetTimeout port nMs lib ≠ .error .doubleFree ∧
      adsSetTimeout port nMs lib ≠ .error .wildPointer := by
    intro port nMs
    obtain ⟨lib₁, eq, -⟩ := adsSetTimeout_eq holds port nMs
    exact returns eq
  intro call
  cases call with
  | request addr r a s =>
      simp only [ApiCall.run]
      rcases made : adsRequest addr r a s lib with fault | ⟨lib₁, reply⟩
      · simpa [Except.map] using adsRequest_fault holds made
      · exact returns rfl
  | setTimeoutEx port nMs => exact timeouts port nMs
  | setTimeout nMs => exact timeouts lib.defaultPort nMs
  | getLocalAddressEx port ifaddrs =>
      rcases adsGetLocalAddressEx_cases port ifaddrs lib.meAddr with
        ⟨-, eq⟩ | ⟨-, -, eq⟩ | ⟨-, eq⟩ <;> rw [ApiCall.run, eq]
      · exact returns rfl
      · exact returns rfl
      · simp [Except.map]
  | portOpen => exact returns rfl
  | portClose =>
      have allocated : ¬ (lib.pADSConnectionList ≠ 0 ∧
          (lib.blocks lib.pADSConnectionList).isNone) := by
        rintro ⟨notNull, freed⟩
        rcases live with null | ⟨dcs, block, -⟩
        · exact notNull null
        · rw [block] at freed
          cases freed
      simp only [ApiCall.run, adsPortClose_eq holds, if_neg allocated]
      exact returns rfl

/-- Only closing empties a table. -/
theorem TableStep.emptied {call : ApiCall σ} (step : TableStep σ T call T')
    (empty : T'.connections = []) : T.connections = [] ∨ call = .portClose := by
  induction step with
  | request made =>
      cases made with
      | found finds => exact Or.inl (by simpa using empty)
      | failed => exact Or.inl empty
      | opened => exact absurd (List.append_eq_nil_iff.mp empty).2 (List.cons_ne_nil _ _)
  | timeout => exact Or.inl (List.map_eq_nil_iff.mp empty)
  | noTimeout => exact Or.inl empty
  | defaultTimeout _ ih => exact Or.inl ((ih empty).resolve_right nofun)
  | localAddress => exact Or.inl empty
  | noLocalAddress => exact Or.inl empty
  | portOpen => exact Or.inl empty
  | portClose => exact Or.inr rfl

/-- The calls that do not close a list that was there. -/
def keepsList (lib : Library) (call : ApiCall σ) : Prop :=
  call = .portClose → lib.pADSConnectionList = 0

/-- **The list of connections.** In a run that never closes a list that was
there, the pointer is NULL or refers to an allocated block with as many entries
as are counted, so no call frees or uses a list that was freed. -/
theorem list_live (calls : List (ApiCall σ)) (lib : Library)
    (run : Run (Guarded keepsList (apiStep σ)) .initial calls lib) :
    lib.ListLive ∧ lib.ListSafe σ := by
  obtain ⟨T, holds, null⟩ :
      ∃ T, lib.Holds T ∧ (T.connections = [] → lib.pADSConnectionList = 0) := by
    apply table_invariant run (fun _ _ _ => And.right) Library.initial_holds fun _ => rfl
    intro lib call lib' T T' holds null taken made pointer empty
    rw [pointer.resolve_right (not_not_intro empty)]
    exact (made.emptied empty).elim null taken.1
  have live := holds.listLive null
  exact ⟨live, holds.listSafe live⟩

/-- An attempt that the system grants: descriptor 3, an interface at 10.0.0.1. -/
def grantedAttempt : Attempt where
  socket := 3
  connect := none
  setsockopt := none
  ifaddrs := some LocalAddress.ethernet
  newInterface := true
  newConnection := true
  list := 4096
  heap := fun _ => 0
  adsError := 0

/-- The address of a PLC at 10.0.0.2. -/
def plcAddress : AmsAddr := ⟨netIdOf 0x0200000a, 801⟩

/-- Its state is read, and it stays silent. -/
def readPlcState : ApiCall Script := .request plcAddress .readState grantedAttempt ⟨[], [], []⟩

theorem readPlcState_made :
    ∃ lib reply, adsRequest plcAddress .readState grantedAttempt (⟨[], [], []⟩ : Script)
      .initial = .ok (lib, reply) ∧ reply.connection = some 0 := by
  have succeeds : grantedAttempt.Succeeds .initial := by decide
  have misses : Table.initial.Misses plcAddress := nofun
  obtain ⟨lib, reply, made⟩ := @adsRequest_returns Script _ .initial .initial plcAddress
    grantedAttempt .readState ⟨[], [], []⟩ Library.initial_holds (fun _ _ => by decide)
    (fun _ _ => ⟨rfl, by decide⟩) (by decide)
  obtain ⟨T, request, -⟩ := adsRequest_refines Library.initial_holds made
  refine ⟨lib, reply, made, ?_⟩
  cases request with
  | found finds => exact absurd misses finds.not_misses
  | failed _ _ fails => exact absurd succeeds fails
  | opened => rfl

theorem readPlcState_opens :
    ∃ lib T, apiStep Script .initial readPlcState lib ∧ lib.Holds T ∧ T.connections ≠ [] := by
  obtain ⟨lib, reply, made, used⟩ := readPlcState_made
  obtain ⟨T, request, holds, -⟩ := adsRequest_refines Library.initial_holds made
  refine ⟨lib, T, adsRequest_step made, holds, ?_⟩
  cases request with
  | found finds =>
      exact List.ne_nil_of_mem (List.mem_of_getElem? (List.getElem?_set_self
        (List.getElem?_eq_some_iff.mp finds.entry).1))
  | failed => cases used
  | opened => exact List.append_ne_nil_of_right_ne_nil _ (List.cons_ne_nil _ _)

/-- The port is closed before there is a list, and then the state is read. -/
theorem list_live_connected :
    ∃ lib, Run (Guarded keepsList (apiStep Script)) .initial [.portClose, readPlcState] lib ∧
      lib.pADSConnectionList ≠ 0 ∧ lib.ListLive ∧ lib.ListSafe Script := by
  obtain ⟨lib, T, step, holds, nonempty⟩ := readPlcState_opens
  have closed : apiStep Script .initial .portClose .initial := ⟨0, rfl⟩
  have run : Run (Guarded keepsList (apiStep Script)) .initial [.portClose, readPlcState] lib :=
    .cons ⟨fun _ => rfl, closed⟩ (.single ⟨nofun, step⟩)
  exact ⟨lib, run, holds.notNull nonempty, list_live [.portClose, readPlcState] lib run⟩

/-- Closing a list that was there leaves the pointer on a freed block. -/
theorem close_dangles (holds : lib.Holds T) (nonempty : T.connections ≠ []) :
    ∃ lib', apiStep σ lib .portClose lib' ∧ ¬ lib'.ListLive := by
  have block := holds.block nonempty
  have notNull := holds.notNull nonempty
  have allocated : ¬ (lib.pADSConnectionList ≠ 0 ∧
      (lib.blocks lib.pADSConnectionList).isNone) := by
    rw [block]
    exact nofun
  have close : adsPortClose lib = .ok _ := (adsPortClose_eq holds).trans (if_neg allocated)
  refine ⟨_, ⟨0, congrArg (Except.map fun lib => (lib, (0 : Int))) close⟩, ?_⟩
  rintro (null | ⟨dcs, live, -⟩)
  · exact notNull null
  · simp [notNull] at live

/-- A request and then `AdsPortClose()`. -/
theorem list_not_always_live :
    ¬ ∀ (calls : List (ApiCall Script)) (lib : Library),
      Run (apiStep Script) .initial calls lib → lib.ListLive ∧ lib.ListSafe Script := by
  intro live
  obtain ⟨lib, T, step, holds, nonempty⟩ := readPlcState_opens
  obtain ⟨lib', close, dangles⟩ := @close_dangles Script _ lib T holds nonempty
  exact dangles (live [readPlcState, .portClose] lib' (.cons step (.single close))).1

/-! ## The sockets -/

/-- The descriptors of the connections. -/
def Table.descriptors (T : Table) : List Int := (T.connections.map (·.iface)).map (·.sd)

/-- The sockets open are those of the connections. -/
def Table.Accounted (T : Table) : Prop := ∀ fd, fd ∈ T.sockets ↔ fd ∈ T.descriptors

/-- No attempt that was given a socket fails after that. -/
def keepsSocket (lib : Library) (call : ApiCall σ) : Prop :=
  ∀ addr r a s, call = .request addr r a s → ∀ T, lib.Holds T → T.Misses addr →
    a.descriptor T.sockets ≠ -1 → a.Succeeds T

theorem Attempt.Succeeds.descriptor {a : Attempt} (succeeds : a.Succeeds T) :
    a.descriptor T.sockets ≠ -1 := by
  intro none
  have connected := succeeds.1.1
  unfold Attempt.connectFails at connected
  rw [if_pos none] at connected
  cases connected

theorem Table.mem_descriptors (T : Table) (fd : Int) :
    fd ∈ T.descriptors ↔ ∃ dc ∈ T.connections, dc.iface.sd = fd := by
  simp [Table.descriptors]

/-- Closing the sockets of all connections closes all sockets. -/
theorem Table.Accounted.closed (accounted : T.Accounted) :
    (T.sockets.filter fun fd => ∀ dc ∈ T.connections, fd ≠ dc.iface.sd) = [] := by
  apply List.filter_eq_nil_iff.mpr
  intro fd opened
  obtain ⟨dc, inside, rfl⟩ := (T.mem_descriptors fd).mp ((accounted fd).mp opened)
  simp only [decide_eq_true_eq]
  exact fun others => others dc inside rfl

/-- A descriptor that is created for a connection is put into the table with it. -/
theorem Table.Request.accounted {addr : AmsAddr} {r : ApiRequest} {a : Attempt} {s : σ}
    {reply : RequestReply σ} (made : T.Request addr r a s T' reply)
    (keeps : T.Misses addr → a.descriptor T.sockets ≠ -1 → a.Succeeds T)
    (accounted : T.Accounted) : T'.Accounted := by
  intro fd
  cases made with
  | found finds =>
      unfold Table.descriptors
      rw [finds.map_set (Call.run_iface _ _ _)]
      exact accounted fd
  | failed misses _ fails =>
      have uncreated : a.descriptor T.sockets = -1 := by
        by_contra created
        exact fails (keeps misses created)
      show fd ∈ a.sockets T ↔ _
      rw [Attempt.sockets, if_pos uncreated]
      exact accounted fd
  | opened misses succeeds =>
      have descriptors : Table.descriptors
          { T with
            connections := T.connections ++ [(r.call.run (a.connection addr T) s).dc]
            sockets := a.sockets T
            meAddr := a.meAddr T } = T.descriptors ++ [a.descriptor T.sockets] := by
        simp only [Table.descriptors, List.map_append, List.map_cons, List.map_nil,
          Call.run_iface]
        rfl
      show fd ∈ a.sockets T ↔ _
      rw [descriptors, Attempt.sockets, if_neg succeeds.descriptor, List.mem_cons,
        List.mem_append, List.mem_singleton, accounted fd]
      exact or_comm

theorem TableStep.accounted {call : ApiCall σ} (holds : lib.Holds T)
    (step : TableStep σ T call T') (keeps : keepsSocket lib call) (accounted : T.Accounted) :
    T'.Accounted := by
  induction step with
  | request made => exact made.accounted (keeps _ _ _ _ rfl T holds) accounted
  | @timeout port nMs =>
      have descriptors : Table.descriptors
          { T with connections := T.connections.map (.setTimeout nMs) } = T.descriptors := by
        simp only [Table.descriptors, List.map_map]
        rfl
      intro fd
      rw [descriptors]
      exact accounted fd
  | noTimeout => exact accounted
  | defaultTimeout _ ih => exact ih fun _ _ _ _ request => nomatch request
  | localAddress => exact accounted
  | noLocalAddress => exact accounted
  | portOpen => exact accounted
  | portClose =>
      intro fd
      show fd ∈ T.sockets.filter _ ↔ fd ∈ []
      rw [accounted.closed]

/-- The sockets the library has open are those of its connections; an attempt
that gets no descriptor leaves them, and closing the port closes them all. -/
structure Library.SocketsAccounted (lib : Library) : Prop where
  owned : ∃ dcs, lib.connections = .ok dcs ∧
    ∀ fd, fd ∈ lib.sockets ↔ ∃ dc ∈ dcs, dc.iface.sd = fd
  refused : ∀ (addr : AmsAddr) (a : Attempt), a.descriptor lib.sockets = -1 →
    ∃ lib' adsError, adsSocketConnect addr a lib = .ok (lib', .error adsError) ∧
      lib'.sockets = lib.sockets
  closed : ∀ lib', adsPortClose lib = .ok lib' → lib'.sockets = []

/-- **The open sockets.** In a run without an attempt that was given a socket and
failed after that, the sockets open are exactly those of the connections. -/
theorem sockets_accounted (calls : List (ApiCall σ)) (lib : Library)
    (run : Run (Guarded keepsSocket (apiStep σ)) .initial calls lib) : lib.SocketsAccounted := by
  obtain ⟨T, holds, accounted⟩ : ∃ T, lib.Holds T ∧ T.Accounted := by
    apply table_invariant run (fun _ _ _ => And.right) Library.initial_holds fun fd => Iff.rfl
    intro lib call lib' T T' holds accounted taken made _
    exact made.accounted holds taken.1 accounted
  refine ⟨⟨T.connections, holds.connections, fun fd => ?_⟩, fun addr a uncreated => ?_,
    fun lib' close => ?_⟩
  · rw [holds.sockets, accounted fd, T.mem_descriptors]
  · rw [holds.sockets] at uncreated ⊢
    have unconnected : ¬ a.Connects T := by
      intro connects
      rw [Attempt.Connects, Attempt.connectFails, if_pos uncreated] at connects
      cases connects.1
    exact ⟨_, _, adsSocketConnect_refused holds unconnected, if_pos uncreated⟩
  · rw [adsPortClose_eq holds] at close
    split at close
    · cases close
    · cases close
      exact accounted.closed

theorem sockets_accounted_connected :
    ∃ lib, Run (Guarded keepsSocket (apiStep Script)) .initial [readPlcState] lib ∧
      lib.SocketsAccounted := by
  obtain ⟨lib, T, step, -⟩ := readPlcState_opens
  have keeps : keepsSocket .initial readPlcState := by
    rintro addr r a s request T holds - -
    cases request
    have connects : grantedAttempt.connectFails T.sockets = none := by
      rw [← holds.sockets]
      decide
    refine ⟨⟨connects, rfl⟩, ?_, rfl⟩
    rw [← holds.meAddr]
    decide
  have run : Run (Guarded keepsSocket (apiStep Script)) .initial [readPlcState] lib :=
    .single ⟨keeps, step⟩
  exact ⟨lib, run, sockets_accounted [readPlcState] lib run⟩

/-- The PLC is not there: `connect()` fails with 111. -/
def refusedAttempt : Attempt := { grantedAttempt with connect := some 111 }

/-- The same request, refused. -/
def refusedPlcState : ApiCall Script := .request plcAddress .readState refusedAttempt ⟨[], [], []⟩

/-- Its descriptor stays open. -/
theorem sockets_not_always_accounted :
    ¬ ∀ (calls : List (ApiCall Script)) (lib : Library),
      Run (apiStep Script) .initial calls lib → lib.SocketsAccounted := by
  intro accounted
  have made := @adsRequest_failed Script _ .initial .initial plcAddress refusedAttempt .readState
    ⟨[], [], []⟩ Library.initial_holds nofun (by decide) (by decide)
  obtain ⟨dcs, connections, owned⟩ :=
    (accounted [refusedPlcState] _ (.single (adsRequest_step made))).owned
  cases connections
  obtain ⟨dc, inside, -⟩ := (owned 3).mp (by decide)
  cases inside

end LibAds
