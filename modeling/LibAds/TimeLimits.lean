import LibAds.TableLookup

/-!
# The time limit of a request

`AdsSetTimeout()` writes the limit into the connections there are. A connection
that is opened later has the limit `calloc()` gives it, 0, with which its reader
waits without end. So a request reads its reply within the limit set last
exactly when its connection was there when it was set, or the limit is 0.
-/

namespace LibAds

open ByteMemory SocketModel LabelledRuns

variable {σ : Type} [Socket σ] {lib lib' : Library} {T T' : Table} {addr : AmsAddr}
  {r : ApiRequest} {a : Attempt} {s : σ} {reply : RequestReply σ}

/-! ## Limits in the order of the table -/

/-- The time limits of the connections. -/
def Table.timeouts (T : Table) : List Int := (T.connections.map (·.iface)).map (·.timeout)

/-- No limit is set: the port is not valid. -/
def leavesTimeout (lib : Library) : ApiCall σ → Prop
  | .setTimeoutEx port _ => port ≤ 0
  | .setTimeout _ => lib.defaultPort ≤ 0
  | _ => True

/-- A connection that is opened has no limit. -/
theorem Table.Request.timeouts (made : T.Request addr r a s T' reply) :
    T'.timeouts = T.timeouts ∨ T.Misses addr ∧ T'.timeouts = T.timeouts ++ [0] := by
  unfold Table.timeouts
  cases made with
  | found finds => exact Or.inl (congrArg _ (finds.map_set (Call.run_iface _ _ _)))
  | failed => exact Or.inl rfl
  | opened misses =>
      refine Or.inr ⟨misses, ?_⟩
      rw [List.map_append, List.map_append, List.map_singleton, Call.run_iface]
      rfl

/-- Without a setting the limits stay and zeros come behind them, or all
connections are closed. -/
theorem TableStep.timeouts {call : ApiCall σ} (holds : lib.Holds T)
    (leaves : leavesTimeout lib call) (step : TableStep σ T call T') :
    (call ≠ .portClose ∧ ∃ k, T'.timeouts = T.timeouts ++ List.replicate k 0) ∨
      (call = .portClose ∧ T'.timeouts = []) := by
  have same : ∃ k, T.timeouts = T.timeouts ++ List.replicate k 0 :=
    ⟨0, (List.append_nil _).symm⟩
  cases step with
  | request made =>
      refine Or.inl ⟨nofun, ?_⟩
      rcases made.timeouts with kept | ⟨-, longer⟩
      · exact kept ▸ same
      · exact ⟨1, longer⟩
  | timeout valid => exact absurd leaves valid
  | noTimeout => exact Or.inl ⟨nofun, same⟩
  | defaultTimeout step =>
      have invalid : T.defaultPort ≤ 0 := holds.defaultPort ▸ leaves
      cases step with
      | timeout valid => exact absurd invalid valid
      | noTimeout => exact Or.inl ⟨nofun, same⟩
  | localAddress => exact Or.inl ⟨nofun, same⟩
  | noLocalAddress => exact Or.inl ⟨nofun, same⟩
  | portOpen => exact Or.inl ⟨nofun, same⟩
  | portClose => exact Or.inr ⟨rfl, rfl⟩

/-- What a run without a setting leaves of the limits. -/
theorem timeouts_after {calls : List (ApiCall σ)} (holds : lib.Holds T)
    (run : Run (Guarded leavesTimeout (apiStep σ)) lib calls lib') :
    ∃ T', lib'.Holds T' ∧ ∃ k,
      (.portClose ∉ calls ∧ T'.timeouts = T.timeouts ++ List.replicate k 0) ∨
      (.portClose ∈ calls ∧ T'.timeouts = List.replicate k 0) := by
  induction run generalizing T with
  | nil lib => exact ⟨T, holds, 0, Or.inl ⟨List.not_mem_nil, (List.append_nil _).symm⟩⟩
  | cons taken _ ih =>
      rcases taken with ⟨leaves, step⟩
      obtain ⟨T₁, made, holds₁, -⟩ := apiStep_refines holds step
      obtain ⟨T', holds', k, rest⟩ := ih holds₁
      refine ⟨T', holds', ?_⟩
      rcases made.timeouts holds leaves with ⟨stays, j, first⟩ | ⟨rfl, first⟩
      · rcases rest with ⟨none, timeouts⟩ | ⟨closed, timeouts⟩
        · refine ⟨j + k, Or.inl ⟨?_, ?_⟩⟩
          · rw [List.mem_cons, not_or]
            exact ⟨stays.symm, none⟩
          · rw [timeouts, first, List.append_assoc, List.replicate_append_replicate]
        · exact ⟨k, Or.inr ⟨List.mem_cons_of_mem _ closed, timeouts⟩⟩
      · refine ⟨k, Or.inr ⟨List.mem_cons_self .., ?_⟩⟩
        rcases rest with ⟨-, timeouts⟩ | ⟨-, timeouts⟩
        · rw [timeouts, first, List.nil_append]
        · exact timeouts

theorem setTimeoutEx_sets {port n : Int32}
    (holds : lib.Holds T)
    (set : (ApiCall.setTimeoutEx port n : ApiCall σ).run lib = .ok (lib', 0)) :
    ∃ T', lib'.Holds T' ∧ T'.timeouts = List.replicate lib.nADSConnectionCnt n.toInt := by
  obtain ⟨lib₁, eq, -, holds₁⟩ := adsSetTimeout_eq holds port n
  have valid : ¬ port ≤ 0 := by
    intro invalid
    simp [ApiCall.run, eq, invalid] at set
  rw [ApiCall.run, eq, if_neg valid] at set
  cases set
  rw [if_neg valid] at holds₁
  refine ⟨_, holds₁, ?_⟩
  rw [Table.timeouts, List.map_map, List.map_map, holds.count]
  exact List.map_const

/-! ## The limit of a request -/

/-- The time limit of the connection at an index; a request does not change it. -/
def Library.timeoutAt (lib : Library) (i : Nat) : Option Int :=
  match lib.connections with
  | .ok dcs => (dcs[i]?).map (·.iface.timeout)
  | .error _ => none

theorem Library.Holds.timeoutAt (holds : lib.Holds T) (i : Nat) :
    lib.timeoutAt i = T.timeouts[i]? := by
  simp only [Library.timeoutAt, holds.connections, Table.timeouts, List.map_map,
    List.getElem?_map, Function.comp_def]

/-- One of the first connections has the key of an address. -/
def Library.OpenedBefore (lib : Library) (cnt : Nat) (addr : AmsAddr) : Prop :=
  ∃ dcs, lib.connections = .ok dcs ∧ ∃ dc ∈ dcs.take cnt, dc.key = addr.bytes

theorem Library.Holds.openedBefore_iff (holds : lib.Holds T) {cnt : Nat} :
    lib.OpenedBefore cnt addr ↔ ∃ dc ∈ T.connections.take cnt, dc.key = addr.bytes := by
  simp only [Library.OpenedBefore, holds.connections, Except.ok.injEq, exists_eq_left']

/-- Where the first connections have a limit and all others have none, a request
has the limit if its connection is one of the first. -/
theorem adsRequest_timeout {i cnt k : Nat} {v : Int} (holds : lib.Holds T)
    (timeouts : T.timeouts = List.replicate cnt v ++ List.replicate k 0)
    (made : adsRequest addr r a s lib = .ok (lib', reply)) (used : reply.connection = some i) :
    (lib.OpenedBefore cnt addr ∧ lib'.timeoutAt i = some v) ∨
      (¬ lib.OpenedBefore cnt addr ∧ lib'.timeoutAt i = some 0) := by
  obtain ⟨T', request, holds', -⟩ := adsRequest_refines holds made
  rw [holds.openedBefore_iff, holds'.timeoutAt]
  cases request with
  | @found j dc finds =>
      cases used
      have kept : Table.timeouts { T with connections := T.connections.set i (r.call.run dc s).dc } =
          T.timeouts := congrArg (List.map ADSInterface.timeout) (finds.map_set (Call.run_iface _ _ _))
      rw [kept, timeouts]
      by_cases early : i < cnt
      · refine Or.inl ⟨⟨dc, ?_, finds.key⟩, ?_⟩
        · exact List.mem_of_getElem? ((List.getElem?_take_of_lt early).trans finds.entry)
        · rw [List.getElem?_append_left (by simpa using early), List.getElem?_replicate,
            if_pos early]
      · refine Or.inr ⟨?_, ?_⟩
        · rintro ⟨dc', inside, key⟩
          obtain ⟨j, bound, rfl⟩ := List.mem_take_iff_getElem.mp inside
          exact finds.first j _ (by omega) (List.getElem?_eq_getElem (by omega)) key
        · have bound : i < T.timeouts.length := by
            obtain ⟨bound, -⟩ := List.getElem?_eq_some_iff.mp finds.entry
            simpa [Table.timeouts] using bound
          rw [timeouts, List.length_append, List.length_replicate, List.length_replicate] at bound
          rw [List.getElem?_append_right (by simpa using early), List.length_replicate,
            List.getElem?_replicate, if_pos (by omega)]
  | failed => cases used
  | opened misses =>
      cases used
      refine Or.inr ⟨?_, ?_⟩
      · rintro ⟨dc', inside, key⟩
        exact misses dc' (List.mem_of_mem_take inside) key
      · simp only [Table.timeouts, List.map_append, List.map_cons, List.map_nil, Call.run_iface]
        exact (List.getElem?_append_right (by simp)).trans (by simp [Attempt.connection,
          adsNewConnection, adsNewInterface])

/-- **The time limit.** After `AdsSyncSetTimeoutEx()` has set a limit, and before
another is set, a request reads its reply within that limit if and only if it is
0, or the connection was there when it was set and is not closed since. -/
theorem timeout_kept_iff (calls₀ calls : List (ApiCall σ)) (lib₀ lib₁ lib₂ lib₃ : Library)
    (port n : Int32) (addr : AmsAddr) (r : ApiRequest) (a : Attempt) (s : σ)
    (reply : RequestReply σ) (i : Nat) (before : Run (apiStep σ) .initial calls₀ lib₀)
    (set : (ApiCall.setTimeoutEx port n : ApiCall σ).run lib₀ = .ok (lib₁, 0))
    (between : Run (Guarded leavesTimeout (apiStep σ)) lib₁ calls lib₂)
    (made : adsRequest addr r a s lib₂ = .ok (lib₃, reply)) (used : reply.connection = some i) :
    lib₃.timeoutAt i = some n.toInt ↔
      n = 0 ∨ (.portClose ∉ calls ∧ lib₂.OpenedBefore lib₀.nADSConnectionCnt addr) := by
  have zero : some (0 : Int) = some n.toInt ↔ n = 0 := by
    rw [Option.some.injEq]
    exact ⟨fun equal => Int32.toInt_inj.mp equal.symm, fun equal => equal ▸ rfl⟩
  obtain ⟨T₀, holds₀⟩ := apiRun_holds before Library.initial_holds
  obtain ⟨T₁, holds₁, timeouts₁⟩ := setTimeoutEx_sets holds₀ set
  obtain ⟨T₂, holds₂, k, ⟨open', timeouts₂⟩ | ⟨closed, timeouts₂⟩⟩ := timeouts_after holds₁ between
  · rw [timeouts₁] at timeouts₂
    rcases adsRequest_timeout holds₂ timeouts₂ made used with ⟨early, limit⟩ | ⟨late, limit⟩
    · rw [limit]
      exact iff_of_true rfl (Or.inr ⟨open', early⟩)
    · rw [limit, zero]
      exact (or_iff_left fun kept => late kept.2).symm
  · rcases @adsRequest_timeout σ _ _ _ _ _ _ _ _ _ i 0 k 0 holds₂ timeouts₂ made used with
      ⟨-, limit⟩ | ⟨-, limit⟩ <;>
    · rw [limit, zero]
      exact (or_iff_left fun kept => kept.1 closed).symm

/-- The state of a PLC is read, then the limit is set, then it is read again. -/
theorem timeout_kept_reread :
    ∃ lib₀ lib₁ lib₃ i, ∃ reply : RequestReply Script,
      Run (apiStep Script) .initial [readPlcState] lib₀ ∧
      (ApiCall.setTimeoutEx 1 5000 : ApiCall Script).run lib₀ = .ok (lib₁, 0) ∧
      adsRequest plcAddress .readState grantedAttempt ⟨[], [], []⟩ lib₁ = .ok (lib₃, reply) ∧
      reply.connection = some i ∧ lib₃.timeoutAt i = some 5000 := by
  obtain ⟨lib₀, T₀, step, holds₀, dc, entry, address⟩ := readPlcState_entry
  obtain ⟨lib₁, set, -, holds₁⟩ := adsSetTimeout_eq holds₀ 1 5000
  rw [if_neg (by decide)] at set holds₁
  have entry₁ : (T₀.connections.map (.setTimeout 5000))[0]? = some (dc.setTimeout 5000) := by
    rw [List.getElem?_map, entry]
    rfl
  have finds : Table.Finds { T₀ with connections := T₀.connections.map (.setTimeout 5000) }
      plcAddress 0 (dc.setTimeout 5000) :=
    ⟨entry₁, ADSConnection.key_of_address address, nofun⟩
  have made := @adsRequest_found Script _ _ _ plcAddress grantedAttempt .readState ⟨[], [], []⟩
    holds₁ 0 _ finds
  rw [holds₁.request finds.entry, Call.exec_eq_ok.mpr ⟨by decide, rfl⟩] at made
  have before : Run (apiStep Script) .initial [readPlcState] lib₀ := .single step
  have early : lib₁.OpenedBefore lib₀.nADSConnectionCnt plcAddress := by
    rw [holds₁.openedBefore_iff, holds₀.count]
    refine ⟨dc.setTimeout 5000, ?_, finds.key⟩
    rw [List.take_of_length_le (by simp)]
    exact List.mem_of_getElem? entry₁
  refine ⟨lib₀, lib₁, _, 0, _, before, set, made, rfl, ?_⟩
  exact (timeout_kept_iff [readPlcState] [] lib₀ lib₁ lib₁ _ 1 5000 plcAddress .readState
    grantedAttempt ⟨[], [], []⟩ _ 0 before set (.nil lib₁) made rfl).mpr
    (Or.inr ⟨List.not_mem_nil, early⟩)

/-- The limit is set before the first request, which has none. -/
theorem timeout_not_always_kept :
    ¬ ∀ (calls₀ calls : List (ApiCall Script)) (lib₀ lib₁ lib₂ lib₃ : Library) (port n : Int32)
      (addr : AmsAddr) (r : ApiRequest) (a : Attempt) (s : Script) (reply : RequestReply Script)
      (i : Nat), Run (apiStep Script) .initial calls₀ lib₀ →
      (ApiCall.setTimeoutEx port n : ApiCall Script).run lib₀ = .ok (lib₁, 0) →
      Run (Guarded leavesTimeout (apiStep Script)) lib₁ calls lib₂ →
      adsRequest addr r a s lib₂ = .ok (lib₃, reply) → reply.connection = some i →
      lib₃.timeoutAt i = some n.toInt := by
  intro kept
  obtain ⟨lib, reply, made, used⟩ := readPlcState_made
  have limit := kept [] [] .initial .initial .initial lib 1 5000 plcAddress .readState
    grantedAttempt ⟨[], [], []⟩ reply 0 (.nil _) rfl (.nil _) made used
  have empty : Table.initial.timeouts = List.replicate 0 0 ++ List.replicate 0 0 := rfl
  rcases adsRequest_timeout Library.initial_holds empty made used with
    ⟨⟨dcs, table, dc, inside, -⟩, -⟩ | ⟨-, none⟩
  · cases table
    cases inside
  · rw [none] at limit
    cases limit

end LibAds
