import LibAds.ClientOutcomes

/-!
# Replies that carry an error

A reply has two error fields, the header's `errorCode` and the command's own
`result`. An operation that recognises its command looks at the result alone,
which in a reply without a data section is whatever an earlier packet left in
`msgIn`; the two writes recognise every command. `Call.rejects` says what then
has to stand in `msgIn` for the error to reach the caller.
-/

namespace LibAds

open ByteMemory SocketModel

/-! ## Fields of a packet that was received -/

/-- A field of a received packet reads as it does in the packet. -/
theorem get16_received {m : Mem} {p : List UInt8} {k : Nat} (inside : k + 2 ≤ p.length) :
    get16 (store m msgIn p) (msgIn + k) = get16 (ofList p) (0 + k) := by
  rw [Nat.zero_add]
  exact get16_store_within inside

theorem get32_received {m : Mem} {p : List UInt8} {k : Nat} (inside : k + 4 ≤ p.length) :
    get32 (store m msgIn p) (msgIn + k) = get32 (ofList p) (0 + k) := by
  rw [Nat.zero_add]
  exact get32_store_within inside

/-- Past the packet, the fields in `msgIn` are those from before the call. -/
theorem get32_request {c : Call} {dc : ADSConnection} {p : List UInt8} {k : Nat}
    (inside : k + 4 ≤ MAXDATALEN) :
    get32 (store (c.request dc).mem msgIn p) (msgIn + k) =
      get32 (store dc.mem msgIn p) (msgIn + k) := by
  apply get32_congr
  apply load_congr
  intro i within
  exact Call.store_request_mem (by unfold msgOut; omega)

/-! ## When an operation rejects the packet it has accepted -/

/-- `msgIn` makes a reading operation return an error and store nothing. -/
def rejectsRead (length : UInt32) (buffer pnRead : Bool) (m : Mem) : Prop :=
  (buffer ∧ length < lengthOf m) ∨
    (resultOf m ≠ 0 ∧ pnRead = false ∧ (buffer → lengthOf m = 0))

theorem readOutcome_rejects_iff (length : UInt32) (buffer pnRead : Bool) (m : Mem) :
    (readOutcome length buffer pnRead m).1 ≠ 0 ∧ (readOutcome length buffer pnRead m).2 = {} ↔
      rejectsRead length buffer pnRead m := by
  unfold readOutcome rejectsRead
  by_cases refused : buffer ∧ lengthOf m > length
  · rw [if_pos refused]
    exact iff_of_true ⟨by decide, rfl⟩ (Or.inl refused)
  · rw [if_neg refused]
    have noLoad : load m (msgIn + dataOffset + 8) (lengthOf m).toNat = [] ↔ lengthOf m = 0 := by
      rw [← List.length_eq_zero_iff, length_load, ← UInt32.toNat_inj]
      rfl
    have untaken : ¬ (buffer ∧ length < lengthOf m) := refused
    simp only [ne_eq, intOf_eq_zero_iff, Outputs.mk.injEq, untaken, false_or, and_true]
    cases buffer <;> cases pnRead <;> simp [noLoad]

/-- `msgIn` makes the operation return an error and store nothing, once it has
taken the packet there for its answer. -/
def Call.rejects : Call → Mem → Prop
  | .readBytes _ _ length buffer pnRead, m => rejectsRead length buffer pnRead m
  | .readWriteBytes _ _ readLength _ _ pnRead, m => rejectsRead readLength true pnRead m
  | .writeBytes .., m | .writeControl .., m => resultOf m ≠ 0
  | .readDeviceInfo, _ | .readState, _ => False

theorem Call.accept_rejects_iff (c : Call) (m : Mem) :
    (c.accept m).1 ≠ 0 ∧ (c.accept m).2 = {} ↔ c.rejects m := by
  cases c with
  | readBytes indexGroup offset length buffer pnRead => exact readOutcome_rejects_iff ..
  | readWriteBytes indexGroup offset readLength writeLength writeBuffer pnRead =>
      exact readOutcome_rejects_iff ..
  | writeBytes => simp [Call.accept, Call.rejects]
  | writeControl => simp [Call.accept, Call.rejects]
  | readDeviceInfo => simp [Call.accept, Call.rejects]
  | readState => simp [Call.accept, Call.rejects]

theorem Call.rejects_request {c : Call} {dc : ADSConnection} {p : List UInt8} :
    c.rejects (store (c.request dc).mem msgIn p) ↔ c.rejects (store dc.mem msgIn p) := by
  have result := @get32_request c dc p dataOffset (by decide)
  have length := @get32_request c dc p (dataOffset + 4) (by decide)
  rw [← Nat.add_assoc] at length
  cases c <;> simp only [Call.rejects, rejectsRead, resultOf, lengthOf, result, length]

/-! ## Error replies -/

/-- **When an error reply is reported.** Exactly when a reading operation finds
another command in it, or the result and length that `msgIn` is left with make
the operation reject it; the error code itself does not matter. -/
theorem error_reply_reported_iff {σ : Type} [Socket σ] (c : Call) (dc : ADSConnection)
    (s s₁ s' : σ) (p : List UInt8) (pt' : Option Timeval) (sends : c.Sends dc s s₁)
    (delivery : Delivers (readTimeout dc.iface.timeout) s₁ p pt' s') (complete : Complete p)
    (fits : p.length ≤ MAXDATALEN) (headers : dataOffset ≤ p.length)
    (error : errorCode (ofList p) 0 ≠ 0) :
    (c.run dc s).ret ≠ 0 ∧ (c.run dc s).outs = {} ↔
      (c.isWrite = false ∧ commandId (ofList p) 0 ≠ c.command) ∨
        c.rejects (store dc.mem msgIn p) := by
  have size : 38 ≤ p.length := headers
  unfold MAXDATALEN at fits
  obtain ⟨ret, outs⟩ := c.finish_decode dc (store (c.request dc).mem msgIn p) s'
    (by omega : 0 < p.length) (by omega) fun _ => headers
  rw [Call.run_complete sends delivery complete fits, ret, outs]
  have command : commandId (store (c.request dc).mem msgIn p) msgIn = commandId (ofList p) 0 :=
    get16_received (by omega)
  have code : errorCode (store (c.request dc).mem msgIn p) msgIn = errorCode (ofList p) 0 :=
    get32_received (by omega)
  by_cases foreign : c.isWrite = false ∧ commandId (ofList p) 0 ≠ c.command
  · rw [Call.decode_of_ne foreign.1 (by rw [command]; exact foreign.2), code]
    exact iff_of_true ⟨by rw [ne_eq, intOf_eq_zero_iff]; exact error, rfl⟩ (Or.inl foreign)
  · have accepted : c.isWrite ∨
        commandId (store (c.request dc).mem msgIn p) msgIn = c.command := by
      rw [command]
      by_contra neither
      rw [not_or, Bool.not_eq_true] at neither
      exact foreign neither
    rw [Call.decode, if_pos accepted, Call.accept_rejects_iff, Call.rejects_request]
    exact ⟨Or.inr, fun either => either.resolve_left foreign⟩

/-- Error 6, target port not found, in answer to a read state request. -/
def portNotFound : List UInt8 := adsPacket (firstReply cmdADSreadState 5 0 6) []

theorem portNotFound_reported_iff :
    let s : Script := ⟨[], arrive portNotFound ++ [], []⟩
    (Call.readState.run freshConnection s).ret ≠ 0 ∧
        (Call.readState.run freshConnection s).outs = {} ↔
      (Call.readState.isWrite = false ∧
          commandId (ofList portNotFound) 0 ≠ Call.readState.command) ∨
        Call.readState.rejects (store freshConnection.mem msgIn portNotFound) :=
  error_reply_reported_iff .readState freshConnection _ _ _ portNotFound _
    (Call.sends_script _ _ rfl (by decide +kernel)) (Script.delivers _ _ _ _ _)
    (adsPacket_complete (by decide)) (by decide) (by decide) (by decide +kernel)

/-- `ADSreadState()` reports that reply as success, with two states from before. -/
theorem error_reply_not_always_reported :
    ¬ ∀ (c : Call) (dc : ADSConnection) (s s₁ s' : Script) (p : List UInt8)
      (pt' : Option Timeval), c.Fits → c.Sends dc s s₁ →
      Delivers (readTimeout dc.iface.timeout) s₁ p pt' s' → Complete p →
      p.length ≤ MAXDATALEN → dataOffset ≤ p.length → errorCode (ofList p) 0 ≠ 0 →
      (c.run dc s).ret ≠ 0 ∧ (c.run dc s).outs = {} := by
  intro reported
  have outcome := reported .readState freshConnection ⟨[], arrive portNotFound ++ [], []⟩ _ _
    portNotFound _ trivial (Call.sends_script _ _ rfl (by decide +kernel))
    (Script.delivers _ _ _ _ _) (adsPacket_complete (by decide)) (by decide) (by decide)
    (by decide +kernel)
  have success : (Call.readState.run freshConnection
      (⟨[], arrive portNotFound ++ [], []⟩ : Script)).ret = 0 := by decide +kernel
  exact outcome.1 success

end LibAds
