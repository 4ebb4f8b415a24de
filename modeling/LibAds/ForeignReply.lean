import LibAds.ErrorReply

/-!
# Packets that answer something else

An operation that returns 0 tells its caller that the packet it read was the
response to its own command. None of the six looks at the response bit, the two
writes do not look at the command either, and the operations that read data
return the header's error code, normally 0, for a packet of another command.
`Call.trustworthy` is the condition on a packet under which a return value of 0
can be believed.
-/

namespace LibAds

open ByteMemory SocketModel

/-! ## What a response has to hold -/

/-- Both headers and the fixed part of the command's response struct. -/
def Call.responseSize : Call → Nat
  | .readBytes .. | .readWriteBytes .. | .readState => dataOffset + 8
  | .writeBytes .. | .writeControl .. => dataOffset + 4
  | .readDeviceInfo => dataOffset + 32

/-- `result` of the response in a packet. -/
def packetResult (p : List UInt8) : UInt32 := get32 (ofList p) (0 + dataOffset)

/-- `length` of the read or read-write response in a packet. -/
def packetLength (p : List UInt8) : UInt32 := get32 (ofList p) (0 + (dataOffset + 4))

/-- The outputs of a reading operation have been assigned from the packet. -/
def assignedRead (buffer pnRead : Bool) (p : List UInt8) (outs : Outputs) : Prop :=
  (buffer → dataOffset + 8 + (packetLength p).toNat ≤ p.length ∧
      outs.buffer = load (ofList p) (dataOffset + 8) (packetLength p).toNat) ∧
    (pnRead → outs.pnRead = some (packetLength p))

/-- Every output of the caller has been assigned from the packet. -/
def Call.assigned : Call → List UInt8 → Outputs → Prop
  | .readBytes _ _ _ buffer pnRead, p, outs => assignedRead buffer pnRead p outs
  | .readWriteBytes _ _ _ _ _ pnRead, p, outs => assignedRead true pnRead p outs
  | .writeBytes .., _, _ | .writeControl .., _, _ => True
  | .readDeviceInfo, p, outs =>
    outs.pVersion = some (.read (ofList p) (dataOffset + 4)) ∧
      outs.pDevName = some (load (ofList p) (dataOffset + 8) 16)
  | .readState, p, outs =>
    outs.ADSstate = some (get16 (ofList p) (dataOffset + 4)) ∧
      outs.devState = some (get16 (ofList p) (dataOffset + 6))

/-- The bit of a response is set. -/
def isResponse (p : List UInt8) : Prop := stateFlags (ofList p) 0 &&& sfAMSresponse ≠ 0

/-! ## What the operations look at -/

/-- The response makes the operation fail. -/
def Call.fails : Call → List UInt8 → Prop
  | .readBytes _ _ length buffer _, p => (buffer ∧ length < packetLength p) ∨ packetResult p ≠ 0
  | .readWriteBytes _ _ readLength _ _ _, p => readLength < packetLength p ∨ packetResult p ≠ 0
  | _, p => packetResult p ≠ 0

/-- The data a reading operation copies lie in the packet. -/
def Call.contained : Call → List UInt8 → Prop
  | .readBytes _ _ _ buffer _, p =>
    buffer → dataOffset + 8 + (packetLength p).toNat ≤ p.length
  | .readWriteBytes .., p => dataOffset + 8 + (packetLength p).toNat ≤ p.length
  | _, _ => True

/-- The packet under which a return value of 0 can be believed. -/
def Call.trustworthy (c : Call) (p : List UInt8) : Prop :=
  if c.isWrite ∨ commandId (ofList p) 0 = c.command then
    c.fails p ∨ (commandId (ofList p) 0 = c.command ∧ isResponse p ∧ c.contained p)
  else errorCode (ofList p) 0 ≠ 0

theorem lengthOf_received {m : Mem} {p : List UInt8} (inside : dataOffset + 8 ≤ p.length) :
    lengthOf (store m msgIn p) = packetLength p := by
  unfold lengthOf
  rw [Nat.add_assoc]
  exact get32_received (by omega)

theorem readOutcome_received {length : UInt32} {buffer pnRead : Bool} {m : Mem} {p : List UInt8}
    (inside : dataOffset + 8 ≤ p.length) :
    ((readOutcome length buffer pnRead (store m msgIn p)).1 = 0 ↔
      ¬ ((buffer ∧ length < packetLength p) ∨ packetResult p ≠ 0)) ∧
    ((readOutcome length buffer pnRead (store m msgIn p)).1 = 0 →
      (assignedRead buffer pnRead p (readOutcome length buffer pnRead (store m msgIn p)).2 ↔
        (buffer → dataOffset + 8 + (packetLength p).toNat ≤ p.length))) := by
  have result : resultOf (store m msgIn p) = packetResult p := get32_received (by omega)
  unfold readOutcome
  rw [lengthOf_received inside, result]
  by_cases refused : buffer ∧ packetLength p > length
  · rw [if_pos refused]
    exact ⟨iff_of_false (by decide) (not_not_intro (Or.inl refused)),
      fun zero => absurd zero (by decide)⟩
  · rw [if_neg refused]
    have untaken : ¬ (buffer ∧ length < packetLength p) := refused
    refine ⟨by simp [untaken], fun _ => ?_⟩
    unfold assignedRead
    constructor
    · exact fun assigned data => (assigned.1 data).1
    · intro contained
      refine ⟨fun data => ⟨contained data, ?_⟩, fun wanted => by simp [wanted]⟩
      simp only [data, if_true]
      rw [Nat.add_assoc]
      exact load_store_within (contained data)

theorem Call.accept_received {c : Call} {m : Mem} {p : List UInt8}
    (size : c.responseSize ≤ p.length) :
    ((c.accept (store m msgIn p)).1 = 0 ↔ ¬ c.fails p) ∧
      ((c.accept (store m msgIn p)).1 = 0 →
        (c.assigned p (c.accept (store m msgIn p)).2 ↔ c.contained p)) := by
  cases c with
  | readBytes indexGroup offset length buffer pnRead => exact readOutcome_received size
  | readWriteBytes indexGroup offset readLength writeLength writeBuffer pnRead =>
      have outcome := @readOutcome_received readLength true pnRead m p size
      simp only [true_and, forall_const] at outcome
      exact outcome
  | writeBytes indexGroup offset length data =>
      have result : resultOf (store m msgIn p) = packetResult p := get32_received size
      simp [Call.accept, Call.fails, Call.assigned, Call.contained, result]
  | writeControl ADSstate devState data length =>
      have result : resultOf (store m msgIn p) = packetResult p := get32_received size
      simp [Call.accept, Call.fails, Call.assigned, Call.contained, result]
  | readDeviceInfo =>
      have inside : dataOffset + 32 ≤ p.length := size
      have result : resultOf (store m msgIn p) = packetResult p := get32_received (by omega)
      have version : AdsVersion.read (store m msgIn p) (msgIn + dataOffset + 4) =
          .read (ofList p) (dataOffset + 4) := by
        rw [Nat.add_assoc]
        exact AdsVersion.read_congr (load_store_within (by omega))
      have name : load (store m msgIn p) (msgIn + dataOffset + 8) 16 =
          load (ofList p) (dataOffset + 8) 16 := by
        rw [Nat.add_assoc]
        exact load_store_within (by omega)
      simp [Call.accept, Call.fails, Call.assigned, Call.contained, result, version, name]
  | readState =>
      have inside : dataOffset + 8 ≤ p.length := size
      have result : resultOf (store m msgIn p) = packetResult p := get32_received (by omega)
      have first : get16 (store m msgIn p) (msgIn + dataOffset + 4) =
          get16 (ofList p) (dataOffset + 4) := by
        rw [Nat.add_assoc]
        exact get16_store_within (by omega)
      have second : get16 (store m msgIn p) (msgIn + dataOffset + 6) =
          get16 (ofList p) (dataOffset + 6) := by
        rw [Nat.add_assoc]
        exact get16_store_within (by omega)
      simp [Call.accept, Call.fails, Call.assigned, Call.contained, result, first, second]

/-- **When a return value of 0 can be believed.** It means a response to the
call's own command, with every output assigned from it, exactly for the
trustworthy packets. -/
theorem success_believable_iff {σ : Type} [Socket σ] (c : Call) (dc : ADSConnection)
    (s s₁ s' : σ) (p : List UInt8) (pt' : Option Timeval) (sends : c.Sends dc s s₁)
    (delivery : Delivers (readTimeout dc.iface.timeout) s₁ p pt' s') (complete : Complete p)
    (fits : p.length ≤ MAXDATALEN) (size : c.responseSize ≤ p.length) :
    ((c.run dc s).ret = 0 → commandId (ofList p) 0 = c.command ∧ isResponse p ∧
      c.assigned p (c.run dc s).outs) ↔ c.trustworthy p := by
  have headers : dataOffset ≤ p.length := by
    cases c <;> exact Nat.le_of_add_right_le size
  have whole : 38 ≤ p.length := headers
  unfold MAXDATALEN at fits
  obtain ⟨ret, outs⟩ := c.finish_decode dc (store (c.request dc).mem msgIn p) s'
    (by omega : 0 < p.length) (by omega) fun _ => headers
  rw [Call.run_complete sends delivery complete fits, ret, outs]
  have command : commandId (store (c.request dc).mem msgIn p) msgIn = commandId (ofList p) 0 :=
    get16_received (by omega)
  have code : errorCode (store (c.request dc).mem msgIn p) msgIn = errorCode (ofList p) 0 :=
    get32_received (by omega)
  obtain ⟨zero, assigned⟩ := @Call.accept_received c (c.request dc).mem p size
  unfold Call.decode Call.trustworthy
  rw [command, code]
  by_cases accepted : c.isWrite ∨ commandId (ofList p) 0 = c.command
  · rw [if_pos accepted, if_pos accepted]
    by_cases fails : c.fails p
    · exact iff_of_true (fun success => absurd fails (zero.mp success)) (Or.inl fails)
    · have success := zero.mpr fails
      simp only [success, assigned success, forall_const, fails, false_or]
  · rw [if_neg accepted, if_neg accepted]
    rw [not_or] at accepted
    simp only [intOf_eq_zero_iff, accepted.2, false_and, imp_false, ne_eq]

/-- A device notification. -/
def deviceNotification : List UInt8 := adsPacket (firstReply 8 4 8 0) (List.replicate 8 0)

theorem deviceNotification_believable_iff :
    let s : Script := ⟨[], arrive deviceNotification ++ [], []⟩
    ((Call.readState.run freshConnection s).ret = 0 →
        commandId (ofList deviceNotification) 0 = Call.readState.command ∧
          isResponse deviceNotification ∧
          Call.readState.assigned deviceNotification
            (Call.readState.run freshConnection s).outs) ↔
      Call.readState.trustworthy deviceNotification :=
  success_believable_iff .readState freshConnection _ _ _ deviceNotification _
    (Call.sends_script _ _ rfl (by decide +kernel)) (Script.delivers _ _ _ _ _)
    (adsPacket_complete (by decide)) (by decide) (by decide)

/-- A device notification makes `ADSreadState()` return 0. -/
theorem success_not_always_believable :
    ¬ ∀ (c : Call) (dc : ADSConnection) (s s₁ s' : Script) (p : List UInt8)
      (pt' : Option Timeval), c.Fits → c.Sends dc s s₁ →
      Delivers (readTimeout dc.iface.timeout) s₁ p pt' s' → Complete p →
      p.length ≤ MAXDATALEN → c.responseSize ≤ p.length → (c.run dc s).ret = 0 →
      commandId (ofList p) 0 = c.command ∧ isResponse p ∧ c.assigned p (c.run dc s).outs := by
  intro believable
  have success : (Call.readState.run freshConnection
      (⟨[], arrive deviceNotification ++ [], []⟩ : Script)).ret = 0 := by decide +kernel
  have answer := believable .readState freshConnection
    ⟨[], arrive deviceNotification ++ [], []⟩ _ _ deviceNotification _ trivial
    (Call.sends_script _ _ rfl (by decide +kernel)) (Script.delivers _ _ _ _ _)
    (adsPacket_complete (by decide)) (by decide) (by decide) success
  have foreign : commandId (ofList deviceNotification) 0 ≠ cmdADSreadState := by decide +kernel
  exact foreign answer.1

end LibAds
