import LibAds.ClientOutcomes

/-!
# Replies that do not fit

`_ADSReadPacket()` reports a packet past `MAXDATALEN` by a positive count
together with the error 0xe. The operations that read data take this for a
failure and translate the count, which the table does not list, to 0. The two
writes return the error code of the packet's own header.
-/

namespace LibAds

open ByteMemory SocketModel

/-- The header's error code survives the marking of the packet. -/
theorem errorCode_markOverlong {c : Call} {dc : ADSConnection} {bs : List UInt8}
    (long : MAXDATALEN < bs.length) :
    errorCode (markOverlong (fill (bufferAt msgIn) 0 (c.request dc).mem bs) msgIn) msgIn =
      errorCode (ofList bs) 0 := by
  unfold MAXDATALEN at long
  exact (get32_congr (load_markOverlong (by decide) (by decide))).trans
    (get32_store_within (by omega))

/-- What a call returns for a packet that does not fit. -/
def Call.overlongCode (c : Call) (bs : List UInt8) : UInt32 :=
  if c.isWrite then errorCode (ofList bs) 0 else 0

theorem Call.finish_overlong {σ : Type} {c : Call} {dc : ADSConnection} {bs : List UInt8} {s' : σ}
    (long : MAXDATALEN < bs.length) (counted : bs.length < 2 ^ 31) :
    let r : PacketRead σ :=
      ⟨bs.length, 0xe, markOverlong (fill (bufferAt msgIn) 0 (c.request dc).mem bs) msgIn, s'⟩
    (c.finish dc r).ret = intOf (c.overlongCode bs) ∧ (c.finish dc r).outs = {} := by
  have code := @errorCode_markOverlong c dc bs long
  unfold MAXDATALEN at long
  intro r
  have marked : r.error ≠ 0 := show (0xe : Int) ≠ 0 by decide
  unfold Call.overlongCode
  cases write : c.isWrite with
  | false =>
      have answered := Call.answer_failed write (fun taken => marked taken.2 :
        ¬ (((c.request dc).received r.rc r.mem).AnswLen > 0 ∧ r.error = 0))
      have translated : adsTranslateRdError bs.length 0xe = 0 :=
        adsTranslateRdError_of_pos (by omega)
      simp only [Call.finish, answered]
      exact ⟨translated, trivial⟩
  | true =>
      have headers : dataOffset ≤ sizeT (bs.length : Int) := by
        rw [sizeT_natCast (by omega)]
        show 38 ≤ bs.length
        omega
      have answered := @Call.answer_marked c ((c.request dc).received r.rc r.mem) r.error write
        headers marked
      simp only [Call.finish, answered]
      exact ⟨congrArg intOf code, trivial⟩

/-- **When an over-long reply is reported.** The invalid-length error comes back
exactly from a write whose reply carries that very code in its header, any
error at all exactly from a write whose reply carries a code. -/
theorem overlong_reported_iff {σ : Type} [Socket σ] (c : Call) (dc : ADSConnection) (s s₁ s' : σ)
    (bs : List UInt8) (pt' : Option Timeval) (sends : c.Sends dc s s₁)
    (delivery : Delivers (readTimeout dc.iface.timeout) s₁ bs pt' s') (complete : Complete bs)
    (long : MAXDATALEN < bs.length) :
    ((c.run dc s).ret = 0xe ∧ (c.run dc s).outs = {} ↔
      c.isWrite ∧ errorCode (ofList bs) 0 = 0xe) ∧
    ((c.run dc s).ret ≠ 0 ∧ (c.run dc s).outs = {} ↔
      c.isWrite ∧ errorCode (ofList bs) 0 ≠ 0) := by
  obtain ⟨ret, outs⟩ := @Call.finish_overlong σ c dc bs s' long complete.1
  rw [Call.run_overlong sends delivery complete long, ret, outs]
  have length : intOf (c.overlongCode bs) = 0xe ↔ c.overlongCode bs = 0xe := @intOf_inj _ 0xe
  rw [length, ne_eq, intOf_eq_zero_iff]
  unfold Call.overlongCode
  cases c.isWrite <;> simp

/-- A reply of 8193 zero bytes but for its length. -/
def overlongPacket : Packet :=
  ⟨0, List.replicate 8187 0, by rw [List.length_replicate]; omega⟩

theorem length_overlongPacket : overlongPacket.bytes.length = 8193 := by
  rw [Packet.length_bytes, overlongPacket, List.length_replicate]

theorem overlong_readState_iff :
    let s : Script := ⟨[], arrive overlongPacket.bytes ++ [], []⟩
    ((Call.readState.run freshConnection s).ret = 0xe ∧
        (Call.readState.run freshConnection s).outs = {} ↔
      Call.readState.isWrite ∧ errorCode (ofList overlongPacket.bytes) 0 = 0xe) ∧
    ((Call.readState.run freshConnection s).ret ≠ 0 ∧
        (Call.readState.run freshConnection s).outs = {} ↔
      Call.readState.isWrite ∧ errorCode (ofList overlongPacket.bytes) 0 ≠ 0) :=
  overlong_reported_iff .readState freshConnection _ _ _ overlongPacket.bytes _
    (Call.sends_script _ _ rfl (by decide +kernel)) (Script.delivers _ _ _ _ _)
    overlongPacket.complete (by rw [length_overlongPacket]; decide)

/-- `ADSreadState()` reports that reply as success. -/
theorem overlong_not_always_reported :
    ¬ ∀ (c : Call) (dc : ADSConnection) (s s₁ s' : Script) (bs : List UInt8)
      (pt' : Option Timeval), c.Fits → c.Sends dc s s₁ →
      Delivers (readTimeout dc.iface.timeout) s₁ bs pt' s' → Complete bs →
      MAXDATALEN < bs.length → (c.run dc s).ret ≠ 0 ∧ (c.run dc s).outs = {} := by
  intro reported
  have sends := @Call.sends_script .readState freshConnection (arrive overlongPacket.bytes ++ [])
    [] rfl (by decide +kernel)
  have delivery := Script.delivers (readTimeout freshConnection.iface.timeout) []
    ([] ++ [load (Call.readState.request freshConnection).mem msgOut
      (sizeofTCPheader + (adsLength (Call.readState.request freshConnection).mem msgOut).toNat)])
    overlongPacket.bytes []
  have long : MAXDATALEN < overlongPacket.bytes.length := by
    rw [length_overlongPacket]
    decide
  have ret := (reported .readState freshConnection _ _ _ overlongPacket.bytes _ trivial sends
    delivery overlongPacket.complete long).1
  rw [Call.run_overlong sends delivery overlongPacket.complete long] at ret
  exact ret ((Call.finish_overlong long overlongPacket.complete.1).1)

end LibAds
