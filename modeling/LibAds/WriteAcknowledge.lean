import LibAds.ClientOutcomes
import LibAds.PacketDelivery

/-!
# Writes that were not acknowledged

A failed transport never gives a write an acknowledgement of its own. What
`ADSwriteBytes()` and `ADSwriteControl()` then return is decided by what stands
in `msgIn`: the count of a failed read is -1 or -2, which as a `size_t` exceeds
the size of both headers, and `ADSwriteControl()` answers every failure with
the header field of whatever packet was there before.
-/

namespace LibAds

open ByteMemory SocketModel

variable {σ : Type} [Socket σ]

/-! ## How the transport fails -/

/-- One way the transport fails during a call: the request is refused (a send
error, a short send, an interface with its error flag set), or the reply breaks
off after the bytes `bs` with an error, a time out or a peer that shut down. -/
inductive Call.Failure (c : Call) (dc : ADSConnection) (s : σ) : Type
  | refused (unsent : (adsWritePacket (some dc.iface) (c.request dc).mem msgOut s).rc ≤ 0)
  | broken {s₁ s₂ s' : σ} {pt₁ : Option Timeval} {rc error : Int} (bs : List UInt8)
    (sends : c.Sends dc s s₁) (delivery : Delivers (readTimeout dc.iface.timeout) s₁ bs pt₁ s₂)
    (incomplete : Incomplete bs) (breaks : Breaks pt₁ s₂ rc error s')

/-- A refused request is always reported. -/
theorem Call.run_refused {c : Call} {dc : ADSConnection} {s : σ}
    (unsent : (adsWritePacket (some dc.iface) (c.request dc).mem msgOut s).rc ≤ 0) :
    (c.run dc s).ret ≠ 0 := by
  have cases' : (adsWritePacket (some dc.iface) (c.request dc).mem msgOut s).rc = 0 ∨
      (adsWritePacket (some dc.iface) (c.request dc).mem msgOut s).rc = -4 := by
    revert unsent
    unfold adsWritePacket
    dsimp only
    split
    · exact fun _ => Or.inr rfl
    · split
      · exact fun _ => Or.inl rfl
      · split
        · exact fun _ => Or.inl rfl
        · exact fun sent => absurd (show (1 : Int) ≤ 0 from sent) (by decide)
  rw [Call.run_unsent unsent]
  unfold adsTranslateWrError
  rcases cases' with zero | flagged
  · simp [zero]
  · simp [flagged]

/-! ## What the writes then read -/

/-- Behind a broken delivery a field of `msgIn` is read from the bytes that
came, and past them from what an earlier reply left. -/
theorem Call.get32_broken {c : Call} {dc : ADSConnection} {bs : List UInt8} {k : Nat}
    (inside : k + 4 ≤ 8191) :
    get32 (fill (bufferAt msgIn) 0 (c.request dc).mem bs) (msgIn + k) =
      get32 (store dc.mem msgIn bs) (msgIn + k) := by
  apply get32_congr
  apply load_congr
  intro i within
  rw [fill_bufferAt_apply (by omega)]
  exact Call.store_request_mem (by unfold msgOut MAXDATALEN; omega)

/-- The bytes that decide what a write returns when its reply breaks off with
`rc`, in the `msgIn` that the failed read leaves. -/
def Call.staleCode (c : Call) (rc : Int) (m : Mem) : UInt32 :=
  match c with
  | .writeBytes .. => if rc = 0 then 0x1a else resultOf m
  | _ => errorCode m msgIn

/-- The condition under which a failed write is reported. -/
def Call.Failure.Reported {c : Call} {dc : ADSConnection} {s : σ} : c.Failure dc s → Prop
  | .refused _ => True
  | @Failure.broken _ _ _ _ _ _ _ _ _ rc _ bs _ _ _ _ => c.staleCode rc (store dc.mem msgIn bs) ≠ 0

/-- The count is compared as a `size_t`, so a negative one passes. -/
theorem writeAnswer_of_le {dc : ADSConnection} (headers : dataOffset ≤ sizeT dc.AnswLen) :
    writeAnswer dc 0 = (intOf (resultOf dc.mem), {}, dc) := by
  have passes : sizeT dc.AnswLen ≥ sizeofTCPheader + sizeofAMSheader := headers
  rw [writeAnswer, if_pos passes, if_pos rfl]

theorem writeAnswer_zero {dc : ADSConnection} {nErr : Int} (zero : dc.AnswLen = 0) :
    (writeAnswer dc nErr).1 = 0x1a := by
  rw [writeAnswer, zero]
  rfl

theorem writeControlAnswer_failed {dc : ADSConnection} {nErr : Int}
    (failed : ¬ (dc.AnswLen > 0 ∧ nErr = 0)) :
    writeControlAnswer dc nErr = (intOf (errorCode dc.mem msgIn), {}, dc) := by
  rw [writeControlAnswer, if_neg failed]

omit [Socket σ] in
theorem Call.finish_broken {c : Call} {dc : ADSConnection} {s' : σ} {bs : List UInt8}
    {rc error : Int} (write : c.isWrite)
    (failed : rc = 0 ∨ (rc = -1 ∧ error = 0) ∨ (rc = -2 ∧ error = 0)) :
    (c.finish dc ⟨rc, error, fill (bufferAt msgIn) 0 (c.request dc).mem bs, s'⟩).ret =
      intOf (c.staleCode rc (store dc.mem msgIn bs)) := by
  cases c with
  | writeBytes indexGroup offset length data =>
      have result : resultOf (fill (bufferAt msgIn) 0
          ((Call.writeBytes indexGroup offset length data).request dc).mem bs) =
          resultOf (store dc.mem msgIn bs) := Call.get32_broken (by decide)
      show (writeAnswer (ADSConnection.received _ _ _) _).1 = _
      by_cases zero : rc = 0
      · rw [Call.staleCode, if_pos zero]
        exact writeAnswer_zero zero
      · -- Both negative counts pass the comparison.
        have passes : error = 0 ∧ dataOffset ≤ sizeT rc := by
          rcases failed with rfl | ⟨rfl, rfl⟩ | ⟨rfl, rfl⟩
          · exact absurd rfl zero
          · exact ⟨rfl, by decide⟩
          · exact ⟨rfl, by decide⟩
        rw [Call.staleCode, if_neg zero, ← result, passes.1, writeAnswer_of_le passes.2]
        rfl
  | writeControl ADSstate devState data length =>
      have code : errorCode (fill (bufferAt msgIn) 0
          ((Call.writeControl ADSstate devState data length).request dc).mem bs) msgIn =
          errorCode (store dc.mem msgIn bs) msgIn := Call.get32_broken (by decide)
      have negative : ¬ (rc > 0 ∧ error = 0) := by omega
      show (writeControlAnswer (ADSConnection.received _ _ _) _).1 = _
      rw [writeControlAnswer_failed negative, Call.staleCode, ← code]
      · rfl
      · intro _ _ _ _ same
        cases same
  | readBytes => cases write
  | readDeviceInfo => cases write
  | readWriteBytes => cases write
  | readState => cases write

/-- **When a failed write is reported.** Exactly when the request was refused,
or `ADSwriteBytes()` met an error of the operating system, or the field that
`msgIn` is left with (the result for `ADSwriteBytes()`, the header's error code
for `ADSwriteControl()`) is not zero. -/
theorem write_failure_reported_iff (c : Call) (dc : ADSConnection) (s : σ) (write : c.isWrite)
    (failure : c.Failure dc s) : (c.run dc s).ret ≠ 0 ↔ failure.Reported := by
  cases failure with
  | refused unsent => exact iff_of_true (Call.run_refused unsent) trivial
  | broken bs sends delivery incomplete breaks =>
      rw [Call.run_broken sends delivery incomplete breaks,
        Call.finish_broken write breaks.rc_cases, ne_eq, intOf_eq_zero_iff]
      rfl

/-- Four bytes for a peer that stays silent until the second is over. -/
def silentWrite : Call := .writeBytes 0xf005 0 4 (some fun _ => 7)

def silentWrite_failure : silentWrite.Failure hurriedConnection (⟨[], [], []⟩ : Script) :=
  .broken [] (Call.sends_script [] [] rfl (by decide +kernel)) (.nil _ _)
    ⟨by decide, Or.inl (by decide)⟩ (Script.breaks_timedOut _ _ _)

theorem silentWrite_reported_iff :
    (silentWrite.run hurriedConnection (⟨[], [], []⟩ : Script)).ret ≠ 0 ↔
      silentWrite_failure.Reported :=
  write_failure_reported_iff silentWrite hurriedConnection _ rfl silentWrite_failure

/-- The peer does not answer in time, and the write is reported as done. -/
theorem write_failure_not_always_reported :
    ¬ ∀ (c : Call) (dc : ADSConnection) (s : Script), c.isWrite → c.Fits →
      Nonempty (c.Failure dc s) → (c.run dc s).ret ≠ 0 := by
  intro reported
  have fits : silentWrite.Fits := ⟨by decide, by decide⟩
  have unreported : (silentWrite.run hurriedConnection (⟨[], [], []⟩ : Script)).ret = 0 := by
    decide +kernel
  exact reported silentWrite hurriedConnection _ rfl fits ⟨silentWrite_failure⟩ unreported

end LibAds
