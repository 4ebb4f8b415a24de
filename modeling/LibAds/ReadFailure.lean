import LibAds.PacketDelivery
import LibAds.RequestStream

/-!
# Reads that failed

The four operations that read data translate every failure of the transport by
a table: what `_ADSWritePacket()` returns goes through `_ADStranslateWrError()`,
what `_ADSReadPacket()` returns through `_ADStranslateRdError()`. The stored
`errno` is never looked at, so it may be stale.
-/

namespace LibAds

open ByteMemory SocketModel

/-! ## The failures -/

/-- How the transport can fail a call. -/
inductive TransportFailure where
  | flagged
  | sendFailed
  | sendShort
  | selectFailed
  | timedOut
  | recvFailed
  | shutDown
  deriving DecidableEq, Repr

/-- The ADS error code of a failure. -/
def TransportFailure.code : TransportFailure → Int
  | .flagged => 0x1
  | .sendFailed | .sendShort | .selectFailed | .recvFailed => 0x1a
  | .timedOut => 0x15
  | .shutDown => 0x50a

section Failures

variable {σ : Type} [Socket σ]

/-- The transport fails a call: the interface is flagged, `send()` fails or
takes a part, or after the bytes `bs` of a reply that needs more of them
`select()` or `recv()` do not yield the next one. -/
inductive Call.FailsBy (c : Call) (dc : ADSConnection) (s : σ) : TransportFailure → Prop
  | flagged (error : dc.iface.error ≠ 0) : FailsBy c dc s .flagged
  | sendFailed {errno : Int} {s' : σ} (clear : dc.iface.error = 0)
    (sent : Socket.send s (c.handed dc) = (.failed errno, s')) : FailsBy c dc s .sendFailed
  | sendShort {n : Nat} {errno : Int} {s' : σ} (clear : dc.iface.error = 0)
    (sent : Socket.send s (c.handed dc) = (.sent n errno, s'))
    (short : n < (c.handed dc).length) : FailsBy c dc s .sendShort
  | selectFailed {bs : List UInt8} {errno : Int} {pt₁ pt₂ : Option Timeval} {s₁ s₂ s' : σ}
    (sends : c.Sends dc s s₁) (delivery : Delivers (readTimeout dc.iface.timeout) s₁ bs pt₁ s₂)
    (incomplete : Incomplete bs) (selected : Socket.select s₂ pt₁ = (.failed errno, pt₂, s')) :
    FailsBy c dc s .selectFailed
  | timedOut {bs : List UInt8} {pt₁ pt₂ : Option Timeval} {s₁ s₂ s' : σ}
    (sends : c.Sends dc s s₁) (delivery : Delivers (readTimeout dc.iface.timeout) s₁ bs pt₁ s₂)
    (incomplete : Incomplete bs) (selected : Socket.select s₂ pt₁ = (.timedOut, pt₂, s')) :
    FailsBy c dc s .timedOut
  | recvFailed {bs : List UInt8} {errno : Int} {pt₁ pt₂ : Option Timeval} {s₁ s₂ s₃ s' : σ}
    (sends : c.Sends dc s s₁) (delivery : Delivers (readTimeout dc.iface.timeout) s₁ bs pt₁ s₂)
    (incomplete : Incomplete bs) (selected : Socket.select s₂ pt₁ = (.ready, pt₂, s₃))
    (received : Socket.recv s₃ = (.failed errno, s')) : FailsBy c dc s .recvFailed
  | shutDown {bs : List UInt8} {pt₁ pt₂ : Option Timeval} {s₁ s₂ s₃ s' : σ}
    (sends : c.Sends dc s s₁) (delivery : Delivers (readTimeout dc.iface.timeout) s₁ bs pt₁ s₂)
    (incomplete : Incomplete bs) (selected : Socket.select s₂ pt₁ = (.ready, pt₂, s₃))
    (received : Socket.recv s₃ = (.shutDown, s')) : FailsBy c dc s .shutDown

/-! ## A request that is not sent -/

variable {c : Call} {dc : ADSConnection} {s s' : σ}

theorem adsWritePacket_flagged {di : ADSInterface} {m : Mem} {p : Nat} (error : di.error ≠ 0) :
    adsWritePacket (some di) m p s = ⟨-4, some 0, s⟩ := by
  simp only [adsWritePacket, if_pos error]

theorem adsWritePacket_failed {di : ADSInterface} {m : Mem} {p : Nat} {errno : Int}
    (clear : di.error = 0)
    (sent : Socket.send s (load m p (sizeofTCPheader + (adsLength m p).toNat)) =
      (.failed errno, s')) :
    adsWritePacket (some di) m p s = ⟨0, some errno, s'⟩ := by
  simp only [adsWritePacket, clear, ne_eq, not_true_eq_false, if_false, sent]

theorem adsWritePacket_short {di : ADSInterface} {m : Mem} {p n : Nat} {errno : Int}
    (clear : di.error = 0)
    (sent : Socket.send s (load m p (sizeofTCPheader + (adsLength m p).toNat)) =
      (.sent n errno, s'))
    (short : n < sizeofTCPheader + (adsLength m p).toNat) (small : n < 2 ^ 31) :
    adsWritePacket (some di) m p s = ⟨0, some errno, s'⟩ := by
  have count : sizeT (wrapInt n) = n := by
    rw [wrapInt_of_range (by omega) (by omega), sizeT_natCast (by omega)]
  have partly : n ≠ sizeofTCPheader + (adsLength m p).toNat := by omega
  simp only [adsWritePacket, clear, ne_eq, not_true_eq_false, if_false, sent, count, partly,
    not_false_eq_true, if_true]

/-- An unsent request leaves nothing but a code. -/
theorem Call.run_of_unsent {rc : Int} {error : Option Int} (unsent : rc ≤ 0)
    (written : adsWritePacket (some dc.iface) (c.request dc).mem msgOut s = ⟨rc, error, s'⟩) :
    c.run dc s = ⟨adsTranslateWrError rc error, {}, c.request dc, s'⟩ := by
  have refused : (adsWritePacket (some dc.iface) (c.request dc).mem msgOut s).rc ≤ 0 := by
    rw [written]
    exact unsent
  rw [Call.run_unsent refused, written]

/-! ## A reply that breaks off -/

/-- A broken read is translated, whatever came before it broke off. -/
theorem Call.run_translated {bs : List UInt8} {pt₁ : Option Timeval} {s₁ s₂ : σ} {rc error : Int}
    (read : c.isWrite = false) (sends : c.Sends dc s s₁)
    (delivery : Delivers (readTimeout dc.iface.timeout) s₁ bs pt₁ s₂) (incomplete : Incomplete bs)
    (breaks : Breaks pt₁ s₂ rc error s') (failed : rc ≤ 0) :
    (c.run dc s).ret = adsTranslateRdError rc error ∧ (c.run dc s).outs = {} := by
  have broken := Call.run_broken sends delivery incomplete breaks
  have answer := @Call.answer_failed c
    ((c.request dc).received rc (fill (bufferAt msgIn) 0 (c.request dc).mem bs)) error read
    (by rw [ADSConnection.received_AnswLen]; omega)
  rw [broken, Call.finish]
  dsimp only
  rw [answer]
  exact ⟨rfl, rfl⟩

/-! ## All failures together -/

/-- The table: each failure has its code, and the caller's outputs stay as they
were. -/
theorem Call.FailsBy.outcome {failure : TransportFailure} (read : c.isWrite = false)
    (fits : c.Fits) (fails : c.FailsBy dc s failure) :
    (c.run dc s).ret = failure.code ∧ (c.run dc s).outs = {} := by
  cases fails with
  | flagged error =>
      rw [Call.run_of_unsent (by omega) (adsWritePacket_flagged error)]
      exact ⟨rfl, rfl⟩
  | sendFailed clear sent =>
      rw [Call.run_of_unsent (by omega) (adsWritePacket_failed clear sent)]
      exact ⟨rfl, rfl⟩
  | sendShort clear sent short =>
      have sizes := packetSizes
      have length := (Call.request_length fits dc).2
      rw [Call.handed, length_load] at short
      rw [Call.run_of_unsent (by omega) (adsWritePacket_short clear sent short (by omega))]
      exact ⟨rfl, rfl⟩
  | selectFailed sends delivery incomplete selected =>
      exact Call.run_translated read sends delivery incomplete (.of_selectFailed selected)
        (by omega)
  | timedOut sends delivery incomplete selected =>
      exact Call.run_translated read sends delivery incomplete (.of_timedOut selected) (by omega)
  | recvFailed sends delivery incomplete selected received =>
      exact Call.run_translated read sends delivery incomplete (.of_recvFailed selected received)
        (by omega)
  | shutDown sends delivery incomplete selected received =>
      exact Call.run_translated read sends delivery incomplete (.of_shutDown selected received)
        (by omega)

/-- **A read that failed.** The return value names the failure, nothing is
stored through the caller's pointers, the connection keeps its addresses and
counts one request. A flagged interface sends nothing. -/
theorem read_failure_reported (c : Call) (read : c.isWrite = false) (fits : c.Fits)
    (dc : ADSConnection) (s : σ) (failure : TransportFailure) (fails : c.FailsBy dc s failure) :
    (c.run dc s).ret = failure.code ∧ (c.run dc s).outs = {} ∧
      (c.run dc s).dc.partner = dc.partner ∧ (c.run dc s).dc.AMSport = dc.AMSport ∧
      (c.run dc s).dc.invokeId = dc.invokeId + 1 ∧
      (failure = .flagged → (c.run dc s).sock = s) := by
  rcases Call.FailsBy.outcome read fits fails with ⟨ret, outs⟩
  rcases Call.run_keeps fits dc s with ⟨keeps, invokeId⟩
  refine ⟨ret, outs, keeps.partner, keeps.AMSport, invokeId, ?_⟩
  rintro rfl
  cases fails with
  | flagged error => rw [Call.run_of_unsent (by omega) (adsWritePacket_flagged error)]

/-- The peer shuts down after the first byte of its reply. -/
theorem read_failure_reported_shutDown :
    let s : Script := ⟨[], arrive [0] ++ [.shutDown], []⟩
    (Call.readState.run freshConnection s).ret = 0x50a ∧
      (Call.readState.run freshConnection s).outs = {} ∧
      (Call.readState.run freshConnection s).dc.partner = freshConnection.partner ∧
      (Call.readState.run freshConnection s).dc.AMSport = freshConnection.AMSport ∧
      (Call.readState.run freshConnection s).dc.invokeId = freshConnection.invokeId + 1 ∧
      (TransportFailure.shutDown = .flagged → (Call.readState.run freshConnection s).sock = s) :=
  read_failure_reported .readState rfl trivial freshConnection ⟨[], arrive [0] ++ [.shutDown], []⟩
    .shutDown (.shutDown (Call.sends_script (arrive [0] ++ [.shutDown]) [] rfl (by decide +kernel))
      (Script.delivers _ _ _ [0] [.shutDown]) ⟨by decide, Or.inl (by decide)⟩ rfl rfl)

end Failures

end LibAds
