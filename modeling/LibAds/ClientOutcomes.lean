import LibAds.ClientOperations
import LibAds.PacketCodec

/-!
# Outcomes of a call

One equation for each way a call can go: the request is not sent
(`Call.run_unsent`), the reply arrives whole and fits (`Call.run_complete`) or
does not fit (`Call.run_overlong`), or the delivery breaks off
(`Call.run_broken`). Building a request never touches `msgIn`, so what an
operation finds there is what came over what the buffer held before the call.
-/

namespace LibAds

open ByteMemory SocketModel

/-! ## What building a request leaves alone -/

@[simp] theorem Call.request_iface (c : Call) (dc : ADSConnection) :
    (c.request dc).iface = dc.iface := by
  cases c <;> rfl

@[simp] theorem Call.request_invokeId (c : Call) (dc : ADSConnection) :
    (c.request dc).invokeId = dc.invokeId + 1 := by
  cases c <;> rfl

theorem adsSetupAmsHeader_mem {dc : ADSConnection} {p i : Nat}
    (outside : i < p ∨ p + dataOffset ≤ i) : (adsSetupAmsHeader dc p).mem i = dc.mem i := by
  have sizes := packetSizes
  have target := dc.partner.size
  have source := dc.iface.me.size
  simp (disch := omega) only [adsSetupAmsHeader, put16_apply_outside, put32_apply_outside,
    store_apply_outside]

theorem requestHeader_mem {dc : ADSConnection} {command : UInt16} {length : UInt32} {i : Nat}
    (outside : i < msgOut ∨ msgOut + dataOffset ≤ i) :
    (requestHeader dc command length).mem i = dc.mem i := by
  have sizes := packetSizes
  simp (disch := omega) only [requestHeader, put16_apply_outside, put32_apply_outside,
    adsSetupAmsHeader_mem]

/-- Requests are built at `msgOut` and behind it. -/
theorem Call.request_mem {c : Call} {dc : ADSConnection} {i : Nat} (below : i < msgOut) :
    (c.request dc).mem i = dc.mem i := by
  have outside : i < msgOut ∨ msgOut + dataOffset ≤ i := Or.inl below
  cases c with
  | readBytes indexGroup offset length buffer pnRead =>
      simp (disch := omega) only [Call.request, readRequest, put32_apply_outside,
        requestHeader_mem]
  | writeBytes indexGroup offset length data =>
      cases data <;>
        simp (disch := omega) only [Call.request, writeRequest, copy_apply_outside,
          put32_apply_outside, requestHeader_mem]
  | readDeviceInfo => exact requestHeader_mem outside
  | readWriteBytes indexGroup offset readLength writeLength writeBuffer pnRead =>
      cases writeBuffer <;>
        simp (disch := omega) only [Call.request, readWriteRequest, copy_apply_outside,
          put32_apply_outside, requestHeader_mem]
  | readState => exact requestHeader_mem outside
  | writeControl ADSstate devState data length =>
      cases data <;>
        simp (disch := omega) only [Call.request, writeControlRequest, copy_apply_outside,
          put16_apply_outside, put32_apply_outside, requestHeader_mem]

/-- Behind the fixed fields and the caller's data nothing is stored. -/
theorem Call.request_past {c : Call} {dc : ADSConnection} {i : Nat}
    (past : msgOut + dataOffset + c.dataAt + c.dataSize ≤ i) :
    (c.request dc).mem i = dc.mem i := by
  have sizes := packetSizes
  have outside : i < msgOut ∨ msgOut + dataOffset ≤ i := by omega
  cases c with
  | readBytes indexGroup offset length buffer pnRead =>
      simp only [Call.dataAt, Call.dataSize] at past
      simp (disch := omega) only [Call.request, readRequest, put32_apply_outside,
        requestHeader_mem]
  | writeBytes indexGroup offset length data =>
      cases data <;>
        simp only [Call.dataAt, Call.dataSize] at past <;>
        simp (disch := omega) only [Call.request, writeRequest, copy_apply_outside,
          put32_apply_outside, requestHeader_mem]
  | readDeviceInfo => exact requestHeader_mem outside
  | readWriteBytes indexGroup offset readLength writeLength writeBuffer pnRead =>
      cases writeBuffer <;>
        simp only [Call.dataAt, Call.dataSize] at past <;>
        simp (disch := omega) only [Call.request, readWriteRequest, copy_apply_outside,
          put32_apply_outside, requestHeader_mem]
  | readState => exact requestHeader_mem outside
  | writeControl ADSstate devState data length =>
      cases data <;>
        simp only [Call.dataAt, Call.dataSize] at past <;>
        simp (disch := omega) only [Call.request, writeControlRequest, copy_apply_outside,
          put16_apply_outside, put32_apply_outside, requestHeader_mem]

theorem Call.Fits.dataSize {c : Call} (fits : c.Fits) :
    dataOffset + c.dataAt + c.dataSize ≤ MAXDATALEN := by
  have sizes := packetSizes
  cases c with
  | readBytes => exact (by omega : dataOffset + 12 + 0 ≤ MAXDATALEN)
  | writeBytes indexGroup offset length data =>
      rcases fits with ⟨nonneg, fits⟩
      rcases Int.eq_ofNat_of_zero_le nonneg with ⟨n, rfl⟩
      have size := @sizeT_natCast n (by omega)
      cases data <;> simp only [Call.dataAt, Call.dataSize] <;> omega
  | readDeviceInfo => exact (by omega : dataOffset + 0 + 0 ≤ MAXDATALEN)
  | readWriteBytes indexGroup offset readLength writeLength writeBuffer pnRead =>
      have fits : dataOffset + 16 + writeLength.toNat ≤ MAXDATALEN := fits
      cases writeBuffer <;> simp only [Call.dataAt, Call.dataSize] <;> omega
  | readState => exact (by omega : dataOffset + 0 + 0 ≤ MAXDATALEN)
  | writeControl ADSstate devState data length =>
      cases data with
      | none => exact (by omega : dataOffset + 8 + 0 ≤ MAXDATALEN)
      | some data =>
          rcases fits with ⟨nonneg, fits⟩
          rcases Int.eq_ofNat_of_zero_le nonneg with ⟨n, rfl⟩
          have size := @sizeT_natCast n (by omega)
          simp only [Call.dataAt, Call.dataSize]
          omega

theorem Call.fault_eq_none_iff {c : Call} : c.fault = none ↔ c.InConnection := by
  have room : sizeofConnection < 2 ^ 63 := by decide
  unfold Call.fault Call.InConnection
  split_ifs <;> simp <;> omega

theorem Call.exec_eq_ok {σ : Type} [Socket σ] {c : Call} {dc : ADSConnection} {s : σ}
    {r : CallResult σ} : c.exec dc s = .ok r ↔ c.InConnection ∧ c.run dc s = r := by
  rw [← Call.fault_eq_none_iff]
  unfold Call.exec
  cases c.fault <;> simp

/-- Building a request has one of two faults. -/
theorem Call.exec_eq_error {σ : Type} [Socket σ] {c : Call} {dc : ADSConnection} {s : σ}
    {fault : Fault} (failed : c.exec dc s = .error fault) :
    fault = .negativeLength ∨ fault = .heapOverflow := by
  unfold Call.exec Call.fault at failed
  split_ifs at failed <;> cases failed
  · exact Or.inl rfl
  · exact Or.inr rfl

theorem Call.Fits.inConnection {c : Call} (fits : c.Fits) : c.InConnection := by
  have inside := fits.dataSize
  unfold Call.InConnection sizeofConnection portOffset partnerOffset
  omega

/-- A request that fits stays in the buffer. -/
theorem Call.request_behind {c : Call} {dc : ADSConnection} {i : Nat} (fits : c.Fits)
    (behind : partnerOffset ≤ i) : (c.request dc).mem i = dc.mem i := by
  have size : partnerOffset = msgOut + MAXDATALEN := rfl
  have inside := fits.dataSize
  exact Call.request_past (by omega)

/-- So what a call finds in `msgIn` is what came over what was there before. -/
theorem Call.store_request_mem {c : Call} {dc : ADSConnection} {bs : List UInt8} {i : Nat}
    (below : i < msgOut) : store (c.request dc).mem msgIn bs i = store dc.mem msgIn bs i :=
  store_congr (c.request_mem below)

/-- The packet that a call hands to `send()`. -/
def Call.handed (c : Call) (dc : ADSConnection) : List UInt8 :=
  load (c.request dc).mem msgOut (sizeofTCPheader + (adsLength (c.request dc).mem msgOut).toNat)

/-! ## What a request depends on -/

section Agree

variable {S : Nat → Prop} {dc dc' : ADSConnection}

theorem adsSetupAmsHeader_agree (own : ∀ i, msgOut ≤ i → i < sizeofConnection → S i)
    (source : dc.iface.me = dc'.iface.me ∧ dc.iface.AMSport = dc'.iface.AMSport)
    (invokeId : dc.invokeId = dc'.invokeId) (agree : AgreeOn S dc.mem dc'.mem) :
    AgreeOn S (adsSetupAmsHeader dc msgOut).mem (adsSetupAmsHeader dc' msgOut).mem := by
  have partner : dc.partner = dc'.partner := by
    have bytes := agree.load partnerOffset 6 fun i _ =>
      own _ (by unfold partnerOffset; omega) (by unfold sizeofConnection portOffset; omega)
    simp only [ADSConnection.partner, AmsNetId.read, bytes]
  have port : dc.AMSport = dc'.AMSport :=
    agree.get32 portOffset fun i _ =>
      own _ (by unfold portOffset partnerOffset; omega) (by unfold sizeofConnection; omega)
  unfold adsSetupAmsHeader
  rw [partner, port, source.1, source.2, invokeId]
  exact ((((((agree.store _ _).put16 _ _).store _ _).put16 _ _).put16 _ _).put32 _ _).put32 _ _

theorem requestHeader_agree (own : ∀ i, msgOut ≤ i → i < sizeofConnection → S i)
    (source : dc.iface.me = dc'.iface.me ∧ dc.iface.AMSport = dc'.iface.AMSport)
    (invokeId : dc.invokeId = dc'.invokeId) (agree : AgreeOn S dc.mem dc'.mem)
    (command : UInt16) (length : UInt32) :
    AgreeOn S (requestHeader dc command length).mem (requestHeader dc' command length).mem := by
  have header := adsSetupAmsHeader_agree own source invokeId agree
  have written := (header.put16 (msgOut + 22) command).put32 (msgOut + 26) length
  have announced := written.get32 (msgOut + 26) fun i _ =>
    own _ (by omega) (by unfold sizeofConnection portOffset partnerOffset MAXDATALEN; omega)
  simp only [requestHeader, dataLength]
  rw [announced]
  exact (written.put32 _ _).put16 _ _

/-- A request is built from what lies at `msgOut` and behind it. -/
theorem Call.request_agree (own : ∀ i, msgOut ≤ i → i < sizeofConnection → S i)
    (source : dc.iface.me = dc'.iface.me ∧ dc.iface.AMSport = dc'.iface.AMSport)
    (invokeId : dc.invokeId = dc'.invokeId) (agree : AgreeOn S dc.mem dc'.mem) (c : Call) :
    AgreeOn S (c.request dc).mem (c.request dc').mem := by
  have header := requestHeader_agree own source invokeId agree
  cases c with
  | readBytes indexGroup offset length buffer pnRead =>
      exact (((header _ _).put32 _ _).put32 _ _).put32 _ _
  | writeBytes indexGroup offset length data =>
      have fixed := (((header cmdADSwrite
        (UInt32.ofInt (sizeofWriteRequest - MAXDATALEN + length))).put32 (msgOut + dataOffset)
        (UInt32.ofInt indexGroup)).put32 (msgOut + dataOffset + 4) (UInt32.ofInt offset)).put32
        (msgOut + dataOffset + 8) (UInt32.ofInt length)
      cases data with
      | none => exact fixed
      | some data => exact fixed.copy _ _ _
  | readDeviceInfo => exact header _ _
  | readWriteBytes indexGroup offset readLength writeLength writeBuffer pnRead =>
      have fixed := ((((header cmdADSreadWrite
        (UInt32.ofNat (sizeofReadWriteRequest - MAXDATALEN) + writeLength)).put32
        (msgOut + dataOffset) indexGroup).put32 (msgOut + dataOffset + 4) offset).put32
        (msgOut + dataOffset + 12) writeLength).put32 (msgOut + dataOffset + 8) readLength
      cases writeBuffer with
      | none => exact fixed
      | some data => exact fixed.copy _ _ _
  | readState => exact header _ _
  | writeControl ADSstate devState data length =>
      have fixed := (((header cmdADSwriteControl (UInt32.ofNat sizeofWriteControlRequest)).put16
        (msgOut + dataOffset) (UInt16.ofInt ADSstate)).put16 (msgOut + dataOffset + 2)
        (UInt16.ofInt devState)).put32 (msgOut + dataOffset + 4) 0
      cases data with
      | none => exact fixed
      | some data =>
          have written := (fixed.copy (msgOut + dataOffset + 8) data (sizeT length)).put32
            (msgOut + dataOffset + 4) (UInt32.ofInt length)
          have announced := written.get32 (msgOut + 26) fun i _ =>
            own _ (by omega) (by unfold sizeofConnection portOffset partnerOffset MAXDATALEN; omega)
          simp only [Call.request, writeControlRequest, dataLength]
          rw [announced]
          exact written.put32 _ _

end Agree

/-! ## What an operation leaves -/

theorem Call.answer_keeps (c : Call) (dc : ADSConnection) (nErr : Int) :
    (c.answer dc nErr).2.2.mem = dc.mem ∧ (c.answer dc nErr).2.2.iface = dc.iface ∧
      (c.answer dc nErr).2.2.invokeId = dc.invokeId := by
  cases c with
  | readBytes indexGroup offset length buffer pnRead =>
      simp only [Call.answer, readAnswer]
      split
      · split
        · split <;> simp
        · exact ⟨rfl, rfl, rfl⟩
      · exact ⟨rfl, rfl, rfl⟩
  | writeBytes indexGroup offset length data =>
      simp only [Call.answer, writeAnswer]
      split
      · split <;> exact ⟨rfl, rfl, rfl⟩
      · exact ⟨rfl, rfl, rfl⟩
  | readDeviceInfo =>
      simp only [Call.answer, deviceInfoAnswer]
      split
      · split <;> exact ⟨rfl, rfl, rfl⟩
      · exact ⟨rfl, rfl, rfl⟩
  | readWriteBytes indexGroup offset readLength writeLength writeBuffer pnRead =>
      simp only [Call.answer, readWriteAnswer]
      split
      · split
        · split <;> exact ⟨rfl, rfl, rfl⟩
        · exact ⟨rfl, rfl, rfl⟩
      · exact ⟨rfl, rfl, rfl⟩
  | readState =>
      simp only [Call.answer, stateAnswer]
      split
      · split <;> exact ⟨rfl, rfl, rfl⟩
      · exact ⟨rfl, rfl, rfl⟩
  | writeControl ADSstate devState data length =>
      simp only [Call.answer, writeControlAnswer]
      split <;> exact ⟨rfl, rfl, rfl⟩

/-- What a call makes of the packet it has read. -/
def Call.finish {σ : Type} (c : Call) (dc : ADSConnection) (r : PacketRead σ) : CallResult σ :=
  let (ret, outs, dc) := c.answer ((c.request dc).received r.rc r.mem) r.error
  ⟨ret, outs, dc, r.sock⟩

section Finish

variable {σ : Type}

@[simp] theorem Call.finish_sock (c : Call) (dc : ADSConnection) (r : PacketRead σ) :
    (c.finish dc r).sock = r.sock := rfl

@[simp] theorem Call.finish_mem (c : Call) (dc : ADSConnection) (r : PacketRead σ) :
    (c.finish dc r).dc.mem = r.mem :=
  (c.answer_keeps ((c.request dc).received r.rc r.mem) r.error).1

@[simp] theorem Call.finish_iface (c : Call) (dc : ADSConnection) (r : PacketRead σ) :
    (c.finish dc r).dc.iface = dc.iface :=
  (c.answer_keeps ((c.request dc).received r.rc r.mem) r.error).2.1.trans
    (c.request_iface dc)

@[simp] theorem Call.finish_invokeId (c : Call) (dc : ADSConnection) (r : PacketRead σ) :
    (c.finish dc r).dc.invokeId = dc.invokeId + 1 :=
  (c.answer_keeps ((c.request dc).received r.rc r.mem) r.error).2.2.trans
    (c.request_invokeId dc)

end Finish

/-! ## Ways a call can go -/

section Outcomes

variable {σ : Type} [Socket σ] {c : Call} {dc : ADSConnection} {s s₁ s' : σ}

/-- The request of a call goes out whole, which leaves the socket at `s₁`. -/
def Call.Sends (c : Call) (dc : ADSConnection) (s s₁ : σ) : Prop :=
  adsWritePacket (some dc.iface) (c.request dc).mem msgOut s = ⟨1, none, s₁⟩

theorem Call.Sends.clear (sends : c.Sends dc s s₁) : dc.iface.error = 0 := by
  by_contra flagged
  unfold Call.Sends adsWritePacket at sends
  simp only [ne_eq, flagged, not_false_eq_true, if_true, PacketWrite.mk.injEq] at sends
  omega

theorem Call.run_unsent
    (unsent : (adsWritePacket (some dc.iface) (c.request dc).mem msgOut s).rc ≤ 0) :
    c.run dc s =
      let w := adsWritePacket (some dc.iface) (c.request dc).mem msgOut s
      ⟨adsTranslateWrError w.rc w.error, {}, c.request dc, w.sock⟩ := by
  rw [c.run_eq_exchange, exchange, c.request_iface, if_pos unsent]

/-- A request is refused or goes out whole. -/
theorem Call.unsent_or_sends (c : Call) (dc : ADSConnection) (s : σ) :
    (adsWritePacket (some dc.iface) (c.request dc).mem msgOut s).rc ≤ 0 ∨
      ∃ s₁, c.Sends dc s s₁ := by
  unfold Call.Sends adsWritePacket
  dsimp only
  split
  · exact Or.inl (show (-4 : Int) ≤ 0 by decide)
  · split
    · exact Or.inl (Int.le_refl 0)
    · split
      · exact Or.inl (Int.le_refl 0)
      · exact Or.inr ⟨_, rfl⟩

/-- A request that `send()` takes whole goes out. -/
theorem Call.sends_of_send {errno : Int} (clear : dc.iface.error = 0)
    (small : sizeofTCPheader + (adsLength (c.request dc).mem msgOut).toNat < 2 ^ 31)
    (taken : Socket.send s (load (c.request dc).mem msgOut
        (sizeofTCPheader + (adsLength (c.request dc).mem msgOut).toNat)) =
      (.sent (sizeofTCPheader + (adsLength (c.request dc).mem msgOut).toNat) errno, s₁)) :
    c.Sends dc s s₁ := by
  unfold Call.Sends adsWritePacket
  simp only [clear, ne_eq, not_true_eq_false, if_false, taken]
  generalize sizeofTCPheader + (adsLength (c.request dc).mem msgOut).toNat = n at small ⊢
  rw [wrapInt_of_range (by omega) (by omega), sizeT_natCast (by omega),
    if_neg (not_not_intro rfl)]

theorem Call.run_sent (sends : c.Sends dc s s₁) :
    c.run dc s = c.finish dc (adsReadPacket (some dc.iface) (c.request dc).mem msgIn s₁) := by
  unfold Call.Sends at sends
  simp only [c.run_eq_exchange, exchange, c.request_iface, sends, Call.finish]
  rw [if_neg (by decide)]

/-- A call leaves `msgOut` and what lies behind it as its builder left it. -/
theorem Call.run_mem {i : Nat} (behind : msgOut ≤ i) :
    (c.run dc s).dc.mem i = (c.request dc).mem i := by
  rcases c.unsent_or_sends dc s with unsent | ⟨s₁, sends⟩
  · rw [Call.run_unsent unsent]
  · have outside : i < msgIn ∨ msgIn + MAXDATALEN ≤ i := Or.inr behind
    rw [Call.run_sent sends, Call.finish_mem, adsReadPacket_outside outside]

/-- No call touches the interface. -/
@[simp] theorem Call.run_iface (c : Call) (dc : ADSConnection) (s : σ) :
    (c.run dc s).dc.iface = dc.iface := by
  rcases c.unsent_or_sends dc s with unsent | ⟨s₁, sends⟩
  · rw [Call.run_unsent unsent, c.request_iface]
  · rw [Call.run_sent sends, c.finish_iface]

/-- **The reply arrives whole and fits.** -/
theorem Call.run_complete {bs : List UInt8} {pt' : Option Timeval} (sends : c.Sends dc s s₁)
    (delivery : Delivers (readTimeout dc.iface.timeout) s₁ bs pt' s') (complete : Complete bs)
    (fits : bs.length ≤ MAXDATALEN) :
    c.run dc s = c.finish dc ⟨bs.length, 0, store (c.request dc).mem msgIn bs, s'⟩ := by
  rw [c.run_sent sends, adsReadPacket_complete sends.clear delivery complete,
    if_neg (by omega)]

/-- **The reply arrives whole and does not fit.** -/
theorem Call.run_overlong {bs : List UInt8} {pt' : Option Timeval} (sends : c.Sends dc s s₁)
    (delivery : Delivers (readTimeout dc.iface.timeout) s₁ bs pt' s') (complete : Complete bs)
    (long : MAXDATALEN < bs.length) :
    c.run dc s = c.finish dc ⟨bs.length, 0xe,
      markOverlong (fill (bufferAt msgIn) 0 (c.request dc).mem bs) msgIn, s'⟩ := by
  rw [c.run_sent sends, adsReadPacket_complete sends.clear delivery complete, if_pos long]

/-- **The delivery breaks off.** -/
theorem Call.run_broken {bs : List UInt8} {pt₁ : Option Timeval} {s₂ : σ} {rc error : Int}
    (sends : c.Sends dc s s₁)
    (delivery : Delivers (readTimeout dc.iface.timeout) s₁ bs pt₁ s₂) (incomplete : Incomplete bs)
    (breaks : Breaks pt₁ s₂ rc error s') :
    c.run dc s = c.finish dc ⟨rc, error, fill (bufferAt msgIn) 0 (c.request dc).mem bs, s'⟩ := by
  rw [c.run_sent sends, adsReadPacket_broken sends.clear delivery incomplete breaks]

end Outcomes

/-! ## Calls over a script -/

/-- A request goes out whole while no outcome of `send()` says otherwise. -/
theorem Call.sends_script {c : Call} {dc : ADSConnection} (rx : List RxEvent)
    (handed : List (List UInt8)) (clear : dc.iface.error = 0)
    (small : sizeofTCPheader + (adsLength (c.request dc).mem msgOut).toNat < 2 ^ 31) :
    c.Sends dc (⟨[], rx, handed⟩ : Script) ⟨[], rx, handed ++
      [load (c.request dc).mem msgOut
        (sizeofTCPheader + (adsLength (c.request dc).mem msgOut).toNat)]⟩ := by
  have taken := Script.send_all rx handed (load (c.request dc).mem msgOut
    (sizeofTCPheader + (adsLength (c.request dc).mem msgOut).toNat))
  rw [length_load] at taken
  exact Call.sends_of_send clear small taken

/-- When nothing more is scripted the next byte times out. -/
theorem Script.breaks_timedOut (pt : Option Timeval) (tx : List TxEvent)
    (handed : List (List UInt8)) :
    Breaks pt (⟨tx, [], handed⟩ : Script) (-1) 0 ⟨tx, [], handed⟩ :=
  ⟨by decide, fun _ _ => ⟨pt, rfl⟩⟩

/-- A fresh connection from 10.0.0.1.1.1 to 10.0.0.2.1.1. -/
def freshConnection : ADSConnection :=
  adsNewConnection (fun _ => 0) (adsNewInterface 3 ⟨[10, 0, 0, 1, 1, 1], rfl⟩ 800 "plc")
    ⟨[10, 0, 0, 2, 1, 1], rfl⟩ 801

/-- The same with a time limit of a second. -/
def hurriedConnection : ADSConnection :=
  { freshConnection with iface := { freshConnection.iface with timeout := 1000 } }

/-- The header of a reply to the first request on `freshConnection`. -/
def firstReply (commandId stateFlags : UInt16) (dataLength errorCode : UInt32) : AMSheader where
  targetId := ⟨[10, 0, 0, 1, 1, 1], rfl⟩
  targetPort := 800
  sourceId := ⟨[10, 0, 0, 2, 1, 1], rfl⟩
  sourcePort := 801
  commandId := commandId
  stateFlags := stateFlags
  dataLength := dataLength
  errorCode := errorCode
  invokeId := 1

/-! ## A packet that arrived whole -/

/-- The operations that take any packet for their answer. -/
def Call.isWrite : Call → Bool
  | .writeBytes .. | .writeControl .. => true
  | _ => false

/-- `ADSwriteBytes()` wants both headers before it looks at a packet. -/
def Call.wantsHeaders : Call → Bool
  | .writeBytes .. => true
  | _ => false

/-- The command of a call's request. -/
def Call.command : Call → UInt16
  | .readBytes .. => cmdADSread
  | .writeBytes .. => cmdADSwrite
  | .readDeviceInfo => cmdADSreadDevInfo
  | .readWriteBytes .. => cmdADSreadWrite
  | .readState => cmdADSreadState
  | .writeControl .. => cmdADSwriteControl

/-- Return value and stores of the two operations that read data, from a
response in `msgIn`. -/
def readOutcome (length : UInt32) (buffer pnRead : Bool) (m : Mem) : Int × Outputs :=
  if buffer ∧ lengthOf m > length then (0x705, {})
  else
    (intOf (resultOf m),
      { buffer := if buffer then load m (msgIn + dataOffset + 8) (lengthOf m).toNat else []
        pnRead := if pnRead then some (lengthOf m) else none })

/-- Return value and stores of a call that takes the packet in `msgIn` for its
answer. -/
def Call.accept : Call → Mem → Int × Outputs
  | .readBytes _ _ length buffer pnRead, m => readOutcome length buffer pnRead m
  | .writeBytes .., m | .writeControl .., m => (intOf (resultOf m), {})
  | .readDeviceInfo, m =>
    (intOf (resultOf m),
      { pVersion := some (.read m (msgIn + dataOffset + 4))
        pDevName := some (load m (msgIn + dataOffset + 8) 16) })
  | .readWriteBytes _ _ readLength _ _ pnRead, m => readOutcome readLength true pnRead m
  | .readState, m =>
    (intOf (resultOf m),
      { ADSstate := some (get16 m (msgIn + dataOffset + 4))
        devState := some (get16 m (msgIn + dataOffset + 6)) })

/-- Return value and stores of a call for a packet that arrived whole. -/
def Call.decode (c : Call) (m : Mem) : Int × Outputs :=
  if c.isWrite ∨ commandId m msgIn = c.command then c.accept m
  else (intOf (errorCode m msgIn), {})

theorem Call.decode_of_isWrite {c : Call} {m : Mem} (write : c.isWrite) :
    c.decode m = c.accept m :=
  if_pos (Or.inl write)

theorem Call.decode_of_command {c : Call} {m : Mem} (command : commandId m msgIn = c.command) :
    c.decode m = c.accept m :=
  if_pos (Or.inr command)

theorem Call.decode_of_ne {c : Call} {m : Mem} (read : c.isWrite = false)
    (command : commandId m msgIn ≠ c.command) :
    c.decode m = (intOf (errorCode m msgIn), {}) :=
  if_neg (by simp [read, command])

/-- All six operations decode a whole packet in one way. -/
theorem Call.answer_eq_decode {n : Nat} (c : Call) (dc : ADSConnection) (nonempty : 0 < n)
    (small : n < 2 ^ 64) (AnswLen : dc.AnswLen = n) (headers : c.wantsHeaders → dataOffset ≤ n) :
    ((c.answer dc 0).1, (c.answer dc 0).2.1) = c.decode dc.mem := by
  have positive : dc.AnswLen > 0 := by omega
  cases c with
  | readBytes indexGroup offset length buffer pnRead =>
      simp only [Call.answer, readAnswer, positive, and_self, if_true]
      by_cases command : commandId dc.mem msgIn = cmdADSread
      · rw [if_pos command, Call.decode_of_command command]
        simp only [Call.accept, readOutcome]
        split <;> rfl
      · rw [if_neg command, Call.decode_of_ne rfl command]
  | writeBytes indexGroup offset length data =>
      have whole : n ≥ sizeofTCPheader + sizeofAMSheader := headers rfl
      simp only [Call.answer, writeAnswer, AnswLen, sizeT_natCast small, if_pos whole, if_true]
      rw [Call.decode_of_isWrite rfl]
      rfl
  | readDeviceInfo =>
      simp only [Call.answer, deviceInfoAnswer, positive, and_self, if_true]
      by_cases command : commandId dc.mem msgIn = cmdADSreadDevInfo
      · rw [if_pos command, Call.decode_of_command command]
        rfl
      · rw [if_neg command, Call.decode_of_ne rfl command]
  | readWriteBytes indexGroup offset readLength writeLength writeBuffer pnRead =>
      simp only [Call.answer, readWriteAnswer, positive, and_self, if_true]
      by_cases command : commandId dc.mem msgIn = cmdADSreadWrite
      · rw [if_pos command, Call.decode_of_command command]
        simp only [Call.accept, readOutcome, true_and, if_true]
        split <;> rfl
      · rw [if_neg command, Call.decode_of_ne rfl command]
  | readState =>
      simp only [Call.answer, stateAnswer, positive, and_self, if_true]
      by_cases command : commandId dc.mem msgIn = cmdADSreadState
      · rw [if_pos command, Call.decode_of_command command]
        rfl
      · rw [if_neg command, Call.decode_of_ne rfl command]
  | writeControl ADSstate devState data length =>
      simp only [Call.answer, writeControlAnswer, positive, and_self, if_true]
      rw [Call.decode_of_isWrite rfl]
      rfl

/-- The outcome of a call whose reply arrives whole and fits. -/
theorem Call.finish_decode {σ : Type} {n : Nat} (c : Call) (dc : ADSConnection) (m : Mem) (s : σ)
    (nonempty : 0 < n) (small : n < 2 ^ 64) (headers : c.wantsHeaders → dataOffset ≤ n) :
    (c.finish dc ⟨n, 0, m, s⟩).ret = (c.decode m).1 ∧
      (c.finish dc ⟨n, 0, m, s⟩).outs = (c.decode m).2 := by
  have decoded := c.answer_eq_decode ((c.request dc).received n m) nonempty small rfl headers
  exact ⟨congrArg Prod.fst decoded, congrArg Prod.snd decoded⟩

/-! ## A read that failed -/

/-- A count that is none of the documented ones is translated to 0. -/
theorem adsTranslateRdError_of_pos {rc nErr : Int} (positive : 0 < rc) :
    adsTranslateRdError rc nErr = 0 := by
  unfold adsTranslateRdError
  split_ifs <;> omega

/-- The four operations that read data translate every failed read by the table. -/
theorem Call.answer_failed {c : Call} {dc : ADSConnection} {nErr : Int} (read : c.isWrite = false)
    (failed : ¬ (dc.AnswLen > 0 ∧ nErr = 0)) :
    c.answer dc nErr = (adsTranslateRdError dc.AnswLen nErr, {}, dc) := by
  cases c with
  | readBytes => simp only [Call.answer, readAnswer, if_neg failed]
  | readDeviceInfo => simp only [Call.answer, deviceInfoAnswer, if_neg failed]
  | readWriteBytes => simp only [Call.answer, readWriteAnswer, if_neg failed]
  | readState => simp only [Call.answer, stateAnswer, if_neg failed]
  | writeBytes => cases read
  | writeControl => cases read

/-- The two writes answer an error that comes with a count by the header field
of `msgIn`. -/
theorem Call.answer_marked {c : Call} {dc : ADSConnection} {nErr : Int} (write : c.isWrite)
    (headers : dataOffset ≤ sizeT dc.AnswLen) (marked : nErr ≠ 0) :
    c.answer dc nErr = (intOf (errorCode dc.mem msgIn), {}, dc) := by
  cases c with
  | writeBytes =>
      have passes : sizeT dc.AnswLen ≥ sizeofTCPheader + sizeofAMSheader := headers
      simp only [Call.answer, writeAnswer, if_pos passes, if_neg marked]
  | writeControl =>
      have untaken : ¬ (dc.AnswLen > 0 ∧ nErr = 0) := fun taken => marked taken.2
      simp only [Call.answer, writeControlAnswer, if_neg untaken]
  | readBytes => cases write
  | readDeviceInfo => cases write
  | readWriteBytes => cases write
  | readState => cases write

/-- `ADSwriteBytes()` returns 0 for a packet that is shorter than both headers. -/
theorem Call.finish_short {σ : Type} {n : Nat} {c : Call} (dc : ADSConnection) (m : Mem) (s : σ)
    (wants : c.wantsHeaders) (nonempty : 0 < n) (short : n < dataOffset) :
    (c.finish dc ⟨n, 0, m, s⟩).ret = 0 ∧ (c.finish dc ⟨n, 0, m, s⟩).outs = {} := by
  have translated : adsTranslateRdError n 0 = 0 := adsTranslateRdError_of_pos (by omega)
  have sizes := packetSizes
  have size : sizeT (n : Int) = n := sizeT_natCast (by omega)
  cases c with
  | writeBytes indexGroup offset length data =>
      have untaken : ¬ sizeT (n : Int) ≥ sizeofTCPheader + sizeofAMSheader := by
        rw [size]
        exact Nat.not_le_of_lt short
      simp only [Call.finish, Call.answer, writeAnswer, ADSConnection.received_AnswLen,
        if_neg untaken]
      exact ⟨translated, trivial⟩
  | readBytes => cases wants
  | readDeviceInfo => cases wants
  | readWriteBytes => cases wants
  | readState => cases wants
  | writeControl => cases wants

end LibAds
