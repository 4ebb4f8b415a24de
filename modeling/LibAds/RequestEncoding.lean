import LibAds.ClientOutcomes

/-!
# Requests on the wire

What a request is for the protocol (`Request`), the packet a call ought to hand
to `send()`, and the proof that its builder leaves that packet in `msgOut`
whatever earlier requests were built there. A request is sent as it is meant
exactly for the `sendable` calls (`request_sent_iff`).
-/

namespace LibAds

open ByteMemory SocketModel

/-! ## Requests -/

/-- A request with the fields of its struct and the data behind them. -/
inductive Request where
  | readDevInfo
  | read (indexGroup indexOffset length : UInt32)
  | write (indexGroup indexOffset length : UInt32) (data : List UInt8)
  | readState
  | writeControl (ADSstate devState : UInt16) (length : UInt32) (data : List UInt8)
  | readWrite (indexGroup indexOffset readLength writeLength : UInt32) (data : List UInt8)
  deriving DecidableEq, Repr

/-- The fixed fields of the request struct. -/
def Request.fixed : Request → List UInt8
  | .readDevInfo | .readState => []
  | .read indexGroup indexOffset length | .write indexGroup indexOffset length _ =>
    toLE 4 indexGroup.toNat ++ toLE 4 indexOffset.toNat ++ toLE 4 length.toNat
  | .writeControl ADSstate devState length _ =>
    toLE 2 ADSstate.toNat ++ toLE 2 devState.toNat ++ toLE 4 length.toNat
  | .readWrite indexGroup indexOffset readLength writeLength _ =>
    toLE 4 indexGroup.toNat ++ toLE 4 indexOffset.toNat ++ toLE 4 readLength.toNat ++
      toLE 4 writeLength.toNat

/-- The size of the fixed fields. -/
def Request.fixedSize : Request → Nat
  | .readDevInfo | .readState => 0
  | .read .. | .write .. => 12
  | .writeControl .. => 8
  | .readWrite .. => 16

@[simp] theorem Request.length_fixed (r : Request) : r.fixed.length = r.fixedSize := by
  cases r <;> simp [fixed, fixedSize]

/-- The data behind the fixed fields. -/
def Request.data : Request → List UInt8
  | .readDevInfo | .readState | .read .. => []
  | .write _ _ _ data | .writeControl _ _ _ data | .readWrite _ _ _ _ data => data

/-- The number of data bytes announced inside the request. -/
def Request.announced : Request → Nat
  | .readDevInfo | .readState | .read .. => 0
  | .write _ _ length _ | .writeControl _ _ length _ | .readWrite _ _ _ length _ => length.toNat

/-- The bytes a caller passes. -/
def callerData : Option Mem → Nat → List UInt8
  | some data, n => load data 0 n
  | none, _ => []

/-- The request a caller means. -/
def Call.asRequest : Call → Request
  | .readBytes indexGroup offset length _ _ => .read indexGroup offset length
  | .writeBytes indexGroup offset length data =>
    .write (UInt32.ofInt indexGroup) (UInt32.ofInt offset) (UInt32.ofInt length)
      (callerData data length.toNat)
  | .readDeviceInfo => .readDevInfo
  | .readWriteBytes indexGroup offset readLength writeLength writeBuffer _ =>
    .readWrite indexGroup offset readLength writeLength (callerData writeBuffer writeLength.toNat)
  | .readState => .readState
  | .writeControl ADSstate devState data length =>
    .writeControl (UInt16.ofInt ADSstate) (UInt16.ofInt devState)
      (if data.isSome then UInt32.ofInt length else 0) (callerData data length.toNat)

/-- The AMS header of a call's request. -/
def Call.header (c : Call) (dc : ADSConnection) : AMSheader where
  targetId := dc.partner
  targetPort := dc.AMSport.toUInt16
  sourceId := dc.iface.me
  sourcePort := UInt16.ofInt dc.iface.AMSport
  commandId := c.command
  stateFlags := 4
  dataLength := UInt32.ofNat (c.asRequest.fixedSize + c.asRequest.announced)
  errorCode := 0
  invokeId := dc.invokeId + 1

/-! ## The headers in `msgOut` -/

/-- The 38 bytes of both headers. -/
def headerBytes (length : UInt32) (h : AMSheader) : List UInt8 :=
  toLE 2 0 ++ toLE 4 length.toNat ++ h.encode

@[simp] theorem length_headerBytes (length : UInt32) (h : AMSheader) :
    (headerBytes length h).length = dataOffset := by
  simp [headerBytes, dataOffset, sizeofTCPheader]
  omega

/-- What `requestHeader` leaves in front of the data. -/
theorem requestHeader_load (dc : ADSConnection) (command : UInt16) (length : UInt32) :
    load (requestHeader dc command length).mem msgOut dataOffset =
      headerBytes (UInt32.ofNat sizeofAMSheader + length)
        { targetId := dc.partner, targetPort := dc.AMSport.toUInt16, sourceId := dc.iface.me,
          sourcePort := UInt16.ofInt dc.iface.AMSport, commandId := command, stateFlags := 4,
          dataLength := length, errorCode := 0, invokeId := dc.invokeId + 1 } := by
  have target := dc.partner.size
  have source := dc.iface.me.size
  have size : dataOffset = 2 + 4 + 6 + 2 + 6 + 2 + 2 + 2 + 4 + 4 + 4 := rfl
  simp only [requestHeader, adsSetupAmsHeader, dataLength, get32_put32_same, size, load_add,
    headerBytes, AMSheader.encode, Nat.add_assoc]
  simp (disch := omega) only [load_put16_disjoint, load_put32_disjoint, load_store_disjoint,
    load_put16_same, load_put32_same, load_store_of_length, List.append_assoc]
  rfl

theorem requestHeader_dataLength (dc : ADSConnection) (command : UInt16) (length : UInt32) :
    load (requestHeader dc command length).mem (msgOut + 26) 4 = toLE 4 length.toNat := by
  simp only [requestHeader]
  simp (disch := omega) only [load_put16_disjoint, load_put32_disjoint, load_put32_same]

/-- The data length may be changed after the headers have been written. -/
theorem headerBytes_setDataLength {m : Mem} {length v : UInt32} {h : AMSheader}
    (held : load m msgOut dataOffset = headerBytes length h) :
    load (put32 m (msgOut + 26) v) msgOut dataOffset =
      headerBytes length { h with dataLength := v } := by
  have size : dataOffset = 26 + (4 + 8) := rfl
  have form : ∀ d : UInt32, headerBytes length { h with dataLength := d } =
      toLE 2 0 ++ toLE 4 length.toNat ++ h.targetId.b ++ toLE 2 h.targetPort.toNat ++
        h.sourceId.b ++ toLE 2 h.sourcePort.toNat ++ toLE 2 h.commandId.toNat ++
        toLE 2 h.stateFlags.toNat ++
        (toLE 4 d.toNat ++ (toLE 4 h.errorCode.toNat ++ toLE 4 h.invokeId.toNat)) := by
    intro d
    simp only [headerBytes, AMSheader.encode, List.append_assoc]
  rw [size, form h.dataLength] at held
  obtain ⟨front, rest⟩ := load_append_inj held (by simp [h.targetId.size, h.sourceId.size])
  obtain ⟨_, back⟩ := load_append_inj rest (length_toLE 4 _)
  rw [size, form v, load_add, load_add, load_put32_disjoint (by omega), load_put32_same,
    load_put32_disjoint (by omega), front, back]

/-- The length `ADSwriteControl()` puts in the TCP header is set before the
length of its data is added to the AMS header. -/
def Call.tcpLength : Call → UInt32
  | .writeControl .. => UInt32.ofNat sizeofAMSheader + UInt32.ofNat sizeofWriteControlRequest
  | c => UInt32.ofNat sizeofAMSheader +
    UInt32.ofNat (c.asRequest.fixedSize + c.asRequest.announced)

/-- A length argument that fits the buffer keeps its value in every type. -/
theorem ofInt_natCast {n : Nat} (small : n < 2 ^ 32) : UInt32.ofInt n = UInt32.ofNat n := by
  have value : ((n : Int) % 2 ^ 32).toNat = n := by omega
  rw [UInt32.ofInt, value]

theorem toNat_ofInt_natCast {n : Nat} (small : n < 2 ^ 32) : (UInt32.ofInt n).toNat = n := by
  rw [ofInt_natCast small, UInt32.toNat_ofNat']
  exact Nat.mod_eq_of_lt small

/-- The length in the TCP header counts the AMS header with the data. -/
theorem toNat_tcpLength {n : Nat} (fits : n ≤ MAXDATALEN) :
    (UInt32.ofNat sizeofAMSheader + UInt32.ofNat n).toNat = sizeofAMSheader + n := by
  have sizes := packetSizes
  rw [← UInt32.ofNat_add, UInt32.toNat_ofNat']
  exact Nat.mod_eq_of_lt (by omega)

/-- The headers of a call whose builder announces what the request means. -/
theorem requestHeader_call (c : Call) (dc : ADSConnection) {length : UInt32}
    (announced : length = UInt32.ofNat (c.asRequest.fixedSize + c.asRequest.announced)) :
    load (requestHeader dc c.command length).mem msgOut dataOffset =
      headerBytes (UInt32.ofNat sizeofAMSheader + length) (c.header dc) := by
  subst announced
  exact requestHeader_load dc c.command _

/-- Both headers of every request, in `msgOut`. -/
theorem Call.request_headers {c : Call} (fits : c.Fits) (dc : ADSConnection) :
    load (c.request dc).mem msgOut dataOffset = headerBytes c.tcpLength (c.header dc) := by
  have sizes := packetSizes
  cases c with
  | readBytes indexGroup offset length buffer pnRead =>
      simp (disch := omega) only [Call.request, readRequest, load_put32_disjoint]
      exact requestHeader_call (.readBytes indexGroup offset length buffer pnRead) dc rfl
  | writeBytes indexGroup offset length data =>
      rcases fits with ⟨nonneg, fits⟩
      rcases Int.eq_ofNat_of_zero_le nonneg with ⟨n, rfl⟩
      have counted : (sizeofWriteRequest - MAXDATALEN + (n : Nat) : Int) = (12 + n : Nat) := by
        unfold sizeofWriteRequest MAXDATALEN
        omega
      have announced : UInt32.ofInt (sizeofWriteRequest - MAXDATALEN + (n : Nat)) =
          UInt32.ofNat (12 + (UInt32.ofInt n).toNat) := by
        rw [counted, ofInt_natCast (by omega), toNat_ofInt_natCast (by omega)]
      have header := requestHeader_call (.writeBytes indexGroup offset n data) dc announced
      rw [announced] at header
      cases data with
      | none =>
          simp (disch := omega) only [Call.request, writeRequest, load_put32_disjoint, announced]
          exact header
      | some data =>
          simp (disch := omega) only [Call.request, writeRequest, load_copy_disjoint,
            load_put32_disjoint, announced]
          exact header
  | readDeviceInfo => exact requestHeader_call .readDeviceInfo dc rfl
  | readWriteBytes indexGroup offset readLength writeLength writeBuffer pnRead =>
      have announced : UInt32.ofNat (sizeofReadWriteRequest - MAXDATALEN) + writeLength =
          UInt32.ofNat (16 + writeLength.toNat) := by
        rw [UInt32.ofNat_add, UInt32.ofNat_toNat]
        rfl
      have header := requestHeader_call
        (.readWriteBytes indexGroup offset readLength writeLength writeBuffer pnRead) dc announced
      rw [announced] at header
      cases writeBuffer with
      | none =>
          simp (disch := omega) only [Call.request, readWriteRequest, load_put32_disjoint,
            announced]
          exact header
      | some data =>
          simp (disch := omega) only [Call.request, readWriteRequest, load_copy_disjoint,
            load_put32_disjoint, announced]
          exact header
  | readState => exact requestHeader_call .readState dc rfl
  | writeControl ADSstate devState data length =>
      have header := requestHeader_load dc cmdADSwriteControl
        (UInt32.ofNat sizeofWriteControlRequest)
      cases data with
      | none =>
          simp (disch := omega) only [Call.request, writeControlRequest, load_put16_disjoint,
            load_put32_disjoint]
          exact header
      | some data =>
          rcases fits with ⟨nonneg, fits⟩
          rcases Int.eq_ofNat_of_zero_le nonneg with ⟨n, rfl⟩
          have announced : UInt32.ofNat sizeofWriteControlRequest + UInt32.ofInt n =
              UInt32.ofNat (8 + (UInt32.ofInt n).toNat) := by
            rw [UInt32.ofNat_add, UInt32.ofNat_toNat]
            rfl
          have before := requestHeader_dataLength dc cmdADSwriteControl
            (UInt32.ofNat sizeofWriteControlRequest)
          simp only [Call.request, writeControlRequest]
          rw [headerBytes_setDataLength (by
            simp (disch := omega) only [load_copy_disjoint, load_put16_disjoint,
              load_put32_disjoint]
            exact header)]
          rw [dataLength, get32_of_load (by
            simp (disch := omega) only [load_copy_disjoint, load_put16_disjoint,
              load_put32_disjoint]
            exact before), announced]
          rfl

/-! ## The data in `msgOut` -/

/-- The fixed fields of every request. -/
theorem Call.request_fixed {c : Call} (fits : c.Fits) (dc : ADSConnection) :
    load (c.request dc).mem (msgOut + dataOffset) c.asRequest.fixedSize = c.asRequest.fixed := by
  have sizes := packetSizes
  cases c with
  | readBytes indexGroup offset length buffer pnRead =>
      have size : (Call.readBytes indexGroup offset length buffer pnRead).asRequest.fixedSize =
        4 + 4 + 4 := rfl
      rw [size]
      simp (disch := omega) only [Call.request, readRequest, load_add, load_put32_disjoint,
        load_put32_same, Nat.add_assoc]
      rfl
  | writeBytes indexGroup offset length data =>
      have size : (Call.writeBytes indexGroup offset length data).asRequest.fixedSize =
        4 + 4 + 4 := rfl
      rw [size]
      cases data <;>
        simp (disch := omega) only [Call.request, writeRequest, load_add, load_copy_disjoint,
          load_put32_disjoint, load_put32_same, Nat.add_assoc] <;>
        rfl
  | readDeviceInfo => rfl
  | readWriteBytes indexGroup offset readLength writeLength writeBuffer pnRead =>
      have size : (Call.readWriteBytes indexGroup offset readLength writeLength writeBuffer
        pnRead).asRequest.fixedSize = 4 + 4 + 4 + 4 := rfl
      rw [size]
      cases writeBuffer <;>
        simp (disch := omega) only [Call.request, readWriteRequest, load_add, load_copy_disjoint,
          load_put32_disjoint, load_put32_same, Nat.add_assoc] <;>
        rfl
  | readState => rfl
  | writeControl ADSstate devState data length =>
      have size : (Call.writeControl ADSstate devState data length).asRequest.fixedSize =
        2 + 2 + 4 := rfl
      rw [size]
      cases data <;>
        simp (disch := omega) only [Call.request, writeControlRequest, load_add,
          load_copy_disjoint, load_put16_disjoint, load_put32_disjoint, load_put16_same,
          load_put32_same, Nat.add_assoc] <;>
        rfl

/-- The caller's data behind the fixed fields. -/
theorem Call.request_data {c : Call} (fits : c.Fits) (dc : ADSConnection) :
    load (c.request dc).mem (msgOut + dataOffset + c.asRequest.fixedSize)
      c.asRequest.data.length = c.asRequest.data := by
  have sizes := packetSizes
  cases c with
  | readBytes => rfl
  | writeBytes indexGroup offset length data =>
      rcases fits with ⟨nonneg, fits⟩
      rcases Int.eq_ofNat_of_zero_le nonneg with ⟨n, rfl⟩
      cases data with
      | none => rfl
      | some data =>
          simp only [Call.request, writeRequest, Call.asRequest, Request.data, callerData,
            Request.fixedSize, length_load, Int.toNat_natCast]
          rw [sizeT_natCast (by omega)]
          exact load_copy_same _ _ _ _
  | readDeviceInfo => rfl
  | readWriteBytes indexGroup offset readLength writeLength writeBuffer pnRead =>
      cases writeBuffer with
      | none => rfl
      | some data =>
          simp only [Call.request, readWriteRequest, Call.asRequest, Request.data, callerData,
            Request.fixedSize, length_load]
          exact load_copy_same _ _ _ _
  | readState => rfl
  | writeControl ADSstate devState data length =>
      cases data with
      | none => rfl
      | some data =>
          rcases fits with ⟨nonneg, fits⟩
          rcases Int.eq_ofNat_of_zero_le nonneg with ⟨n, rfl⟩
          simp only [Call.request, writeControlRequest, Call.asRequest, Request.data, callerData,
            Request.fixedSize, length_load, Int.toNat_natCast]
          rw [sizeT_natCast (by omega), load_put32_disjoint (by omega),
            load_put32_disjoint (by omega)]
          exact load_copy_same _ _ _ _

/-! ## What is sent -/

theorem headerBytes_read {m : Mem} {p : Nat} {length : UInt32} {h : AMSheader}
    (held : load m p dataOffset = headerBytes length h) :
    adsLength m p = length ∧ AMSheader.read m p = h := by
  have size : dataOffset = 2 + 4 + sizeofAMSheader := rfl
  rw [size, headerBytes] at held
  obtain ⟨front, header⟩ := load_append_inj held (by simp)
  obtain ⟨_, announced⟩ := load_append_inj front (length_toLE 2 0)
  exact ⟨get32_of_load announced, AMSheader.read_of_load header⟩

/-- A packet is its headers followed by its data. -/
theorem adsPacket_eq_headerBytes {h : AMSheader} {data : List UInt8}
    (fits : data.length ≤ MAXDATALEN) :
    adsPacket h data =
      headerBytes (UInt32.ofNat sizeofAMSheader + UInt32.ofNat data.length) h ++ data := by
  rw [headerBytes, toNat_tcpLength fits, adsPacket, List.append_assoc _ h.encode]

/-- The length field of the TCP header covers what the request announces, and
the data announced are there. -/
def Call.sendable : Call → Prop
  | .writeBytes _ _ length none => length = 0
  | .readWriteBytes _ _ _ writeLength none _ => writeLength = 0
  | .writeControl _ _ (some _) length => length = 0
  | _ => True

/-- What the request announces fits the buffer with it. -/
theorem Call.announced_le {c : Call} (fits : c.Fits) :
    dataOffset + (c.asRequest.fixedSize + c.asRequest.announced) ≤ MAXDATALEN := by
  have sizes := packetSizes
  cases c with
  | readBytes => exact (by omega : dataOffset + (12 + 0) ≤ MAXDATALEN)
  | writeBytes indexGroup offset length data =>
      rcases fits with ⟨nonneg, fits⟩
      rcases Int.eq_ofNat_of_zero_le nonneg with ⟨n, rfl⟩
      simp only [Call.asRequest, Request.fixedSize, Request.announced]
      rw [toNat_ofInt_natCast (by omega)]
      omega
  | readDeviceInfo => decide
  | readWriteBytes indexGroup offset readLength writeLength writeBuffer pnRead =>
      have fits : dataOffset + 16 + writeLength.toNat ≤ MAXDATALEN := fits
      simp only [Call.asRequest, Request.fixedSize, Request.announced]
      omega
  | readState => decide
  | writeControl ADSstate devState data length =>
      cases data with
      | none => exact (by omega : dataOffset + (8 + 0) ≤ MAXDATALEN)
      | some data =>
          rcases fits with ⟨nonneg, fits⟩
          rcases Int.eq_ofNat_of_zero_le nonneg with ⟨n, rfl⟩
          simp only [Call.asRequest, Request.fixedSize, Request.announced, Option.isSome_some,
            if_true]
          rw [toNat_ofInt_natCast (by omega)]
          omega

/-- What `send()` is asked to take are both headers and a part of the packet
buffer. -/
theorem Call.request_length {c : Call} (fits : c.Fits) (dc : ADSConnection) :
    dataOffset ≤ sizeofTCPheader + (adsLength (c.request dc).mem msgOut).toNat ∧
      sizeofTCPheader + (adsLength (c.request dc).mem msgOut).toNat ≤ MAXDATALEN := by
  have announced := c.announced_le fits
  have sizes := packetSizes
  have general : dataOffset ≤ sizeofTCPheader + (UInt32.ofNat sizeofAMSheader +
      UInt32.ofNat (c.asRequest.fixedSize + c.asRequest.announced)).toNat ∧
      sizeofTCPheader + (UInt32.ofNat sizeofAMSheader +
        UInt32.ofNat (c.asRequest.fixedSize + c.asRequest.announced)).toNat ≤ MAXDATALEN := by
    rw [toNat_tcpLength (by omega)]
    omega
  rw [(headerBytes_read (Call.request_headers fits dc)).1]
  cases c with
  | writeControl =>
      have value : (UInt32.ofNat sizeofAMSheader + UInt32.ofNat sizeofWriteControlRequest).toNat =
        40 := rfl
      simp only [Call.tcpLength, value]
      omega
  | readBytes => exact general
  | writeBytes => exact general
  | readDeviceInfo => exact general
  | readWriteBytes => exact general
  | readState => exact general

theorem Call.sendable_lengths {c : Call} (fits : c.Fits) (sendable : c.sendable) :
    c.asRequest.data.length = c.asRequest.announced ∧
      c.tcpLength = UInt32.ofNat sizeofAMSheader +
        UInt32.ofNat (c.asRequest.fixedSize + c.asRequest.announced) := by
  have sizes := packetSizes
  cases c with
  | readBytes => exact ⟨rfl, rfl⟩
  | writeBytes indexGroup offset length data =>
      rcases fits with ⟨nonneg, fits⟩
      rcases Int.eq_ofNat_of_zero_le nonneg with ⟨n, rfl⟩
      refine ⟨?_, rfl⟩
      simp only [Call.asRequest, Request.data, Request.announced]
      rw [toNat_ofInt_natCast (by omega)]
      cases data with
      | none =>
          have zero : (n : Int) = 0 := sendable
          exact (by omega : 0 = n)
      | some data => exact length_load _ _ _
  | readDeviceInfo => exact ⟨rfl, rfl⟩
  | readWriteBytes indexGroup offset readLength writeLength writeBuffer pnRead =>
      refine ⟨?_, rfl⟩
      cases writeBuffer with
      | none =>
          have zero : writeLength = 0 := sendable
          subst zero
          rfl
      | some data => exact length_load _ _ _
  | readState => exact ⟨rfl, rfl⟩
  | writeControl ADSstate devState data length =>
      cases data with
      | none => exact ⟨rfl, rfl⟩
      | some data =>
          have zero : length = 0 := sendable
          subst zero
          exact ⟨rfl, rfl⟩

/-- The two lengths in turn make a call sendable. -/
theorem Call.sendable_of_lengths {c : Call} (fits : c.Fits)
    (size : c.asRequest.data.length = c.asRequest.announced)
    (length : c.tcpLength = UInt32.ofNat sizeofAMSheader +
      UInt32.ofNat (c.asRequest.fixedSize + c.asRequest.announced)) : c.sendable := by
  have small := c.announced_le fits
  have sizes := packetSizes
  cases c with
  | readBytes => trivial
  | writeBytes indexGroup offset length data =>
      cases data with
      | none =>
          rcases fits with ⟨nonneg, fits⟩
          rcases Int.eq_ofNat_of_zero_le nonneg with ⟨n, rfl⟩
          have announced : 0 = (UInt32.ofInt n).toNat := size
          rw [toNat_ofInt_natCast (by omega)] at announced
          exact (by omega : (n : Int) = 0)
      | some data => trivial
  | readDeviceInfo => trivial
  | readWriteBytes indexGroup offset readLength writeLength writeBuffer pnRead =>
      cases writeBuffer with
      | none => exact UInt32.toNat_inj.mp size.symm
      | some data => trivial
  | readState => trivial
  | writeControl ADSstate devState data length' =>
      cases data with
      | none => trivial
      | some data =>
          rcases fits with ⟨nonneg, fits⟩
          rcases Int.eq_ofNat_of_zero_le nonneg with ⟨n, rfl⟩
          have announced := congrArg UInt32.toNat length
          rw [toNat_tcpLength (by omega)] at announced
          have announced : 40 = sizeofAMSheader + (8 + (UInt32.ofInt n).toNat) := announced
          rw [toNat_ofInt_natCast (by omega)] at announced
          exact (by omega : (n : Int) = 0)

/-- **A sendable request stands in `msgOut` as it is meant.** -/
theorem Call.request_packet {c : Call} (fits : c.Fits) (sendable : c.sendable)
    (dc : ADSConnection) :
    load (c.request dc).mem msgOut
        (sizeofTCPheader + (adsLength (c.request dc).mem msgOut).toNat) =
      adsPacket (c.header dc) (c.asRequest.fixed ++ c.asRequest.data) := by
  have small := c.announced_le fits
  rcases Call.sendable_lengths fits sendable with ⟨size, length⟩
  have headers := Call.request_headers fits dc
  have sizes := packetSizes
  have whole : sizeofTCPheader + c.tcpLength.toNat =
      dataOffset + (c.asRequest.fixedSize + c.asRequest.data.length) := by
    rw [length, toNat_tcpLength (by omega), size]
    omega
  have body : (c.asRequest.fixed ++ c.asRequest.data).length =
      c.asRequest.fixedSize + c.asRequest.announced := by
    rw [List.length_append, Request.length_fixed, size]
  rw [(headerBytes_read headers).1, whole, load_add, load_add, headers,
    Call.request_fixed fits dc, Call.request_data fits dc,
    adsPacket_eq_headerBytes (by omega), body, length]

/-- `send()` is handed the packet whatever becomes of it. -/
theorem adsWritePacket_handed {di : ADSInterface} (clear : di.error = 0) (m : Mem) (p : Nat)
    (s : Script) :
    (adsWritePacket (some di) m p s).sock.handed =
      s.handed ++ [load m p (sizeofTCPheader + (adsLength m p).toNat)] := by
  obtain ⟨tx, rx, handed⟩ := s
  simp only [adsWritePacket, clear, ne_eq, not_true_eq_false, if_false, Socket.send, Script.send]
  rcases tx with _ | ⟨_ | ⟨n, errno⟩ | errno, tx⟩
  · dsimp only
    split <;> rfl
  · dsimp only
    split <;> rfl
  · dsimp only
    split <;> rfl
  · rfl

/-- The request of a call is sent as it is meant: the two length fields agree,
the inner one counts the fixed fields and the data announced, and `send()` gets
both headers, the fixed fields and the caller's data. -/
structure Call.WellSent (c : Call) (dc : ADSConnection) (s : Script) : Prop where
  lengths : adsLength (c.request dc).mem msgOut =
    UInt32.ofNat sizeofAMSheader + dataLength (c.request dc).mem msgOut
  announced : (dataLength (c.request dc).mem msgOut).toNat =
    c.asRequest.fixedSize + c.asRequest.announced
  bytes : (adsWritePacket (some dc.iface) (c.request dc).mem msgOut s).sock.handed =
    s.handed ++ [headerBytes (adsLength (c.request dc).mem msgOut) (c.header dc) ++
      c.asRequest.fixed ++ c.asRequest.data]

/-- **Which requests are sent as they are meant.** All but those of
`ADSwriteControl()` with additional data, whose TCP header leaves the data out,
and those that announce data for a null pointer. -/
theorem request_sent_iff (c : Call) (dc : ADSConnection) (s : Script) (clear : dc.iface.error = 0)
    (fits : c.Fits) : c.WellSent dc s ↔ c.sendable := by
  have small := c.announced_le fits
  have sizes := packetSizes
  rcases headerBytes_read (Call.request_headers fits dc) with ⟨outer, header⟩
  have inner : dataLength (c.request dc).mem msgOut =
      UInt32.ofNat (c.asRequest.fixedSize + c.asRequest.announced) :=
    congrArg AMSheader.dataLength header
  have handed := adsWritePacket_handed clear (c.request dc).mem msgOut s
  constructor
  · intro sent
    have bytes := congrArg List.length (List.singleton_inj.mp
      (List.append_cancel_left (handed.symm.trans sent.bytes)))
    rw [length_load, List.length_append, List.length_append, length_headerBytes,
      Request.length_fixed, outer] at bytes
    have lengths := sent.lengths
    rw [outer, inner] at lengths
    rw [lengths, toNat_tcpLength (by omega)] at bytes
    exact Call.sendable_of_lengths fits (by omega) lengths
  · intro sendable
    have packet := Call.request_packet fits sendable dc
    rcases Call.sendable_lengths fits sendable with ⟨size, length⟩
    have body : (c.asRequest.fixed ++ c.asRequest.data).length =
        c.asRequest.fixedSize + c.asRequest.announced := by
      rw [List.length_append, Request.length_fixed, size]
    refine ⟨by rw [outer, inner, length], ?_, ?_⟩
    · rw [inner, UInt32.toNat_ofNat']
      exact Nat.mod_eq_of_lt (by omega)
    · rw [handed, packet, adsPacket_eq_headerBytes (by omega), body, outer, length,
        List.append_assoc (headerBytes _ _)]

/-- A state change with four bytes of additional data. -/
def controlWithData : Call := .writeControl 5 0 (some fun _ => 7) 4

theorem controlWithData_sent_iff :
    controlWithData.WellSent freshConnection ⟨[], [], []⟩ ↔ controlWithData.sendable :=
  request_sent_iff controlWithData freshConnection ⟨[], [], []⟩ rfl ⟨by decide, by decide⟩

/-- Its TCP header announces 40 bytes, its AMS header 12 after the 32 of its own. -/
theorem request_not_always_sent :
    ¬ ∀ (c : Call) (dc : ADSConnection) (s : Script), dc.iface.error = 0 → c.Fits →
      c.WellSent dc s := by
  intro sent
  have lengths := (sent controlWithData freshConnection ⟨[], [], []⟩ rfl
    ⟨by decide, by decide⟩).lengths
  have disagree : adsLength (controlWithData.request freshConnection).mem msgOut ≠
      UInt32.ofNat sizeofAMSheader +
        dataLength (controlWithData.request freshConnection).mem msgOut := by
    decide +kernel
  exact disagree lengths

end LibAds
