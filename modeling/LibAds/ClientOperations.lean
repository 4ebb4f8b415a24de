import LibAds.PacketIo

/-!
# The six client operations

`ADSreadBytes()`, `ADSwriteBytes()`, `ADSreadDeviceInfo()`,
`ADSreadWriteBytes()`, `ADSreadState()` and `ADSwriteControl()` of `ads.c`.
Each one builds a request in `msgOut`, sends it, reads one packet into `msgIn`
and looks at what then stands there. The middle is the same in all six
(`exchange`); the builder and the look at the answer are each operation's own.
-/

namespace LibAds

open ByteMemory SocketModel

/-! ## Building a request -/

/-- `_ADSsetupAmsHeader()` on the packet at `p`. -/
def adsSetupAmsHeader (dc : ADSConnection) (p : Nat) : ADSConnection :=
  let m := store dc.mem (p + 6) dc.partner.b
  let m := put16 m (p + 12) dc.AMSport.toUInt16
  let m := store m (p + 14) dc.iface.me.b
  let m := put16 m (p + 20) (UInt16.ofInt dc.iface.AMSport)
  let m := put16 m (p + 24) 4
  let m := put32 m (p + 30) 0
  let m := put32 m (p + 34) (dc.invokeId + 1)
  { dc with invokeId := dc.invokeId + 1, mem := m }

/-- The statements every builder starts with: the AMS header, then the command,
its data length and the TCP header. -/
def requestHeader (dc : ADSConnection) (command : UInt16) (length : UInt32) : ADSConnection :=
  let dc := adsSetupAmsHeader dc msgOut
  let m := put16 dc.mem (msgOut + 22) command
  let m := put32 m (msgOut + 26) length
  let m := put32 m (msgOut + 2) (UInt32.ofNat sizeofAMSheader + dataLength m msgOut)
  let m := put16 m msgOut 0
  { dc with mem := m }

/-- `ADSreadBytes()`: an `ADSreadRequest`. -/
def readRequest (indexGroup offset length : UInt32) (dc : ADSConnection) : ADSConnection :=
  let dc := requestHeader dc cmdADSread 12
  let rq := msgOut + dataOffset
  let m := put32 dc.mem rq indexGroup
  let m := put32 m (rq + 4) offset
  let m := put32 m (rq + 8) length
  { dc with mem := m }

/-- `sizeof(ADSwriteRequest)`, its data array included. -/
def sizeofWriteRequest : Nat := 12 + MAXDATALEN

/-- `ADSwriteBytes()`: an `ADSwriteRequest`. No builder looks at the length of
its data before it copies them; `Call.fault` says where that is undefined. -/
def writeRequest (indexGroup offset length : Int) (data : Option Mem) (dc : ADSConnection) :
    ADSConnection :=
  let dc := requestHeader dc cmdADSwrite (UInt32.ofInt (sizeofWriteRequest - MAXDATALEN + length))
  let rq := msgOut + dataOffset
  let m := put32 dc.mem rq (UInt32.ofInt indexGroup)
  let m := put32 m (rq + 4) (UInt32.ofInt offset)
  let m := put32 m (rq + 8) (UInt32.ofInt length)
  let m := match data with
    | some data => copy m (rq + 12) data (sizeT length)
    | none => m
  { dc with mem := m }

/-- `ADSreadDeviceInfo()`: no data. -/
def deviceInfoRequest (dc : ADSConnection) : ADSConnection :=
  requestHeader dc cmdADSreadDevInfo 0

/-- `sizeof(ADSreadWriteRequest)`, its data array included. -/
def sizeofReadWriteRequest : Nat := 16 + MAXDATALEN

/-- `ADSreadWriteBytes()`: an `ADSreadWriteRequest`. -/
def readWriteRequest (indexGroup offset readLength writeLength : UInt32)
    (writeBuffer : Option Mem) (dc : ADSConnection) : ADSConnection :=
  let dc := requestHeader dc cmdADSreadWrite
    (UInt32.ofNat (sizeofReadWriteRequest - MAXDATALEN) + writeLength)
  let rq := msgOut + dataOffset
  let m := put32 dc.mem rq indexGroup
  let m := put32 m (rq + 4) offset
  let m := put32 m (rq + 12) writeLength
  let m := put32 m (rq + 8) readLength
  let m := match writeBuffer with
    | some writeBuffer => copy m (rq + 16) writeBuffer writeLength.toNat
    | none => m
  { dc with mem := m }

/-- `ADSreadState()`: no data. -/
def stateRequest (dc : ADSConnection) : ADSConnection :=
  requestHeader dc cmdADSreadState 0

/-- `sizeof(ADSwriteControlRequest)`; its data array has no size. -/
def sizeofWriteControlRequest : Nat := 8

/-- `ADSwriteControl()`: an `ADSwriteControlRequest`. Additional data changes
`dataLength` after the length of the TCP header has been set. -/
def writeControlRequest (ADSstate devState : Int) (data : Option Mem) (length : Int)
    (dc : ADSConnection) : ADSConnection :=
  let dc := requestHeader dc cmdADSwriteControl (UInt32.ofNat sizeofWriteControlRequest)
  let rq := msgOut + dataOffset
  let m := put16 dc.mem rq (UInt16.ofInt ADSstate)
  let m := put16 m (rq + 2) (UInt16.ofInt devState)
  let m := put32 m (rq + 4) 0
  let m := match data with
    | some data =>
      let m := copy m (rq + 8) data (sizeT length)
      let m := put32 m (rq + 4) (UInt32.ofInt length)
      put32 m (msgOut + 26) (dataLength m msgOut + UInt32.ofInt length)
    | none => m
  { dc with mem := m }

/-! ## Error codes -/

/-- `_ADStranslateWrError()` -/
def adsTranslateWrError (rc : Int) (_nErr : Option Int) : Int :=
  if rc = 0 then 0x1a
  else if rc = -3 ∨ rc = -4 then 0x1
  else 0

/-- `_ADStranslateRdError()` -/
def adsTranslateRdError (rc _nErr : Int) : Int :=
  if rc = 0 then 0x1a
  else if rc = -1 then 0x15
  else if rc = -2 then 0x50a
  else if rc = -3 ∨ rc = -4 then 0x1
  else 0

/-! ## Looking at the answer -/

/-- What an operation stores through its caller's pointers: the bytes stored
from the start of the buffer on, and for each other pointer the value, if one
is stored. -/
structure Outputs where
  buffer : List UInt8 := []
  pnRead : Option UInt32 := none
  pDevName : Option (List UInt8) := none
  pVersion : Option AdsVersion := none
  ADSstate : Option UInt16 := none
  devState : Option UInt16 := none
  deriving DecidableEq, Repr

/-- `result` of any response struct behind the headers. -/
def resultOf (m : Mem) : UInt32 := get32 m (msgIn + dataOffset)

/-- `length` of an `ADSreadResponse` or `ADSreadWriteResponse`. -/
def lengthOf (m : Mem) : UInt32 := get32 m (msgIn + dataOffset + 4)

/-- `dc->AnswLen = _ADSReadPacket(..)`: the count that was returned and the
memory the reader left. -/
def ADSConnection.received (dc : ADSConnection) (AnswLen : Int) (m : Mem) : ADSConnection :=
  { dc with AnswLen := AnswLen, mem := m }

/-- `ADSreadBytes()` shows its caller where the data lies. -/
def ADSConnection.showData (dc : ADSConnection) (dataPointer : Nat) (AnswLen : Int) :
    ADSConnection :=
  { dc with dataPointer := dataPointer, AnswLen := AnswLen }

section Fields

variable (dc : ADSConnection) (n : Int) (m : Mem) (p : Nat)

@[simp] theorem ADSConnection.received_AnswLen : (dc.received n m).AnswLen = n := rfl
@[simp] theorem ADSConnection.received_mem : (dc.received n m).mem = m := rfl
@[simp] theorem ADSConnection.received_iface : (dc.received n m).iface = dc.iface := rfl
@[simp] theorem ADSConnection.received_invokeId : (dc.received n m).invokeId = dc.invokeId := rfl
@[simp] theorem ADSConnection.showData_mem : (dc.showData p n).mem = dc.mem := rfl
@[simp] theorem ADSConnection.showData_iface : (dc.showData p n).iface = dc.iface := rfl
@[simp] theorem ADSConnection.showData_invokeId : (dc.showData p n).invokeId = dc.invokeId := rfl

end Fields

/-- What an operation does after `_ADSReadPacket()`: its return value, its
stores, and the connection it leaves. The arguments are the connection with
`AnswLen` set and `nErr`. -/
abbrev Answer := ADSConnection → Int → Int × Outputs × ADSConnection

/-- `ADSreadBytes()`; `buffer` and `pnRead` say which pointers are not NULL. -/
def readAnswer (length : UInt32) (buffer pnRead : Bool) : Answer := fun dc nErr =>
  if dc.AnswLen > 0 ∧ nErr = 0 then
    if commandId dc.mem msgIn = cmdADSread then
      let data := msgIn + dataOffset + 8
      if buffer ∧ lengthOf dc.mem > length then
        (0x705, {}, dc.showData data (intOf (lengthOf dc.mem)))
      else
        let outs : Outputs :=
          { buffer := if buffer then load dc.mem data (lengthOf dc.mem).toNat else []
            pnRead := if pnRead then some (lengthOf dc.mem) else none }
        (intOf (resultOf dc.mem), outs, dc.showData data (intOf (lengthOf dc.mem)))
    else (intOf (errorCode dc.mem msgIn), {}, dc)
  else (adsTranslateRdError dc.AnswLen nErr, {}, dc)

/-- `ADSwriteBytes()`. The count is compared as `size_t`. -/
def writeAnswer : Answer := fun dc nErr =>
  if sizeT dc.AnswLen ≥ sizeofTCPheader + sizeofAMSheader then
    if nErr = 0 then (intOf (resultOf dc.mem), {}, dc)
    else (intOf (errorCode dc.mem msgIn), {}, dc)
  else (adsTranslateRdError dc.AnswLen nErr, {}, dc)

/-- `ADSreadDeviceInfo()` -/
def deviceInfoAnswer : Answer := fun dc nErr =>
  if dc.AnswLen > 0 ∧ nErr = 0 then
    if commandId dc.mem msgIn = cmdADSreadDevInfo then
      let info := msgIn + dataOffset
      let outs : Outputs :=
        { pVersion := some (.read dc.mem (info + 4)), pDevName := some (load dc.mem (info + 8) 16) }
      (intOf (resultOf dc.mem), outs, dc)
    else (intOf (errorCode dc.mem msgIn), {}, dc)
  else (adsTranslateRdError dc.AnswLen nErr, {}, dc)

/-- `ADSreadWriteBytes()`; `readBuffer` is used without a NULL test. -/
def readWriteAnswer (readLength : UInt32) (pnRead : Bool) : Answer := fun dc nErr =>
  if dc.AnswLen > 0 ∧ nErr = 0 then
    if commandId dc.mem msgIn = cmdADSreadWrite then
      if lengthOf dc.mem > readLength then (0x705, {}, dc)
      else
        let outs : Outputs :=
          { buffer := load dc.mem (msgIn + dataOffset + 8) (lengthOf dc.mem).toNat
            pnRead := if pnRead then some (lengthOf dc.mem) else none }
        (intOf (resultOf dc.mem), outs, dc)
    else (intOf (errorCode dc.mem msgIn), {}, dc)
  else (adsTranslateRdError dc.AnswLen nErr, {}, dc)

/-- `ADSreadState()` -/
def stateAnswer : Answer := fun dc nErr =>
  if dc.AnswLen > 0 ∧ nErr = 0 then
    if commandId dc.mem msgIn = cmdADSreadState then
      let response := msgIn + dataOffset
      let outs : Outputs :=
        { ADSstate := some (get16 dc.mem (response + 4))
          devState := some (get16 dc.mem (response + 6)) }
      (intOf (resultOf dc.mem), outs, dc)
    else (intOf (errorCode dc.mem msgIn), {}, dc)
  else (adsTranslateRdError dc.AnswLen nErr, {}, dc)

/-- `ADSwriteControl()`. Every failure ends in the header field of `msgIn`; the
translation of the read error behind it is never reached. -/
def writeControlAnswer : Answer := fun dc nErr =>
  if dc.AnswLen > 0 ∧ nErr = 0 then (intOf (resultOf dc.mem), {}, dc)
  else (intOf (errorCode dc.mem msgIn), {}, dc)

/-! ## The operations -/

variable {σ : Type} [Socket σ]

/-- What a call returns and stores, with the connection and the socket after it. -/
structure CallResult (σ : Type) where
  ret : Int
  outs : Outputs
  dc : ADSConnection
  sock : σ

/-- The part all operations share: send the request in `msgOut`, read one
packet into `msgIn`, look at it. -/
def exchange (answer : Answer) (dc : ADSConnection) (s : σ) : CallResult σ :=
  let w := adsWritePacket (some dc.iface) dc.mem msgOut s
  if w.rc ≤ 0 then ⟨adsTranslateWrError w.rc w.error, {}, dc, w.sock⟩
  else
    let r := adsReadPacket (some dc.iface) dc.mem msgIn w.sock
    let (ret, outs, dc) := answer (dc.received r.rc r.mem) r.error
    ⟨ret, outs, dc, r.sock⟩

/-- `ADSreadBytes()` -/
def adsReadBytes (dc : ADSConnection) (indexGroup offset length : UInt32) (buffer pnRead : Bool)
    (s : σ) : CallResult σ :=
  exchange (readAnswer length buffer pnRead) (readRequest indexGroup offset length dc) s

/-- `ADSwriteBytes()` -/
def adsWriteBytes (dc : ADSConnection) (indexGroup offset length : Int) (data : Option Mem)
    (s : σ) : CallResult σ :=
  exchange writeAnswer (writeRequest indexGroup offset length data dc) s

/-- `ADSreadDeviceInfo()` -/
def adsReadDeviceInfo (dc : ADSConnection) (s : σ) : CallResult σ :=
  exchange deviceInfoAnswer (deviceInfoRequest dc) s

/-- `ADSreadWriteBytes()` -/
def adsReadWriteBytes (dc : ADSConnection) (indexGroup offset readLength writeLength : UInt32)
    (writeBuffer : Option Mem) (pnRead : Bool) (s : σ) : CallResult σ :=
  exchange (readWriteAnswer readLength pnRead)
    (readWriteRequest indexGroup offset readLength writeLength writeBuffer dc) s

/-- `ADSreadState()` -/
def adsReadState (dc : ADSConnection) (s : σ) : CallResult σ :=
  exchange stateAnswer (stateRequest dc) s

/-- `ADSwriteControl()` -/
def adsWriteControl (dc : ADSConnection) (ADSstate devState : Int) (data : Option Mem)
    (length : Int) (s : σ) : CallResult σ :=
  exchange writeControlAnswer (writeControlRequest ADSstate devState data length dc) s

/-! ## Calls as data -/

/-- A call of one of the six operations with its arguments. -/
inductive Call where
  | readBytes (indexGroup offset length : UInt32) (buffer pnRead : Bool)
  | writeBytes (indexGroup offset length : Int) (data : Option Mem)
  | readDeviceInfo
  | readWriteBytes (indexGroup offset readLength writeLength : UInt32) (writeBuffer : Option Mem)
    (pnRead : Bool)
  | readState
  | writeControl (ADSstate devState : Int) (data : Option Mem) (length : Int)

/-- The request fits the packet buffer. -/
def Call.Fits : Call → Prop
  | .readBytes .. | .readDeviceInfo | .readState | .writeControl _ _ none _ => True
  | .writeBytes _ _ length _ => 0 ≤ length ∧ dataOffset + 12 + length ≤ MAXDATALEN
  | .readWriteBytes _ _ _ writeLength _ _ => dataOffset + 16 + writeLength.toNat ≤ MAXDATALEN
  | .writeControl _ _ (some _) length => 0 ≤ length ∧ dataOffset + 8 + length ≤ MAXDATALEN

/-- The request a call builds. -/
def Call.request : Call → ADSConnection → ADSConnection
  | .readBytes indexGroup offset length _ _ => readRequest indexGroup offset length
  | .writeBytes indexGroup offset length data => writeRequest indexGroup offset length data
  | .readDeviceInfo => deviceInfoRequest
  | .readWriteBytes indexGroup offset readLength writeLength writeBuffer _ =>
    readWriteRequest indexGroup offset readLength writeLength writeBuffer
  | .readState => stateRequest
  | .writeControl ADSstate devState data length => writeControlRequest ADSstate devState data length

/-- How a call looks at the answer. -/
def Call.answer : Call → Answer
  | .readBytes _ _ length buffer pnRead => readAnswer length buffer pnRead
  | .writeBytes .. => writeAnswer
  | .readDeviceInfo => deviceInfoAnswer
  | .readWriteBytes _ _ readLength _ _ pnRead => readWriteAnswer readLength pnRead
  | .readState => stateAnswer
  | .writeControl .. => writeControlAnswer

/-- Make the call. -/
def Call.run (c : Call) (dc : ADSConnection) (s : σ) : CallResult σ :=
  match c with
  | .readBytes indexGroup offset length buffer pnRead =>
    adsReadBytes dc indexGroup offset length buffer pnRead s
  | .writeBytes indexGroup offset length data => adsWriteBytes dc indexGroup offset length data s
  | .readDeviceInfo => adsReadDeviceInfo dc s
  | .readWriteBytes indexGroup offset readLength writeLength writeBuffer pnRead =>
    adsReadWriteBytes dc indexGroup offset readLength writeLength writeBuffer pnRead s
  | .readState => adsReadState dc s
  | .writeControl ADSstate devState data length =>
    adsWriteControl dc ADSstate devState data length s

theorem Call.run_eq_exchange (c : Call) (dc : ADSConnection) (s : σ) :
    c.run dc s = exchange c.answer (c.request dc) s := by
  cases c <;> rfl

/-! ## Data that leave the connection -/

/-- Where the data section of a request has its variable part, from its start. -/
def Call.dataAt : Call → Nat
  | .readBytes .. | .writeBytes .. => 12
  | .readDeviceInfo | .readState => 0
  | .readWriteBytes .. => 16
  | .writeControl .. => 8

/-- How many bytes of the caller's data a builder copies there. -/
def Call.dataSize : Call → Nat
  | .writeBytes _ _ length (some _) | .writeControl _ _ (some _) length => sizeT length
  | .readWriteBytes _ _ _ writeLength (some _) _ => writeLength.toNat
  | _ => 0

/-- The data end in the object they are copied to. -/
def Call.InConnection (c : Call) : Prop :=
  msgOut + dataOffset + c.dataAt + c.dataSize ≤ sizeofConnection

instance (c : Call) : Decidable c.InConnection := inferInstanceAs (Decidable (_ ≤ _))

/-- The fault of the `memcpy()` of a builder. A negative length is a size that
no object has. -/
def Call.fault (c : Call) : Option Fault :=
  if 2 ^ 63 ≤ c.dataSize then some .negativeLength
  else if ¬ c.InConnection then some .heapOverflow
  else none

/-- Make the call, unless building its request is undefined. -/
def Call.exec (c : Call) (dc : ADSConnection) (s : σ) : Except Fault (CallResult σ) :=
  match c.fault with
  | some fault => .error fault
  | none => .ok (c.run dc s)

end LibAds
