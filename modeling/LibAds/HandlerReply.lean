import LibAds.PortServer
import LibAds.ServerLoop

/-!
# The server's replies to the library's requests

For a request as the library builds them, the answer of `ranalyze()` is a packet
with the response struct of its command (`answerTo_request`): version 185
and the name of the coupler, the state RUN, the result 0, or the invoke id of
the request followed by bytes from `dummyRes` on.
-/

namespace LibAds

open ByteMemory

/-- What `ranalyze()` replies to a request. -/
def serverReply (globals : Mem) (invokeId : UInt32) (r : Request) : Reply where
  result := 0
  data := match r with
    | .read _ indexOffset length =>
      load (ofList (toLE 4 invokeId.toNat ++ load globals indexOffset.toNat sizeofDummyRes)) 0
        length.toNat
    | .readWrite _ _ readLength _ _ => load (ofList (toLE 4 invokeId.toNat)) 0 readLength.toNat
    | _ => []
  version := ⟨185, 0, 0⟩
  name := couplerName ++ List.replicate 13 0
  nameSize := rfl
  ADSstate := ADSSTATE_RUN
  devState := 0xA

section Request

variable {globals m : Mem} {p : Nat} {r : Request}

/-- The fields of a read, as `ranalyze()` finds them. -/
theorem decode_read {indexGroup indexOffset length : UInt32}
    (command : commandId m p = cmdADSread)
    (decoded : Request.decode m p = some (.read indexGroup indexOffset length)) :
    get32 m (p + dataOffset + 4) = indexOffset ∧ get32 m (p + dataOffset + 8) = length := by
  have others : ¬ cmdADSread = cmdADSreadDevInfo := by decide
  simp only [Request.decode, command, if_neg others, if_true, Option.some.injEq,
    Request.read.injEq] at decoded
  exact decoded.2

/-- The length to read of a read-write, as `ranalyze()` finds it. -/
theorem decode_readWrite {indexGroup indexOffset readLength writeLength : UInt32}
    {data : List UInt8} (command : commandId m p = cmdADSreadWrite)
    (decoded : Request.decode m p =
      some (.readWrite indexGroup indexOffset readLength writeLength data)) :
    get32 m (p + dataOffset + 8) = readLength := by
  have others : ¬ cmdADSreadWrite = cmdADSreadDevInfo ∧ ¬ cmdADSreadWrite = cmdADSread ∧
      ¬ cmdADSreadWrite = cmdADSwrite ∧ ¬ cmdADSreadWrite = cmdADSreadState ∧
      ¬ cmdADSreadWrite = cmdADSwriteControl := by decide
  simp only [Request.decode, command, if_neg others.1, if_neg others.2.1, if_neg others.2.2.1,
    if_neg others.2.2.2.1, if_neg others.2.2.2.2, if_true, Option.some.injEq,
    Request.readWrite.injEq] at decoded
  exact decoded.2.2.1

/-- The answer has the size of the reply's response struct. -/
theorem answerLength_request (command : commandId m p = r.command)
    (decoded : Request.decode m p = some r) :
    answerLength m p =
      UInt32.ofNat ((serverReply globals (invokeIdOf m p) r).body r).length := by
  have counted : ∀ length : UInt32, 8 + length = UInt32.ofNat (4 + 4 + length.toNat) := by
    intro length
    rw [UInt32.ofNat_add, UInt32.ofNat_toNat]
    rfl
  unfold answerLength
  cases r with
  | readDevInfo => rw [command]; rfl
  | read indexGroup indexOffset length =>
      rw [command, (decode_read command decoded).2]
      simp only [Reply.body, serverReply, List.length_append, length_toLE, length_load]
      exact counted length
  | write => rw [command]; rfl
  | readState => rw [command]; rfl
  | writeControl => rw [command]; rfl
  | readWrite indexGroup indexOffset readLength writeLength data =>
      rw [command, decode_readWrite command decoded]
      simp only [Reply.body, serverReply, List.length_append, length_toLE, length_load]
      exact counted readLength

/-- What the answer shows of its fields is that response struct. -/
theorem answerFields_request (command : commandId m p = r.command)
    (decoded : Request.decode m p = some r) :
    load (ofList (answerFields globals m p)) 0
        ((serverReply globals (invokeIdOf m p) r).body r).length =
      (serverReply globals (invokeIdOf m p) r).body r := by
  unfold answerFields answerFixed answerTable
  cases r with
  | readDevInfo =>
      rw [command]
      exact load_ofList_add (toLE 4 0 ++ [185] ++ [0] ++ toLE 2 0 ++ couplerName) 13
  | read indexGroup indexOffset length =>
      obtain ⟨offset, size⟩ := decode_read command decoded
      rw [command, offset, size]
      simp only [Reply.body, serverReply, List.length_append, length_toLE, length_load]
      have shown := load_ofList_append_add (toLE 4 0 ++ toLE 4 length.toNat)
        (toLE 4 (invokeIdOf m p).toNat ++ load globals indexOffset.toNat sizeofDummyRes)
        length.toNat
      rw [← List.append_assoc] at shown
      exact shown
  | write =>
      rw [command]
      exact load_ofList_add (toLE 4 0) 0
  | readState =>
      rw [command]
      exact load_ofList_add (toLE 4 0 ++ toLE 2 5 ++ toLE 2 0xA) 0
  | writeControl =>
      rw [command]
      exact load_ofList_add (toLE 4 0) 0
  | readWrite indexGroup indexOffset readLength writeLength data =>
      rw [command, decode_readWrite command decoded]
      simp only [Reply.body, serverReply, List.length_append, length_toLE, length_load]
      have shown := load_ofList_append_add (toLE 4 0 ++ toLE 4 readLength.toNat)
        (toLE 4 (invokeIdOf m p).toNat) readLength.toNat
      rw [← List.append_nil (toLE 4 0 ++ _ ++ _)] at shown
      exact shown

/-- As many bytes of the answer are sent as the response struct has. -/
theorem answerSize_request (command : commandId m p = r.command)
    (decoded : Request.decode m p = some r)
    (fits : dataOffset + ((serverReply globals (invokeIdOf m p) r).body r).length ≤ MAXDATALEN) :
    answerSize m p = dataOffset + ((serverReply globals (invokeIdOf m p) r).body r).length := by
  have sizes := packetSizes
  rw [answerSize, @answerLength_request globals m p r command decoded, UInt32.add_comm]
  show sizeofTCPheader + (UInt32.ofNat sizeofAMSheader + UInt32.ofNat _).toNat = _
  rw [toNat_tcpLength (by omega)]
  omega

end Request

/-! ## Packets of requests -/

/-- The answer of the server to a request. -/
def replyPacket (globals : Mem) (h : AMSheader) (r : Request) : List UInt8 :=
  adsPacket (h.answer (UInt32.ofNat ((serverReply globals h.invokeId r).body r).length))
    ((serverReply globals h.invokeId r).body r)

section Packet

variable {globals : Mem} {h : AMSheader} {r : Request} (wellFormed : WellFormed h r)
include wellFormed

theorem packetView_request : packetView (requestPacket h r) = ofList (requestPacket h r) := by
  have short := wellFormed.fits
  rw [packetView, if_neg (by omega)]

/-- What the server finds in the packet of a request. -/
theorem requestPacket_read :
    AMSheader.read (ofList (requestPacket h r)) 0 = h ∧
      Request.decode (ofList (requestPacket h r)) 0 = some r := by
  have held := load_ofList (requestPacket h r)
  rw [requestPacket, length_adsPacket] at held
  exact ⟨(adsPacket_read held).1,
    Request.decode_of_packet held wellFormed.command wellFormed.counted⟩

variable (fits : dataOffset + ((serverReply globals h.invokeId r).body r).length ≤ MAXDATALEN)
include fits

theorem requestPacket_answerable : Answerable (requestPacket h r) := by
  obtain ⟨header, decoded⟩ := requestPacket_read wellFormed
  have command : commandId (ofList (requestPacket h r)) 0 = r.command :=
    (congrArg AMSheader.commandId header).trans wellFormed.command
  have invokeId : invokeIdOf (ofList (requestPacket h r)) 0 = h.invokeId :=
    congrArg AMSheader.invokeId header
  have length : (requestPacket h r).length = dataOffset + (r.fixedSize + r.data.length) := by
    rw [requestPacket, length_adsPacket, List.length_append, Request.length_fixed]
  refine ⟨by omega, fun reads => ?_, ?_⟩
  · rw [command] at reads
    rw [length]
    cases r with
    | readDevInfo => rcases reads with equal | equal <;> cases equal
    | read => exact Nat.add_le_add_left (Nat.le_add_right ..) _
    | write => rcases reads with equal | equal <;> cases equal
    | readState => rcases reads with equal | equal <;> cases equal
    | writeControl => rcases reads with equal | equal <;> cases equal
    | readWrite => exact Nat.add_le_add_left (Nat.le_add_right_of_le (by omega : 12 ≤ 16)) _
  · rw [← invokeId] at fits
    rw [packetView_request wellFormed, answerSize_request command decoded fits]
    exact fits

/-- **The answer to a request** is the packet of the reply, under the header of
the request turned round. -/
theorem answerTo_request : answerTo globals (requestPacket h r) = replyPacket globals h r := by
  have sizes := packetSizes
  obtain ⟨header, decoded⟩ := requestPacket_read wellFormed
  rw [answerTo, packetView_request wellFormed]
  generalize ofList (requestPacket h r) = m at header decoded
  have invokeId : invokeIdOf m 0 = h.invokeId := congrArg AMSheader.invokeId header
  have command : commandId m 0 = r.command :=
    (congrArg AMSheader.commandId header).trans wellFormed.command
  rw [← invokeId] at fits
  have length := @answerLength_request globals m 0 r command decoded
  have fields := @answerFields_request globals m 0 r command decoded
  have headers := load_ofList_append_add
    (headerBytes (answerLength m 0 + 32) ((AMSheader.read m 0).answer (answerLength m 0)))
    (answerFields globals m 0) ((serverReply globals (invokeIdOf m 0) r).body r).length
  rw [length_headerBytes, fields] at headers
  rw [answerPacket, answerSize_request command decoded fits, answerBytes, headers, length, header,
    invokeId, replyPacket, adsPacket_eq_headerBytes (by rw [← invokeId]; omega), UInt32.add_comm]
  rfl

end Packet

end LibAds
