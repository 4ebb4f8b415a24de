import LibAds.RequestStream

/-!
# The server's handler

`ranalyze()` of `examples/ADSserver.c` builds the answer to the packet in
`msgIn` in `msgOut` and sends it. Whatever the packet holds, the answer carries
its header turned round, and behind the headers the response struct of its
command (`ranalyze_sock`, `handedAnswer_eq_packet`). A read is answered from
`dummyRes` and from what lies behind `dummyRes` in the server's memory.
-/

namespace LibAds

open ByteMemory SocketModel

/-! ## `ranalyze()` -/

/-- `dummyRes`: 22 times the bytes 1 to 16. -/
def dummyRes : List UInt8 :=
  (List.replicate 22 [1, 2, 3, 4, 5, 6, 7, 8, 9, 10, 11, 12, 13, 14, 15, 16]).flatten

/-- `sizeof(dummyRes)` -/
def sizeofDummyRes : Nat := 352

theorem length_dummyRes : dummyRes.length = sizeofDummyRes := by decide +kernel

/-- The server's memory from `dummyRes` on. -/
structure Globals where
  mem : Mem
  held : Stored mem 0 dummyRes

/-- How many bytes of `msgOut` are cleared for an answer. -/
def clearedSize : Nat := 500

/-- `sizeof(ADSdeviceInfo)` -/
def sizeofDeviceInfo : UInt32 := 32

/-- `sizeof(ADSstateResponse)` -/
def sizeofStateResponse : UInt32 := 8

/-- "PLC COUPLER" -/
def couplerName : List UInt8 :=
  [0x50, 0x4c, 0x43, 0x20, 0x43, 0x4f, 0x55, 0x50, 0x4c, 0x45, 0x52]

/-- `ADSSTATE_RUN` -/
def ADSSTATE_RUN : UInt16 := 5

/-- `case cmdADSreadDevInfo` -/
def answerDevInfo (m : Mem) : Mem :=
  let di := msgOut + dataOffset
  let m := store m (di + 4) [185]
  let m := store m (di + 5) [0]
  let m := put16 m (di + 6) 0
  let m := store m (di + 8) couplerName
  put32 m (msgOut + 26) sizeofDeviceInfo

/-- `case cmdADSreadState` -/
def answerState (m : Mem) : Mem :=
  let asr := msgOut + dataOffset
  let m := put32 m asr 0
  let m := put16 m (asr + 4) ADSSTATE_RUN
  let m := put16 m (asr + 6) 0xA
  put32 m (msgOut + 26) sizeofStateResponse

/-- `case cmdADSwrite` -/
def answerWrite (m : Mem) : Mem :=
  let m := put32 m (msgOut + dataOffset) 0
  put32 m (msgOut + 26) 4

/-- `case cmdADSreadWrite`. The invoke id is all the data there is. -/
def answerReadWrite (m : Mem) : Mem :=
  let rwrq := msgIn + dataOffset
  let rwrs := msgOut + dataOffset
  let m := put32 m rwrs 0
  let m := put32 m (rwrs + 4) (get32 m (rwrq + 8))
  let m := put32 m (msgOut + 26) (8 + get32 m (rwrq + 8))
  put32 m (rwrs + 8) (invokeIdOf m msgIn)

/-- `case cmdADSread`. Behind the invoke id, `sizeof(dummyRes)` bytes from the
requested offset on. -/
def answerRead (globals : Mem) (m : Mem) : Mem :=
  let rrq := msgIn + dataOffset
  let rrs := msgOut + dataOffset
  let m := put32 m rrs 0
  let m := put32 m (rrs + 4) (get32 m (rrq + 8))
  let m := put32 m (msgOut + 26) (8 + get32 m (rrq + 8))
  let m := put32 m (rrs + 8) (invokeIdOf m msgIn)
  let indexOffset := (get32 m (rrq + 4)).toNat
  copy m (rrs + 12) (fun i => globals (indexOffset + i)) sizeofDummyRes

/-- The `switch` over the command. -/
def answerCommand (globals : Mem) (m : Mem) : Mem :=
  if commandId m msgIn = cmdADSreadDevInfo then answerDevInfo m
  else if commandId m msgIn = cmdADSreadState then answerState m
  else if commandId m msgIn = cmdADSwrite then answerWrite m
  else if commandId m msgIn = cmdADSreadWrite then answerReadWrite m
  else if commandId m msgIn = cmdADSread then answerRead globals m
  else put32 m (msgOut + 26) 4

/-- The statements behind the `switch`: lengths and header of the answer. -/
def answerHeaders (m : Mem) : Mem :=
  let m := put32 m (msgOut + 2) (dataLength m msgOut + 32)
  let m := store m (msgOut + 6) (AmsNetId.read m (msgIn + 14)).b
  let m := put16 m (msgOut + 12) (get16 m (msgIn + 20))
  let m := store m (msgOut + 14) (AmsNetId.read m (msgIn + 6)).b
  let m := put16 m (msgOut + 20) (get16 m (msgIn + 12))
  let m := put16 m (msgOut + 22) (commandId m msgIn)
  let m := put16 m (msgOut + 24) 0x5
  let m := put32 m (msgOut + 30) 0
  let m := put32 m (msgOut + 34) (invokeIdOf m msgIn)
  put32 m (msgOut + dataOffset) 0

/-- `ranalyze()` up to the call of `_ADSWritePacket()`. -/
def buildAnswer (globals : Mem) (m : Mem) : Mem :=
  answerHeaders (answerCommand globals (copy m msgOut (fun _ => 0) clearedSize))

/-- `ranalyze()`. What `_ADSWritePacket()` returns is not looked at. -/
def ranalyze {σ : Type} [Socket σ] (globals : Mem) (dc : ADSConnection) (s : σ) :
    ADSConnection × σ :=
  let m := buildAnswer globals dc.mem
  ({ dc with mem := m }, (adsWritePacket (some dc.iface) m msgOut s).sock)

/-! ## What the answer is -/

/-- The header of a request turned round: its source is the answer's target. -/
def AMSheader.answer (h : AMSheader) (dataLength : UInt32) : AMSheader where
  targetId := h.sourceId
  targetPort := h.sourcePort
  sourceId := h.targetId
  sourcePort := h.targetPort
  commandId := h.commandId
  stateFlags := 5
  dataLength := dataLength
  errorCode := 0
  invokeId := h.invokeId

/-- The data length of the answer to the packet at `p`. -/
def answerLength (m : Mem) (p : Nat) : UInt32 :=
  if commandId m p = cmdADSreadDevInfo then 32
  else if commandId m p = cmdADSreadState then 8
  else if commandId m p = cmdADSreadWrite ∨ commandId m p = cmdADSread then
    8 + get32 m (p + dataOffset + 8)
  else 4

/-- The fields of the response struct. -/
def answerFixed (m : Mem) (p : Nat) : List UInt8 :=
  if commandId m p = cmdADSreadDevInfo then toLE 4 0 ++ [185] ++ [0] ++ toLE 2 0 ++ couplerName
  else if commandId m p = cmdADSreadState then toLE 4 0 ++ toLE 2 5 ++ toLE 2 0xA
  else if commandId m p = cmdADSreadWrite ∨ commandId m p = cmdADSread then
    toLE 4 0 ++ toLE 4 (get32 m (p + dataOffset + 8)).toNat ++ toLE 4 (invokeIdOf m p).toNat
  else toLE 4 0

/-- The bytes of the server's memory that answer a read. -/
def answerTable (globals : Mem) (m : Mem) (p : Nat) : List UInt8 :=
  if commandId m p = cmdADSread then
    load globals (get32 m (p + dataOffset + 4)).toNat sizeofDummyRes
  else []

/-- The data of the answer up to its last byte that is not cleared. -/
def answerFields (globals : Mem) (m : Mem) (p : Nat) : List UInt8 :=
  answerFixed m p ++ answerTable globals m p

/-- Both headers of the answer and its data. -/
def answerBytes (globals : Mem) (m : Mem) (p : Nat) : List UInt8 :=
  headerBytes (answerLength m p + 32) ((AMSheader.read m p).answer (answerLength m p)) ++
    answerFields globals m p

/-- How many bytes of the answer are sent. -/
def answerSize (m : Mem) (p : Nat) : Nat := sizeofTCPheader + (answerLength m p + 32).toNat

/-- The answer as it is sent: cut or filled up with zeros to the length that it
announces. -/
def answerPacket (globals : Mem) (m : Mem) (p : Nat) : List UInt8 :=
  load (ofList (answerBytes globals m p)) 0 (answerSize m p)

/-! ## What `ranalyze()` stores -/

/-- `memset(dc->msgOut, 0, 500)` has been done. -/
def Zeroed (m : Mem) : Prop :=
  ∀ a k, a + k ≤ clearedSize → load m (msgOut + a) k = List.replicate k 0

theorem zeroed_copy (m : Mem) : Zeroed (copy m msgOut (fun _ => 0) clearedSize) := by
  intro a k within
  rw [load_copy_within within, load_const]

@[simp] theorem AmsNetId.length_read (m : Mem) (a : Nat) : (AmsNetId.read m a).b.length = 6 :=
  (AmsNetId.read m a).size

/-- The sizes of what is stored. -/
theorem answerSizes : clearedSize = 500 ∧ sizeofDummyRes = 352 ∧ couplerName.length = 11 ∧
    ∀ b : UInt8, [b].length = 1 := ⟨rfl, rfl, rfl, fun _ => rfl⟩

section Stores

variable {globals m : Mem} {i : Nat}

/-- The `switch` stores nothing in front of the data length, and nothing behind
the part of the buffer that was cleared. -/
theorem answerCommand_apply (outside : i < msgOut + 26 ∨ msgOut + clearedSize ≤ i) :
    answerCommand globals m i = m i := by
  have sizes := packetSizes
  obtain ⟨cleared, table, name, one⟩ := answerSizes
  unfold answerCommand
  split_ifs <;>
    simp (disch := first | omega | (simp only [one]; omega)) only [answerDevInfo, answerState,
      answerWrite, answerReadWrite, answerRead, put16_apply_outside, put32_apply_outside,
      store_apply_outside, copy_apply_outside]

theorem answerHeaders_apply (outside : i < msgOut ∨ msgOut + 42 ≤ i) :
    answerHeaders m i = m i := by
  have sizes := packetSizes
  simp (disch := first | omega | (simp only [AmsNetId.length_read]; omega)) only [answerHeaders,
    put16_apply_outside, put32_apply_outside, store_apply_outside]

/-- An answer is built inside the part of `msgOut` that is cleared for it. -/
theorem buildAnswer_apply (outside : i < msgOut ∨ msgOut + clearedSize ≤ i) :
    buildAnswer globals m i = m i := by
  have cleared := answerSizes.1
  rw [buildAnswer, answerHeaders_apply (by omega), answerCommand_apply (by omega),
    copy_apply_outside outside]

end Stores

theorem Zeroed.data {m : Mem} (zeroed : Zeroed m) {a k : Nat}
    (within : dataOffset + a + k ≤ clearedSize) :
    load m (msgOut + dataOffset + a) k = List.replicate k 0 := by
  rw [Nat.add_assoc]
  exact zeroed _ _ within

theorem Zeroed.result {m : Mem} (zeroed : Zeroed m) :
    load m (msgOut + dataOffset) 4 = toLE 4 0 :=
  zeroed _ _ (by decide)

/-! ## The data of the answer -/

/-- The fields of a response struct stand behind the headers of the answer, and
behind them zeros; its size stands in the AMS header. -/
structure AnswerData (m : Mem) (size : UInt32) (fields : List UInt8) : Prop where
  size : dataLength m msgOut = size
  shown : load m (msgOut + dataOffset) fields.length = fields
  zeros : ∀ a k, fields.length ≤ a → dataOffset + a + k ≤ clearedSize →
    load m (msgOut + dataOffset + a) k = List.replicate k 0

section Data

variable {m : Mem} (zeroed : Zeroed m)
include zeroed

theorem answerDevInfo_data :
    AnswerData (answerDevInfo m) 32 (toLE 4 0 ++ [185] ++ [0] ++ toLE 2 0 ++ couplerName) := by
  have sizes := packetSizes
  obtain ⟨cleared, table, name, one⟩ := answerSizes
  have size : (toLE 4 0 ++ [185] ++ [0] ++ toLE 2 0 ++ couplerName).length =
    4 + 1 + 1 + 2 + 11 := rfl
  constructor
  · exact get32_put32_same _ _ _
  · simp (disch := first | omega | (simp only [one]; omega)) only [size, answerDevInfo, load_add,
      load_put16_disjoint, load_put32_disjoint, load_store_disjoint, load_put16_same,
      load_store_of_length, load_store_one, zeroed.result]
    rfl
  · intro a k behind within
    rw [size] at behind
    simp (disch := first | omega | (simp only [one]; omega)) only [answerDevInfo,
      load_put16_disjoint, load_put32_disjoint, load_store_disjoint, zeroed.data]

theorem answerState_data :
    AnswerData (answerState m) 8 (toLE 4 0 ++ toLE 2 5 ++ toLE 2 0xA) := by
  have sizes := packetSizes
  have cleared := answerSizes.1
  have size : (toLE 4 0 ++ toLE 2 5 ++ toLE 2 0xA).length = 4 + 2 + 2 := rfl
  constructor
  · exact get32_put32_same _ _ _
  · simp (disch := omega) only [size, answerState, load_add, load_put16_disjoint,
      load_put32_disjoint, load_put16_same, load_put32_same]
    rfl
  · intro a k behind within
    rw [size] at behind
    simp (disch := omega) only [answerState, load_put16_disjoint, load_put32_disjoint, zeroed.data]

theorem answerWrite_data : AnswerData (answerWrite m) 4 (toLE 4 0) := by
  have sizes := packetSizes
  have cleared := answerSizes.1
  constructor
  · exact get32_put32_same _ _ _
  · simp (disch := omega) only [length_toLE, answerWrite, load_put32_disjoint, load_put32_same]
    rfl
  · intro a k behind within
    rw [length_toLE] at behind
    simp (disch := omega) only [answerWrite, load_put32_disjoint, zeroed.data]

theorem answerReadWrite_data :
    AnswerData (answerReadWrite m) (8 + get32 m (msgIn + dataOffset + 8))
      (toLE 4 0 ++ toLE 4 (get32 m (msgIn + dataOffset + 8)).toNat ++
        toLE 4 (invokeIdOf m msgIn).toNat) := by
  have sizes := packetSizes
  have cleared := answerSizes.1
  have place : msgOut = msgIn + MAXDATALEN := rfl
  have size : ∀ v w : UInt32, (toLE 4 0 ++ toLE 4 v.toNat ++ toLE 4 w.toNat).length = 4 + 4 + 4 :=
    fun _ _ => rfl
  constructor
  · simp (disch := omega) only [answerReadWrite, dataLength, get32_put32_disjoint,
      get32_put32_same]
  · simp (disch := omega) only [size, answerReadWrite, invokeIdOf, load_add, load_put32_disjoint,
      load_put32_same, get32_put32_disjoint]
    rfl
  · intro a k behind within
    rw [size] at behind
    simp (disch := omega) only [answerReadWrite, load_put32_disjoint, zeroed.data]

theorem answerRead_data (globals : Mem) :
    AnswerData (answerRead globals m) (8 + get32 m (msgIn + dataOffset + 8)) (toLE 4 0 ++
      toLE 4 (get32 m (msgIn + dataOffset + 8)).toNat ++ toLE 4 (invokeIdOf m msgIn).toNat ++
      load globals (get32 m (msgIn + dataOffset + 4)).toNat sizeofDummyRes) := by
  have sizes := packetSizes
  obtain ⟨cleared, table, _, _⟩ := answerSizes
  have place : msgOut = msgIn + MAXDATALEN := rfl
  have size : ∀ (v w : UInt32) (a : Nat), (toLE 4 0 ++ toLE 4 v.toNat ++ toLE 4 w.toNat ++
      load globals a sizeofDummyRes).length = 4 + 4 + 4 + sizeofDummyRes := by
    intro v w a
    simp only [List.length_append, length_toLE, length_load]
  have source : ∀ a, load (fun i => globals (a + i)) 0 sizeofDummyRes =
      load globals a sizeofDummyRes := by
    intro a
    apply load_congr
    intro i _
    rw [Nat.zero_add]
  constructor
  · simp (disch := omega) only [answerRead, dataLength, get32_copy_disjoint,
      get32_put32_disjoint, get32_put32_same]
  · simp (disch := omega) only [size, answerRead, invokeIdOf, load_add, load_copy_disjoint,
      load_copy_same, load_put32_disjoint, load_put32_same, get32_put32_disjoint, source]
    rfl
  · intro a k behind within
    rw [size] at behind
    simp (disch := omega) only [answerRead, load_copy_disjoint, load_put32_disjoint, zeroed.data]

theorem answerOther_data : AnswerData (put32 m (msgOut + 26) 4) 4 (toLE 4 0) := by
  have sizes := packetSizes
  have cleared := answerSizes.1
  constructor
  · exact get32_put32_same _ _ _
  · simp (disch := omega) only [length_toLE, load_put32_disjoint, zeroed.result]
  · intro a k behind within
    rw [length_toLE] at behind
    simp (disch := omega) only [load_put32_disjoint, zeroed.data]

end Data

/-- What the `switch` leaves, for every command. -/
theorem answerCommand_data {m : Mem} (zeroed : Zeroed m) (globals : Mem) :
    AnswerData (answerCommand globals m) (answerLength m msgIn)
      (answerFields globals m msgIn) := by
  unfold answerCommand answerLength answerFields answerFixed answerTable
  generalize commandId m msgIn = command
  by_cases devInfo : command = cmdADSreadDevInfo
  · have read : ¬ command = cmdADSread := by rw [devInfo]; decide
    simp only [if_pos devInfo, if_neg read, List.append_nil]
    exact answerDevInfo_data zeroed
  · by_cases state : command = cmdADSreadState
    · have read : ¬ command = cmdADSread := by rw [state]; decide
      simp only [if_neg devInfo, if_pos state, if_neg read, List.append_nil]
      exact answerState_data zeroed
    · by_cases readWrite : command = cmdADSreadWrite
      · have write : ¬ command = cmdADSwrite := by rw [readWrite]; decide
        have read : ¬ command = cmdADSread := by rw [readWrite]; decide
        have reads : command = cmdADSreadWrite ∨ command = cmdADSread := Or.inl readWrite
        simp only [if_neg devInfo, if_neg state, if_neg write, if_pos readWrite, if_neg read,
          if_pos reads, List.append_nil]
        exact answerReadWrite_data zeroed
      · by_cases read : command = cmdADSread
        · have write : ¬ command = cmdADSwrite := by rw [read]; decide
          have reads : command = cmdADSreadWrite ∨ command = cmdADSread := Or.inr read
          simp only [if_neg devInfo, if_neg state, if_neg write, if_neg readWrite, if_pos read,
            if_pos reads]
          exact answerRead_data zeroed globals
        · have reads : ¬ (command = cmdADSreadWrite ∨ command = cmdADSread) :=
            not_or_intro readWrite read
          simp only [if_neg devInfo, if_neg state, if_neg readWrite, if_neg read, if_neg reads,
            List.append_nil]
          split_ifs
          · exact answerWrite_data zeroed
          · exact answerOther_data zeroed

/-- Every response struct starts with its result. -/
theorem answerFields_result (globals m : Mem) (p : Nat) :
    ∃ rest, answerFields globals m p = toLE 4 0 ++ rest := by
  unfold answerFields answerFixed
  split_ifs <;> (try simp only [List.append_assoc]) <;> exact ⟨_, rfl⟩

/-! ## The headers of the answer -/

theorem answerHeaders_load {m : Mem} (reserved : load m msgOut 2 = toLE 2 0) :
    load (answerHeaders m) msgOut dataOffset =
      headerBytes (dataLength m msgOut + 32)
        ((AMSheader.read m msgIn).answer (dataLength m msgOut)) := by
  have sizes := packetSizes
  have place : msgOut = msgIn + MAXDATALEN := rfl
  have announced : load m (msgOut + 26) 4 = toLE 4 (dataLength m msgOut).toNat := by
    rw [dataLength, toNat_get32]
    exact (toLE_ofLE (load m (msgOut + 26) 4)).symm
  have size : dataOffset = 2 + 4 + 6 + 2 + 6 + 2 + 2 + 2 + 4 + 4 + 4 := rfl
  unfold answerHeaders
  generalize dataLength m msgOut = n at announced ⊢
  simp only [size, load_add, headerBytes, AMSheader.encode, AMSheader.answer, AMSheader.read,
    AmsNetId.read, commandId, invokeIdOf, get16, get32, Nat.add_assoc]
  simp (disch := first | omega | exact length_load _ _ _ | (simp only [length_load]; omega)) only
    [load_put16_disjoint, load_put32_disjoint, load_store_disjoint, load_put16_same,
      load_put32_same, load_store_of_length, List.append_assoc, announced, reserved]

/-! ## What the answer depends on -/

/-- Two packets that `ranalyze()` cannot tell apart: their headers agree, and so
do the offset and the length of a request that reads. -/
structure SameRequest (m : Mem) (p : Nat) (m' : Mem) (p' : Nat) : Prop where
  header : load m p dataOffset = load m' p' dataOffset
  fields : commandId m p = cmdADSreadWrite ∨ commandId m p = cmdADSread →
    load m (p + dataOffset + 4) 8 = load m' (p' + dataOffset + 4) 8

section SameRequest

variable {m m' : Mem} {p p' : Nat} (same : SameRequest m p m' p')
include same

theorem SameRequest.read : AMSheader.read m p = AMSheader.read m' p' :=
  AMSheader.read_congr same.header

theorem SameRequest.commandId : commandId m p = LibAds.commandId m' p' :=
  congrArg AMSheader.commandId same.read

theorem SameRequest.invokeId : invokeIdOf m p = invokeIdOf m' p' :=
  congrArg AMSheader.invokeId same.read

theorem SameRequest.length (reads : LibAds.commandId m p = cmdADSreadWrite ∨
    LibAds.commandId m p = cmdADSread) :
    get32 m (p + dataOffset + 8) = get32 m' (p' + dataOffset + 8) :=
  get32_congr (load_part (same.fields reads) 4 4 (by omega))

theorem SameRequest.answerLength : answerLength m p = LibAds.answerLength m' p' := by
  unfold LibAds.answerLength
  rw [← same.commandId]
  split_ifs with devInfo state reads
  · rfl
  · rfl
  · rw [same.length reads]
  · rfl

theorem SameRequest.answerFixed : answerFixed m p = LibAds.answerFixed m' p' := by
  unfold LibAds.answerFixed
  rw [← same.commandId]
  split_ifs with devInfo state reads
  · rfl
  · rfl
  · rw [same.length reads, same.invokeId]
  · rfl

theorem SameRequest.answerTable (globals : Mem) :
    answerTable globals m p = LibAds.answerTable globals m' p' := by
  unfold LibAds.answerTable
  rw [← same.commandId]
  split_ifs with read
  · have offset : get32 m (p + dataOffset + 4) = get32 m' (p' + dataOffset + 4) :=
      get32_congr (load_part (same.fields (Or.inr read)) 0 4 (by omega))
    rw [offset]
  · rfl

theorem SameRequest.answerFields (globals : Mem) :
    answerFields globals m p = LibAds.answerFields globals m' p' := by
  rw [LibAds.answerFields, LibAds.answerFields, same.answerFixed, same.answerTable]

theorem SameRequest.answerBytes (globals : Mem) :
    answerBytes globals m p = LibAds.answerBytes globals m' p' := by
  rw [LibAds.answerBytes, LibAds.answerBytes, same.answerLength, same.answerFields, same.read]

theorem SameRequest.answerSize : answerSize m p = LibAds.answerSize m' p' := by
  rw [LibAds.answerSize, LibAds.answerSize, same.answerLength]

/-- What is sent is determined by what `ranalyze()` looks at. -/
theorem SameRequest.answerPacket (globals : Mem) :
    answerPacket globals m p = LibAds.answerPacket globals m' p' := by
  rw [LibAds.answerPacket, LibAds.answerPacket, same.answerSize, same.answerBytes]

end SameRequest

/-- Equal bytes hold equal requests. -/
theorem SameRequest.of_agree {m m' : Mem} {p p' : Nat}
    (agree : ∀ i, i < dataOffset + 12 → m (p + i) = m' (p' + i)) : SameRequest m p m' p' := by
  have equal : load m p (dataOffset + 12) = load m' p' (dataOffset + 12) := load_congr agree
  have header := load_part equal 0 dataOffset (by omega)
  have fields := load_part equal (dataOffset + 4) 8 (by omega)
  rw [← Nat.add_assoc, ← Nat.add_assoc] at fields
  exact ⟨header, fun _ => fields⟩

/-! ## The answer as it is sent -/

theorem length_answerFields (globals m : Mem) (p : Nat) :
    dataOffset + (answerFields globals m p).length ≤ clearedSize := by
  have sizes := packetSizes
  obtain ⟨cleared, table, name, _⟩ := answerSizes
  unfold answerFields answerFixed answerTable
  split_ifs <;>
    simp only [List.length_append, length_toLE, length_load, List.length_cons, List.length_nil,
      name] <;>
    omega

/-- The result of the response struct is stored once more behind the headers. -/
theorem answerHeaders_fields {m : Mem} {rest : List UInt8}
    (shown : load m (msgOut + dataOffset) (toLE 4 0 ++ rest).length = toLE 4 0 ++ rest) :
    load (answerHeaders m) (msgOut + dataOffset) (toLE 4 0 ++ rest).length = toLE 4 0 ++ rest := by
  have sizes := packetSizes
  rw [List.length_append, length_toLE] at shown ⊢
  obtain ⟨_, behind⟩ := load_append_inj shown (length_toLE 4 0)
  have result : load (answerHeaders m) (msgOut + dataOffset) 4 = toLE 4 0 := load_put32_same _ _ _
  have kept : load (answerHeaders m) (msgOut + dataOffset + 4) rest.length =
      load m (msgOut + dataOffset + 4) rest.length :=
    load_congr fun i _ => answerHeaders_apply (by omega)
  rw [load_add, result, kept, behind]

/-- The answer stands in `msgOut`: the bytes of `answerBytes`, and zeros up to
the end of the cleared part. -/
theorem buildAnswer_load (globals m : Mem) :
    load (buildAnswer globals m) msgOut clearedSize =
      load (ofList (answerBytes globals m msgIn)) 0 clearedSize := by
  have sizes := packetSizes
  have cleared := answerSizes.1
  have place : msgOut = msgIn + MAXDATALEN := rfl
  have zeroed := zeroed_copy m
  have same : SameRequest (copy m msgOut (fun _ => 0) clearedSize) msgIn m msgIn :=
    .of_agree fun i _ => copy_apply_outside (by omega)
  unfold buildAnswer
  generalize copy m msgOut (fun _ => 0) clearedSize = m₀ at zeroed same ⊢
  obtain ⟨size, shown, zeros⟩ := answerCommand_data zeroed globals
  obtain ⟨rest, result⟩ := answerFields_result globals m msgIn
  have bounds := length_answerFields globals m msgIn
  have nonempty : 4 ≤ (answerFields globals m msgIn).length := by
    rw [result, List.length_append, length_toLE]
    omega
  rw [same.answerFields] at shown zeros
  rw [same.answerLength] at size
  -- the headers
  have reserved : load (answerCommand globals m₀) msgOut 2 = toLE 2 0 :=
    (load_congr fun i _ => answerCommand_apply (by omega)).trans (zeroed 0 2 (by omega))
  have request : AMSheader.read (answerCommand globals m₀) msgIn = AMSheader.read m msgIn :=
    (AMSheader.read_congr (load_congr fun i _ => answerCommand_apply (by omega))).trans same.read
  have header := answerHeaders_load reserved
  rw [size, request] at header
  -- the data
  have data : load (answerHeaders (answerCommand globals m₀)) (msgOut + dataOffset)
      (answerFields globals m msgIn).length = answerFields globals m msgIn := by
    rw [result] at shown ⊢
    exact answerHeaders_fields shown
  have behind : load (answerHeaders (answerCommand globals m₀))
      (msgOut + dataOffset + (answerFields globals m msgIn).length)
      (clearedSize - (dataOffset + (answerFields globals m msgIn).length)) =
        List.replicate (clearedSize - (dataOffset + (answerFields globals m msgIn).length)) 0 :=
    (load_congr fun i _ => answerHeaders_apply (by omega)).trans
      (zeros _ _ (Nat.le_refl _) (by omega))
  have length : (answerBytes globals m msgIn).length =
      dataOffset + (answerFields globals m msgIn).length := by
    rw [answerBytes, List.length_append, length_headerBytes]
  have size : clearedSize = (answerBytes globals m msgIn).length +
      (clearedSize - (dataOffset + (answerFields globals m msgIn).length)) := by omega
  rw [size, load_ofList_add, length, Nat.add_assoc, load_add, load_add, header, data, behind,
    answerBytes, List.append_assoc]

theorem buildAnswer_headers (globals m : Mem) :
    load (buildAnswer globals m) msgOut dataOffset =
      headerBytes (answerLength m msgIn + 32)
        ((AMSheader.read m msgIn).answer (answerLength m msgIn)) := by
  have front := load_part (buildAnswer_load globals m) 0 dataOffset (by decide)
  have shown := load_ofList_append_add (headerBytes (answerLength m msgIn + 32)
    ((AMSheader.read m msgIn).answer (answerLength m msgIn))) (answerFields globals m msgIn) 0
  rw [length_headerBytes, load_zero, List.append_nil] at shown
  exact front.trans shown

/-- The bytes that `ranalyze()` hands to `send()`. -/
def handedAnswer (globals m : Mem) : List UInt8 :=
  load (buildAnswer globals m) msgOut
    (sizeofTCPheader + (adsLength (buildAnswer globals m) msgOut).toNat)

theorem handedAnswer_eq (globals m : Mem) :
    handedAnswer globals m = load (buildAnswer globals m) msgOut (answerSize m msgIn) := by
  rw [handedAnswer, (headerBytes_read (buildAnswer_headers globals m)).1]
  rfl

/-- `msgOut` holds zeros where `ranalyze()` does not clear it, as
`_ADSNewConnection()` leaves it. -/
def OutClear (m : Mem) : Prop := ∀ i, clearedSize ≤ i → i < MAXDATALEN → m (msgOut + i) = 0

/-- **The answer to a packet.** It is determined by what the packet says and by
the memory behind `dummyRes`. -/
theorem handedAnswer_eq_packet {m : Mem} (globals : Mem) (clear : OutClear m)
    (fits : answerSize m msgIn ≤ MAXDATALEN) :
    handedAnswer globals m = answerPacket globals m msgIn := by
  have sizes := packetSizes
  have cleared := answerSizes.1
  have bounds := length_answerFields globals m msgIn
  have length : (answerBytes globals m msgIn).length =
      dataOffset + (answerFields globals m msgIn).length := by
    rw [answerBytes, List.length_append, length_headerBytes]
  rw [handedAnswer_eq, answerPacket]
  apply load_congr
  intro i within
  by_cases inside : i < clearedSize
  · exact load_eq_apply (buildAnswer_load globals m) inside
  · rw [buildAnswer_apply (by omega), clear i (by omega) (by omega),
      ofList_apply_of_le (by omega)]

theorem ranalyze_sock {σ : Type} [Socket σ] {globals : Mem} {dc : ADSConnection} {s : σ}
    (clear : dc.iface.error = 0) :
    (ranalyze globals dc s).2 = (Socket.send s (handedAnswer globals dc.mem)).2 := by
  simp only [ranalyze, adsWritePacket, clear, ne_eq, not_true_eq_false, if_false]
  unfold handedAnswer
  rcases Socket.send s (load (buildAnswer globals dc.mem) msgOut
    (sizeofTCPheader + (adsLength (buildAnswer globals dc.mem) msgOut).toNat)) with
    ⟨errno | ⟨n, errno⟩, s'⟩
  · rfl
  · dsimp only
    split <;> rfl

end LibAds
