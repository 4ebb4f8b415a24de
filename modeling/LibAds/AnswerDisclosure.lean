import LibAds.ServerHandler

/-!
# What the server's answers disclose

`ranalyze()` takes offset and length of a read from the request as they are: it
copies from `dummyRes` on without looking whether the offset lies in it, and
`_ADSWritePacket()` sends as many bytes as the length says. An answer is free of
other memory exactly when the request stays inside both (`answer_discloses_iff`).
-/

namespace LibAds

open ByteMemory

/-! ## The table behind an answer -/

/-- The two memories hold the same bytes in both packet buffers. -/
def SameBuffers : Mem → Mem → Prop := AgreeOn fun i => msgIn ≤ i ∧ i < partnerOffset

theorem SameBuffers.sameRequest {m m' : Mem} (agree : SameBuffers m m') :
    SameRequest m msgIn m' msgIn :=
  .of_agree fun i within => agree _ ⟨by omega, by
    have sizes := packetSizes
    unfold partnerOffset msgOut
    omega⟩

/-- The bytes from the table that are sent lie in `dummyRes`. -/
def TableBounds (m : Mem) : Prop :=
  commandId m msgIn = cmdADSread → ∀ i, i < sizeofDummyRes →
    dataOffset + 12 + i < answerSize m msgIn →
      (get32 m (msgIn + dataOffset + 4)).toNat + i < sizeofDummyRes

theorem Globals.agree (g g' : Globals) {i : Nat} (inside : i < sizeofDummyRes) :
    g.mem i = g'.mem i := by
  have equal : load g.mem 0 dummyRes.length = load g'.mem 0 dummyRes.length :=
    g.held.trans g'.held.symm
  rw [length_dummyRes] at equal
  simpa using load_eq_apply equal inside

/-- Headers, struct and invoke id of a read's answer. -/
theorem length_answerFront {m : Mem} {p : Nat} (read : commandId m p = cmdADSread) :
    (headerBytes (answerLength m p + 32) ((AMSheader.read m p).answer (answerLength m p)) ++
      answerFixed m p).length = dataOffset + 12 := by
  have others : ¬ cmdADSread = cmdADSreadDevInfo ∧ ¬ cmdADSread = cmdADSreadState := by decide
  simp only [answerFixed, read, if_neg others.1, if_neg others.2, or_true, if_true,
    List.length_append, length_headerBytes, length_toLE]

/-- A byte of a read's answer behind the struct and the invoke id. -/
theorem answerBytes_table {globals m : Mem} {p i : Nat} (read : commandId m p = cmdADSread)
    (inside : i < sizeofDummyRes) :
    ofList (answerBytes globals m p) (dataOffset + 12 + i) =
      globals ((get32 m (p + dataOffset + 4)).toNat + i) := by
  have front := length_answerFront read
  rw [answerBytes, answerFields, ← List.append_assoc, ← front, ofList_append_right, answerTable,
    if_pos read, ofList_load inside]

/-- The other bytes of an answer are the same whatever lies in the table. -/
theorem answerBytes_front {globals globals' m : Mem} {p i : Nat}
    (outside : commandId m p = cmdADSread →
      i < dataOffset + 12 ∨ dataOffset + 12 + sizeofDummyRes ≤ i) :
    ofList (answerBytes globals m p) i = ofList (answerBytes globals' m p) i := by
  unfold answerBytes answerFields
  by_cases read : commandId m p = cmdADSread
  · have front := length_answerFront read
    simp only [answerTable, if_pos read, ← List.append_assoc]
    rcases outside read with before | behind
    · rw [← front] at before
      rw [ofList_append_left before, ofList_append_left before]
    · rw [ofList_apply_of_le (by rw [List.length_append, length_load]; omega),
        ofList_apply_of_le (by rw [List.length_append, length_load]; omega)]
  · simp only [answerTable, if_neg read]

/-- A memory with `dummyRes` and nothing behind it. -/
def Globals.plain : Globals := ⟨ofList dummyRes, load_ofList dummyRes⟩

/-- The same memory with another byte behind `dummyRes`. -/
def Globals.set (g : Globals) (a : Nat) (v : UInt8) (behind : sizeofDummyRes ≤ a) : Globals :=
  ⟨Function.update g.mem a v, by
    have kept := @load_update_disjoint g.mem 0 a dummyRes.length v
      (Or.inr (by rw [length_dummyRes]; omega))
    exact kept.trans g.held⟩

@[simp] theorem Globals.set_mem (g : Globals) (a : Nat) (v : UInt8)
    (behind : sizeofDummyRes ≤ a) : (g.set a v behind).mem = Function.update g.mem a v := rfl

theorem add_one_ne (v : UInt8) : v + 1 ≠ v := by
  intro equal
  have value := congrArg UInt8.toNat equal
  rw [UInt8.toNat_add] at value
  have small := v.toNat_lt
  have one : (1 : UInt8).toNat = 1 := rfl
  omega

section Disclosure

variable {m : Mem}

/-- A longer answer shows what lies behind the buffers. -/
theorem fits_of_hidden (hidden : ∀ (g g' : Globals) (m' : Mem), SameBuffers m m' →
    handedAnswer g.mem m = handedAnswer g'.mem m') : answerSize m msgIn ≤ MAXDATALEN := by
  have sizes := packetSizes
  obtain ⟨cleared, table, _, _⟩ := answerSizes
  have place : msgOut = msgIn + MAXDATALEN := rfl
  have behind : partnerOffset = msgOut + MAXDATALEN := rfl
  by_contra long
  have agree : SameBuffers m (Function.update m partnerOffset (m partnerOffset + 1)) :=
    fun i inside => (Function.update_of_ne (by omega) _ _).symm
  have equal := hidden .plain .plain _ agree
  rw [handedAnswer_eq, handedAnswer_eq, ← agree.sameRequest.answerSize] at equal
  have byte := load_eq_apply equal (Nat.lt_of_not_le long)
  rw [buildAnswer_apply (by omega), buildAnswer_apply (by omega), ← behind,
    Function.update_self] at byte
  exact add_one_ne _ byte.symm

/-- A read past the end of `dummyRes` shows what lies behind it. -/
theorem tableBounds_of_hidden (hidden : ∀ (g g' : Globals) (m' : Mem), SameBuffers m m' →
    handedAnswer g.mem m = handedAnswer g'.mem m') : TableBounds m := by
  have sizes := packetSizes
  obtain ⟨cleared, table, _, _⟩ := answerSizes
  intro read i inside sent
  by_contra outside
  have past := Nat.le_of_not_lt outside
  generalize shown : (get32 m (msgIn + dataOffset + 4)).toNat + i = a at past
  have equal := hidden .plain (Globals.plain.set a (Globals.plain.mem a + 1) past) m
    fun _ _ => rfl
  rw [handedAnswer_eq, handedAnswer_eq] at equal
  have byte := load_eq_apply equal sent
  rw [load_eq_apply (buildAnswer_load _ m) (by omega),
    load_eq_apply (buildAnswer_load _ m) (by omega), Nat.zero_add,
    answerBytes_table read inside, answerBytes_table read inside, shown, Globals.set_mem,
    Function.update_self] at byte
  exact add_one_ne _ byte.symm

/-- Inside both, an answer is made of bytes of the buffers and of `dummyRes`. -/
theorem hidden_of_bounds (fits : answerSize m msgIn ≤ MAXDATALEN) (bounds : TableBounds m)
    (g g' : Globals) (m' : Mem) (agree : SameBuffers m m') :
    handedAnswer g.mem m = handedAnswer g'.mem m' := by
  have sizes := packetSizes
  obtain ⟨cleared, table, _, _⟩ := answerSizes
  have place : msgOut = msgIn + MAXDATALEN := rfl
  have behind : partnerOffset = msgOut + MAXDATALEN := rfl
  have same := agree.sameRequest
  rw [handedAnswer_eq, handedAnswer_eq, ← same.answerSize]
  apply load_congr
  intro i within
  by_cases inside : i < clearedSize
  · rw [load_eq_apply (buildAnswer_load _ m) inside, load_eq_apply (buildAnswer_load _ m') inside,
      ← same.answerBytes, Nat.zero_add]
    by_cases shown : commandId m msgIn = cmdADSread ∧ dataOffset + 12 ≤ i ∧
        i < dataOffset + 12 + sizeofDummyRes
    · obtain ⟨read, low, high⟩ := shown
      obtain ⟨k, rfl⟩ := Nat.exists_eq_add_of_le low
      rw [answerBytes_table read (by omega), answerBytes_table read (by omega)]
      exact g.agree g' (bounds read k (by omega) within)
    · exact answerBytes_front fun read => by
        by_contra both
        exact shown ⟨read, by omega, by omega⟩
  · rw [buildAnswer_apply (by omega), buildAnswer_apply (by omega)]
    exact agree _ ⟨by omega, by omega⟩

end Disclosure

/-- **What an answer discloses.** Of the server's memory, the answer to a packet
shows bytes of the two packet buffers and of `dummyRes` only, exactly when it is
not longer than `msgOut` and a read stays inside `dummyRes`. -/
theorem answer_discloses_iff (m : Mem) :
    (∀ (g g' : Globals) (m' : Mem), SameBuffers m m' →
        handedAnswer g.mem m = handedAnswer g'.mem m') ↔
      answerSize m msgIn ≤ MAXDATALEN ∧ TableBounds m :=
  ⟨fun hidden => ⟨fits_of_hidden hidden, tableBounds_of_hidden hidden⟩,
    fun ⟨fits, bounds⟩ => hidden_of_bounds fits bounds⟩

end LibAds
