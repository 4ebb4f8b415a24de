import LibAds.ErrorTexts
import LibAds.ReplyBounds
import LibAds.ServerLoop

/-!
# The client that dumps

`readIndexGroup()` of `ADSclient.c` reads without a buffer, so `ADSreadBytes()`
copies nothing and says in `dataPointer` and `AnswLen` where the data lie, and
`dump()` prints them. Against a server this prints what its handler replies
(`client_dumps_replies`). The pointer of a new connection is `NULL`, and a return
value of 0 does not mean that it was set: a packet that is no read response, or is
too long, makes the first dump read through it (`dump_faults_iff`). Once a dump
has printed something no later one can (`dump_faults_first`).
-/

namespace LibAds

open ByteMemory SocketModel LabelledRuns

/-! ## Printing -/

/-- A digit of `"%02X"`. -/
def hexDigit (n : Nat) : UInt8 := UInt8.ofNat (if n < 10 then 48 + n else 55 + n)

/-- What is printed for some bytes: `"%02X,"` for each. -/
def hexText (bs : List UInt8) : List UInt8 :=
  bs.flatMap fun b => [hexDigit (b.toNat / 16), hexDigit (b.toNat % 16), 44]

/-- `if (len > MAXDATALEN) len = MAXDATALEN;` -/
def dumpLength (len : Int) : Int := if len > MAXDATALEN then (MAXDATALEN : Int) else len

/-- `dump()` of bytes of a connection, without the name in front and the newline.
No result where it reads through `NULL` or outside the connection. -/
def dump (m : Mem) (v : Nat) (len : Int) : Option (List UInt8) :=
  if dumpLength len ≤ 0 ∨ (v ≠ 0 ∧ v + dumpLength len ≤ (sizeofConnection : Nat)) then
    some (hexText (load m v (dumpLength len).toNat))
  else none

/-- What `readIndexGroup()` prints: the dump, or a text for the error; or it reads
what it must not. -/
inductive Shown where
  | dumped (text : List UInt8)
  | error (text : String)
  | fault
  deriving DecidableEq, Repr

/-- The call that `readIndexGroup()` makes. -/
def indexGroupCall (igr off : Int) : Call :=
  .readBytes (UInt32.ofInt igr) (UInt32.ofInt off) 20 false false

section Client

variable {σ : Type} [Socket σ]

/-- What is printed after the call. -/
def CallResult.shown (r : CallResult σ) : Shown :=
  if r.ret = 0 then
    match dump r.dc.mem r.dc.dataPointer r.dc.AnswLen with
    | some text => .dumped text
    | none => .fault
  else .error (adsErrorText r.ret)

/-- `readIndexGroup()`: what it prints, and the connection and the socket after it. -/
def readIndexGroup (dc : ADSConnection) (igr off : Int) (s : σ) : Shown × ADSConnection × σ :=
  let r := adsReadBytes dc (UInt32.ofInt igr) (UInt32.ofInt off) 20 false false s
  (r.shown, r.dc, r.sock)

/-- `readIndexGroup()` for one group and offset after the other. -/
def readIndexGroups : List (Int × Int) → ADSConnection → σ → List Shown × ADSConnection × σ
  | [], dc, s => ([], dc, s)
  | (igr, off) :: groups, dc, s =>
    let (shown, dc, s) := readIndexGroup dc igr off s
    let (rest, dc, s) := readIndexGroups groups dc s
    (shown :: rest, dc, s)

/-- What a client does with its connection: calls of the operations, whatever the
peer does, and dumps. A call has no step where building its request is undefined. -/
inductive ClientStep (σ : Type) [Socket σ] (dc : ADSConnection) :
    Option Shown → ADSConnection → Prop
  | call (c : Call) (s : σ) (r : CallResult σ) (defined : c.exec dc s = .ok r) :
    ClientStep σ dc none r.dc
  | dump (igr off : Int) (s : σ) :
    ClientStep σ dc (some (readIndexGroup dc igr off s).1) (readIndexGroup dc igr off s).2.1

end Client

/-! ## One dump -/

/-- Where `ADSreadBytes()` shows its caller the data. -/
def shownData : Nat := msgIn + dataOffset + 8

section Dump

variable {m : Mem} {len : Int}

theorem dumpLength_le : dumpLength len ≤ MAXDATALEN := by
  unfold dumpLength
  omega

theorem dumpLength_pos : 0 < dumpLength len ↔ 0 < len := by
  have sizes := packetSizes
  unfold dumpLength
  omega

/-- A dump through `NULL` prints nothing, or it reads what it must not. -/
theorem dump_null : dump m 0 len = if 0 < len then none else some [] := by
  unfold dump
  by_cases positive : 0 < len
  · have longer := dumpLength_pos.mpr positive
    rw [if_pos positive, if_neg (by omega)]
  · have empty : dumpLength len ≤ 0 :=
      Int.not_lt.mp fun longer => positive (dumpLength_pos.mp longer)
    rw [if_neg positive, if_pos (Or.inl empty), Int.toNat_of_nonpos empty]
    rfl

/-- Data that are shown can be dumped: a dump is no longer than a packet buffer. -/
theorem dump_shownData : dump m shownData len =
    some (hexText (load m shownData (dumpLength len).toNat)) := by
  have sizes := packetSizes
  have short := @dumpLength_le len
  have inside : shownData + dumpLength len ≤ (sizeofConnection : Nat) := by
    have behind : shownData + MAXDATALEN ≤ sizeofConnection := by decide
    omega
  exact if_pos (Or.inr ⟨by decide, inside⟩)

end Dump

/-! ## The pointer -/

/-- `dataPointer` is `NULL` as in a new connection, or it has been set. -/
def ADSConnection.Points (dc : ADSConnection) : Prop :=
  dc.dataPointer = 0 ∨ dc.dataPointer = shownData

@[simp] theorem Call.request_dataPointer (c : Call) (dc : ADSConnection) :
    (c.request dc).dataPointer = dc.dataPointer := by
  cases c <;> rfl

theorem Call.answer_dataPointer (c : Call) (dc : ADSConnection) (nErr : Int) :
    (c.answer dc nErr).2.2.dataPointer = dc.dataPointer ∨
      (c.answer dc nErr).2.2.dataPointer = shownData := by
  cases c with
  | readBytes indexGroup offset length buffer pnRead =>
      simp only [Call.answer, readAnswer, apply_ite Prod.snd, apply_ite ADSConnection.dataPointer]
      split_ifs
      · exact Or.inr rfl
      · exact Or.inr rfl
      · exact Or.inl rfl
      · exact Or.inl rfl
  | writeBytes indexGroup offset length data =>
      refine Or.inl ?_
      simp only [Call.answer, writeAnswer, apply_ite Prod.snd, ite_self]
  | readDeviceInfo =>
      refine Or.inl ?_
      simp only [Call.answer, deviceInfoAnswer, apply_ite Prod.snd, ite_self]
  | readWriteBytes indexGroup offset readLength writeLength writeBuffer pnRead =>
      refine Or.inl ?_
      simp only [Call.answer, readWriteAnswer, apply_ite Prod.snd, ite_self]
  | readState =>
      refine Or.inl ?_
      simp only [Call.answer, stateAnswer, apply_ite Prod.snd, ite_self]
  | writeControl ADSstate devState data length =>
      refine Or.inl ?_
      simp only [Call.answer, writeControlAnswer, apply_ite Prod.snd, ite_self]

section Pointer

variable {σ : Type} [Socket σ] {dc dc' : ADSConnection} {r : CallResult σ} {shown : Shown}
  {text : List UInt8}

/-- A call sets the pointer or leaves it alone. -/
theorem Call.run_dataPointer (c : Call) (dc : ADSConnection) (s : σ) :
    (c.run dc s).dc.dataPointer = dc.dataPointer ∨ (c.run dc s).dc.dataPointer = shownData := by
  rcases c.unsent_or_sends dc s with unsent | ⟨s₁, sends⟩
  · rw [Call.run_unsent unsent]
    exact Or.inl (c.request_dataPointer dc)
  · rw [Call.run_sent sends]
    have answered := c.answer_dataPointer ((c.request dc).received
      (adsReadPacket (some dc.iface) (c.request dc).mem msgIn s₁).rc
      (adsReadPacket (some dc.iface) (c.request dc).mem msgIn s₁).mem)
      (adsReadPacket (some dc.iface) (c.request dc).mem msgIn s₁).error
    exact answered.imp_left fun kept => kept.trans (c.request_dataPointer dc)

theorem readIndexGroup_eq (dc : ADSConnection) (igr off : Int) (s : σ) :
    readIndexGroup dc igr off s =
      (((indexGroupCall igr off).run dc s).shown, ((indexGroupCall igr off).run dc s).dc,
        ((indexGroupCall igr off).run dc s).sock) := rfl

theorem ClientStep.dataPointer {l : Option Shown} (step : ClientStep σ dc l dc') :
    dc'.dataPointer = dc.dataPointer ∨ dc'.dataPointer = shownData := by
  cases step with
  | call c s r defined =>
      obtain ⟨-, rfl⟩ := Call.exec_eq_ok.mp defined
      exact c.run_dataPointer dc s
  | dump igr off s => exact (indexGroupCall igr off).run_dataPointer dc s

theorem ClientStep.points {l : Option Shown} (step : ClientStep σ dc l dc') (points : dc.Points) :
    dc'.Points := by
  rcases step.dataPointer with kept | set
  · unfold ADSConnection.Points
    rw [kept]
    exact points
  · exact Or.inr set

omit [Socket σ] in
/-- With a pointer that was set a return value of 0 gives a dump of what lies there. -/
theorem CallResult.shown_set (set : r.dc.dataPointer = shownData) (ok : r.ret = 0) :
    r.shown = .dumped (hexText (load r.dc.mem shownData (dumpLength r.dc.AnswLen).toNat)) := by
  rw [CallResult.shown, if_pos ok, set, dump_shownData]

omit [Socket σ] in
/-- Without one it gives a fault, or nothing. -/
theorem CallResult.shown_null (null : r.dc.dataPointer = 0) (ok : r.ret = 0) :
    r.shown = if 0 < r.dc.AnswLen then .fault else .dumped [] := by
  rw [CallResult.shown, if_pos ok, null, dump_null]
  by_cases positive : 0 < r.dc.AnswLen
  · rw [if_pos positive, if_pos positive]
  · rw [if_neg positive, if_neg positive]

omit [Socket σ] in
theorem CallResult.shown_error (failed : r.ret ≠ 0) : r.shown = .error (adsErrorText r.ret) :=
  if_neg failed

omit [Socket σ] in
theorem CallResult.shown_fault_iff (points : r.dc.Points) :
    r.shown = .fault ↔ r.ret = 0 ∧ r.dc.dataPointer = 0 ∧ 0 < r.dc.AnswLen := by
  by_cases ok : r.ret = 0
  · rcases points with null | set
    · rw [CallResult.shown_null null ok]
      split_ifs with positive <;> simp [ok, null, positive]
    · have nonzero : shownData ≠ 0 := by decide
      simp [CallResult.shown_set set ok, set, nonzero]
  · simp [CallResult.shown_error ok, ok]

omit [Socket σ] in
/-- What is dumped lies in the packet buffers. -/
theorem CallResult.shown_dumped (points : r.dc.Points) (dumped : r.shown = .dumped text) :
    (text = [] ∨ r.dc.dataPointer = shownData) ∧
      ∃ n ≤ MAXDATALEN, text = hexText (load r.dc.mem shownData n) := by
  by_cases ok : r.ret = 0
  · rcases points with null | set
    · rw [CallResult.shown_null null ok] at dumped
      split_ifs at dumped
      cases dumped
      exact ⟨Or.inl rfl, 0, Nat.zero_le _, rfl⟩
    · rw [CallResult.shown_set set ok] at dumped
      cases dumped
      have short := @dumpLength_le r.dc.AnswLen
      exact ⟨Or.inr set, _, by omega, rfl⟩
  · rw [CallResult.shown_error ok] at dumped
    cases dumped

end Pointer

/-! ## Any peer -/

section Peers

variable {σ : Type} [Socket σ] {heap : Mem} {di : ADSInterface} {partner : AmsNetId} {port : Int}
  {ls : List (Option Shown)} {dc dc' : ADSConnection} {shown : Shown}

/-- The pointer after a run of a new connection: where something has been printed
it is set. -/
theorem clientRun_points (run : Run (ClientStep σ) (adsNewConnection heap di partner port) ls dc) :
    dc.Points ∧ ∀ text, some (.dumped text) ∈ ls → text = [] ∨ dc.dataPointer = shownData := by
  refine run.history (I := fun ls dc => dc.Points ∧ ∀ text, some (.dumped text) ∈ ls →
    text = [] ∨ dc.dataPointer = shownData) ⟨Or.inl rfl, nofun⟩ ?_
  rintro ls dc l dc' ⟨points, printed⟩ step
  have points' := step.points points
  refine ⟨points', fun text inside => ?_⟩
  rcases List.mem_append.mp inside with before | now
  · rcases printed text before with empty | set
    · exact Or.inl empty
    · rcases step.dataPointer with kept | set'
      · exact Or.inr (kept.trans set)
      · exact Or.inr set'
  · cases List.mem_singleton.mp now
    generalize label : some (Shown.dumped text) = l at step
    cases step with
    | call c s r defined => cases label
    | dump igr off s => exact (CallResult.shown_dumped points' (Option.some.inj label).symm).1

/-- **Only the first dump can fault.** A client uses a new connection in any defined way,
whatever the peer does. What it dumps are bytes behind the headers in its packet
buffers, and where it reads through `NULL` instead, it has printed none before. -/
theorem dump_faults_first (run : Run (ClientStep σ) (adsNewConnection heap di partner port) ls dc)
    (step : ClientStep σ dc (some shown) dc') :
    (∀ text, shown = .dumped text →
        ∃ n ≤ MAXDATALEN, text = hexText (load dc'.mem shownData n)) ∧
      (shown = .fault → dc'.dataPointer = 0 ∧ ∀ text, some (.dumped text) ∈ ls → text = []) := by
  obtain ⟨points, printed⟩ := clientRun_points run
  have points' := step.points points
  have pointer := step.dataPointer
  generalize label : some shown = l at step
  cases step with
  | call c s r defined => cases label
  | dump igr off s =>
      cases label
      refine ⟨fun text dumped => (CallResult.shown_dumped points' dumped).2, fun fault => ?_⟩
      obtain ⟨-, null, -⟩ := (CallResult.shown_fault_iff points').mp fault
      refine ⟨null, fun text inside => (printed text inside).resolve_right fun set => ?_⟩
      -- A pointer that has been set stays so.
      rcases pointer with kept | set'
      · exact absurd (null.symm.trans (kept.trans set)) (by decide)
      · exact absurd (null.symm.trans set') (by decide)

end Peers

/-- The response to a write request. -/
def writeResponse : List UInt8 := adsPacket (firstReply cmdADSwrite 5 4 0) (toLE 4 0)

/-- A response to a read request, with two bytes of data. -/
def readResponse : List UInt8 :=
  adsPacket (firstReply cmdADSread 5 10 0) (toLE 4 0 ++ toLE 4 2 ++ [7, 31])

/-- A socket on which one packet arrives. -/
def delivering (bs : List UInt8) : Script := ⟨[], arrive bs, []⟩

/-- A new connection that has written two bytes. -/
def writtenConnection : ADSConnection :=
  ((Call.writeBytes 0x4020 0 2 (some fun _ => 7)).run freshConnection
    (delivering writeResponse)).dc

/-- The same after a dump that was answered. -/
def dumpedConnection : ADSConnection :=
  (readIndexGroup writtenConnection 0x4020 0 (delivering readResponse)).2.1

/-- After a write the first dump may take a second copy of its response for an
answer of its own, and reads through `NULL`; two that are answered dump the data. -/
theorem dump_faults_first_written :
    ((readIndexGroup writtenConnection 0x4020 0 (delivering writeResponse)).1 = .fault ∧
        (readIndexGroup writtenConnection 0x4020 0 (delivering writeResponse)).2.1.dataPointer =
          0) ∧
      (readIndexGroup writtenConnection 0x4020 0 (delivering readResponse)).1 =
        .dumped (hexText [7, 31]) ∧
      ∃ n ≤ MAXDATALEN, hexText [7, 31] = hexText (load (readIndexGroup dumpedConnection 0x4020 2
        (delivering readResponse)).2.1.mem shownData n) := by
  have written : Run (ClientStep Script) freshConnection [none] writtenConnection :=
    .single (.call _ _ _ (Call.exec_eq_ok.mpr ⟨by decide, rfl⟩))
  have dumped := written.snoc (.dump 0x4020 0 (delivering readResponse))
  have faults : (readIndexGroup writtenConnection 0x4020 0 (delivering writeResponse)).1 =
      .fault := by decide +kernel
  have shows : (readIndexGroup writtenConnection 0x4020 0 (delivering readResponse)).1 =
      .dumped (hexText [7, 31]) := by decide +kernel
  have again : (readIndexGroup dumpedConnection 0x4020 2 (delivering readResponse)).1 =
      .dumped (hexText [7, 31]) := by decide +kernel
  have first := dump_faults_first written (.dump 0x4020 0 (delivering writeResponse))
  have third := dump_faults_first dumped (.dump 0x4020 2 (delivering readResponse))
  exact ⟨⟨faults, (first.2 faults).1⟩, shows, third.1 _ again⟩

/-! ## Which peers make it fault -/

section Faults

variable {σ : Type} [Socket σ] {dc : ADSConnection} {igr off rc error : Int} {m : Mem} {n : Nat}
  {bs : List UInt8} {pt' : Option Timeval} {s s₁ s' : σ}

/-- Writing a request fails with a code. -/
theorem adsWritePacket_code {di : ADSInterface} {p : Nat} (nErr : Option Int)
    (unsent : (adsWritePacket (some di) m p s).rc ≤ 0) :
    adsTranslateWrError (adsWritePacket (some di) m p s).rc nErr ≠ 0 := by
  have flagged : adsTranslateWrError (-4) nErr ≠ 0 := (by decide : (0x1 : Int) ≠ 0)
  have failed : adsTranslateWrError 0 nErr ≠ 0 := (by decide : (0x1a : Int) ≠ 0)
  unfold adsWritePacket at unsent ⊢
  dsimp only at unsent ⊢
  split_ifs at unsent ⊢
  · exact flagged
  · split at unsent
    · exact failed
    · split_ifs at unsent ⊢
      · exact failed
      · exact absurd unsent (by omega : ¬ (1 : Int) ≤ 0)

omit [Socket σ] in
/-- A read that failed leaves the pointer alone and its count in `AnswLen`. -/
theorem indexGroupCall_failed (failed : ¬ (rc > 0 ∧ error = 0)) :
    ((indexGroupCall igr off).finish dc ⟨rc, error, m, s⟩).ret = adsTranslateRdError rc error ∧
      ((indexGroupCall igr off).finish dc ⟨rc, error, m, s⟩).dc.dataPointer = dc.dataPointer ∧
      ((indexGroupCall igr off).finish dc ⟨rc, error, m, s⟩).dc.AnswLen = rc := by
  have answered := @Call.answer_failed (indexGroupCall igr off)
    (((indexGroupCall igr off).request dc).received rc m) error rfl failed
  simp only [Call.finish, answered]
  exact ⟨rfl, (indexGroupCall igr off).request_dataPointer dc, rfl⟩

omit [Socket σ] in
/-- A read response sets both. -/
theorem indexGroupCall_own (positive : 0 < n) (own : commandId m msgIn = cmdADSread) :
    ((indexGroupCall igr off).finish dc ⟨n, 0, m, s⟩).ret = intOf (resultOf m) ∧
      ((indexGroupCall igr off).finish dc ⟨n, 0, m, s⟩).dc.dataPointer = shownData ∧
      ((indexGroupCall igr off).finish dc ⟨n, 0, m, s⟩).dc.AnswLen = intOf (lengthOf m) := by
  have counted : (n : Int) > 0 := Int.natCast_pos.mpr positive
  simp only [Call.finish, indexGroupCall, Call.answer, readAnswer, ADSConnection.received_AnswLen,
    ADSConnection.received_mem, counted, own, and_self, if_true, Bool.false_eq_true, false_and,
    if_false]
  exact ⟨trivial, rfl, rfl⟩

omit [Socket σ] in
/-- Any other packet is answered by its header, and sets neither. -/
theorem indexGroupCall_other (positive : 0 < n) (other : commandId m msgIn ≠ cmdADSread) :
    ((indexGroupCall igr off).finish dc ⟨n, 0, m, s⟩).ret = intOf (errorCode m msgIn) ∧
      ((indexGroupCall igr off).finish dc ⟨n, 0, m, s⟩).dc.dataPointer = dc.dataPointer ∧
      ((indexGroupCall igr off).finish dc ⟨n, 0, m, s⟩).dc.AnswLen = n := by
  have counted : (n : Int) > 0 := Int.natCast_pos.mpr positive
  simp only [Call.finish, indexGroupCall, Call.answer, readAnswer, ADSConnection.received_AnswLen,
    ADSConnection.received_mem, counted, other, and_self, if_true, if_false, true_and, and_true]
  exact (indexGroupCall igr off).request_dataPointer dc

/-- A packet that a client with an unset pointer must not get: too long, or of
another command and without an error. -/
def Misleads (m : Mem) (bs : List UInt8) : Prop :=
  MAXDATALEN < bs.length ∨
    commandId (store m msgIn bs) msgIn ≠ cmdADSread ∧ errorCode (store m msgIn bs) msgIn = 0

theorem readIndexGroup_fault_iff (unset : dc.dataPointer = 0) (igr off : Int) (s : σ) :
    (readIndexGroup dc igr off s).1 = .fault ↔
      ((indexGroupCall igr off).run dc s).ret = 0 ∧
        ((indexGroupCall igr off).run dc s).dc.dataPointer = 0 ∧
        0 < ((indexGroupCall igr off).run dc s).dc.AnswLen := by
  have pointer := (indexGroupCall igr off).run_dataPointer dc s
  rw [unset] at pointer
  exact CallResult.shown_fault_iff pointer

theorem readIndexGroup_complete (unset : dc.dataPointer = 0)
    (sends : (indexGroupCall igr off).Sends dc s s₁)
    (delivery : Delivers (readTimeout dc.iface.timeout) s₁ bs pt' s') (complete : Complete bs) :
    (readIndexGroup dc igr off s).1 = .fault ↔ Misleads dc.mem bs := by
  have sizes := packetSizes
  have positive : 0 < bs.length := by
    have size := complete.2
    omega
  rw [readIndexGroup_fault_iff unset]
  by_cases long : MAXDATALEN < bs.length
  · rw [Call.run_overlong sends delivery complete long]
    obtain ⟨ret, pointer, length⟩ := @indexGroupCall_failed σ dc igr off bs.length 0xe
      (markOverlong (fill (bufferAt msgIn) 0 ((indexGroupCall igr off).request dc).mem bs) msgIn)
      s' (fun taken => absurd taken.2 (by decide))
    rw [ret, pointer, length, adsTranslateRdError_of_pos (by omega)]
    exact iff_of_true ⟨rfl, unset, by omega⟩ (Or.inl long)
  · rw [Call.run_complete sends delivery complete (Nat.le_of_not_lt long)]
    -- What the call finds in `msgIn` does not depend on its own request.
    have agree : AgreeOn InMsgIn (store ((indexGroupCall igr off).request dc).mem msgIn bs)
        (store dc.mem msgIn bs) := fun i inside => Call.store_request_mem inside.2
    have command := commandId_agree agree
    have code := errorCode_agree agree
    unfold Misleads
    rw [← command, ← code]
    by_cases own : commandId (store ((indexGroupCall igr off).request dc).mem msgIn bs) msgIn =
        cmdADSread
    · obtain ⟨-, pointer, -⟩ := @indexGroupCall_own σ dc igr off _ bs.length s' positive own
      rw [pointer]
      exact iff_of_false (fun fault => absurd fault.2.1 (by decide))
        (fun misleads => misleads.elim long fun foreign => foreign.1 own)
    · obtain ⟨ret, pointer, length⟩ :=
        @indexGroupCall_other σ dc igr off _ bs.length s' positive own
      rw [ret, pointer, length, intOf_eq_zero_iff]
      constructor
      · rintro ⟨zero, -, -⟩
        exact Or.inr ⟨own, zero⟩
      · rintro (longer | ⟨-, zero⟩)
        · exact absurd longer long
        · exact ⟨zero, unset, by omega⟩

/-- **Which peers make the first dump fault.** With the pointer of a new connection
`readIndexGroup()` reads through `NULL` if and only if the request goes out and
what comes back, over any socket, is one whole packet that misleads it. -/
theorem dump_faults_iff (unset : dc.dataPointer = 0) (igr off : Int) (s : σ) :
    (readIndexGroup dc igr off s).1 = .fault ↔
      ∃ s₁ bs pt' s', (indexGroupCall igr off).Sends dc s s₁ ∧
        Delivers (readTimeout dc.iface.timeout) s₁ bs pt' s' ∧ Complete bs ∧
        Misleads dc.mem bs := by
  constructor
  · intro fault
    obtain ⟨ok, -, shown⟩ := (readIndexGroup_fault_iff unset igr off s).mp fault
    rcases (indexGroupCall igr off).unsent_or_sends dc s with unsent | ⟨s₁, sends⟩
    · rw [Call.run_unsent unsent] at ok
      exact absurd ok (adsWritePacket_code none unsent)
    · rcases adsReadPacket_cases dc.iface sends.clear ((indexGroupCall igr off).request dc).mem
        msgIn s₁ with ⟨bs, pt', s', delivery, complete⟩ |
        ⟨bs, pt₁, s₂, rc, error, s', delivery, incomplete, breaks⟩ |
        ⟨bs, pt', s', delivery, size, long, m', overflow⟩
      · exact ⟨s₁, bs, pt', s', sends, delivery, complete,
          (readIndexGroup_complete unset sends delivery complete).mp fault⟩
      · have failed := breaks.rc_cases
        rw [Call.run_broken sends delivery incomplete breaks,
          (indexGroupCall_failed (by omega)).2.2] at shown
        omega
      · rw [Call.run_sent sends, overflow,
          (indexGroupCall_failed (fun taken => absurd taken.2 (by decide))).2.2] at shown
        exact absurd shown (by decide)
  · rintro ⟨s₁, bs, pt', s', sends, delivery, complete, misleads⟩
    exact (readIndexGroup_complete unset sends delivery complete).mpr misleads

end Faults

/-- A new client that gets a write response reads through `NULL`. -/
theorem dump_faults_iff_misled :
    (readIndexGroup freshConnection 0x4020 0 (⟨[], arrive writeResponse, []⟩ : Script)).1 =
      .fault := by
  have sends := @Call.sends_script (indexGroupCall 0x4020 0) freshConnection
    (arrive writeResponse) [] rfl (by decide +kernel)
  have delivery := fun handed =>
    Script.delivers (readTimeout freshConnection.iface.timeout) [] handed writeResponse []
  simp only [List.append_nil] at delivery
  exact (dump_faults_iff rfl 0x4020 0 _).mpr ⟨_, writeResponse, _, _, sends, delivery _,
    adsPacket_complete (by decide), Or.inr ⟨by decide +kernel, by decide +kernel⟩⟩

/-! ## Against a server -/

section Served

variable {δ : Type} {server : Server δ} {dc : ADSConnection}

/-- What is printed for a reply. -/
def Reply.shown (reply : Reply) : Shown :=
  if reply.result = 0 then .dumped (hexText reply.data)
  else .error (adsErrorText (intOf reply.result))

/-- The dumps, made by applying the handler to the groups. -/
def Server.dumps (server : Server δ) : List (Int × Int) → δ → List Shown × δ
  | [], d => ([], d)
  | (igr, off) :: groups, d =>
    let (d', reply) := server.handler d (indexGroupCall igr off).asRequest
    let (rest, last) := server.dumps groups d'
    (reply.shown :: rest, last)

/-- What stands behind the headers of a read response. -/
theorem readBody_fields {m : Mem} {reply : Reply}
    (held : load m (msgIn + dataOffset) (4 + 4 + reply.data.length) =
      toLE 4 reply.result.toNat ++ toLE 4 reply.data.length ++ reply.data)
    (small : reply.data.length < 2 ^ 32) :
    resultOf m = reply.result ∧ (lengthOf m).toNat = reply.data.length ∧
      load m shownData reply.data.length = reply.data := by
  have value : (UInt32.ofNat reply.data.length).toNat = reply.data.length := by
    rw [UInt32.toNat_ofNat']
    exact Nat.mod_eq_of_lt small
  obtain ⟨front, data⟩ := load_append_inj held (by simp)
  obtain ⟨result, length⟩ := load_append_inj front (length_toLE 4 _)
  have length : lengthOf m = UInt32.ofNat reply.data.length :=
    get32_of_load (by rw [value]; exact length)
  exact ⟨get32_of_load result, by rw [length, value], data⟩

/-- One group, read from a server whose wire is empty. -/
theorem readIndexGroup_served {d : δ} {igr off : Int} (seen : List Request)
    (clear : dc.iface.error = 0)
    (fits : dataOffset + ((server.handler d (indexGroupCall igr off).asRequest).2.body
      (indexGroupCall igr off).asRequest).length ≤ MAXDATALEN) :
    (readIndexGroup dc igr off (⟨d, [], seen⟩ : Running server)).1 =
        (server.handler d (indexGroupCall igr off).asRequest).2.shown ∧
      (readIndexGroup dc igr off (⟨d, [], seen⟩ : Running server)).2.1.iface = dc.iface ∧
      (readIndexGroup dc igr off (⟨d, [], seen⟩ : Running server)).2.2 =
        ⟨(server.handler d (indexGroupCall igr off).asRequest).1, [],
          seen ++ [(indexGroupCall igr off).asRequest]⟩ := by
  have sizes := packetSizes
  obtain ⟨bs, whole, -, run, command, body⟩ :=
    @Call.run_served_packet _ server (indexGroupCall igr off) dc d seen clear trivial trivial fits
  rw [readIndexGroup_eq, run]
  refine ⟨?_, (indexGroupCall igr off).finish_iface dc _, rfl⟩
  generalize server.handler d (indexGroupCall igr off).asRequest = answer at fits body ⊢
  obtain ⟨d', reply⟩ := answer
  have size : (reply.body (indexGroupCall igr off).asRequest).length =
      4 + 4 + reply.data.length := by
    simp only [indexGroupCall, Call.asRequest, Reply.body, List.length_append, length_toLE]
  rw [size] at fits body
  obtain ⟨result, length, data⟩ := readBody_fields body (by omega)
  obtain ⟨ret, pointer, AnswLen⟩ := @indexGroupCall_own (Running server) dc igr off _ bs.length
    ⟨d', [], seen ++ [(indexGroupCall igr off).asRequest]⟩ (by omega) command
  rw [result] at ret
  rw [intOf_of_lt (by omega), length] at AnswLen
  have printed : dumpLength reply.data.length = reply.data.length := by
    unfold dumpLength
    omega
  unfold Reply.shown
  by_cases ok : reply.result = 0
  · have zero : intOf reply.result = 0 := (intOf_eq_zero_iff _).mpr ok
    rw [if_pos ok, CallResult.shown_set pointer (ret.trans zero), AnswLen, printed,
      Int.toNat_natCast, Call.finish_mem, data]
  · have code : intOf reply.result ≠ 0 := fun zero => ok ((intOf_eq_zero_iff _).mp zero)
    rw [if_neg ok, CallResult.shown_error (by rw [ret]; exact code), ret]

/-- **The client prints what the handler replies.** For every list of groups and
offsets whose replies fit, whatever connection it has and whatever earlier answers
have left in it, the client prints for each group the data of the handler's reply,
or the text of its error; the handler has seen the groups in order, and nothing
is left on the wire. -/
theorem client_dumps_replies (server : Server δ) (groups : List (Int × Int)) (d : δ)
    (dc : ADSConnection) (seen : List Request) (clear : dc.iface.error = 0)
    (replies : server.RepliesFit (groups.map fun group => indexGroupCall group.1 group.2) d) :
    (readIndexGroups groups dc (⟨d, [], seen⟩ : Running server)).1 = (server.dumps groups d).1 ∧
      (readIndexGroups groups dc (⟨d, [], seen⟩ : Running server)).2.2 =
        ⟨(server.dumps groups d).2, [],
          seen ++ groups.map fun group => (indexGroupCall group.1 group.2).asRequest⟩ := by
  induction groups generalizing d dc seen with
  | nil => simp [readIndexGroups, Server.dumps]
  | cons group groups ih =>
      obtain ⟨igr, off⟩ := group
      obtain ⟨fits, rest⟩ := replies
      obtain ⟨shown, iface, sock⟩ := readIndexGroup_served seen clear fits
      obtain ⟨printed, last⟩ := ih (server.handler d (indexGroupCall igr off).asRequest).1
        (readIndexGroup dc igr off (⟨d, [], seen⟩ : Running server)).2.1
        (seen ++ [(indexGroupCall igr off).asRequest]) (by rw [iface, clear]) rest
      simp only [readIndexGroups, sock, shown, printed, last, Server.dumps, List.map_cons,
        List.append_assoc, List.singleton_append, and_self]

end Served

/-- Two groups are read from a server whose register holds two bytes. -/
theorem client_dumps_replies_register :
    (readIndexGroups [(0x4020, 0), (0x4020, 2)] freshConnection
        (⟨[7, 31], [], []⟩ : Running registerServer)).1 =
        [.dumped (hexText [7, 31]), .dumped (hexText [7, 31])] ∧
      (readIndexGroups [(0x4020, 0), (0x4020, 2)] freshConnection
        (⟨[7, 31], [], []⟩ : Running registerServer)).2.2 =
        ⟨[7, 31], [], [.read 0x4020 0 20, .read 0x4020 2 20]⟩ :=
  client_dumps_replies registerServer [(0x4020, 0), (0x4020, 2)] [7, 31] freshConnection [] rfl
    ⟨by decide, by decide, trivial⟩

end LibAds
