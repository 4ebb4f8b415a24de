import LibAds.PacketDelivery
import LibAds.StaleReply

/-!
# The bounds of a reply

`ADSreadBytes()` and `ADSreadWriteBytes()` copy as many bytes of `msgIn` as the
reply announces behind its fixed fields. That length is compared with the
caller's, but neither with the size of the packet nor with that of the buffer;
and without a buffer `ADSreadBytes()` passes it on with the place of the data.
-/

namespace LibAds

open ByteMemory SocketModel

/-! ## What the outcome depends on -/

/-- The addresses of `msgIn`. -/
def InMsgIn (i : Nat) : Prop := msgIn ≤ i ∧ i < msgIn + MAXDATALEN

section Dependence

variable {m m' : Mem} (agree : AgreeOn InMsgIn m m')

include agree

theorem commandId_agree : commandId m msgIn = commandId m' msgIn :=
  agree.get16 _ fun i _ => ⟨by omega, by unfold MAXDATALEN; omega⟩

theorem errorCode_agree : errorCode m msgIn = errorCode m' msgIn :=
  agree.get32 _ fun i _ => ⟨by omega, by unfold MAXDATALEN; omega⟩

theorem resultOf_agree : resultOf m = resultOf m' :=
  agree.get32 _ fun i _ => ⟨by omega, by have sizes := packetSizes; omega⟩

theorem lengthOf_agree : lengthOf m = lengthOf m' :=
  agree.get32 _ fun i _ => ⟨by omega, by have sizes := packetSizes; omega⟩

end Dependence

/-- The data announced lie in `msgIn`. -/
def announcedInside (m : Mem) : Prop := dataOffset + 8 + (lengthOf m).toNat ≤ MAXDATALEN

/-- What a reading operation returns and stores comes from `msgIn` alone,
exactly when it copies nothing or the data announced lie there. -/
theorem readOutcome_inside_iff (length : UInt32) (buffer pnRead : Bool) (m : Mem) :
    (∀ m', AgreeOn InMsgIn m m' →
        readOutcome length buffer pnRead m' = readOutcome length buffer pnRead m) ↔
      buffer = false ∨ length < lengthOf m ∨ announcedInside m := by
  have sizes := packetSizes
  constructor
  · intro depends
    by_contra outside
    simp only [not_or, Bool.not_eq_false] at outside
    rcases outside with ⟨rfl, short, long⟩
    unfold announcedInside at long
    have agree : AgreeOn InMsgIn m (Function.update m msgOut (m msgOut + 1)) := by
      rintro i ⟨-, inside⟩
      exact (Function.update_of_ne (Nat.ne_of_lt inside) _ _).symm
    have equal := depends _ agree
    rw [readOutcome_taken short, readOutcome_taken (lengthOf_agree agree ▸ short),
      ← lengthOf_agree agree]
      at equal
    -- The byte behind `msgIn` is one of those copied.
    have copied := congrArg (fun outcome => outcome.2.buffer) equal
    have byte := load_eq_apply copied (by omega : MAXDATALEN - (dataOffset + 8) < _)
    have place : msgIn + dataOffset + 8 + (MAXDATALEN - (dataOffset + 8)) = msgOut := by
      unfold msgOut
      omega
    rw [place, Function.update_self] at byte
    simp at byte
  · intro inside m' agree
    simp only [readOutcome, lengthOf_agree agree, resultOf_agree agree]
    by_cases refused : buffer ∧ lengthOf m' > length
    · rw [if_pos refused, if_pos refused]
    · rw [if_neg refused, if_neg refused]
      cases buffer with
      | false => rfl
      | true =>
          have short : ¬ length < lengthOf m' := fun long => refused ⟨rfl, long⟩
          rw [lengthOf_agree agree] at inside
          have within : announcedInside m := (inside.resolve_left (by decide)).resolve_left short
          unfold announcedInside at within
          rw [lengthOf_agree agree] at within
          have data := agree.load (msgIn + dataOffset + 8) (lengthOf m').toNat fun i _ =>
            ⟨by omega, by omega⟩
          simp only [if_true, data]

/-! ## The range shown to the caller -/

/-- `dataPointer` and `AnswLen` describe a part of `msgIn`. -/
def ADSConnection.ShowsMsgIn (dc : ADSConnection) : Prop :=
  msgIn ≤ dc.dataPointer ∧ 0 ≤ dc.AnswLen ∧ dc.dataPointer + dc.AnswLen ≤ (msgIn + MAXDATALEN : Nat)

/-- An announced length is shown as an `int`; a large one turns negative. -/
theorem showData_showsMsgIn (dc : ADSConnection) (m : Mem) :
    (dc.showData (msgIn + dataOffset + 8) (intOf (lengthOf m))).ShowsMsgIn ↔ announcedInside m := by
  have sizes := packetSizes
  unfold ADSConnection.ShowsMsgIn announcedInside ADSConnection.showData
  dsimp only
  by_cases small : (lengthOf m).toNat < 2 ^ 31
  · rw [intOf_of_lt small]
    omega
  · have negative := intOf_of_le (Nat.le_of_not_lt small)
    omega

/-! ## Calls -/

section Calls

variable {σ : Type} [Socket σ]

/-- The operations that copy as much as the reply announces. -/
def Call.copiesReply : Call → Bool
  | .readBytes .. | .readWriteBytes .. => true
  | _ => false

/-- What `_ADSReadPacket()` brings a call whose request left the socket at `s₁`. -/
def Call.reply (c : Call) (dc : ADSConnection) (s₁ : σ) : PacketRead σ :=
  adsReadPacket (some dc.iface) (c.request dc).mem msgIn s₁

/-- The bytes a call looks at lie in `msgIn`: with other bytes outside it the
outcome is the same. And when `ADSreadBytes()` returns 0 after a read response,
what it shows its caller lies there. -/
structure Call.ReplyBounded (c : Call) (dc : ADSConnection) (s : σ) : Prop where
  reads : ∀ s₁, c.Sends dc s s₁ → ∀ m', AgreeOn InMsgIn (c.reply dc s₁).mem m' →
    (c.finish dc { c.reply dc s₁ with mem := m' }).ret = (c.run dc s).ret ∧
      (c.finish dc { c.reply dc s₁ with mem := m' }).outs = (c.run dc s).outs
  shows : ∀ s₁, c.Sends dc s s₁ → c.command = cmdADSread →
    (c.reply dc s₁).rc > 0 → (c.reply dc s₁).error = 0 →
    commandId (c.reply dc s₁).mem msgIn = cmdADSread → (c.run dc s).ret = 0 →
    (c.run dc s).dc.ShowsMsgIn

/-- The reply in `msgIn` keeps a call inside it: it is another command's, or too
long for the caller, or (without a buffer) an error, or its data lie there. -/
def Call.boundedBy (c : Call) (m : Mem) : Prop :=
  match c with
  | .readBytes _ _ length buffer _ => commandId m msgIn = cmdADSread →
    (buffer ∧ length < lengthOf m) ∨ (buffer = false ∧ resultOf m ≠ 0) ∨ announcedInside m
  | .readWriteBytes _ _ readLength _ _ _ => commandId m msgIn = cmdADSreadWrite →
    readLength < lengthOf m ∨ announcedInside m
  | _ => True

variable {c : Call} {dc : ADSConnection} {s s₁ s₂ s' : σ} {m : Mem} {n : Nat}

theorem Call.Sends.unique (sends : c.Sends dc s s₁) (sends' : c.Sends dc s s₂) : s₁ = s₂ := by
  unfold Call.Sends at sends sends'
  rw [sends] at sends'
  exact congrArg PacketWrite.sock sends'

omit [Socket σ] in
theorem Call.reads_of_copies (copies : c.copiesReply) :
    c.isWrite = false ∧ c.wantsHeaders = false := by
  cases c with
  | readBytes => exact ⟨rfl, rfl⟩
  | readWriteBytes => exact ⟨rfl, rfl⟩
  | writeBytes => cases copies
  | readDeviceInfo => cases copies
  | readState => cases copies
  | writeControl => cases copies

/-- A packet of another command is answered by its header alone, one of the
own command as `readOutcome` says. -/
theorem Call.decode_inside_iff {length : UInt32} {buffer pnRead : Bool} (read : c.isWrite = false)
    (outcome : ∀ m, c.accept m = readOutcome length buffer pnRead m) :
    (∀ m', AgreeOn InMsgIn m m' → c.decode m' = c.decode m) ↔
      (commandId m msgIn = c.command →
        buffer = false ∨ length < lengthOf m ∨ announcedInside m) := by
  by_cases own : commandId m msgIn = c.command
  · rw [imp_iff_right own, ← readOutcome_inside_iff length buffer pnRead m]
    refine forall_congr' fun m' => imp_congr_right fun agree => ?_
    rw [Call.decode_of_command own, Call.decode_of_command (commandId_agree agree ▸ own),
      outcome, outcome]
  · refine iff_of_true (fun m' agree => ?_) fun taken => absurd taken own
    rw [Call.decode_of_ne read own, Call.decode_of_ne read (commandId_agree agree ▸ own),
      errorCode_agree agree]

/-- A read response is shown to the caller whatever the return value is. -/
theorem readAnswer_shows {length : UInt32} {buffer pnRead : Bool} (taken : dc.AnswLen > 0)
    (own : commandId dc.mem msgIn = cmdADSread) :
    (readAnswer length buffer pnRead dc 0).2.2.ShowsMsgIn ↔ announcedInside dc.mem := by
  simp only [readAnswer, taken, own, and_self, if_true]
  split <;> exact showData_showsMsgIn dc dc.mem

theorem readOutcome_eq_zero_iff {length : UInt32} {buffer pnRead : Bool} :
    (readOutcome length buffer pnRead m).1 = 0 ↔
      ¬ (buffer ∧ length < lengthOf m) ∧ resultOf m = 0 := by
  by_cases refused : buffer ∧ lengthOf m > length
  · rw [readOutcome, if_pos refused]
    exact iff_of_false (by omega : ¬ (0x705 : Int) = 0) fun taken => taken.1 refused
  · rw [readOutcome, if_neg refused, intOf_eq_zero_iff]
    exact (and_iff_right refused).symm

/-- The first half of the law, for a packet taken in without an error. -/
theorem Call.reads_iff (copies : c.copiesReply) (sends : c.Sends dc s s₁)
    (positive : 0 < n) (small : n < 2 ^ 64) (reply : c.reply dc s₁ = ⟨n, 0, m, s'⟩) :
    (∀ s₁, c.Sends dc s s₁ → ∀ m', AgreeOn InMsgIn (c.reply dc s₁).mem m' →
      (c.finish dc { c.reply dc s₁ with mem := m' }).ret = (c.run dc s).ret ∧
        (c.finish dc { c.reply dc s₁ with mem := m' }).outs = (c.run dc s).outs) ↔
      ∀ m', AgreeOn InMsgIn m m' → c.decode m' = c.decode m := by
  have run : c.run dc s = c.finish dc ⟨n, 0, m, s'⟩ := (Call.run_sent sends).trans (reply ▸ rfl)
  have decoded := fun m' => c.finish_decode dc m' s' positive small fun wants =>
    absurd wants (by rw [(Call.reads_of_copies copies).2]; exact Bool.false_ne_true)
  constructor
  · intro reads m' agree
    have same := reads s₁ sends m' (reply ▸ agree)
    rw [reply, run, (decoded m').1, (decoded m').2, (decoded m).1, (decoded m).2] at same
    exact Prod.ext same.1 same.2
  · intro same s₂ sends' m' agree
    cases sends.unique sends'
    rw [reply] at agree ⊢
    rw [run, (decoded m').1, (decoded m').2, (decoded m).1, (decoded m).2, same m' agree]
    exact ⟨rfl, rfl⟩

/-- Both halves together: data that are copied, or shown with a return value of
0, are inside. -/
theorem inside_or_harmless {buffer : Bool} {long error inside : Prop} :
    ((buffer = false ∨ long ∨ inside) ∧ (¬ (buffer ∧ long) ∧ error → inside)) ↔
      (buffer ∧ long) ∨ (buffer = false ∧ ¬ error) ∨ inside := by
  cases buffer
  · simp only [true_or, true_and, Bool.false_eq_true, false_and, not_false_eq_true, false_or]
    exact imp_iff_not_or
  · simp only [Bool.true_eq_false, false_or, true_and, false_and]
    exact ⟨And.left, fun either => ⟨either, fun taken => either.resolve_left taken.1⟩⟩

/-- A packet that was taken in without an error. -/
theorem Call.bounded_taken (copies : c.copiesReply) (sends : c.Sends dc s s₁)
    (positive : 0 < n) (small : n < 2 ^ 64) (reply : c.reply dc s₁ = ⟨n, 0, m, s'⟩) :
    c.ReplyBounded dc s ↔ c.boundedBy m := by
  have run : c.run dc s = c.finish dc ⟨n, 0, m, s'⟩ := (Call.run_sent sends).trans (reply ▸ rfl)
  have reads := Call.reads_iff copies sends positive small reply
  have halves : c.ReplyBounded dc s ↔ (∀ m', AgreeOn InMsgIn m m' → c.decode m' = c.decode m) ∧
      (c.command = cmdADSread → commandId m msgIn = cmdADSread →
        (c.run dc s).ret = 0 → (c.run dc s).dc.ShowsMsgIn) := by
    constructor
    · intro bounded
      refine ⟨reads.mp bounded.reads, fun command own => ?_⟩
      have shows := bounded.shows s₁ sends command
      rw [reply] at shows
      exact shows (Int.natCast_pos.mpr positive) rfl own
    · rintro ⟨same, shows⟩
      refine ⟨reads.mpr same, fun s₂ sends' command _ _ own => ?_⟩
      cases sends.unique sends'
      rw [reply] at own
      exact shows command own
  rw [halves]
  cases c with
  | readBytes indexGroup offset length buffer pnRead =>
      have ret := (Call.finish_decode (.readBytes indexGroup offset length buffer pnRead) dc m s'
        positive small fun wants => nomatch wants).1
      rw [Call.decode_inside_iff rfl fun _ => rfl, run, ret]
      by_cases own : commandId m msgIn = cmdADSread
      · have shows := @readAnswer_shows (((Call.readBytes indexGroup offset length buffer
          pnRead).request dc).received n m) length buffer pnRead (by
            rw [ADSConnection.received_AnswLen]; omega) own
        have zero : (Call.accept (.readBytes indexGroup offset length buffer pnRead) m).1 = 0 ↔
            ¬ (buffer ∧ length < lengthOf m) ∧ resultOf m = 0 := readOutcome_eq_zero_iff
        rw [Call.decode_of_command own, Call.finish, zero]
        simp only [Call.answer, shows, Call.boundedBy, Call.command, own, forall_const]
        exact inside_or_harmless
      · exact iff_of_true ⟨fun taken => absurd taken own, fun _ taken => absurd taken own⟩
          fun taken => absurd taken own
  | readWriteBytes indexGroup offset readLength writeLength writeBuffer pnRead =>
      have other : cmdADSreadWrite ≠ cmdADSread := by decide
      rw [Call.decode_inside_iff rfl fun _ => rfl]
      simp only [Call.boundedBy, Call.command, Bool.true_eq_false, false_or]
      exact and_iff_left fun same => absurd same other
  | writeBytes => cases copies
  | readDeviceInfo => cases copies
  | readState => cases copies
  | writeControl => cases copies

/-- What a call finds in `msgIn` is what it would have found before building its
request. -/
theorem Call.boundedBy_request (c : Call) {bs : List UInt8} :
    c.boundedBy (store (c.request dc).mem msgIn bs) ↔ c.boundedBy (store dc.mem msgIn bs) := by
  have agree : AgreeOn InMsgIn (store (c.request dc).mem msgIn bs) (store dc.mem msgIn bs) :=
    fun i inside => Call.store_request_mem inside.2
  have command := commandId_agree agree
  have length := lengthOf_agree agree
  have result := resultOf_agree agree
  cases c <;> simp only [Call.boundedBy, announcedInside, command, length, result]

/-- **Which replies keep a call inside `msgIn`.** Every failed or overlong one,
and of the whole ones that fit those that are another command's, too long for
the caller, or announce data that lie in `msgIn`; a call without a buffer is
also safe from a response that carries an error. -/
theorem reply_bounded_iff (c : Call) (copies : c.copiesReply) (dc : ADSConnection) (s : σ) :
    c.ReplyBounded dc s ↔
      ∀ s₁ bs pt' s', c.Sends dc s s₁ → Delivers (readTimeout dc.iface.timeout) s₁ bs pt' s' →
        Complete bs → bs.length ≤ MAXDATALEN → c.boundedBy (store dc.mem msgIn bs) := by
  have read := (Call.reads_of_copies copies).1
  have sizes := packetSizes
  constructor
  · intro bounded s₁ bs pt' s' sends delivery complete fits
    have reply : c.reply dc s₁ = ⟨bs.length, 0, store (c.request dc).mem msgIn bs, s'⟩ := by
      rw [Call.reply, adsReadPacket_complete sends.clear delivery complete, if_neg (by omega)]
    have positive : 0 < bs.length := by
      have size := complete.2
      omega
    exact c.boundedBy_request.mp
      ((Call.bounded_taken copies sends positive (by omega) reply).mp bounded)
  · intro packets
    by_cases taken : ∃ s₁, c.Sends dc s s₁ ∧ (c.reply dc s₁).rc > 0 ∧ (c.reply dc s₁).error = 0
    · obtain ⟨s₁, sends, taken⟩ := taken
      obtain ⟨bs, pt', s', delivery, complete, fits, reply⟩ :=
        adsReadPacket_taken sends.clear taken
      have positive : 0 < bs.length := by
        have size := complete.2
        omega
      exact (Call.bounded_taken copies sends positive (by omega) reply).mpr
        (c.boundedBy_request.mpr (packets s₁ bs pt' s' sends delivery complete fits))
    · -- A failed read is translated without a look at `msgIn`.
      refine ⟨fun s₁ sends m' agree => ?_, fun s₁ sends _ positive zero => ?_⟩
      · have failed : ¬ ((c.reply dc s₁).rc > 0 ∧ (c.reply dc s₁).error = 0) :=
          fun good => taken ⟨s₁, sends, good⟩
        rw [Call.run_sent sends, Call.finish, Call.finish, Call.answer_failed read failed,
          Call.answer_failed read failed]
        exact ⟨rfl, rfl⟩
      · exact absurd ⟨s₁, sends, positive, zero⟩ taken

/-- A read response of 46 bytes that announces 8147 bytes of data. -/
def longAnnouncement : List UInt8 :=
  adsPacket (firstReply cmdADSread 5 8 0) (toLE 4 0 ++ toLE 4 8147)

/-- Eight bytes are read without a buffer. -/
def readInPlace : Call := .readBytes 0xf005 0 8 false true

theorem readInPlace_bounded_iff :
    readInPlace.ReplyBounded freshConnection (⟨[], arrive longAnnouncement, []⟩ : Script) ↔
      ∀ s₁ bs pt' s',
        readInPlace.Sends freshConnection (⟨[], arrive longAnnouncement, []⟩ : Script) s₁ →
        Delivers (readTimeout freshConnection.iface.timeout) s₁ bs pt' s' → Complete bs →
        bs.length ≤ MAXDATALEN → readInPlace.boundedBy (store freshConnection.mem msgIn bs) :=
  reply_bounded_iff readInPlace rfl freshConnection
    (⟨[], arrive longAnnouncement, []⟩ : Script)

/-- The range shown ends one byte behind `msgIn`. -/
theorem replies_not_always_bounded :
    ¬ ∀ (c : Call), c.copiesReply → ∀ (dc : ADSConnection) (s : Script), c.ReplyBounded dc s := by
  intro bounded
  let s : Script := ⟨[], arrive longAnnouncement, []⟩
  have sends : readInPlace.Sends freshConnection s _ :=
    Call.sends_script (arrive longAnnouncement) [] rfl (by decide +kernel)
  have shows := (bounded readInPlace rfl freshConnection s).shows _ sends rfl (by decide +kernel)
    (by decide +kernel) (by decide +kernel) (by decide +kernel)
  have long : ¬ (readInPlace.run freshConnection s).dc.dataPointer +
      (readInPlace.run freshConnection s).dc.AnswLen ≤ (msgIn + MAXDATALEN : Nat) := by
    decide +kernel
  exact long shows.2.2

end Calls

end LibAds
