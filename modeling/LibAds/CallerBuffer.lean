import LibAds.ReplyBounds

/-!
# The caller's buffer

`ADSreadBytes()` and `ADSreadWriteBytes()` store through the pointers of their
caller what a peer has sent. Whatever it sends, the stores are decided by three
values in `msgIn` and the result of `_ADSReadPacket()`, and never reach past the
length that the caller has passed.
-/

namespace LibAds

open ByteMemory SocketModel

/-! ## Stores of a call -/

/-- The caller's memory after a call, with its buffer at `a`. -/
def Outputs.storeBuffer (outs : Outputs) (m : Mem) (a : Nat) : Mem := store m a outs.buffer

/-- The calls that read into a buffer of `n` bytes, with a `pnRead` that is NULL
or not. -/
inductive Call.ReadsInto (n : UInt32) (pnRead : Bool) : Call → Prop
  | readBytes (indexGroup offset : UInt32) :
    ReadsInto n pnRead (.readBytes indexGroup offset n true pnRead)
  | readWriteBytes (indexGroup offset writeLength : UInt32) (writeBuffer : Option Mem) :
    ReadsInto n pnRead (.readWriteBytes indexGroup offset n writeLength writeBuffer pnRead)

section Calls

variable {σ : Type} [Socket σ]

/-- `_ADSReadPacket()` has returned a positive count with error 0 and left the
memory `m`, where the command is that of the request. -/
def Call.Responded (c : Call) (dc : ADSConnection) (s : σ) (m : Mem) : Prop :=
  ∃ s₁, c.Sends dc s s₁ ∧ (c.reply dc s₁).rc > 0 ∧ (c.reply dc s₁).error = 0 ∧
    (c.reply dc s₁).mem = m ∧ commandId m msgIn = c.command

/-- What a call stores in a buffer of `n` bytes and through `pnRead`. -/
structure Call.StoresWithin (c : Call) (n : UInt32) (pnRead : Bool) (dc : ADSConnection) (s : σ) :
    Prop where
  bounded : (c.run dc s).outs.buffer.length ≤ n.toNat
  outside : ∀ m a i, i < a ∨ a + n.toNat ≤ i → (c.run dc s).outs.storeBuffer m a i = m i
  stored : ∀ m, c.Responded dc s m → lengthOf m ≤ n →
    (c.run dc s).outs.buffer = load m (msgIn + dataOffset + 8) (lengthOf m).toNat ∧
      (c.run dc s).outs.buffer.length = (lengthOf m).toNat ∧
      (c.run dc s).outs.pnRead = if pnRead then some (lengthOf m) else none
  refused : ∀ m, c.Responded dc s m → n < lengthOf m →
    (c.run dc s).ret = 0x705 ∧ (c.run dc s).outs = {}
  untouched : (∀ m, c.Responded dc s m → n < lengthOf m) → (c.run dc s).outs = {}

variable {c : Call} {dc : ADSConnection} {n : UInt32} {pnRead : Bool} {s s₁ : σ}

omit [Socket σ] in
theorem Call.ReadsInto.copies (reads : c.ReadsInto n pnRead) : c.copiesReply := by
  cases reads <;> rfl

omit [Socket σ] in
theorem Call.ReadsInto.accept (reads : c.ReadsInto n pnRead) (m : Mem) :
    c.accept m = readOutcome n true pnRead m := by
  cases reads <;> rfl

theorem Call.Responded.unique {m m' : Mem} (responded : c.Responded dc s m)
    (responded' : c.Responded dc s m') : m = m' := by
  obtain ⟨s₁, sends, -, -, rfl, -⟩ := responded
  obtain ⟨s₂, sends', -, -, rfl, -⟩ := responded'
  rw [sends.unique sends']

/-- A packet that was read without an error is decoded. -/
theorem Call.run_taken (copies : c.copiesReply) (sends : c.Sends dc s s₁)
    (taken : (c.reply dc s₁).rc > 0 ∧ (c.reply dc s₁).error = 0) :
    (c.run dc s).ret = (c.decode (c.reply dc s₁).mem).1 ∧
      (c.run dc s).outs = (c.decode (c.reply dc s₁).mem).2 := by
  obtain ⟨bs, pt', s', -, complete, fits, read⟩ := adsReadPacket_taken sends.clear taken
  have reply : c.reply dc s₁ = ⟨bs.length, 0, store (c.request dc).mem msgIn bs, s'⟩ := read
  have sizes := packetSizes
  have size := complete.2
  rw [Call.run_sent sends, ← Call.reply, reply]
  refine c.finish_decode dc _ s' (by omega) (by omega) fun wants => ?_
  rw [(Call.reads_of_copies copies).2] at wants
  cases wants

/-- A failed read stores nothing. -/
theorem Call.run_untaken (copies : c.copiesReply) (sends : c.Sends dc s s₁)
    (failed : ¬ ((c.reply dc s₁).rc > 0 ∧ (c.reply dc s₁).error = 0)) :
    (c.run dc s).outs = {} := by
  have answer := @Call.answer_failed c ((c.request dc).received (c.reply dc s₁).rc
    (c.reply dc s₁).mem) (c.reply dc s₁).error (Call.reads_of_copies copies).1 failed
  rw [Call.run_sent sends]
  exact congrArg (fun answer => answer.2.1) answer

/-- A call stores nothing, or what the response of its own command says. -/
theorem Call.ReadsInto.outcome (reads : c.ReadsInto n pnRead) (dc : ADSConnection) (s : σ) :
    ((∀ m, ¬ c.Responded dc s m) ∧ (c.run dc s).outs = {}) ∨
      ∃ m, c.Responded dc s m ∧ (c.run dc s).ret = (readOutcome n true pnRead m).1 ∧
        (c.run dc s).outs = (readOutcome n true pnRead m).2 := by
  rcases c.unsent_or_sends dc s with unsent | ⟨s₁, sends⟩
  · refine Or.inl ⟨?_, by rw [Call.run_unsent unsent]⟩
    intro m responded
    obtain ⟨s₁, sends, -⟩ := responded
    rw [sends] at unsent
    exact absurd unsent (by omega : ¬ (1 : Int) ≤ 0)
  · by_cases taken : (c.reply dc s₁).rc > 0 ∧ (c.reply dc s₁).error = 0
    · have decoded := Call.run_taken reads.copies sends taken
      by_cases own : commandId (c.reply dc s₁).mem msgIn = c.command
      · rw [Call.decode_of_command own, reads.accept] at decoded
        exact Or.inr ⟨_, ⟨s₁, sends, taken.1, taken.2, rfl, own⟩, decoded⟩
      · rw [Call.decode_of_ne (Call.reads_of_copies reads.copies).1 own] at decoded
        refine Or.inl ⟨?_, decoded.2⟩
        intro m responded
        obtain ⟨s₂, sends', -, -, rfl, own'⟩ := responded
        cases sends.unique sends'
        exact own own'
    · refine Or.inl ⟨?_, Call.run_untaken reads.copies sends taken⟩
      intro m responded
      obtain ⟨s₂, sends', positive, zero, -⟩ := responded
      cases sends.unique sends'
      exact taken ⟨positive, zero⟩

omit [Socket σ] in
theorem Outputs.storeBuffer_outside {outs : Outputs} {k i a : Nat} {m : Mem}
    (bounded : outs.buffer.length ≤ k) (outside : i < a ∨ a + k ≤ i) :
    outs.storeBuffer m a i = m i :=
  store_apply_outside (by omega)

/-- **The caller's buffer.** Whatever a peer sends, a call stores nothing or the
data that a response of its own command announces, and of these at most as many
bytes as the caller has asked for. -/
theorem stores_within (c : Call) (n : UInt32) (pnRead : Bool) (reads : c.ReadsInto n pnRead)
    (dc : ADSConnection) (s : σ) : c.StoresWithin n pnRead dc s := by
  rcases reads.outcome dc s with ⟨unanswered, outs⟩ | ⟨m, responded, ret, outs⟩
  · have bounded : (c.run dc s).outs.buffer.length ≤ n.toNat := outs ▸ Nat.zero_le _
    exact ⟨bounded, fun m a i => Outputs.storeBuffer_outside bounded,
      fun m responded => absurd responded (unanswered m),
      fun m responded => absurd responded (unanswered m), fun _ => outs⟩
  · by_cases long : n < lengthOf m
    · rw [readOutcome_refused long] at ret outs
      have bounded : (c.run dc s).outs.buffer.length ≤ n.toNat := outs ▸ Nat.zero_le _
      refine ⟨bounded, fun m a i => Outputs.storeBuffer_outside bounded,
        fun m' responded' short => ?_, fun _ _ _ => ⟨ret, outs⟩, fun _ => outs⟩
      cases responded'.unique responded
      exact absurd long (UInt32.not_lt.mpr short)
    · rw [readOutcome_taken long] at ret outs
      have copied : (c.run dc s).outs.buffer.length = (lengthOf m).toNat := by
        rw [outs, length_load]
      have bounded : (c.run dc s).outs.buffer.length ≤ n.toNat := by
        rw [copied]
        exact UInt32.le_iff_toNat_le.mp (UInt32.not_lt.mp long)
      refine ⟨bounded, fun m a i => Outputs.storeBuffer_outside bounded,
        fun m' responded' _ => ?_, fun m' responded' long' => ?_,
        fun refused => absurd (refused m responded) long⟩
      · cases responded'.unique responded
        exact ⟨by rw [outs], copied, by rw [outs]⟩
      · cases responded'.unique responded
        exact absurd long' long

/-- Four bytes are asked for, the response announces 8147. -/
theorem stores_within_long :
    (Call.readBytes 0xf005 0 4 true true).StoresWithin 4 true freshConnection
      (⟨[], arrive longAnnouncement, []⟩ : Script) :=
  stores_within (.readBytes 0xf005 0 4 true true) 4 true (.readBytes 0xf005 0) freshConnection
    (⟨[], arrive longAnnouncement, []⟩ : Script)

end Calls

end LibAds
