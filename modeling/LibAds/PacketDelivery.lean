import LibAds.PacketFraming

/-!
# Every delivery

Whatever a socket does, `_ADSReadPacket()` meets one of three deliveries: a
whole packet, one that breaks off, or one of `2 ^ 31` bytes and more, after
which its `int` counter is negative and ends the loop as if it were done.
-/

namespace LibAds

open ByteMemory LabelledRuns SocketModel

variable {σ : Type} [Socket σ]

/-! ## The next byte, the next bytes -/

section Failures

variable {pt pt' : Option Timeval} {s s₁ s' : σ} {errno : Int}

theorem Breaks.of_selectFailed (selected : Socket.select s pt = (.failed errno, pt', s')) :
    Breaks pt s 0 errno s' :=
  ⟨by omega, fun m b => ⟨pt', by simp only [adsReadByte, selected]⟩⟩

theorem Breaks.of_timedOut (selected : Socket.select s pt = (.timedOut, pt', s')) :
    Breaks pt s (-1) 0 s' :=
  ⟨by omega, fun m b => ⟨pt', by simp only [adsReadByte, selected]⟩⟩

theorem Breaks.of_recvFailed (selected : Socket.select s pt = (.ready, pt', s₁))
    (received : Socket.recv s₁ = (.failed errno, s')) : Breaks pt s 0 errno s' :=
  ⟨by omega, fun m b => ⟨pt', by simp only [adsReadByte, selected, received]⟩⟩

theorem Breaks.of_shutDown (selected : Socket.select s pt = (.ready, pt', s₁))
    (received : Socket.recv s₁ = (.shutDown, s')) : Breaks pt s (-2) 0 s' :=
  ⟨by omega, fun m b => ⟨pt', by simp only [adsReadByte, selected, received]⟩⟩

end Failures

/-- `_ADSReadByte()` fails in three ways. -/
theorem Breaks.rc_cases {pt : Option Timeval} {s s' : σ} {rc error : Int}
    (breaks : Breaks pt s rc error s') :
    rc = 0 ∨ (rc = -1 ∧ error = 0) ∨ (rc = -2 ∧ error = 0) := by
  obtain ⟨failed, step⟩ := breaks
  obtain ⟨pt', step⟩ := step (fun _ => 0) 0
  unfold adsReadByte at step
  split at step
  · exact Or.inl (congrArg ByteRead.rc step).symm
  · exact Or.inr (Or.inl ⟨(congrArg ByteRead.rc step).symm, (congrArg ByteRead.error step).symm⟩)
  · split at step
    · exact Or.inr (Or.inr ⟨(congrArg ByteRead.rc step).symm, (congrArg ByteRead.error step).symm⟩)
    · exact Or.inl (congrArg ByteRead.rc step).symm
    · exact absurd (congrArg ByteRead.rc step).symm failed

/-- The next byte comes or the read fails. -/
theorem next_or_breaks (pt : Option Timeval) (s : σ) :
    (∃ pt₁ s₁ v s₂, Socket.select s pt = (.ready, pt₁, s₁) ∧ Socket.recv s₁ = (.byte v, s₂)) ∨
      ∃ rc error s', Breaks pt s rc error s' := by
  rcases selected : Socket.select s pt with ⟨errno | _ | _, pt₁, s₁⟩
  · exact Or.inr ⟨0, errno, s₁, .of_selectFailed selected⟩
  · exact Or.inr ⟨-1, 0, s₁, .of_timedOut selected⟩
  · rcases received : Socket.recv s₁ with ⟨errno | _ | v, s₂⟩
    · exact Or.inr ⟨0, errno, s₂, .of_recvFailed selected received⟩
    · exact Or.inr ⟨-2, 0, s₂, .of_shutDown selected received⟩
    · exact Or.inl ⟨pt₁, s₁, v, s₂, rfl, received⟩

/-- The next `n` bytes come or the read fails before. -/
theorem delivers_or_breaks (n : Nat) (pt : Option Timeval) (s : σ) :
    (∃ bs pt' s', bs.length = n ∧ Delivers pt s bs pt' s') ∨
      ∃ bs pt₁ s₁ rc error s', bs.length < n ∧ Delivers pt s bs pt₁ s₁ ∧
        Breaks pt₁ s₁ rc error s' := by
  induction n generalizing pt s with
  | zero => exact Or.inl ⟨[], pt, s, rfl, .nil pt s⟩
  | succ n ih =>
      rcases next_or_breaks pt s with ⟨pt₁, s₁, v, s₂, selected, received⟩ | ⟨rc, error, s', breaks⟩
      · rcases ih pt₁ s₂ with ⟨bs, pt', s', size, rest⟩ |
          ⟨bs, pt', s₃, rc, error, s', short, rest, breaks⟩
        · exact Or.inl ⟨v :: bs, pt', s', by rw [List.length_cons, size],
            .cons selected received rest⟩
        · exact Or.inr ⟨v :: bs, pt', s₃, rc, error, s', by rw [List.length_cons]; omega,
            .cons selected received rest, breaks⟩
      · exact Or.inr ⟨[], pt, s, rc, error, s', Nat.succ_pos n, .nil pt s, breaks⟩

/-! ## A counter that overflows -/

/-- The turn of the second loop that stores byte `2 ^ 31`. -/
theorem overflowTurn_of_delivers {b : Nat} {m : Mem} {pt pt' : Option Timeval} {s s' : σ}
    {bs : List UInt8} (delivery : Delivers pt s bs pt' s') (size : bs.length = 2 ^ 31)
    (long : 2 ^ 31 ≤ sizeofTCPheader + (adsLength (ofList bs) 0).toNat) :
    ∃ hs xs v st₁ st st', hs.length + xs.length = 2 ^ 31 - 1 ∧
      Run (headerTurn b) ⟨0, m, pt, s⟩ hs st₁ ∧ sizeofTCPheader ≤ sizeT st₁.res ∧
      Run (bodyTurn b) st₁ xs st ∧ st.res = (2 ^ 31 - 1 : Nat) ∧ bodyTurn b st v st' ∧
      adsLength st'.mem b = adsLength (ofList bs) 0 ∧ st'.sock = s' := by
  have sizes := packetSizes
  obtain ⟨xs, v, rfl⟩ : ∃ xs v, bs = xs ++ [v] := by
    rcases bs.eq_nil_or_concat with rfl | ⟨xs, v, rfl⟩
    · cases size
    · exact ⟨xs, v, List.concat_eq_append⟩
  rw [List.length_append, List.length_singleton] at size
  rw [adsLength_append (by omega)] at long
  obtain ⟨pt₁, s₁, front, last⟩ := Delivers.split delivery
  obtain ⟨st₁, first, done, second⟩ :=
    @packetRun_of_delivers σ _ b m _ _ _ _ _ (by omega) (by omega) (by omega) front
  have announced : adsLength (fill (bufferAt b) 0 m xs) b = adsLength (ofList xs) 0 :=
    adsLength_fill (by omega)
  have goesOn : sizeT (xs.length : Nat) <
      sizeofTCPheader + (adsLength (fill (bufferAt b) 0 m xs) b).toNat := by
    rw [sizeT_natCast (by omega), announced]
    omega
  have place : b + 6 ≤ bufferAt b (xs.length : Nat) := by
    rw [bufferAt_natCast]
    omega
  have turn := @loopTurn_of_delivers σ _ (fun m => sizeofTCPheader + (adsLength m b).toNat)
    (bufferAt b) v _ _ _ _ _ _ goesOn last
  refine ⟨_, _, v, st₁, _, _, ?_, first, done, second, ?_, turn, ?_, rfl⟩
  · rw [List.length_take, List.length_drop]
    omega
  · exact congrArg Nat.cast (by omega : xs.length = 2 ^ 31 - 1)
  · rw [adsLength_update place, announced, adsLength_append (by omega)]

/-- A packet of `2 ^ 31` bytes or more is never read to its end: with its byte
`2 ^ 31` the counter turns negative. -/
theorem adsReadPacket_overflow {di : ADSInterface} {m : Mem} {b : Nat} {s s' : σ}
    {bs : List UInt8} {pt' : Option Timeval} (clear : di.error = 0)
    (delivery : Delivers (readTimeout di.timeout) s bs pt' s') (size : bs.length = 2 ^ 31)
    (long : 2 ^ 31 ≤ sizeofTCPheader + (adsLength (ofList bs) 0).toNat) :
    ∃ m', adsReadPacket (some di) m b s = ⟨-2 ^ 31, 0xe, m', s'⟩ := by
  have sizes := packetSizes
  obtain ⟨hs, xs, v, st₁, st, st', counted, first, done, second, last, turn, announced, sock⟩ :=
    @overflowTurn_of_delivers σ _ b m _ _ _ _ _ delivery size long
  have wrapped : st'.res = -2 ^ 31 := by
    rw [turn.res, last]
    rfl
  have negative : sizeT (-2 ^ 31) = 2 ^ 64 - 2 ^ 31 := by decide
  have small := (adsLength (ofList bs) 0).toNat_lt
  have read := adsReadPacket_run clear first done (second.snoc turn)
    (by rw [announced, wrapped, negative]; omega)
    (by rw [List.length_append, List.length_singleton]; omega)
  rw [announced, if_pos (by omega), wrapped, sock] at read
  exact ⟨_, read⟩

/-! ## The three deliveries -/

/-- **What `_ADSReadPacket()` meets.** A whole packet, a delivery that breaks
off, or more bytes than an `int` counts. -/
theorem adsReadPacket_cases (di : ADSInterface) (clear : di.error = 0) (m : Mem) (b : Nat)
    (s : σ) :
    (∃ bs pt' s', Delivers (readTimeout di.timeout) s bs pt' s' ∧ Complete bs) ∨
      (∃ bs pt₁ s₁ rc error s', Delivers (readTimeout di.timeout) s bs pt₁ s₁ ∧ Incomplete bs ∧
        Breaks pt₁ s₁ rc error s') ∨
      ∃ bs pt' s', Delivers (readTimeout di.timeout) s bs pt' s' ∧ bs.length = 2 ^ 31 ∧
        2 ^ 31 ≤ sizeofTCPheader + (adsLength (ofList bs) 0).toNat ∧
        ∃ m', adsReadPacket (some di) m b s = ⟨-2 ^ 31, 0xe, m', s'⟩ := by
  have sizes := packetSizes
  rcases delivers_or_breaks sizeofTCPheader (readTimeout di.timeout) s with
    ⟨hs, pt₁, s₁, header, front⟩ | ⟨bs, pt₁, s₁, rc, error, s', short, front, breaks⟩
  · generalize announced : (adsLength (ofList hs) 0).toNat = n
    have limit := (adsLength (ofList hs) 0).toNat_lt
    -- What the counter can hold of the body.
    rcases delivers_or_breaks (min n (2 ^ 31 - sizeofTCPheader)) pt₁ s₁ with
      ⟨bs, pt', s', size, rest⟩ | ⟨bs, pt', s₂, rc, error, s', short, rest, breaks⟩
    · have whole := Delivers.append front rest
      have field : (adsLength (ofList (hs ++ bs)) 0).toNat = n := by
        rw [adsLength_append (by omega), announced]
      by_cases counted : sizeofTCPheader + n < 2 ^ 31
      · refine Or.inl ⟨hs ++ bs, pt', s', whole, ?_, ?_⟩ <;>
          rw [List.length_append] <;> omega
      · have length : (hs ++ bs).length = 2 ^ 31 := by
          rw [List.length_append]
          omega
        have long : 2 ^ 31 ≤ sizeofTCPheader + (adsLength (ofList (hs ++ bs)) 0).toNat := by omega
        exact Or.inr (Or.inr ⟨hs ++ bs, pt', s', whole, length, long,
          adsReadPacket_overflow clear whole length long⟩)
    · refine Or.inr (Or.inl ⟨hs ++ bs, pt', s₂, rc, error, s', Delivers.append front rest,
        ⟨?_, Or.inr ?_⟩, breaks⟩)
      · rw [List.length_append]
        omega
      · rw [List.length_append, adsLength_append (by omega), announced]
        omega
  · exact Or.inr (Or.inl ⟨bs, pt₁, s₁, rc, error, s', front, ⟨by omega, Or.inl short⟩, breaks⟩)

/-- What is read without an error is a whole packet that fits. -/
theorem adsReadPacket_taken {di : ADSInterface} {m : Mem} {b : Nat} {s : σ}
    (clear : di.error = 0)
    (taken : (adsReadPacket (some di) m b s).rc > 0 ∧ (adsReadPacket (some di) m b s).error = 0) :
    ∃ bs pt' s', Delivers (readTimeout di.timeout) s bs pt' s' ∧ Complete bs ∧
      bs.length ≤ MAXDATALEN ∧
      adsReadPacket (some di) m b s = ⟨bs.length, 0, store m b bs, s'⟩ := by
  rcases adsReadPacket_cases di clear m b s with ⟨bs, pt', s', delivery, complete⟩ |
    ⟨bs, pt₁, s₁, rc, error, s', delivery, incomplete, breaks⟩ |
    ⟨bs, pt', s', delivery, size, long, m', overflow⟩
  · have read := @adsReadPacket_complete σ _ di m b s s' bs pt' clear delivery complete
    by_cases overlong : bs.length > MAXDATALEN
    · rw [read, if_pos overlong] at taken
      exact absurd taken.2 (by omega : (0xe : Int) ≠ 0)
    · rw [if_neg overlong] at read
      exact ⟨bs, pt', s', delivery, complete, Nat.le_of_not_lt overlong, read⟩
  · have failed := breaks.rc_cases
    rw [adsReadPacket_broken clear delivery incomplete breaks] at taken
    have positive : rc > 0 := taken.1
    omega
  · rw [overflow] at taken
    exact absurd taken.1 (by omega : ¬ (-2 ^ 31 : Int) > 0)

end LibAds
