import LibAds.ForeignReply

/-!
# What a reply leaves undecided

`msgIn` is never cleared, and a packet is looked at through structs of fixed
size however short it is. Two connections that differ in the bytes left in
`msgIn` therefore make the same of one packet only if every field that is
looked at lies inside it. `Call.settled` says for which packets that is so.
-/

namespace LibAds

open ByteMemory SocketModel

/-! ## Two contents of `msgIn` -/

/-- The connection with other bytes left in `msgIn`. -/
def ADSConnection.withMsgIn (dc : ADSConnection) (old : Mem) : ADSConnection :=
  { dc with mem := copy dc.mem msgIn old MAXDATALEN }

/-- The memory in which `p` was received over the bytes `old`. -/
def overlay (m old : Mem) (p : List UInt8) : Mem := store (copy m msgIn old MAXDATALEN) msgIn p

/-- The request over other bytes in `msgIn` is the same request. -/
theorem Call.request_withMsgIn (c : Call) (dc : ADSConnection) (old : Mem) :
    (c.request (dc.withMsgIn old)).mem = copy (c.request dc).mem msgIn old MAXDATALEN := by
  have outside : AgreeOn (fun i => i < msgIn ∨ msgOut ≤ i) (dc.withMsgIn old).mem dc.mem :=
    fun i far => copy_apply_outside far
  have own : ∀ i, msgOut ≤ i → i < sizeofConnection → i < msgIn ∨ msgOut ≤ i :=
    fun i behind _ => Or.inr behind
  have agree := @Call.request_agree _ (dc.withMsgIn old) dc own ⟨rfl, rfl⟩ rfl outside c
  funext i
  by_cases inside : msgIn ≤ i ∧ i < msgOut
  · rw [Call.request_mem inside.2]
    obtain ⟨j, rfl⟩ := Nat.exists_eq_add_of_le inside.1
    have within : j < MAXDATALEN := Nat.lt_of_add_lt_add_left inside.2
    exact (copy_apply_within _ _ _ _ _ within).trans (copy_apply_within _ _ _ _ _ within).symm
  · have far : i < msgIn ∨ msgOut ≤ i := by omega
    rw [copy_apply_outside far]
    exact agree i far

theorem Call.sends_withMsgIn {σ : Type} [Socket σ] {c : Call} {dc : ADSConnection} {s s₁ : σ}
    (sends : c.Sends dc s s₁) (old : Mem) : c.Sends (dc.withMsgIn old) s s₁ := by
  have announced : adsLength (copy (c.request dc).mem msgIn old MAXDATALEN) msgOut =
      adsLength (c.request dc).mem msgOut :=
    get32_congr (load_copy_disjoint (Or.inr (by unfold msgOut; omega)))
  have bytes : ∀ n, load (copy (c.request dc).mem msgIn old MAXDATALEN) msgOut n =
      load (c.request dc).mem msgOut n :=
    fun n => load_copy_disjoint (Or.inr (by unfold msgOut; omega))
  unfold Call.Sends adsWritePacket at sends ⊢
  rw [c.request_withMsgIn]
  simp only [announced, bytes]
  exact sends

section Overlay

variable {m old old' : Mem} {p : List UInt8} {k n i : Nat}

theorem overlay_packet (inside : i < p.length) : overlay m old p (msgIn + i) = ofList p i :=
  copy_apply_within _ _ _ _ _ inside

theorem overlay_stale (past : p.length ≤ i) (inside : i < MAXDATALEN) :
    overlay m old p (msgIn + i) = old i := by
  unfold overlay
  rw [store_apply_outside (by omega), copy_apply_within _ _ _ _ _ inside]

/-- Bytes of the packet do not depend on what was there before. -/
theorem load_overlay_congr (inside : k + n ≤ p.length) :
    load (overlay m old p) (msgIn + k) n = load (overlay m old' p) (msgIn + k) n :=
  (load_store_within inside).trans (load_store_within inside).symm

/-- A byte behind the packet does. -/
theorem load_overlay_ne (covered : k ≤ i ∧ i < k + n) (past : p.length ≤ i)
    (inside : i < MAXDATALEN) (differ : old i ≠ old' i) :
    load (overlay m old p) (msgIn + k) n ≠ load (overlay m old' p) (msgIn + k) n := by
  intro equal
  obtain ⟨j, rfl⟩ := Nat.exists_eq_add_of_le covered.1
  have byte := load_eq_apply equal (by omega : j < n)
  rw [Nat.add_assoc, overlay_stale past inside, overlay_stale past inside] at byte
  exact differ byte

/-- A packet that fills the buffer leaves nothing of what was there before. -/
theorem overlay_full (full : p.length = MAXDATALEN) : overlay m old p = overlay m old' p := by
  funext i
  by_cases inside : msgIn ≤ i ∧ i < msgIn + MAXDATALEN
  · obtain ⟨j, rfl⟩ := Nat.exists_eq_add_of_le inside.1
    rw [overlay_packet (by omega), overlay_packet (by omega)]
  · unfold overlay
    rw [store_apply_outside (by omega), store_apply_outside (by omega),
      copy_apply_outside (by omega), copy_apply_outside (by omega)]

/-- A 32-bit field is settled exactly if it lies in the packet. -/
theorem get32_overlay_iff (inside : k + 4 ≤ MAXDATALEN) :
    (∀ old old' : Mem,
      get32 (overlay m old p) (msgIn + k) = get32 (overlay m old' p) (msgIn + k)) ↔
    k + 4 ≤ p.length := by
  constructor
  · intro settled
    by_contra short
    have differ : (1 : UInt8) ≠ 2 := by decide
    exact @load_overlay_ne m (fun _ => 1) (fun _ => 2) p k 4 (k + 3) (by omega) (by omega)
      (by omega) differ (load_eq_of_get32 (settled _ _))
  · intro within old old'
    exact get32_congr (load_overlay_congr within)

end Overlay

/-! ## The response struct -/

/-- The outcome of a reading operation is settled by the packet. -/
def settledRead (length : UInt32) (buffer pnRead : Bool) (p : List UInt8) : Prop :=
  if buffer then
    length < packetLength p ∨
    (dataOffset + 8 ≤ p.length ∧
      (dataOffset + 8 + (packetLength p).toNat ≤ p.length ∨ p.length = MAXDATALEN)) ∨
    (dataOffset + 4 ≤ p.length ∧ p.length < dataOffset + 8 ∧ packetLength p = 0 ∧
      length.toNat < 256 ^ (p.length - (dataOffset + 4)) ∧ packetResult p = 0x705 ∧
      pnRead = false)
  else dataOffset + 4 ≤ p.length ∧ (pnRead → dataOffset + 8 ≤ p.length)

/-- Missing bytes count as zero in the packet, and as at least that in `msgIn`. -/
theorem packetLength_le_overlay (m old : Mem) (p : List UInt8) :
    packetLength p ≤ lengthOf (overlay m old p) := by
  rw [UInt32.le_iff_toNat_le, packetLength, lengthOf, toNat_get32, toNat_get32]
  apply ofLE_load_le
  intro i within
  rw [Nat.zero_add, Nat.add_assoc, Nat.add_assoc, Nat.add_assoc]
  by_cases inside : dataOffset + (4 + i) < p.length
  · rw [overlay_packet inside]
  · rw [ofList_apply_of_le (by omega)]
    exact Nat.zero_le _

/-- The bytes of a length that is cut off count in front of the stale ones. -/
theorem lengthOf_overlay_cut {m old : Mem} {p : List UInt8} (cut : dataOffset + 4 ≤ p.length)
    (short : p.length ≤ dataOffset + 8) :
    (lengthOf (overlay m old p)).toNat = (packetLength p).toNat +
      256 ^ (p.length - (dataOffset + 4)) *
        ofLE (load old p.length (dataOffset + 8 - p.length)) := by
  obtain ⟨w, size⟩ := Nat.exists_eq_add_of_le cut
  have sizes := packetSizes
  have width : 4 = w + (dataOffset + 8 - p.length) := by omega
  have split : ∀ (m : Mem) (a : Nat),
      load m a 4 = load m a w ++ load m (a + w) (dataOffset + 8 - p.length) := by
    intro m a
    rw [← load_add, ← width]
  have zeros : ofLE (load (ofList p) (0 + (dataOffset + 4) + w) (dataOffset + 8 - p.length)) = 0 :=
    ofLE_load_zero fun i _ => ofList_apply_of_le (by omega)
  have front : load (overlay m old p) (msgIn + dataOffset + 4) w =
      load (ofList p) (0 + (dataOffset + 4)) w := by
    rw [Nat.add_assoc, Nat.zero_add]
    exact load_store_within (by omega)
  have back : load (overlay m old p) (msgIn + dataOffset + 4 + w) (dataOffset + 8 - p.length) =
      load old p.length (dataOffset + 8 - p.length) := by
    apply load_congr
    intro i within
    rw [show msgIn + dataOffset + 4 + w + i = msgIn + (p.length + i) from by omega]
    exact overlay_stale (by omega) (by unfold MAXDATALEN; omega)
  have fromPacket : (packetLength p).toNat = ofLE (load (ofList p) (0 + (dataOffset + 4)) w) := by
    rw [packetLength, toNat_get32, split, ofLE_append, zeros, Nat.mul_zero, Nat.add_zero]
  have fromMemory : (lengthOf (overlay m old p)).toNat =
      ofLE (load (ofList p) (0 + (dataOffset + 4)) w) +
        256 ^ w * ofLE (load old p.length (dataOffset + 8 - p.length)) := by
    rw [lengthOf, toNat_get32, split, front, back, ofLE_append, length_load]
  rw [fromMemory, fromPacket, size, Nat.add_sub_cancel_left]

section ReadOutcome

variable {length : UInt32} {pnRead : Bool} {m : Mem} {p : List UInt8}

theorem readOutcome_refused {m : Mem} (long : length < lengthOf m) :
    readOutcome length true pnRead m = (0x705, {}) :=
  if_pos ⟨rfl, long⟩

theorem readOutcome_taken {m : Mem} (short : ¬ length < lengthOf m) :
    readOutcome length true pnRead m =
      (intOf (resultOf m),
        { buffer := load m (msgIn + dataOffset + 8) (lengthOf m).toNat
          pnRead := if pnRead then some (lengthOf m) else none }) :=
  if_neg fun refused => short refused.2

theorem intOf_eq_refused {v : UInt32} : intOf v = 0x705 ↔ v = 0x705 := by
  have code : intOf 0x705 = 0x705 := by decide
  rw [← @intOf_inj v 0x705, code]

/-- Without a buffer only the result, and the length for `pnRead`, are used. -/
theorem readOutcome_null {m : Mem} :
    readOutcome length false pnRead m =
      (intOf (resultOf m), { pnRead := if pnRead then some (lengthOf m) else none }) :=
  if_neg fun refused => absurd refused.1 (by decide)

theorem resultOf_overlay {m old : Mem} {p : List UInt8} (inside : dataOffset + 4 ≤ p.length) :
    resultOf (overlay m old p) = packetResult p :=
  get32_received inside

theorem readOutcome_settled (buffer : Bool)
    (settled : settledRead length buffer pnRead p) (old old' : Mem) :
    readOutcome length buffer pnRead (overlay m old p) =
      readOutcome length buffer pnRead (overlay m old' p) := by
  have sizes := packetSizes
  unfold settledRead at settled
  cases buffer with
  | false =>
      obtain ⟨result, data⟩ := settled
      rw [readOutcome_null, readOutcome_null, resultOf_overlay result, resultOf_overlay result]
      cases pnRead with
      | false => rfl
      | true =>
          have size := data rfl
          rw [show lengthOf (overlay m old p) = packetLength p from lengthOf_received size,
            show lengthOf (overlay m old' p) = packetLength p from lengthOf_received size]
  | true =>
      rcases settled with long | ⟨size, data⟩ | ⟨cut, short, zero, small, result, unread⟩
      · have refused : ∀ old, length < lengthOf (overlay m old p) :=
          fun old => UInt32.lt_of_lt_of_le long (packetLength_le_overlay m old p)
        rw [readOutcome_refused (refused old), readOutcome_refused (refused old')]
      · rcases data with inside | full
        · have lengths : ∀ old, lengthOf (overlay m old p) = packetLength p :=
            fun old => lengthOf_received size
          have results : ∀ old, resultOf (overlay m old p) = packetResult p :=
            fun old => resultOf_overlay (by omega)
          have bytes : load (overlay m old p) (msgIn + dataOffset + 8) (packetLength p).toNat =
              load (overlay m old' p) (msgIn + dataOffset + 8) (packetLength p).toNat := by
            rw [Nat.add_assoc]
            exact load_overlay_congr inside
          simp only [readOutcome, lengths, results, bytes]
        · rw [overlay_full full]
      · -- Either the missing bytes are zero, and the result is the refusal's code, or they
        -- make the length exceed the buffer, and the call is refused.
        have either : ∀ old, readOutcome length true pnRead (overlay m old p) = (0x705, {}) := by
          intro old
          have value := @lengthOf_overlay_cut m old p cut (by omega)
          rw [zero] at value
          by_cases stale : ofLE (load old p.length (dataOffset + 8 - p.length)) = 0
          · have none : lengthOf (overlay m old p) = 0 := by
              rw [stale, Nat.mul_zero] at value
              exact UInt32.toNat_inj.mp value
            have taken : ¬ length < lengthOf (overlay m old p) := by
              rw [none]
              exact UInt32.not_lt_zero
            rw [readOutcome_taken taken, none, resultOf_overlay cut, result, unread]
            rfl
          · apply readOutcome_refused
            rw [UInt32.lt_iff_toNat_lt, value]
            have grows : 256 ^ (p.length - (dataOffset + 4)) * 1 ≤
                256 ^ (p.length - (dataOffset + 4)) *
                  ofLE (load old p.length (dataOffset + 8 - p.length)) :=
              Nat.mul_le_mul_left _ (Nat.pos_of_ne_zero stale)
            omega
        rw [either old, either old']

/-- The stale bytes that make a length no longer than the packet says, followed
by `v` everywhere else. -/
def zeroLength (v : UInt8) : Mem := fun i =>
  if dataOffset + 4 ≤ i ∧ i < dataOffset + 8 then 0 else v

theorem lengthOf_zeroLength (v : UInt8) :
    lengthOf (overlay m (zeroLength v) p) = packetLength p := by
  apply get32_congr
  apply load_congr
  intro i within
  have sizes := packetSizes
  rw [Nat.zero_add, Nat.add_assoc, Nat.add_assoc]
  by_cases inside : dataOffset + 4 + i < p.length
  · rw [← Nat.add_assoc dataOffset, overlay_packet inside]
  · rw [← Nat.add_assoc dataOffset, overlay_stale (by omega) (by omega),
      ofList_apply_of_le (by omega)]
    exact if_pos (by omega)

/-- Without a buffer the result is looked at, and the length where it is wanted. -/
theorem inside_of_readOutcome_null
    (equal : ∀ old old' : Mem, readOutcome length false pnRead (overlay m old p) =
      readOutcome length false pnRead (overlay m old' p)) :
    dataOffset + 4 ≤ p.length ∧ (pnRead → dataOffset + 8 ≤ p.length) := by
  have sizes := packetSizes
  constructor
  · refine (@get32_overlay_iff m p dataOffset (by omega)).mp fun old old' => ?_
    have outcome := equal old old'
    rw [readOutcome_null, readOutcome_null] at outcome
    exact intOf_inj.mp (Prod.mk.inj outcome).1
  · intro wanted
    refine (@get32_overlay_iff m p (dataOffset + 4) (by omega)).mp fun old old' => ?_
    have outcome := equal old old'
    rw [readOutcome_null, readOutcome_null, wanted] at outcome
    exact Option.some.inj (congrArg (fun o => o.2.pnRead) outcome)

section Taken

variable (long : ¬ length < packetLength p)
  (equal : ∀ old old' : Mem, readOutcome length true pnRead (overlay m old p) =
    readOutcome length true pnRead (overlay m old' p))

include long in
/-- Where the missing bytes of the length are zero the data are copied. -/
theorem readOutcome_zeroLength (v : UInt8) :
    readOutcome length true pnRead (overlay m (zeroLength v) p) =
      (intOf (resultOf (overlay m (zeroLength v) p)),
        { buffer := load (overlay m (zeroLength v) p) (msgIn + dataOffset + 8)
            (packetLength p).toNat
          pnRead := if pnRead then some (packetLength p) else none }) := by
  have taken : ¬ length < lengthOf (overlay m (zeroLength v) p) := by
    rw [lengthOf_zeroLength v]
    exact long
  rw [readOutcome_taken taken, lengthOf_zeroLength]

theorem zeroLength_ne {i : Nat} (far : i < dataOffset + 4 ∨ dataOffset + 8 ≤ i) :
    zeroLength 1 i ≠ zeroLength 2 i := by
  unfold zeroLength
  rw [if_neg (by omega), if_neg (by omega)]
  decide

include long equal in
/-- The data that are copied lie in the packet, or the packet fills the buffer. -/
theorem contained_of_readOutcome (fits : p.length ≤ MAXDATALEN) (size : dataOffset + 8 ≤ p.length) :
    dataOffset + 8 + (packetLength p).toNat ≤ p.length ∨ p.length = MAXDATALEN := by
  by_contra outside
  rw [not_or] at outside
  have outcome := equal (zeroLength 1) (zeroLength 2)
  rw [readOutcome_zeroLength long, readOutcome_zeroLength long, Nat.add_assoc] at outcome
  have bytes := congrArg (fun o => o.2.buffer) outcome
  exact @load_overlay_ne m (zeroLength 1) (zeroLength 2) p (dataOffset + 8)
    (packetLength p).toNat p.length ⟨size, by omega⟩ (Nat.le_refl _) (by omega)
    (zeroLength_ne (Or.inr size)) bytes

include long equal in
/-- The result lies in the packet. -/
theorem result_of_readOutcome : dataOffset + 4 ≤ p.length := by
  have sizes := packetSizes
  by_contra short
  have outcome := equal (zeroLength 1) (zeroLength 2)
  rw [readOutcome_zeroLength long, readOutcome_zeroLength long] at outcome
  have bytes := load_eq_of_get32 (intOf_inj.mp (Prod.mk.inj outcome).1)
  exact @load_overlay_ne m (zeroLength 1) (zeroLength 2) p dataOffset 4 (dataOffset + 3)
    (by omega) (by omega) (by omega) (zeroLength_ne (Or.inl (by omega))) bytes

include long equal in
/-- A length that is cut off is zero as far as it goes, and any byte that could
stand behind it makes the call refuse the data with the code the packet carries. -/
theorem cut_of_readOutcome (cut : dataOffset + 4 ≤ p.length) (short : p.length < dataOffset + 8) :
    packetLength p = 0 ∧ length.toNat < 256 ^ (p.length - (dataOffset + 4)) ∧
      packetResult p = 0x705 ∧ pnRead = false := by
  have grown := @lengthOf_overlay_cut m (Function.update (fun _ => 0) p.length 1) p cut (by omega)
  rw [ofLE_load_update_one (by omega), Nat.mul_one] at grown
  have power : 0 < 256 ^ (p.length - (dataOffset + 4)) := Nat.pow_pos (by decide)
  have outcome := equal (Function.update (fun _ => 0) p.length 1) (zeroLength 1)
  rw [readOutcome_zeroLength long, resultOf_overlay cut] at outcome
  by_cases refused : length < lengthOf (overlay m (Function.update (fun _ => 0) p.length 1) p)
  · rw [readOutcome_refused refused] at outcome
    have code : (0x705 : Int) = intOf (packetResult p) := (Prod.mk.inj outcome).1
    have buffer := congrArg (fun o => o.2.buffer.length) outcome
    have unread := congrArg (fun o => o.2.pnRead) outcome
    simp only [List.length_nil, length_load] at buffer unread
    have zero : packetLength p = 0 := UInt32.toNat_inj.mp buffer.symm
    rw [UInt32.lt_iff_toNat_lt, grown, ← buffer, Nat.zero_add] at refused
    refine ⟨zero, refused, intOf_eq_refused.mp code.symm, ?_⟩
    cases pnRead with
    | false => rfl
    | true => cases unread
  · -- A length that is taken would be longer by the byte behind the packet.
    rw [readOutcome_taken refused] at outcome
    have buffer := congrArg (fun o => o.2.buffer.length) outcome
    simp only [length_load, grown] at buffer
    omega

end Taken

/-- Only those packets settle what a reading operation makes of them. -/
theorem settledRead_of_readOutcome (fits : p.length ≤ MAXDATALEN) (buffer : Bool)
    (equal : ∀ old old' : Mem, readOutcome length buffer pnRead (overlay m old p) =
      readOutcome length buffer pnRead (overlay m old' p)) :
    settledRead length buffer pnRead p := by
  unfold settledRead
  cases buffer with
  | false => exact inside_of_readOutcome_null equal
  | true =>
      by_cases long : length < packetLength p
      · exact Or.inl long
      · by_cases size : dataOffset + 8 ≤ p.length
        · exact Or.inr (Or.inl ⟨size, contained_of_readOutcome long equal fits size⟩)
        · have cut := result_of_readOutcome long equal
          have short : p.length < dataOffset + 8 := by omega
          exact Or.inr (Or.inr ⟨cut, short, cut_of_readOutcome long equal cut short⟩)

end ReadOutcome

/-! ## The whole packet -/

/-- The packet holds what the operation looks at once it takes it for its answer. -/
def Call.settledResponse : Call → List UInt8 → Prop
  | .readBytes _ _ length buffer pnRead, p => settledRead length buffer pnRead p
  | .readWriteBytes _ _ readLength _ _ pnRead, p => settledRead readLength true pnRead p
  | .writeBytes .., p | .writeControl .., p => dataOffset + 4 ≤ p.length
  | .readDeviceInfo, p => dataOffset + 24 ≤ p.length
  | .readState, p => dataOffset + 8 ≤ p.length

/-- The packet settles the outcome of the call. -/
def Call.settled (c : Call) (p : List UInt8) : Prop :=
  if c.isWrite then (c.wantsHeaders ∧ p.length < dataOffset) ∨ c.settledResponse p
  else 24 ≤ p.length ∧
    if commandId (ofList p) 0 = c.command then c.settledResponse p else 34 ≤ p.length

section Settled

variable {c : Call} {m : Mem} {p : List UInt8}

theorem Call.accept_settled_iff (fits : p.length ≤ MAXDATALEN) :
    (∀ old old' : Mem, c.accept (overlay m old p) = c.accept (overlay m old' p)) ↔
      c.settledResponse p := by
  have sizes := packetSizes
  have differ : (1 : UInt8) ≠ 2 := by decide
  have result : (∀ old old' : Mem, resultOf (overlay m old p) = resultOf (overlay m old' p)) ↔
      dataOffset + 4 ≤ p.length := get32_overlay_iff (by omega)
  cases c with
  | readBytes indexGroup offset length buffer pnRead =>
      exact ⟨settledRead_of_readOutcome fits buffer, readOutcome_settled buffer⟩
  | readWriteBytes indexGroup offset readLength writeLength writeBuffer pnRead =>
      exact ⟨settledRead_of_readOutcome fits true, readOutcome_settled true⟩
  | writeBytes indexGroup offset length data =>
      simp only [Call.accept, Call.settledResponse, Prod.mk.injEq, and_true, intOf_inj]
      exact result
  | writeControl ADSstate devState data length =>
      simp only [Call.accept, Call.settledResponse, Prod.mk.injEq, and_true, intOf_inj]
      exact result
  | readDeviceInfo =>
      constructor
      · intro equal
        by_contra short
        have short : ¬ dataOffset + 24 ≤ p.length := short
        have names := Option.some.inj (congrArg (fun o => o.2.pDevName)
          (equal (fun _ => 1) (fun _ => 2)))
        rw [Nat.add_assoc] at names
        exact @load_overlay_ne m (fun _ => 1) (fun _ => 2) p (dataOffset + 8) 16 61 (by omega)
          (by omega) (by omega) differ names
      · intro size old old'
        have size : dataOffset + 24 ≤ p.length := size
        have results := result.mpr (by omega) old old'
        have versions : AdsVersion.read (overlay m old p) (msgIn + dataOffset + 4) =
            .read (overlay m old' p) (msgIn + dataOffset + 4) := by
          rw [Nat.add_assoc]
          exact AdsVersion.read_congr (load_overlay_congr (by omega))
        have names : load (overlay m old p) (msgIn + dataOffset + 8) 16 =
            load (overlay m old' p) (msgIn + dataOffset + 8) 16 := by
          rw [Nat.add_assoc]
          exact load_overlay_congr (by omega)
        simp only [Call.accept, results, versions, names]
  | readState =>
      constructor
      · intro equal
        by_contra short
        have short : ¬ dataOffset + 8 ≤ p.length := short
        have states := load_eq_of_get16 (Option.some.inj (congrArg (fun o => o.2.devState)
          (equal (fun _ => 1) (fun _ => 2))))
        rw [Nat.add_assoc] at states
        exact @load_overlay_ne m (fun _ => 1) (fun _ => 2) p (dataOffset + 6) 2 45 (by omega)
          (by omega) (by omega) differ states
      · intro size old old'
        have size : dataOffset + 8 ≤ p.length := size
        have results := result.mpr (by omega) old old'
        have first : get16 (overlay m old p) (msgIn + dataOffset + 4) =
            get16 (overlay m old' p) (msgIn + dataOffset + 4) := by
          rw [Nat.add_assoc]
          exact get16_congr (load_overlay_congr (by omega))
        have second : get16 (overlay m old p) (msgIn + dataOffset + 6) =
            get16 (overlay m old' p) (msgIn + dataOffset + 6) := by
          rw [Nat.add_assoc]
          exact get16_congr (load_overlay_congr (by omega))
        simp only [Call.accept, results, first, second]

theorem Call.command_lt (c : Call) : c.command.toNat < 256 := by
  cases c <;> simp only [Call.command] <;> decide

/-- A command whose high byte is stale is none of the six. -/
theorem commandId_overlay_ne {v : UInt8} (short : p.length < 24) (nonzero : v ≠ 0) :
    commandId (overlay m (fun _ => v) p) msgIn ≠ c.command := by
  intro command
  have small := c.command_lt
  have high : overlay m (fun _ => v) p (msgIn + 22 + 1) = v := by
    rw [Nat.add_assoc]
    exact overlay_stale (by omega) (by decide)
  have positive : v.toNat ≠ 0 := fun zero => nonzero (UInt8.toNat_inj.mp zero)
  rw [← command, commandId, toNat_get16] at small
  simp only [load, ofLE_cons, ofLE_nil, high] at small
  omega

theorem Call.decode_settled_iff (read : c.isWrite = false) (fits : p.length ≤ MAXDATALEN) :
    (∀ old old' : Mem, c.decode (overlay m old p) = c.decode (overlay m old' p)) ↔
      c.settled p := by
  have code : (∀ old old' : Mem,
      errorCode (overlay m old p) msgIn = errorCode (overlay m old' p) msgIn) ↔
        34 ≤ p.length := get32_overlay_iff (by decide)
  unfold Call.settled
  rw [read, if_neg (by decide)]
  by_cases size : 24 ≤ p.length
  · have commands : ∀ old, commandId (overlay m old p) msgIn = commandId (ofList p) 0 :=
      fun old => get16_received size
    by_cases command : commandId (ofList p) 0 = c.command
    · have taken : ∀ old, c.decode (overlay m old p) = c.accept (overlay m old p) :=
        fun old => Call.decode_of_command ((commands old).trans command)
      simp only [taken, if_pos command, size, true_and]
      exact Call.accept_settled_iff fits
    · have foreign : ∀ old, c.decode (overlay m old p) =
          (intOf (errorCode (overlay m old p) msgIn), {}) :=
        fun old => Call.decode_of_ne read (by rw [commands old]; exact command)
      simp only [foreign, if_neg command, size, true_and, Prod.mk.injEq, and_true, intOf_inj]
      exact code
  · refine iff_of_false (fun equal => ?_) (fun settled => size settled.1)
    have short : p.length < 24 := by omega
    have outcome := equal (fun _ => 1) (fun _ => 2)
    rw [Call.decode_of_ne read (commandId_overlay_ne short (by decide)),
      Call.decode_of_ne read (commandId_overlay_ne short (by decide))] at outcome
    have codes := load_eq_of_get32 (intOf_inj.mp ((Prod.mk.inj outcome).1))
    exact @load_overlay_ne m (fun _ => 1) (fun _ => 2) p 30 4 30 (by omega) (by omega)
      (by decide) (show (1 : UInt8) ≠ 2 by decide) codes

end Settled

/-- **When the outcome is settled by the packet.** Two connections that differ
in what is left in `msgIn` agree on the return value and on every output,
exactly for the settled packets. -/
theorem outcome_settled_iff {σ : Type} [Socket σ] (c : Call) (dc : ADSConnection) (s s₁ s' : σ)
    (p : List UInt8) (pt' : Option Timeval) (sends : c.Sends dc s s₁)
    (delivery : Delivers (readTimeout dc.iface.timeout) s₁ p pt' s') (complete : Complete p)
    (fits : p.length ≤ MAXDATALEN) :
    (∀ old old' : Mem,
      (c.run (dc.withMsgIn old) s).ret = (c.run (dc.withMsgIn old') s).ret ∧
      (c.run (dc.withMsgIn old) s).outs = (c.run (dc.withMsgIn old') s).outs) ↔
    c.settled p := by
  have sizes := packetSizes
  have nonempty : 0 < p.length := by
    have size := complete.2
    unfold sizeofTCPheader at size
    omega
  have runs : ∀ old, c.run (dc.withMsgIn old) s =
      c.finish (dc.withMsgIn old) ⟨p.length, 0, overlay (c.request dc).mem old p, s'⟩ := by
    intro old
    rw [Call.run_complete (Call.sends_withMsgIn sends old) delivery complete fits,
      c.request_withMsgIn]
    rfl
  simp only [runs]
  by_cases short : c.wantsHeaders ∧ p.length < dataOffset
  · have outcomes := fun old => Call.finish_short (dc.withMsgIn old)
      (overlay (c.request dc).mem old p) s' short.1 nonempty short.2
    have write : c.isWrite := by
      cases c <;> first | rfl | exact absurd short.1 Bool.false_ne_true
    refine iff_of_true (fun old old' => ?_) ?_
    · exact ⟨(outcomes old).1.trans (outcomes old').1.symm,
        (outcomes old).2.trans (outcomes old').2.symm⟩
    · rw [Call.settled, if_pos write]
      exact Or.inl short
  · have headers : c.wantsHeaders → dataOffset ≤ p.length := fun wants => by
      by_contra cut
      exact short ⟨wants, by omega⟩
    have outcomes := fun old => c.finish_decode (dc.withMsgIn old)
      (overlay (c.request dc).mem old p) s' nonempty (by omega) headers
    simp only [(outcomes _).1, (outcomes _).2, ← Prod.ext_iff]
    cases read : c.isWrite with
    | false => exact Call.decode_settled_iff read fits
    | true =>
        have taken : ∀ m, c.decode m = c.accept m := fun m => Call.decode_of_isWrite read
        simp only [taken, Call.settled, read, if_true, short, false_or]
        exact Call.accept_settled_iff fits

/-- The headers of a read state reply and nothing else. -/
def headersOnly : List UInt8 := adsPacket (firstReply cmdADSreadState 5 0 0) []

theorem headersOnly_settled_iff :
    (∀ old old' : Mem,
      (Call.readState.run (freshConnection.withMsgIn old)
          (⟨[], arrive headersOnly ++ [], []⟩ : Script)).ret =
        (Call.readState.run (freshConnection.withMsgIn old')
          (⟨[], arrive headersOnly ++ [], []⟩ : Script)).ret ∧
      (Call.readState.run (freshConnection.withMsgIn old)
          (⟨[], arrive headersOnly ++ [], []⟩ : Script)).outs =
        (Call.readState.run (freshConnection.withMsgIn old')
          (⟨[], arrive headersOnly ++ [], []⟩ : Script)).outs) ↔
    Call.readState.settled headersOnly :=
  outcome_settled_iff .readState freshConnection _ _ _ headersOnly _
    (Call.sends_script _ _ rfl (by decide +kernel)) (Script.delivers _ _ _ _ _)
    (adsPacket_complete (by decide)) (by decide)

/-- After that reply `ADSreadState()` returns whatever an earlier one left. -/
theorem outcome_not_always_settled :
    ¬ ∀ (c : Call) (dc : ADSConnection) (s s₁ s' : Script) (p : List UInt8)
      (pt' : Option Timeval), c.Fits → c.Sends dc s s₁ →
      Delivers (readTimeout dc.iface.timeout) s₁ p pt' s' → Complete p →
      p.length ≤ MAXDATALEN → ∀ old old' : Mem,
      (c.run (dc.withMsgIn old) s).ret = (c.run (dc.withMsgIn old') s).ret ∧
      (c.run (dc.withMsgIn old) s).outs = (c.run (dc.withMsgIn old') s).outs := by
  intro settled
  have outcome := settled .readState freshConnection ⟨[], arrive headersOnly ++ [], []⟩ _ _
    headersOnly _ trivial (Call.sends_script _ _ rfl (by decide +kernel))
    (Script.delivers _ _ _ _ _) (adsPacket_complete (by decide)) (by decide)
    (fun _ => 0) (fun _ => 1)
  have zeros : (Call.readState.run (freshConnection.withMsgIn fun _ => 0)
      (⟨[], arrive headersOnly ++ [], []⟩ : Script)).ret = 0 := by decide +kernel
  have ones : (Call.readState.run (freshConnection.withMsgIn fun _ => 1)
      (⟨[], arrive headersOnly ++ [], []⟩ : Script)).ret = 0x01010101 := by decide +kernel
  have same := outcome.1
  rw [zeros, ones] at same
  exact absurd same (by decide)

end LibAds
