import LibAds.LabelledRuns
import LibAds.PacketIo
import Mathlib.Data.List.Induction

/-!
# What the packet reader leaves behind

`_ADSReadPacket()` is followed through its two loops once, turn by turn. Bytes
that arrive fill the buffer from its start, past the last byte they pile up in
the last place (`fill`); a packet that arrives whole is reported with its size
(`adsReadPacket_complete`), a delivery that breaks off inside a packet is
reported with the failure of its last byte (`adsReadPacket_broken`). Over a
stream of packets the reader therefore stays on packet boundaries
(`readPackets_aligned`).
-/

namespace LibAds

open ByteMemory LabelledRuns SocketModel

variable {σ : Type} [Socket σ]

/-! ## The bytes stored by a loop -/

/-- Memory after a loop has stored `bs`, starting at counter `k`. -/
def fill (at' : Int → Nat) : Nat → Mem → List UInt8 → Mem
  | _, m, [] => m
  | k, m, v :: bs => fill at' (k + 1) (Function.update m (at' k) v) bs

theorem fill_append (at' : Int → Nat) (k : Nat) (m : Mem) (xs ys : List UInt8) :
    fill at' k m (xs ++ ys) = fill at' (k + xs.length) (fill at' k m xs) ys := by
  induction xs generalizing k m with
  | nil => rfl
  | cons x xs ih =>
      rw [List.cons_append, fill, ih, fill, List.length_cons, Nat.add_assoc,
        Nat.add_comm 1 xs.length]

theorem fill_congr {at' at'' : Int → Nat} {k : Nat} {bs : List UInt8} (m : Mem)
    (agree : ∀ j : Nat, k ≤ j → j < k + bs.length → at' j = at'' j) :
    fill at' k m bs = fill at'' k m bs := by
  induction bs generalizing k m with
  | nil => rfl
  | cons v bs ih =>
      rw [fill, fill, agree k (by omega) (by simp)]
      exact ih _ fun j low high => agree j (by omega) (by simp; omega)

theorem bufferAt_natCast (b k : Nat) : bufferAt b (k : Int) = b + min k 8191 := by
  unfold bufferAt MAXDATALEN
  split <;> omega

/-- Bytes that fit are written to the buffer in order. -/
theorem fill_bufferAt {b : Nat} {m : Mem} {bs : List UInt8} (fits : bs.length ≤ MAXDATALEN) :
    fill (bufferAt b) 0 m bs = store m b bs := by
  induction bs using List.reverseRecOn with
  | nil => simp [fill]
  | append_singleton xs x ih =>
      unfold MAXDATALEN at *
      rw [List.length_append, List.length_singleton] at fits
      rw [fill_append, ih (by omega), fill, fill, bufferAt_natCast, store_append,
        store_singleton]
      congr 1
      omega

/-- Below the last place of the buffer, an overflowing delivery reads like one
that fits. -/
theorem fill_bufferAt_apply {b i : Nat} {m : Mem} {bs : List UInt8} (below : i < b + 8191) :
    fill (bufferAt b) 0 m bs i = store m b bs i := by
  induction bs using List.reverseRecOn with
  | nil => simp [fill]
  | append_singleton xs x ih =>
      rw [fill_append, fill, fill, bufferAt_natCast, store_append, store_singleton]
      by_cases here : xs.length < 8191
      · rw [show b + min (0 + xs.length) 8191 = b + xs.length from by omega]
        by_cases last : i = b + xs.length
        · rw [last, Function.update_self, Function.update_self]
        · rw [Function.update_of_ne last, Function.update_of_ne last, ih]
      · rw [Function.update_of_ne (by omega), Function.update_of_ne (by omega), ih]

/-- Nothing outside the buffer is stored. -/
theorem fill_bufferAt_outside {b i k : Nat} {m : Mem} {bs : List UInt8}
    (outside : i < b ∨ b + MAXDATALEN ≤ i) : fill (bufferAt b) k m bs i = m i := by
  unfold MAXDATALEN at outside
  induction bs generalizing k m with
  | nil => rfl
  | cons v bs ih =>
      rw [fill, ih, Function.update_of_ne]
      rw [bufferAt_natCast]
      omega

/-! ## What every read preserves -/

theorem markOverlong_outside {m : Mem} {b i : Nat} (outside : i < b + 2 ∨ b + 46 ≤ i) :
    markOverlong m b i = m i := by
  unfold markOverlong sizeofTCPheader sizeofAMSheader
  rw [store_apply_outside (by simp; omega)]
  exact store_apply_outside (by simp; omega)

/-- The range of an `int`. -/
def IntRange (x : Int) : Prop := -2 ^ 31 ≤ x ∧ x < 2 ^ 31

theorem wrapInt_range (x : Int) : IntRange (wrapInt x) := by
  have low := @Int.le_bmod x (2 ^ 32) (by decide)
  have high := @Int.bmod_lt x (2 ^ 32) (by decide)
  rw [wrapInt_eq_bmod]
  unfold IntRange
  omega

/-- The invariant rule of the reader's loops: what storing one received byte in
the buffer preserves, a loop preserves, however it ends. The counter is never
negative where a byte is stored, since as a `size_t` it would not be below the
bound. -/
theorem readWhile_invariant {I : Mem → σ → Prop} {bound : Mem → Nat} {at' : Int → Nat} {b : Nat}
    (inside : ∀ (m : Mem) (res : Nat), res < 2 ^ 31 → res < bound m →
      b ≤ at' res ∧ at' res < b + MAXDATALEN)
    (bounded : ∀ m, bound m < 2 ^ 33)
    (step : ∀ (m : Mem) (s : σ) (a : Nat) (pt : Option Timeval), b ≤ a → a < b + MAXDATALEN →
      I m s → I (adsReadByte m a pt s).mem (adsReadByte m a pt s).sock) :
    ∀ (turns : Nat) {res : Int} {m : Mem} {pt : Option Timeval} {s : σ}, IntRange res → I m s →
      match readWhile bound at' turns ⟨res, m, pt, s⟩ with
      | .ok st' => IntRange st'.res ∧ I st'.mem st'.sock
      | .error r => I r.mem r.sock := by
  intro turns
  induction turns with
  | zero => exact fun range holds => ⟨range, holds⟩
  | succ turns ih =>
      intro res m pt s range holds
      rw [readWhile]
      by_cases goesOn : sizeT res < bound m
      · obtain ⟨low, high⟩ := range
        have limit := bounded m
        obtain ⟨k, rfl⟩ : ∃ k : Nat, res = k :=
          ⟨res.toNat, by unfold sizeT at goesOn; omega⟩
        rw [if_pos goesOn]
        rw [sizeT_natCast (by omega)] at goesOn
        obtain ⟨front, back⟩ := inside m k (by omega) goesOn
        have stored := step m s (at' k) pt front back holds
        generalize adsReadByte m (at' k) pt s = r at stored ⊢
        by_cases one : r.rc = 1
        · rw [if_pos one]
          exact ih (wrapInt_range _) stored
        · rw [if_neg one]
          exact stored
      · rw [if_neg goesOn]
        exact ⟨range, holds⟩

theorem readHeader_invariant {I : Mem → σ → Prop} {b : Nat}
    (step : ∀ (m : Mem) (s : σ) (a : Nat) (pt : Option Timeval), b ≤ a → a < b + MAXDATALEN →
      I m s → I (adsReadByte m a pt s).mem (adsReadByte m a pt s).sock)
    {res : Int} {m : Mem} {pt : Option Timeval} {s : σ} (range : IntRange res) (holds : I m s) :
    match readHeader b ⟨res, m, pt, s⟩ with
    | .ok st' => IntRange st'.res ∧ I st'.mem st'.sock
    | .error r => I r.mem r.sock := by
  have sizes := packetSizes
  refine readWhile_invariant ?_ (fun _ => by omega) step maxTurns range holds
  intro m res small below
  unfold MAXDATALEN
  omega

theorem readBody_invariant {I : Mem → σ → Prop} {b : Nat}
    (step : ∀ (m : Mem) (s : σ) (a : Nat) (pt : Option Timeval), b ≤ a → a < b + MAXDATALEN →
      I m s → I (adsReadByte m a pt s).mem (adsReadByte m a pt s).sock)
    {res : Int} {m : Mem} {pt : Option Timeval} {s : σ} (range : IntRange res) (holds : I m s) :
    match readBody b ⟨res, m, pt, s⟩ with
    | .ok st' => IntRange st'.res ∧ I st'.mem st'.sock
    | .error r => I r.mem r.sock := by
  refine readWhile_invariant ?_ ?_ step maxTurns range holds
  · intro m res small below
    rw [bufferAt_natCast]
    unfold MAXDATALEN
    omega
  · intro m
    have small := (adsLength m b).toNat_lt
    unfold sizeofTCPheader
    omega

/-- The invariant rule of `_ADSReadPacket()`. -/
theorem adsReadPacket_invariant {I : Mem → σ → Prop} {b : Nat}
    (step : ∀ (m : Mem) (s : σ) (a : Nat) (pt : Option Timeval), b ≤ a → a < b + MAXDATALEN →
      I m s → I (adsReadByte m a pt s).mem (adsReadByte m a pt s).sock)
    (mark : ∀ (m : Mem) (s : σ), I m s → I (markOverlong m b) s)
    {di : Option ADSInterface} {m : Mem} {s : σ} (holds : I m s) :
    I (adsReadPacket di m b s).mem (adsReadPacket di m b s).sock := by
  unfold adsReadPacket
  cases di with
  | none => exact holds
  | some di =>
      by_cases flagged : di.error ≠ 0
      · simpa only [if_pos flagged] using holds
      · have first := @readHeader_invariant σ _ I b step 0 m (readTimeout di.timeout) s
          (by unfold IntRange; omega) holds
        simp only [if_neg flagged]
        split
        · next r stopped => simpa only [stopped] using first
        · next st passed =>
            simp only [passed] at first
            have second := @readBody_invariant σ _ I b step st.res st.mem st.pt st.sock first.1
              first.2
            split
            · next r stopped => simpa only [stopped] using second
            · next st' done =>
                simp only [done] at second
                split
                · exact mark _ _ second.2
                · exact second.2

/-- Nothing outside the buffer is stored, whatever arrives. -/
theorem adsReadPacket_outside {di : Option ADSInterface} {m : Mem} {b i : Nat} {s : σ}
    (outside : i < b ∨ b + MAXDATALEN ≤ i) : (adsReadPacket di m b s).mem i = m i := by
  refine @adsReadPacket_invariant σ _ (fun m' _ => m' i = m i) b ?_ ?_ di m s rfl
  · intro m' s a pt front back kept
    rw [← kept]
    unfold adsReadByte
    split
    · rfl
    · rfl
    · split
      · rfl
      · rfl
      · exact Function.update_of_ne (by omega) _ _
  · intro m' s kept
    rw [← kept]
    unfold MAXDATALEN at outside
    exact markOverlong_outside (by omega)

/-! ## One loop -/

/-- One turn of a loop of the reader, in which the byte `v` is stored. -/
structure LoopTurn (bound : Mem → Nat) (at' : Int → Nat) (st : ReadLoop σ) (v : UInt8)
    (st' : ReadLoop σ) : Prop where
  goesOn : sizeT st.res < bound st.mem
  byte : Delivers st.pt st.sock [v] st'.pt st'.sock
  mem : st'.mem = Function.update st.mem (at' st.res) v
  res : st'.res = wrapInt (st.res + 1)

/-- `Breaks pt s rc error s'`: the next `_ADSReadByte()` fails with `rc`. -/
def Breaks (pt : Option Timeval) (s : σ) (rc error : Int) (s' : σ) : Prop :=
  rc ≠ 1 ∧ ∀ (m : Mem) (b : Nat), ∃ pt', adsReadByte m b pt s = ⟨rc, error, m, pt', s'⟩

section Turns

variable {bound : Mem → Nat} {at' : Int → Nat} {st st' : ReadLoop σ} {v : UInt8} {vs : List UInt8}
  {turns : Nat}

theorem loopTurn_of_delivers {res : Int} {m : Mem} {pt pt' : Option Timeval} {s s' : σ}
    (goesOn : sizeT res < bound m) (byte : Delivers pt s [v] pt' s') :
    LoopTurn bound at' ⟨res, m, pt, s⟩ v
      ⟨wrapInt (res + 1), Function.update m (at' res) v, pt', s'⟩ :=
  ⟨goesOn, byte, rfl, rfl⟩

theorem readWhile_turn (turn : LoopTurn bound at' st v st') :
    readWhile bound at' (turns + 1) st = readWhile bound at' turns st' := by
  obtain ⟨goesOn, byte, mem, res⟩ := turn
  cases byte with
  | cons selected received rest =>
      rcases st' with ⟨res', mem', pt', sock'⟩
      cases rest
      subst mem res
      rw [readWhile, if_pos goesOn]
      simp only [adsReadByte, selected, received, if_true]

/-- The turns of a run are those that a loop makes. -/
theorem readWhile_run (run : Run (LoopTurn bound at') st vs st') :
    readWhile bound at' (turns + vs.length) st = readWhile bound at' turns st' := by
  induction run with
  | nil => rfl
  | cons turn _ ih => rw [List.length_cons, ← Nat.add_assoc, readWhile_turn turn, ih]

theorem readWhile_done (run : Run (LoopTurn bound at') st vs st') (enough : vs.length ≤ turns)
    (done : bound st'.mem ≤ sizeT st'.res) : readWhile bound at' turns st = .ok st' := by
  rw [← Nat.sub_add_cancel enough, readWhile_run run]
  cases turns - vs.length with
  | zero => rfl
  | succ left => rw [readWhile, if_neg (by omega)]

theorem readWhile_breaks {rc error : Int} {s' : σ} (run : Run (LoopTurn bound at') st vs st')
    (enough : vs.length < turns) (goesOn : sizeT st'.res < bound st'.mem)
    (breaks : Breaks st'.pt st'.sock rc error s') :
    readWhile bound at' turns st = .error ⟨rc, error, st'.mem, s'⟩ := by
  obtain ⟨left, rfl⟩ : ∃ left, turns = left + 1 + vs.length := ⟨turns - vs.length - 1, by omega⟩
  obtain ⟨failed, step⟩ := breaks
  obtain ⟨pt', step⟩ := step st'.mem (at' st'.res)
  rw [readWhile_run run, readWhile, if_pos goesOn]
  simp only [step, if_neg failed]

/-- While its bound is stable under its own stores, a loop makes a turn for every
byte delivered below the bound. -/
theorem loopRun_of_delivers {pt pt' : Option Timeval} {s s' : σ}
    (delivery : Delivers pt s vs pt' s') :
    ∀ {k : Nat} {m : Mem},
      (∀ (m : Mem) (j : Nat) (v : UInt8), k ≤ j →
        bound (Function.update m (at' j) v) = bound m) →
      k + vs.length ≤ bound m → k + vs.length < 2 ^ 31 →
      Run (LoopTurn bound at') ⟨k, m, pt, s⟩ vs ⟨(k + vs.length : Nat), fill at' k m vs, pt', s'⟩ := by
  induction delivery with
  | nil => exact fun _ _ _ => .nil _
  | @cons pt pt₁ pt' s s₁ s₂ s' v vs selected received _ ih =>
      intro k m stable below small
      rw [List.length_cons] at below small
      have goesOn : sizeT (k : Int) < bound m := by
        rw [sizeT_natCast (by omega)]
        omega
      have counted : ((k + 1 : Nat) : Int) = wrapInt ((k : Int) + 1) := by
        rw [wrapInt_of_range (by omega) (by omega)]
        omega
      have rest := ih (fun m j v after => stable m j v (by omega))
        (by rw [stable m k v (by omega)]; omega : k + 1 + vs.length ≤ _) (by omega)
      rw [List.length_cons, show k + (vs.length + 1) = k + 1 + vs.length from by omega]
      exact .cons ⟨goesOn, .cons selected received (.nil _ _), rfl, counted⟩ rest

end Turns

/-! ## The two loops of the reader -/

/-- A turn of `while (res < sizeof(AMS_TCPheader))`. -/
def headerTurn (b : Nat) : ReadLoop σ → UInt8 → ReadLoop σ → Prop :=
  LoopTurn (fun _ => sizeofTCPheader) fun res => ((b : Int) + res).toNat

/-- A turn of `while (res < sizeof(AMS_TCPheader) + h->length)`. -/
def bodyTurn (b : Nat) : ReadLoop σ → UInt8 → ReadLoop σ → Prop :=
  LoopTurn (fun m => sizeofTCPheader + (adsLength m b).toNat) (bufferAt b)

/-- Where `_ADSReadPacket()` starts to read. -/
def ReadLoop.start (di : ADSInterface) (m : Mem) (s : σ) : ReadLoop σ :=
  ⟨0, m, readTimeout di.timeout, s⟩

/-- The length field is not touched by bytes stored behind it. -/
theorem adsLength_update {b a : Nat} {m : Mem} {v : UInt8} (behind : b + 6 ≤ a) :
    adsLength (Function.update m a v) b = adsLength m b :=
  get32_congr (load_update_disjoint (by omega))

/-- The length field the loops leave behind is the one that was delivered. -/
theorem adsLength_fill {b : Nat} {m : Mem} {bs : List UInt8}
    (header : sizeofTCPheader ≤ bs.length) :
    adsLength (fill (bufferAt b) 0 m bs) b = adsLength (ofList bs) 0 := by
  unfold sizeofTCPheader at header
  have seen : load (fill (bufferAt b) 0 m bs) (b + 2) 4 = load (store m b bs) (b + 2) 4 :=
    load_congr fun i within => fill_bufferAt_apply (by omega)
  exact (get32_congr seen).trans (get32_store_within (by omega))

/-- The header of a string is that of its prefixes. -/
theorem adsLength_append {xs ys : List UInt8} (header : sizeofTCPheader ≤ xs.length) :
    adsLength (ofList (xs ++ ys)) 0 = adsLength (ofList xs) 0 := by
  unfold sizeofTCPheader at header
  have seen := @load_ofList_take (xs ++ ys) (0 + 2) 4 xs.length (by omega)
  rw [List.take_left' rfl] at seen
  exact (get32_congr seen).symm

section Loops

variable {b : Nat} {m : Mem} {pt pt' : Option Timeval} {s s' : σ} {bs : List UInt8}

/-- Bytes of the header are taken in by the first loop. -/
theorem headerRun_of_delivers (delivery : Delivers pt s bs pt' s')
    (short : bs.length ≤ sizeofTCPheader) :
    Run (headerTurn b) ⟨0, m, pt, s⟩ bs ⟨bs.length, fill (bufferAt b) 0 m bs, pt', s'⟩ := by
  have small : bs.length ≤ 6 := short
  have filled : fill (fun res => ((b : Int) + res).toNat) 0 m bs = fill (bufferAt b) 0 m bs := by
    apply fill_congr
    intro j _ high
    rw [bufferAt_natCast]
    omega
  have run := @loopRun_of_delivers σ _ (fun _ => sizeofTCPheader)
    (fun res => ((b : Int) + res).toNat) bs pt pt' s s' delivery 0 m (fun _ _ _ _ => rfl)
    (by rw [Nat.zero_add]; exact short) (by omega)
  rw [Nat.zero_add, filled] at run
  exact run

/-- Bytes behind the header are taken in by the second loop, up to the length
the header announces. -/
theorem bodyRun_of_delivers (delivery : Delivers pt s bs pt' s')
    (below : bs.length ≤ (adsLength m b).toNat) (small : sizeofTCPheader + bs.length < 2 ^ 31) :
    Run (bodyTurn b) ⟨sizeofTCPheader, m, pt, s⟩ bs
      ⟨(sizeofTCPheader + bs.length : Nat), fill (bufferAt b) sizeofTCPheader m bs, pt', s'⟩ := by
  apply loopRun_of_delivers delivery _ (by omega) small
  intro m j v behind
  have place : b + 6 ≤ bufferAt b j := by
    unfold sizeofTCPheader at behind
    rw [bufferAt_natCast]
    omega
  rw [adsLength_update place]

/-- Header and body are stored as one string. -/
theorem packetRun_of_delivers (header : sizeofTCPheader ≤ bs.length) (counted : bs.length < 2 ^ 31)
    (below : bs.length ≤ sizeofTCPheader + (adsLength (ofList bs) 0).toNat)
    (delivery : Delivers pt s bs pt' s') :
    ∃ st₁, Run (headerTurn b) ⟨0, m, pt, s⟩ (bs.take sizeofTCPheader) st₁ ∧
      sizeofTCPheader ≤ sizeT st₁.res ∧
      Run (bodyTurn b) st₁ (bs.drop sizeofTCPheader)
        ⟨bs.length, fill (bufferAt b) 0 m bs, pt', s'⟩ := by
  obtain ⟨pt₁, s₁, front, rest⟩ :=
    Delivers.split ((List.take_append_drop sizeofTCPheader bs).symm ▸ delivery)
  have headLength : (bs.take sizeofTCPheader).length = sizeofTCPheader := by
    rw [List.length_take]
    omega
  have announced : adsLength (fill (bufferAt b) 0 m (bs.take sizeofTCPheader)) b =
      adsLength (ofList bs) 0 := by
    rw [adsLength_fill (by omega)]
    exact get32_congr (load_ofList_take (by decide))
  have whole := fill_append (bufferAt b) 0 m (bs.take sizeofTCPheader) (bs.drop sizeofTCPheader)
  rw [List.take_append_drop, headLength, Nat.zero_add] at whole
  have first := @headerRun_of_delivers σ _ b m _ _ _ _ _ front (Nat.le_of_eq headLength)
  have second := @bodyRun_of_delivers σ _ b (fill (bufferAt b) 0 m (bs.take sizeofTCPheader)) _ _ _
    _ _ rest (by rw [announced, List.length_drop]; omega) (by rw [List.length_drop]; omega)
  rw [headLength] at first
  rw [List.length_drop, Nat.add_sub_cancel' header, ← whole] at second
  exact ⟨_, first, Nat.le_of_eq (sizeT_natCast (by decide)).symm, second⟩

/-- Where both loops have ended, their state is what the reader returns. -/
theorem adsReadPacket_run {di : ADSInterface} {hs : List UInt8} {st₁ st : ReadLoop σ}
    (clear : di.error = 0) (first : Run (headerTurn b) (.start di m s) hs st₁)
    (done : sizeofTCPheader ≤ sizeT st₁.res) (second : Run (bodyTurn b) st₁ bs st)
    (ended : sizeofTCPheader + (adsLength st.mem b).toNat ≤ sizeT st.res)
    (enough : hs.length + bs.length ≤ 2 ^ 31) :
    adsReadPacket (some di) m b s =
      if sizeofTCPheader + (adsLength st.mem b).toNat > MAXDATALEN then
        ⟨st.res, 0xe, markOverlong st.mem b, st.sock⟩
      else ⟨st.res, 0, st.mem, st.sock⟩ := by
  have header : readHeader b (.start di m s) = .ok st₁ :=
    readWhile_done first (by unfold maxTurns; omega) done
  have body : readBody b st₁ = .ok st := readWhile_done second (by unfold maxTurns; omega) ended
  unfold ReadLoop.start at header
  simp only [adsReadPacket, clear, ne_eq, not_true_eq_false, if_false, header, body]

end Loops

/-! ## Whole deliveries and broken ones -/

/-- The reader needs another byte after `bs`: the header is not complete, or
fewer bytes than it announces have come. Past `2 ^ 31 - 1` bytes the counter
is no longer an `int`. -/
def Incomplete (bs : List UInt8) : Prop :=
  bs.length < 2 ^ 31 ∧
    (bs.length < sizeofTCPheader ∨
      bs.length < sizeofTCPheader + (adsLength (ofList bs) 0).toNat)

/-- The reader needs no byte after `bs`. -/
def Complete (bs : List UInt8) : Prop :=
  bs.length < 2 ^ 31 ∧ bs.length = sizeofTCPheader + (adsLength (ofList bs) 0).toNat

/-- A packet that has not come to its end leaves the reader waiting. -/
theorem Complete.incomplete {xs ys : List UInt8} (whole : Complete (xs ++ ys))
    (missing : ys ≠ []) : Incomplete xs := by
  rcases whole with ⟨counted, size⟩
  have rest := List.length_pos_iff.mpr missing
  rw [List.length_append] at counted size
  refine ⟨by omega, ?_⟩
  by_cases header : xs.length < sizeofTCPheader
  · exact Or.inl header
  · rw [adsLength_append (Nat.le_of_not_lt header)] at size
    exact Or.inr (by omega)

/-- **A whole packet.** The reader returns its size. If it fits the error is 0,
if not it is 0xe and the header is marked. -/
theorem adsReadPacket_complete {di : ADSInterface} {m : Mem} {b : Nat} {s s' : σ}
    {bs : List UInt8} {pt' : Option Timeval} (clear : di.error = 0)
    (delivery : Delivers (readTimeout di.timeout) s bs pt' s') (complete : Complete bs) :
    adsReadPacket (some di) m b s =
      if bs.length > MAXDATALEN then
        ⟨bs.length, 0xe, markOverlong (fill (bufferAt b) 0 m bs) b, s'⟩
      else ⟨bs.length, 0, store m b bs, s'⟩ := by
  obtain ⟨counted, size⟩ := complete
  have header : sizeofTCPheader ≤ bs.length := by omega
  obtain ⟨st₁, first, done, second⟩ :=
    @packetRun_of_delivers σ _ b m _ _ _ _ _ header counted (by omega) delivery
  have announced : adsLength (fill (bufferAt b) 0 m bs) b = adsLength (ofList bs) 0 :=
    adsLength_fill header
  rw [adsReadPacket_run clear first done second
    (by rw [announced, sizeT_natCast (by omega)]; omega)
    (by rw [List.length_take, List.length_drop]; omega)]
  simp only [announced, ← size]
  split
  · rfl
  · rw [fill_bufferAt (by omega)]

/-- **A delivery that breaks off.** The reader returns the failure, and the
buffer starts with the bytes that came before it. -/
theorem adsReadPacket_broken {di : ADSInterface} {m : Mem} {b : Nat} {s s₁ s' : σ}
    {bs : List UInt8} {pt₁ : Option Timeval} {rc error : Int} (clear : di.error = 0)
    (delivery : Delivers (readTimeout di.timeout) s bs pt₁ s₁) (incomplete : Incomplete bs)
    (breaks : Breaks pt₁ s₁ rc error s') :
    adsReadPacket (some di) m b s = ⟨rc, error, fill (bufferAt b) 0 m bs, s'⟩ := by
  obtain ⟨counted, wanting⟩ := incomplete
  by_cases header : sizeofTCPheader ≤ bs.length
  · have below : bs.length < sizeofTCPheader + (adsLength (ofList bs) 0).toNat := by omega
    obtain ⟨st₁, first, done, second⟩ :=
      @packetRun_of_delivers σ _ b m _ _ _ _ _ header counted (by omega) delivery
    have passed : readHeader b ⟨0, m, readTimeout di.timeout, s⟩ = .ok st₁ :=
      readWhile_done first (by rw [List.length_take]; unfold maxTurns; omega) done
    have failed : readBody b st₁ = .error ⟨rc, error, fill (bufferAt b) 0 m bs, s'⟩ :=
      readWhile_breaks second (by rw [List.length_drop]; unfold maxTurns; omega)
        (by rw [adsLength_fill header, sizeT_natCast (by omega)]; exact below) breaks
    simp only [adsReadPacket, clear, ne_eq, not_true_eq_false, if_false, passed, failed]
  · have first := @headerRun_of_delivers σ _ b m _ _ _ _ _ delivery (by omega)
    have failed : readHeader b ⟨0, m, readTimeout di.timeout, s⟩ =
        .error ⟨rc, error, fill (bufferAt b) 0 m bs, s'⟩ :=
      readWhile_breaks first (by unfold maxTurns; omega) (by rw [sizeT_natCast (by omega)]; omega)
        breaks
    simp only [adsReadPacket, clear, ne_eq, not_true_eq_false, if_false, failed]

/-- The marking of a packet that does not fit spares the AMS header. -/
theorem load_markOverlong {b k n : Nat} {m : Mem} {bs : List UInt8} (behind : sizeofTCPheader ≤ k)
    (header : k + n ≤ dataOffset) :
    load (markOverlong (fill (bufferAt b) 0 m bs) b) (b + k) n = load (store m b bs) (b + k) n := by
  unfold sizeofTCPheader at behind
  unfold dataOffset sizeofTCPheader sizeofAMSheader at header
  apply load_congr
  intro i within
  -- It stores at 2..5 and 38..45.
  unfold markOverlong put32
  rw [store_apply_outside (by simp [sizeofTCPheader, sizeofAMSheader]; omega),
    store_apply_outside (by simp; omega), fill_bufferAt_apply (by omega)]

/-! ## Streams of packets -/

/-- A packet of the stream: a length field and as many bytes as it says. The
bound keeps its size within the reader's `int` counter. -/
structure Packet where
  reserved : UInt16
  body : List UInt8
  small : body.length ≤ 2 ^ 31 - 7

/-- The packet as it travels. -/
def Packet.bytes (p : Packet) : List UInt8 :=
  toLE 2 p.reserved.toNat ++ toLE 4 p.body.length ++ p.body

theorem Packet.length_bytes (p : Packet) : p.bytes.length = 6 + p.body.length := by
  simp only [bytes, List.length_append, length_toLE]

theorem Packet.toNat_adsLength (p : Packet) :
    (adsLength (ofList p.bytes) 0).toNat = p.body.length := by
  have small := p.small
  have field : load (ofList p.bytes) (0 + 2) 4 = toLE 4 p.body.length := by
    simpa [bytes] using load_ofList_append (toLE 2 p.reserved.toNat) (toLE 4 p.body.length) p.body
  rw [adsLength, toNat_get32, field, ofLE_toLE_of_lt (by omega)]

theorem Packet.complete (p : Packet) : Complete p.bytes := by
  have small := p.small
  have size := p.length_bytes
  refine ⟨by omega, ?_⟩
  rw [size, p.toNat_adsLength]
  rfl

/-- `n` calls of `_ADSReadPacket()` on one buffer, each with the memory it
starts from. -/
def readPackets (di : ADSInterface) (b : Nat) : Nat → Mem → σ → List (Mem × PacketRead σ)
  | 0, _, _ => []
  | n + 1, m, s =>
    let r := adsReadPacket (some di) m b s
    (m, r) :: readPackets di b n r.mem r.sock

/-- A script in which the packets `ps` arrive one after the other. -/
def packetStream (tx : List TxEvent) (handed : List (List UInt8)) (ps : List Packet)
    (rest : List RxEvent) : Script :=
  ⟨tx, arrive (ps.flatMap Packet.bytes) ++ rest, handed⟩

/-- What one call is to do with the packet `p` in front of it. -/
structure ReadsPacket (b : Nat) (p : Packet) (before : Mem) (r : PacketRead σ) : Prop where
  count : r.rc = (6 + p.body.length : Nat)
  fits : 6 + p.body.length ≤ MAXDATALEN →
    r.error = 0 ∧ load r.mem b (6 + p.body.length) = p.bytes ∧
      ∀ i, i < b ∨ b + (6 + p.body.length) ≤ i → r.mem i = before i
  overlong : MAXDATALEN < 6 + p.body.length →
    r.error = 0xe ∧ (adsLength r.mem b).toNat = MAXDATALEN - 6
  inside : ∀ i, i < b ∨ b + MAXDATALEN ≤ i → r.mem i = before i

theorem adsLength_markOverlong (m : Mem) (b : Nat) :
    (adsLength (markOverlong m b) b).toNat = MAXDATALEN - 6 := by
  unfold adsLength markOverlong sizeofTCPheader sizeofAMSheader
  rw [get32_congr (load_store_disjoint (by omega)), get32_put32_same]
  decide

theorem adsReadPacket_reads {di : ADSInterface} {m : Mem} {b : Nat} {s s' : σ} {p : Packet}
    {pt' : Option Timeval} (clear : di.error = 0)
    (delivery : Delivers (readTimeout di.timeout) s p.bytes pt' s') :
    ReadsPacket b p m (adsReadPacket (some di) m b s) ∧
      (adsReadPacket (some di) m b s).sock = s' := by
  have size := p.length_bytes
  rw [adsReadPacket_complete clear delivery p.complete]
  by_cases long : p.bytes.length > MAXDATALEN
  · rw [if_pos long]
    refine ⟨⟨by rw [size], fun fits => absurd fits (by omega),
      fun _ => ⟨rfl, adsLength_markOverlong _ _⟩, ?_⟩, rfl⟩
    intro i outside
    have far : i < b + 2 ∨ b + 46 ≤ i := by unfold MAXDATALEN at outside; omega
    exact (markOverlong_outside far).trans (fill_bufferAt_outside outside)
  · rw [if_neg long]
    refine ⟨⟨by rw [size], fun _ => ⟨rfl, ?_, ?_⟩, fun tooLong => absurd tooLong (by omega), ?_⟩,
      rfl⟩
    · rw [← size]
      exact load_store_same m b p.bytes
    · intro i outside
      exact store_apply_outside (by omega)
    · intro i outside
      exact store_apply_outside (by omega)

/-- **The reader stays on packet boundaries.** Called once for each packet of a
stream, the `k`-th call finds the stream at packet `k`, takes exactly that
packet and leaves the stream at packet `k + 1`, whatever the packets hold and
whether or not the earlier ones fitted. -/
theorem readPackets_aligned (di : ADSInterface) (clear : di.error = 0) (b : Nat) (m : Mem)
    (tx : List TxEvent) (handed : List (List UInt8)) (ps : List Packet) (rest : List RxEvent) :
    ∀ k (p : Packet), ps[k]? = some p →
      ∃ before r, (readPackets di b ps.length m (packetStream tx handed ps rest))[k]? =
          some (before, r) ∧
        r = adsReadPacket (some di) before b (packetStream tx handed (ps.drop k) rest) ∧
        r.sock = packetStream tx handed (ps.drop (k + 1)) rest ∧
        ReadsPacket b p before r := by
  induction ps generalizing m with
  | nil => simp
  | cons q ps ih =>
      intro k p found
      have delivery : Delivers (readTimeout di.timeout) (packetStream tx handed (q :: ps) rest)
          q.bytes (readTimeout di.timeout) (packetStream tx handed ps rest) := by
        have bytes := Script.delivers (readTimeout di.timeout) tx handed q.bytes
          (arrive (ps.flatMap Packet.bytes) ++ rest)
        simpa only [packetStream, List.flatMap_cons, arrive_append, List.append_assoc] using bytes
      obtain ⟨reads, after⟩ := @adsReadPacket_reads Script _ di m b _ _ q _ clear delivery
      cases k with
      | zero =>
          cases found
          exact ⟨m, _, rfl, rfl, after, reads⟩
      | succ k =>
          obtain ⟨before, r, entry, call, next, spec⟩ := ih
            (adsReadPacket (some di) m b (packetStream tx handed (q :: ps) rest)).mem k p found
          refine ⟨before, r, ?_, call, next, spec⟩
          rw [List.length_cons, readPackets, List.getElem?_cons_succ, after]
          exact entry

/-- The second of two packets is found behind the first. -/
theorem readPackets_aligned_second :
    let first : Packet := ⟨0, [1, 2, 3], by decide⟩
    let second : Packet := ⟨0, [], by decide⟩
    let di := adsNewInterface 3 ⟨[10, 0, 0, 1, 1, 1], rfl⟩ 800 "plc"
    ∃ before r, (readPackets di 0 2 (fun _ => 0) (packetStream [] [] [first, second] []))[1]? =
        some (before, r) ∧
      r = adsReadPacket (some di) before 0 (packetStream [] [] [second] []) ∧
      r.sock = packetStream [] [] [] [] ∧ ReadsPacket 0 second before r :=
  readPackets_aligned (adsNewInterface 3 ⟨[10, 0, 0, 1, 1, 1], rfl⟩ 800 "plc") rfl 0
    (fun _ => 0) [] [] [⟨0, [1, 2, 3], by decide⟩, ⟨0, [], by decide⟩] [] 1 ⟨0, [], by decide⟩ rfl

end LibAds
