import LibAds.LabelledRuns
import LibAds.PacketDelivery

/-!
# The counter of the packet reader

`_ADSReadPacket()` counts bytes in an `int` and compares it with a `size_t`. The
length in the header is an unsigned 32-bit number of the peer, so a packet may
be longer than an `int` counts. The turns of the two loops are followed one by
one: up to `2 ^ 31 - 1` bytes the counter is the number of bytes taken and the
comparison compares numbers.
-/

namespace LibAds

open ByteMemory LabelledRuns SocketModel

variable {σ : Type} [Socket σ]

/-! ## What the counter says -/

/-- A loop has taken `n` bytes: the counter says so, the comparison sees its
value as it is, and the next turn does not overflow. -/
structure ReadLoop.Counts (turn : ReadLoop σ → UInt8 → ReadLoop σ → Prop) (n : Nat)
    (st : ReadLoop σ) : Prop where
  res : st.res = n
  compared : (sizeT st.res : Int) = st.res
  next : ∀ v st', turn st v st' → st'.res = st.res + 1

/-- The counter of `_ADSReadPacket()` is the number of bytes taken at each turn
of its loops, and they end after a whole packet with a positive count. -/
structure CountsExactly (di : ADSInterface) (m : Mem) (b : Nat) (s : σ) : Prop where
  header : ∀ hs st, Run (headerTurn b) (.start di m s) hs st → st.Counts (headerTurn b) hs.length
  body : ∀ hs st₁ bs st, Run (headerTurn b) (.start di m s) hs st₁ →
    sizeofTCPheader ≤ sizeT st₁.res → Run (bodyTurn b) st₁ bs st →
    st.Counts (bodyTurn b) (hs ++ bs).length
  ends : ∀ hs st₁ bs st, Run (headerTurn b) (.start di m s) hs st₁ →
    sizeofTCPheader ≤ sizeT st₁.res → Run (bodyTurn b) st₁ bs st →
    sizeofTCPheader + (adsLength st.mem b).toNat ≤ sizeT st.res →
    (hs ++ bs).length = sizeofTCPheader + (adsLength (ofList (hs ++ bs)) 0).toNat ∧
      0 < st.res ∧ (di.error = 0 → (adsReadPacket (some di) m b s).rc = st.res)

/-- The reader after the bytes `vs`: they are in the buffer, and counted. -/
structure ReadSoFar (b : Nat) (start : ReadLoop σ) (vs : List UInt8) (st : ReadLoop σ) : Prop where
  delivered : Delivers start.pt start.sock vs st.pt st.sock
  mem : st.mem = fill (bufferAt b) 0 start.mem vs
  res : st.res = vs.length
  small : vs.length < 2 ^ 31
  wanted : vs.length ≤ sizeofTCPheader + (adsLength (ofList vs) 0).toNat

/-- The socket does not supply `2 ^ 31` bytes of one packet: the packet is
smaller, or the bytes end before. -/
def SuppliesInt (pt : Option Timeval) (s : σ) : Prop :=
  ∀ bs pt' s', Delivers pt s bs pt' s' → bs.length = 2 ^ 31 →
    sizeofTCPheader + (adsLength (ofList bs) 0).toNat < 2 ^ 31

section Steps

variable {b : Nat} {start st st' : ReadLoop σ} {v : UInt8} {vs bs : List UInt8}

theorem ReadSoFar.counted (read : ReadSoFar b start vs st) : sizeT st.res = vs.length := by
  have small := read.small
  rw [read.res, sizeT_natCast (by omega)]

/-- A turn that does not reach the end of the `int` range is counted. -/
theorem ReadSoFar.turn {bound : Mem → Nat} {at' : Int → Nat} (read : ReadSoFar b start vs st)
    (turn : LoopTurn bound at' st v st') (place : at' vs.length = bufferAt b vs.length)
    (small : vs.length + 1 < 2 ^ 31)
    (wanted : vs.length + 1 ≤ sizeofTCPheader + (adsLength (ofList (vs ++ [v])) 0).toNat) :
    ReadSoFar b start (vs ++ [v]) st' where
  delivered := read.delivered.append turn.byte
  mem := by
    rw [turn.mem, read.mem, read.res, place, fill_append, Nat.zero_add]
    rfl
  res := by
    rw [turn.res, read.res, wrapInt_of_range (by omega) (by omega), List.length_append,
      List.length_singleton]
    omega
  small := by rwa [List.length_append]
  wanted := by rwa [List.length_append]

theorem ReadSoFar.headerTurn (read : ReadSoFar b start vs st) (turn : headerTurn b st v st') :
    ReadSoFar b start (vs ++ [v]) st' := by
  have below : vs.length < sizeofTCPheader := read.counted ▸ turn.goesOn
  have sizes := packetSizes
  apply read.turn turn
  · rw [bufferAt_natCast]
    omega
  · omega
  · omega

/-- Behind the header the length field is known, and with it whether the next
byte can be counted. -/
theorem ReadSoFar.bodyTurn (supply : SuppliesInt start.pt start.sock)
    (read : ReadSoFar b start vs st) (header : sizeofTCPheader ≤ vs.length)
    (turn : bodyTurn b st v st') : ReadSoFar b start (vs ++ [v]) st' := by
  have announced : adsLength st.mem b = adsLength (ofList vs) 0 := by
    rw [read.mem, adsLength_fill header]
  have below : vs.length < sizeofTCPheader + (adsLength st.mem b).toNat :=
    read.counted ▸ turn.goesOn
  rw [announced] at below
  have kept : adsLength (ofList (vs ++ [v])) 0 = adsLength (ofList vs) 0 :=
    adsLength_append header
  apply read.turn turn rfl
  · have limit := supply (vs ++ [v]) _ _ (read.delivered.append turn.byte)
    rw [List.length_append, List.length_singleton, kept] at limit
    have small := read.small
    by_contra full
    have last := limit (by omega)
    omega
  · rw [kept]
    omega

theorem ReadSoFar.header (run : Run (LibAds.headerTurn b) start vs st) (zero : start.res = 0) :
    ReadSoFar b start vs st := by
  apply Run.history run
  · exact ⟨.nil _ _, rfl, zero, by decide, Nat.zero_le _⟩
  · exact fun _ _ _ _ read turn => read.headerTurn turn

theorem ReadSoFar.body (supply : SuppliesInt start.pt start.sock)
    (read : ReadSoFar b start vs st) (header : sizeofTCPheader ≤ vs.length)
    (run : Run (LibAds.bodyTurn b) st bs st') : ReadSoFar b start (vs ++ bs) st' := by
  apply Run.history run
  · rwa [List.append_nil]
  · intro bs st₁ v st₂ read turn
    rw [← List.append_assoc]
    exact ReadSoFar.bodyTurn supply read
      (by rw [List.length_append]; omega) turn

theorem ReadSoFar.counts {turn : ReadLoop σ → UInt8 → ReadLoop σ → Prop}
    (read : ReadSoFar b start vs st)
    (next : ∀ v st', turn st v st' → ReadSoFar b start (vs ++ [v]) st') :
    st.Counts turn vs.length := by
  refine ⟨read.res, by rw [read.counted, read.res], fun v st' taken => ?_⟩
  rw [(next v st' taken).res, read.res, List.length_append, List.length_singleton]
  rfl

end Steps

/-! ## Packets that an `int` counts -/

section Packets

variable {di : ADSInterface} {m : Mem} {b : Nat} {s s' : σ}

/-- Every turn of the reader is counted. -/
theorem SuppliesInt.counts (supply : SuppliesInt (readTimeout di.timeout) s) :
    CountsExactly di m b s := by
  have header : ∀ hs st, Run (headerTurn b) (.start di m s) hs st →
      ReadSoFar b (.start di m s) hs st := fun hs st run => ReadSoFar.header run rfl
  have body : ∀ hs st₁ bs st, Run (headerTurn b) (.start di m s) hs st₁ →
      sizeofTCPheader ≤ sizeT st₁.res → Run (bodyTurn b) st₁ bs st →
      sizeofTCPheader ≤ (hs ++ bs).length ∧ ReadSoFar b (.start di m s) (hs ++ bs) st := by
    intro hs st₁ bs st first done second
    rw [(header hs st₁ first).counted] at done
    exact ⟨by rw [List.length_append]; omega, (header hs st₁ first).body supply done second⟩
  refine ⟨fun hs st run => (header hs st run).counts fun _ _ turn => (header hs st run).headerTurn
    turn, fun hs st₁ bs st first done second => ?_, fun hs st₁ bs st first done second ended => ?_⟩
  · obtain ⟨long, read⟩ := body hs st₁ bs st first done second
    exact read.counts fun _ _ turn => read.bodyTurn supply long turn
  · obtain ⟨long, read⟩ := body hs st₁ bs st first done second
    have announced : adsLength st.mem b = adsLength (ofList (hs ++ bs)) 0 := by
      rw [read.mem, adsLength_fill long]
    have sizes := packetSizes
    have wanted := read.wanted
    have counted := read.counted
    rw [announced] at ended
    have positive : 0 < st.res := by
      rw [read.res]
      omega
    have small := read.small
    rw [List.length_append] at small
    refine ⟨by omega, positive, fun clear => ?_⟩
    rw [adsReadPacket_run clear first done second (announced ▸ ended) (by omega)]
    split <;> rfl

/-- A packet that an `int` cannot count makes the counter negative. -/
theorem CountsExactly.supplies (counts : CountsExactly di m b s) :
    SuppliesInt (readTimeout di.timeout) s := by
  intro bs pt' s' delivery size
  by_contra large
  obtain ⟨hs, xs, v, st₁, st, st', -, first, done, second, last, turn, -, -⟩ :=
    @overflowTurn_of_delivers σ _ b m _ _ _ _ _ delivery size (Nat.le_of_not_lt large)
  have next : st'.res = st.res + 1 := (counts.body _ _ _ _ first done second).next v st' turn
  have range := (wrapInt_range (st.res + 1)).2
  rw [← turn.res, next, last] at range
  omega

/-- **The counter of the reader.** It is exact, and a packet ends with a
positive count, unless a peer supplies `2 ^ 31` bytes of a packet. -/
theorem counts_exactly_iff (di : ADSInterface) (m : Mem) (b : Nat) (s : σ) :
    CountsExactly di m b s ↔ SuppliesInt (readTimeout di.timeout) s :=
  ⟨CountsExactly.supplies, SuppliesInt.counts⟩

end Packets

/-- The first `n` bytes of a packet whose header announces `n` bytes behind it. -/
def announcing (n : Nat) : List UInt8 := [0, 0] ++ toLE 4 n ++ List.replicate (n - 6) 0

theorem length_announcing {n : Nat} (header : 6 ≤ n) : (announcing n).length = n := by
  simp only [announcing, List.length_append, length_toLE, List.length_replicate, List.length_cons,
    List.length_nil]
  omega

theorem adsLength_announcing {n : Nat} (small : n < 2 ^ 32) :
    (adsLength (ofList (announcing n)) 0).toNat = n := by
  have field := load_ofList_append [0, 0] (toLE 4 n) (List.replicate (n - 6) 0)
  rw [length_toLE] at field
  rw [adsLength, toNat_get32, announcing]
  exact (congrArg ofLE field).trans (ofLE_toLE_of_lt small)

/-- The counter of a packet of `2 ^ 31 + 6` bytes wraps. -/
theorem counter_not_always_exact :
    ¬ ∀ (di : ADSInterface) (m : Mem) (b : Nat) (s : Script), CountsExactly di m b s := by
  intro counts
  let di := adsNewInterface 3 ⟨[10, 0, 0, 1, 1, 1], rfl⟩ 800 "plc"
  have delivery := Script.delivers (readTimeout di.timeout) [] [] (announcing (2 ^ 31)) []
  have small := (counts di (fun _ => 0) 0 _).supplies _ _ _ delivery
    (length_announcing (by decide))
  rw [adsLength_announcing (by decide)] at small
  exact absurd small (by decide)

end LibAds
