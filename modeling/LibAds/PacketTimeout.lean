import LibAds.PacketDelivery
import LibAds.TimedArrivals

/-!
# The time limit of a packet

`_ADSReadPacket()` means to wait for a whole packet within `timeout`
milliseconds, over all its bytes together. The rest of a second is converted to
microseconds with a factor of 1000000, so the limit is that of the interface
only where it is a number of whole seconds; 1500 milliseconds become 501
seconds.
-/

namespace LibAds

open ByteMemory SocketModel

/-! ## What a reader is given and what it spends -/

/-- The microseconds `_ADSReadPacket()` gives `select()` for `timeout`. -/
def grantedMicros (timeout : Nat) : Nat := timeout / 1000 * 1000000 + timeout % 1000 * 1000000

/-- Its limit in microseconds. -/
def limitMicros (timeout : Nat) : Nat := timeout * 1000

/-- The size of the packet that begins with the first byte to come. -/
def comingSize (coming : List Arrival) : Nat :=
  sizeofTCPheader + (adsLength (ofList (bytesOf coming)) 0).toNat

/-- The whole packet is there when `select()` has waited for `limit`
microseconds. -/
def PacketWithin (limit : Nat) (coming : List Arrival) : Prop :=
  ArriveWithin limit coming (comingSize coming)

/-- The bytes of it that an `int` counts. -/
def countedSize (coming : List Arrival) : Nat := min (comingSize coming) (2 ^ 31)

theorem readTimeout_granted {timeout : Nat} (limited : 0 < timeout) :
    ∃ t, readTimeout timeout = some t ∧ t.micros = grantedMicros timeout := by
  have nonzero : (timeout : Int) ≠ 0 := by omega
  refine ⟨_, if_pos nonzero, ?_⟩
  have quotient : (timeout : Int).tdiv 1000 = timeout / 1000 :=
    Int.tdiv_eq_ediv_of_nonneg (Int.natCast_nonneg timeout)
  have remainder : (timeout : Int).tmod 1000 = timeout % 1000 :=
    Int.tmod_eq_emod_of_nonneg (Int.natCast_nonneg timeout)
  simp only [Timeval.micros, grantedMicros, quotient, remainder]
  omega

/-- The reader never gets less than its limit, and gets it exactly in whole
seconds. -/
theorem limit_le_granted (timeout : Nat) : limitMicros timeout ≤ grantedMicros timeout := by
  unfold limitMicros grantedMicros
  omega

theorem granted_le_limit_iff {timeout : Nat} :
    grantedMicros timeout ≤ limitMicros timeout ↔ timeout % 1000 = 0 := by
  unfold limitMicros grantedMicros
  omega

/-- Behind the header the announced length no longer changes. -/
theorem adsLength_take {bs : List UInt8} {k : Nat} (header : sizeofTCPheader ≤ k) :
    adsLength (ofList (bs.take k)) 0 = adsLength (ofList bs) 0 :=
  get32_congr (load_ofList_take (by unfold sizeofTCPheader at header; omega))

section Reader

variable {di : ADSInterface} {m : Mem} {b timeout : Nat} {coming : List Arrival}

/-- The bytes fit what the reader is given: it does not time out, and has waited
for these bytes. -/
theorem adsReadPacket_timely (clear : di.error = 0) (limited : 0 < timeout)
    (limit : di.timeout = timeout)
    (arrive : ArriveWithin (grantedMicros timeout) coming (countedSize coming)) :
    (adsReadPacket (some di) m b (⟨coming, 0⟩ : Timed)).rc ≠ -1 ∧
      (adsReadPacket (some di) m b (⟨coming, 0⟩ : Timed)).sock.waited =
        pauses coming (countedSize coming) := by
  have sizes := packetSizes
  obtain ⟨t, given, budget⟩ := readTimeout_granted limited
  obtain ⟨t', -, delivery⟩ := Timed.delivers budget arrive 0
  rw [← given, ← limit, Nat.zero_add] at delivery
  have size : (bytesOf (coming.take (countedSize coming))).length = countedSize coming := by
    rw [length_bytesOf, List.length_take, Nat.min_eq_left arrive.1]
  have announced : adsLength (ofList (bytesOf (coming.take (countedSize coming)))) 0 =
      adsLength (ofList (bytesOf coming)) 0 := by
    rw [bytesOf_take]
    apply adsLength_take
    unfold countedSize comingSize
    omega
  by_cases small : comingSize coming < 2 ^ 31
  · have counted : countedSize coming = comingSize coming := by
      unfold countedSize
      omega
    have complete : Complete (bytesOf (coming.take (countedSize coming))) := by
      refine ⟨by omega, ?_⟩
      rw [announced, size, counted]
      rfl
    have counts : ((bytesOf (coming.take (countedSize coming))).length : Int) ≠ -1 := by omega
    rw [adsReadPacket_complete clear delivery complete]
    split <;> exact ⟨counts, by dsimp only⟩
  · obtain ⟨m', overflow⟩ := @adsReadPacket_overflow Timed _ di m b _ _ _ _ clear delivery
      (by rw [size]; unfold countedSize; omega)
      (by rw [announced]; unfold comingSize at small; omega)
    have negative : (-2 ^ 31 : Int) ≠ -1 := by decide
    rw [overflow]
    exact ⟨negative, by dsimp only⟩

/-- The bytes do not fit: the reader times out when it has spent what it is
given. -/
theorem adsReadPacket_late (clear : di.error = 0) (limited : 0 < timeout)
    (limit : di.timeout = timeout)
    (late : ¬ ArriveWithin (grantedMicros timeout) coming (countedSize coming)) :
    (adsReadPacket (some di) m b (⟨coming, 0⟩ : Timed)).rc = -1 ∧
      (adsReadPacket (some di) m b (⟨coming, 0⟩ : Timed)).sock.waited = grantedMicros timeout := by
  have sizes := packetSizes
  obtain ⟨t, given, budget⟩ := readTimeout_granted limited
  obtain ⟨j, t₁, s₁, pt', s', fewer, inside, delivery, timedOut, spent⟩ :=
    Timed.expires budget late 0
  rw [← given, ← limit] at delivery
  have size : (bytesOf (coming.take j)).length = j := by
    rw [length_bytesOf, List.length_take, Nat.min_eq_left inside]
  have incomplete : Incomplete (bytesOf (coming.take j)) := by
    unfold countedSize at fewer
    rw [Incomplete, size]
    refine ⟨by omega, ?_⟩
    by_cases header : j < sizeofTCPheader
    · exact Or.inl header
    · rw [bytesOf_take, adsLength_take (Nat.le_of_not_lt header)]
      unfold comingSize at fewer
      exact Or.inr (by omega)
  rw [adsReadPacket_broken clear delivery incomplete (.of_timedOut timedOut)]
  exact ⟨rfl, by rw [spent, Nat.zero_add]⟩

end Reader

/-! ## The law -/

/-- The reader waits at most `timeout` milliseconds, and times out exactly when
the packet is not there within them. -/
structure ReadsInTime (di : ADSInterface) (timeout : Nat) (m : Mem) (b : Nat)
    (coming : List Arrival) : Prop where
  waits : (adsReadPacket (some di) m b (⟨coming, 0⟩ : Timed)).sock.waited ≤ limitMicros timeout
  timesOut : (adsReadPacket (some di) m b (⟨coming, 0⟩ : Timed)).rc = -1 ↔
    ¬ PacketWithin (limitMicros timeout) coming

/-- **The time limit of a packet.** It is kept where the packet comes within it;
where it does not, it is kept by an interface without error flag whose limit is
in whole seconds, and which is not sent `2 ^ 31` bytes of the packet. -/
theorem reads_in_time_iff (di : ADSInterface) (timeout : Nat) (limited : 0 < timeout)
    (limit : di.timeout = timeout) (m : Mem) (b : Nat) (coming : List Arrival) :
    ReadsInTime di timeout m b coming ↔
      PacketWithin (limitMicros timeout) coming ∨
        (di.error = 0 ∧ timeout % 1000 = 0 ∧
          ¬ ArriveWithin (limitMicros timeout) coming (countedSize coming)) := by
  have given := limit_le_granted timeout
  have part : countedSize coming ≤ comingSize coming := Nat.min_le_left _ _
  by_cases clear : di.error = 0
  · by_cases arrive : ArriveWithin (grantedMicros timeout) coming (countedSize coming)
    · obtain ⟨rc, waited⟩ := @adsReadPacket_timely di m b timeout coming clear limited limit arrive
      constructor
      · intro inTime
        have timesOut := inTime.timesOut
        exact Or.inl (not_not.mp fun late => rc (timesOut.mpr late))
      · intro condition
        rcases condition with within | ⟨-, seconds, late⟩
        · refine ⟨?_, iff_of_false rc (not_not_intro within)⟩
          rw [waited]
          exact (within.mono (Nat.le_refl _) part).2
        · exact absurd (arrive.mono (granted_le_limit_iff.mpr seconds) (Nat.le_refl _)) late
    · obtain ⟨rc, waited⟩ := @adsReadPacket_late di m b timeout coming clear limited limit arrive
      have late : ¬ PacketWithin (limitMicros timeout) coming :=
        fun within => arrive (within.mono given part)
      have counted : ¬ ArriveWithin (limitMicros timeout) coming (countedSize coming) :=
        fun within => arrive (within.mono given (Nat.le_refl _))
      constructor
      · intro inTime
        have waits := inTime.waits
        rw [waited] at waits
        exact Or.inr ⟨clear, granted_le_limit_iff.mp waits, counted⟩
      · intro condition
        rcases condition with within | ⟨-, seconds, -⟩
        · exact absurd within late
        · exact ⟨waited ▸ granted_le_limit_iff.mpr seconds, iff_of_true rc late⟩
  · have refused : adsReadPacket (some di) m b (⟨coming, 0⟩ : Timed) =
        ⟨-11, 0, m, ⟨coming, 0⟩⟩ := by
      simp only [adsReadPacket, if_pos clear]
    have rc : (-11 : Int) ≠ -1 := by decide
    constructor
    · intro inTime
      have timesOut := inTime.timesOut
      rw [refused] at timesOut
      exact Or.inl (not_not.mp fun late => rc (timesOut.mpr late))
    · intro condition
      rcases condition with within | ⟨clear', -⟩
      · refine ⟨?_, ?_⟩
        · rw [refused]
          exact Nat.zero_le _
        · rw [refused]
          exact iff_of_false rc (not_not_intro within)
      · exact absurd clear' clear

/-- An interface with a time limit. -/
def limitedInterface (timeout : Nat) : ADSInterface :=
  { adsNewInterface 3 ⟨[10, 0, 0, 4, 1, 1], rfl⟩ 800 "plc" with timeout := timeout }

/-- A packet of ten bytes that begins after a second. -/
def tenBytesComing : List Arrival :=
  ⟨1000000, 0⟩ :: [0, 4, 0, 0, 0, 1, 2, 3, 4].map fun byte => ⟨20, byte⟩

/-- A second and a half for them. -/
theorem reads_in_time_seconds :
    PacketWithin (limitMicros 1500) tenBytesComing ∧
      ReadsInTime (limitedInterface 1500) 1500 (fun _ => 0) 0 tenBytesComing := by
  have within : ArriveWithin (limitMicros 1500) tenBytesComing (comingSize tenBytesComing) := by
    decide
  exact ⟨within, (reads_in_time_iff (limitedInterface 1500) 1500 (by decide) rfl (fun _ => 0) 0
    tenBytesComing).mpr (Or.inl within)⟩

/-- For a peer that stays silent a second and a half become 501 seconds. -/
theorem reads_not_always_in_time :
    ¬ ∀ (di : ADSInterface) (timeout : Nat), 0 < timeout → di.timeout = timeout →
      ∀ (m : Mem) (b : Nat) (coming : List Arrival), ReadsInTime di timeout m b coming := by
  intro inTime
  have waits := (inTime (limitedInterface 1500) 1500 (by decide) rfl (fun _ => 0) 0 []).waits
  have late : ¬ ArriveWithin (grantedMicros 1500) [] (countedSize []) := by decide
  rw [(@adsReadPacket_late (limitedInterface 1500) (fun _ => 0) 0 1500 [] rfl (by decide) rfl
    late).2] at waits
  exact absurd waits (by decide)

end LibAds
