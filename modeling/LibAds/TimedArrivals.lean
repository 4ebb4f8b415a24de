import LibAds.SocketModel
import Mathlib.Algebra.GroupWithZero.Nat

/-!
# Bytes that arrive in time

An environment in which every byte has the time that `select()` waits for it.
`select()` waits at most as long as its limit says, and takes what it has waited
from the limit. So the limit is a budget that a program spends over all its
calls: either the bytes it wants fit the budget together (`Timed.delivers`), or
the budget is spent before (`Timed.expires`).
-/

namespace SocketModel

/-! ## Time limits -/

/-- A time limit in microseconds. -/
def Timeval.micros (t : Timeval) : Int := t.tv_sec * 1000000 + t.tv_usec

/-- The `struct timeval` of a number of microseconds. -/
def Timeval.ofMicros (n : Nat) : Timeval := ⟨(n / 1000000 : Nat), (n % 1000000 : Nat)⟩

@[simp] theorem Timeval.micros_ofMicros (n : Nat) : (Timeval.ofMicros n).micros = n := by
  unfold Timeval.micros Timeval.ofMicros
  dsimp only
  omega

/-! ## Arrivals -/

/-- A byte, and how long `select()` waits for it in microseconds when the bytes
before it have been taken. -/
structure Arrival where
  pause : Nat
  byte : UInt8
  deriving DecidableEq, Repr

/-- The bytes of a list of arrivals. -/
def bytesOf (coming : List Arrival) : List UInt8 := coming.map Arrival.byte

/-- How long the first `k` bytes are waited for. -/
def pauses (coming : List Arrival) (k : Nat) : Nat := ((coming.take k).map Arrival.pause).sum

/-- The first `k` bytes are there when `select()` has waited for `limit`
microseconds. -/
def ArriveWithin (limit : Nat) (coming : List Arrival) (k : Nat) : Prop :=
  k ≤ coming.length ∧ pauses coming k ≤ limit

instance (limit : Nat) (coming : List Arrival) (k : Nat) :
    Decidable (ArriveWithin limit coming k) :=
  inferInstanceAs (Decidable (_ ∧ _))

@[simp] theorem length_bytesOf (coming : List Arrival) :
    (bytesOf coming).length = coming.length := List.length_map _

theorem bytesOf_take (coming : List Arrival) (k : Nat) :
    bytesOf (coming.take k) = (bytesOf coming).take k := List.map_take

@[simp] theorem pauses_zero (coming : List Arrival) : pauses coming 0 = 0 := rfl

@[simp] theorem pauses_cons (a : Arrival) (coming : List Arrival) (k : Nat) :
    pauses (a :: coming) (k + 1) = a.pause + pauses coming k := by
  simp [pauses]

theorem pauses_mono (coming : List Arrival) {k n : Nat} (fewer : k ≤ n) :
    pauses coming k ≤ pauses coming n := by
  induction coming generalizing k n with
  | nil => simp [pauses]
  | cons a coming ih =>
      cases k with
      | zero => exact Nat.zero_le _
      | succ k =>
          obtain ⟨n, rfl⟩ : ∃ n', n = n' + 1 := ⟨n - 1, by omega⟩
          rw [pauses_cons, pauses_cons]
          exact Nat.add_le_add_left (ih (Nat.le_of_succ_le_succ fewer)) _

theorem ArriveWithin.mono {limit limit' k n : Nat} {coming : List Arrival}
    (arrive : ArriveWithin limit coming n) (more : limit ≤ limit') (fewer : k ≤ n) :
    ArriveWithin limit' coming k :=
  ⟨Nat.le_trans fewer arrive.1,
    Nat.le_trans (Nat.le_trans (pauses_mono coming fewer) arrive.2) more⟩

/-! ## The environment -/

/-- The bytes still to come, and how long `select()` has waited so far. -/
structure Timed where
  coming : List Arrival
  waited : Nat
  deriving DecidableEq, Repr

/-- `select()` ends when the next byte is there or its time is up. Without a
limit it waits for as long as it takes; where nothing comes any more such a wait
has no end, and its answer here stands for that. -/
def Timed.select (s : Timed) : Option Timeval → SelectResult × Option Timeval × Timed
  | none =>
    match s.coming with
    | [] => (.timedOut, none, s)
    | a :: coming => (.ready, none, ⟨⟨0, a.byte⟩ :: coming, s.waited + a.pause⟩)
  | some t =>
    let limit := t.micros.toNat
    match s.coming with
    | [] => (.timedOut, some (.ofMicros 0), ⟨[], s.waited + limit⟩)
    | a :: coming =>
      if a.pause ≤ limit then
        (.ready, some (.ofMicros (limit - a.pause)),
          ⟨⟨0, a.byte⟩ :: coming, s.waited + a.pause⟩)
      else (.timedOut, some (.ofMicros 0),
        ⟨⟨a.pause - limit, a.byte⟩ :: coming, s.waited + limit⟩)

def Timed.recv (s : Timed) : RecvResult × Timed :=
  match s.coming with
  | [] => (.shutDown, s)
  | a :: coming => (.byte a.byte, { s with coming := coming })

instance : Socket Timed where
  send s bytes := (.sent bytes.length 0, s)
  select := Timed.select
  recv := Timed.recv

/-! ## Spending the budget -/

/-- Bytes that fit the budget are delivered, and leave the rest of it. -/
theorem Timed.delivers {limit k : Nat} {coming : List Arrival} {t : Timeval}
    (budget : t.micros = limit) (arrive : ArriveWithin limit coming k) (waited : Nat) :
    ∃ t' : Timeval, t'.micros = ((limit - pauses coming k : Nat) : Int) ∧
      Delivers (some t) (⟨coming, waited⟩ : Timed) (bytesOf (coming.take k)) (some t')
        ⟨coming.drop k, waited + pauses coming k⟩ := by
  induction k generalizing coming limit t waited with
  | zero => exact ⟨t, budget, .nil _ _⟩
  | succ k ih =>
      obtain ⟨enough, within⟩ := arrive
      cases coming with
      | nil => exact absurd enough (Nat.not_succ_le_zero k)
      | cons a coming =>
          rw [List.length_cons] at enough
          rw [pauses_cons] at within ⊢
          have selected : Socket.select (⟨a :: coming, waited⟩ : Timed) (some t) =
              (.ready, some (.ofMicros (limit - a.pause)),
                ⟨⟨0, a.byte⟩ :: coming, waited + a.pause⟩) := by
            have spent : a.pause ≤ limit := by omega
            simp only [Socket.select, Timed.select, budget, Int.toNat_natCast, if_pos spent]
          obtain ⟨t', left, rest⟩ := ih (Timeval.micros_ofMicros (limit - a.pause))
            (⟨by omega, by omega⟩ : ArriveWithin (limit - a.pause) coming k) (waited + a.pause)
          rw [Nat.sub_sub] at left
          rw [Nat.add_assoc] at rest
          exact ⟨t', left, .cons selected rfl rest⟩

/-- Bytes that do not fit the budget are delivered in part, until a `select()`
has waited for what was left of it. -/
theorem Timed.expires {limit k : Nat} {coming : List Arrival} {t : Timeval}
    (budget : t.micros = limit) (late : ¬ ArriveWithin limit coming k) (waited : Nat) :
    ∃ j t₁ s₁ pt' s', j < k ∧ j ≤ coming.length ∧
      Delivers (some t) (⟨coming, waited⟩ : Timed) (bytesOf (coming.take j)) (some t₁) s₁ ∧
      Socket.select s₁ (some t₁) = (.timedOut, pt', s') ∧ s'.waited = waited + limit := by
  induction k generalizing coming limit t waited with
  | zero => exact absurd ⟨Nat.zero_le _, Nat.zero_le _⟩ late
  | succ k ih =>
      cases coming with
      | nil =>
          refine ⟨0, t, ⟨[], waited⟩, _, _, Nat.succ_pos k, Nat.zero_le _, .nil _ _, rfl, ?_⟩
          rw [budget, Int.toNat_natCast]
      | cons a coming =>
          by_cases spent : a.pause ≤ limit
          · have selected : Socket.select (⟨a :: coming, waited⟩ : Timed) (some t) =
                (.ready, some (.ofMicros (limit - a.pause)),
                  ⟨⟨0, a.byte⟩ :: coming, waited + a.pause⟩) := by
              simp only [Socket.select, Timed.select, budget, Int.toNat_natCast, if_pos spent]
            have later : ¬ ArriveWithin (limit - a.pause) coming k := by
              intro arrive
              obtain ⟨enough, within⟩ := arrive
              refine late ⟨Nat.succ_le_succ enough, ?_⟩
              rw [pauses_cons]
              omega
            obtain ⟨j, t₁, s₁, pt', s', fewer, inside, rest, timedOut, total⟩ :=
              ih (Timeval.micros_ofMicros (limit - a.pause)) later (waited + a.pause)
            refine ⟨j + 1, t₁, s₁, pt', s', Nat.succ_lt_succ fewer, Nat.succ_le_succ inside,
              .cons selected rfl rest, timedOut, ?_⟩
            omega
          · refine ⟨0, t, ⟨a :: coming, waited⟩, some (.ofMicros 0),
              ⟨⟨a.pause - limit, a.byte⟩ :: coming, waited + limit⟩, Nat.succ_pos k,
              Nat.zero_le _, .nil _ _, ?_, rfl⟩
            simp only [Socket.select, Timed.select, budget, Int.toNat_natCast, if_neg spent]

end SocketModel
