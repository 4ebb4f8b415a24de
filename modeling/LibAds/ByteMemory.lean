import Mathlib.Logic.Function.Basic
import Mathlib.Tactic.Ring

/-!
# Byte memory

A flat memory of bytes, the little-endian encoding of fixed-width numbers in
it, and the algebra of reading back what was written: a load sees the last
write that covers it (`load_copy_same`, `load_copy_within`) and passes every
write that misses it (`load_copy_disjoint`). Programs with packed structs and
pointer casts live directly in this memory: a struct is an address, a field an
offset.
-/

namespace ByteMemory

/-- The contents of memory, by address. -/
abbrev Mem := Nat → UInt8

/-! ## Little-endian numbers -/

/-- The `w` low bytes of `n`, least significant first. -/
def toLE : Nat → Nat → List UInt8
  | 0, _ => []
  | w + 1, n => UInt8.ofNat n :: toLE w (n / 256)

/-- The number a byte string spells, least significant byte first. -/
def ofLE (bs : List UInt8) : Nat :=
  bs.foldr (fun b n => b.toNat + 256 * n) 0

@[simp] theorem length_toLE (w n : Nat) : (toLE w n).length = w := by
  induction w generalizing n with
  | zero => rfl
  | succ w ih => rw [toLE, List.length_cons, ih]

@[simp] theorem ofLE_nil : ofLE [] = 0 := rfl

@[simp] theorem ofLE_cons (b : UInt8) (bs : List UInt8) :
    ofLE (b :: bs) = b.toNat + 256 * ofLE bs := rfl

theorem ofLE_lt (bs : List UInt8) : ofLE bs < 256 ^ bs.length := by
  induction bs with
  | nil => simp
  | cons b bs ih =>
      have byte := b.toNat_lt
      rw [ofLE_cons, List.length_cons, Nat.pow_succ]
      omega

/-- Writing a number and reading it back keeps its low `w` bytes. -/
theorem ofLE_toLE (w n : Nat) : ofLE (toLE w n) = n % 256 ^ w := by
  induction w generalizing n with
  | zero => simp [toLE, Nat.mod_one]
  | succ w ih =>
      have split : n % 256 ^ (w + 1) = n % 256 + 256 * (n / 256 % 256 ^ w) := by
        rw [Nat.pow_succ, Nat.mul_comm (256 ^ w), Nat.mod_mul]
      rw [toLE, ofLE_cons, ih, UInt8.toNat_ofNat', split]

theorem ofLE_toLE_of_lt {w n : Nat} (h : n < 256 ^ w) : ofLE (toLE w n) = n := by
  rw [ofLE_toLE, Nat.mod_eq_of_lt h]

/-- Reading a byte string as a number and writing it again is the identity. -/
theorem toLE_ofLE (bs : List UInt8) : toLE bs.length (ofLE bs) = bs := by
  induction bs with
  | nil => rfl
  | cons b bs ih =>
      have byte := b.toNat_lt
      have low : UInt8.ofNat (b.toNat + 256 * ofLE bs) = b := by
        apply UInt8.toNat_inj.mp
        rw [UInt8.toNat_ofNat']
        omega
      have high : (b.toNat + 256 * ofLE bs) / 256 = ofLE bs := by omega
      rw [List.length_cons, ofLE_cons, toLE, low, high, ih]

theorem ofLE_append (xs ys : List UInt8) :
    ofLE (xs ++ ys) = ofLE xs + 256 ^ xs.length * ofLE ys := by
  induction xs with
  | nil => simp
  | cons x xs ih =>
      rw [List.cons_append, ofLE_cons, ofLE_cons, ih, List.length_cons, Nat.pow_succ]
      ring

/-! ## Loads -/

/-- The `n` bytes from address `a` on. -/
def load (m : Mem) : Nat → Nat → List UInt8
  | _, 0 => []
  | a, n + 1 => m a :: load m (a + 1) n

@[simp] theorem length_load (m : Mem) (a n : Nat) : (load m a n).length = n := by
  induction n generalizing a with
  | zero => rfl
  | succ n ih => rw [load, List.length_cons, ih]

@[simp] theorem load_zero (m : Mem) (a : Nat) : load m a 0 = [] := rfl

theorem load_add (m : Mem) (a n k : Nat) :
    load m a (n + k) = load m a n ++ load m (a + n) k := by
  induction n generalizing a with
  | zero => simp
  | succ n ih =>
      rw [Nat.succ_add, load, load, ih, List.cons_append, Nat.add_assoc, Nat.add_comm 1 n]

/-- The two parts of a load can be told apart. -/
theorem load_append_inj {m : Mem} {a n k : Nat} {xs ys : List UInt8}
    (h : load m a (n + k) = xs ++ ys) (size : xs.length = n) :
    load m a n = xs ∧ load m (a + n) k = ys := by
  rw [load_add] at h
  exact List.append_inj h (by rw [length_load, size])

theorem getElem?_load (m : Mem) (a n i : Nat) :
    (load m a n)[i]? = if i < n then some (m (a + i)) else none := by
  induction n generalizing a i with
  | zero => simp
  | succ n ih =>
      cases i with
      | zero => simp [load]
      | succ i =>
          rw [load, List.getElem?_cons_succ, ih]
          simp only [Nat.add_lt_add_iff_right, Nat.add_assoc, Nat.add_comm 1 i]

theorem getElem_load (m : Mem) (a n i : Nat) (h : i < (load m a n).length) :
    (load m a n)[i] = m (a + i) := by
  have within : i < n := by simpa using h
  have entry := getElem?_load m a n i
  rw [if_pos within, List.getElem?_eq_getElem h] at entry
  exact Option.some.inj entry

/-- A load depends only on the bytes it covers. -/
theorem load_congr {m m' : Mem} {a a' n : Nat}
    (agree : ∀ i, i < n → m (a + i) = m' (a' + i)) : load m a n = load m' a' n := by
  apply List.ext_getElem (by simp)
  intro i left right
  rw [getElem_load, getElem_load]
  exact agree i (by simpa using left)

/-- Equal loads agree on every byte they cover. -/
theorem load_eq_apply {m m' : Mem} {a a' n i : Nat} (h : load m a n = load m' a' n)
    (within : i < n) : m (a + i) = m' (a' + i) := by
  have left := getElem?_load m a n i
  have right := getElem?_load m' a' n i
  rw [if_pos within] at left right
  rw [h, right] at left
  exact (Option.some.inj left).symm

/-- Equal loads have equal parts. -/
theorem load_part {m m' : Mem} {a a' n : Nat} (h : load m a n = load m' a' n) (k j : Nat)
    (within : k + j ≤ n) : load m (a + k) j = load m' (a' + k) j := by
  apply load_congr
  intro i inside
  rw [Nat.add_assoc, Nat.add_assoc]
  exact load_eq_apply h (by omega)

@[simp] theorem load_const (b : UInt8) (a n : Nat) : load (fun _ => b) a n = List.replicate n b := by
  induction n generalizing a with
  | zero => rfl
  | succ n ih => rw [load, ih, List.replicate_succ]

/-- A byte string as the contents of a memory that starts with it. -/
def ofList (bs : List UInt8) : Mem := fun i => bs.getD i 0

theorem ofList_apply {bs : List UInt8} {i : Nat} (h : i < bs.length) : ofList bs i = bs[i] := by
  rw [ofList, List.getD_eq_getElem?_getD, List.getElem?_eq_getElem h, Option.getD_some]

theorem ofList_apply_of_le {bs : List UInt8} {i : Nat} (h : bs.length ≤ i) :
    ofList bs i = 0 := by
  rw [ofList, List.getD_eq_getElem?_getD, List.getElem?_eq_none h, Option.getD_none]

theorem load_ofList_append (xs ys zs : List UInt8) :
    load (ofList (xs ++ ys ++ zs)) xs.length ys.length = ys := by
  apply List.ext_getElem (by simp)
  intro i left right
  rw [getElem_load, ofList_apply (by simp; omega), List.getElem_append_left (by simp; omega),
    List.getElem_append_right (by omega)]
  simp

@[simp] theorem load_ofList (bs : List UInt8) : load (ofList bs) 0 bs.length = bs := by
  simpa using load_ofList_append [] bs []

theorem ofList_append_left {xs ys : List UInt8} {i : Nat} (h : i < xs.length) :
    ofList (xs ++ ys) i = ofList xs i := by
  rw [ofList_apply h, ofList_apply (by simp; omega), List.getElem_append_left h]

theorem ofList_append_right (xs ys : List UInt8) (i : Nat) :
    ofList (xs ++ ys) (xs.length + i) = ofList ys i := by
  simp only [ofList, List.getD_eq_getElem?_getD]
  rw [List.getElem?_append_right (Nat.le_add_right ..), Nat.add_sub_cancel_left]

theorem ofList_load {m : Mem} {a n i : Nat} (h : i < n) : ofList (load m a n) i = m (a + i) := by
  rw [ofList_apply (by simpa using h), getElem_load]

/-- Behind its first part a byte string reads like its second. -/
theorem load_ofList_append_add (xs ys : List UInt8) (k : Nat) :
    load (ofList (xs ++ ys)) 0 (xs.length + k) = xs ++ load (ofList ys) 0 k := by
  have front : load (ofList (xs ++ ys)) 0 xs.length = xs := by
    simpa using load_ofList_append [] xs ys
  rw [load_add, front, Nat.zero_add]
  congr 1
  apply load_congr
  intro i _
  rw [ofList_append_right, Nat.zero_add]

/-- Behind its end a byte string reads as zeros. -/
theorem load_ofList_add (bs : List UInt8) (k : Nat) :
    load (ofList bs) 0 (bs.length + k) = bs ++ List.replicate k 0 := by
  have rest := load_ofList_append_add bs [] k
  rw [List.append_nil] at rest
  rw [rest]
  exact congrArg (bs ++ ·) (load_const 0 0 k)

/-- A byte string that was loaded reads like the memory it came from. -/
theorem load_ofList_load {m : Mem} {a n k j : Nat} (h : k + j ≤ n) :
    load (ofList (load m a n)) k j = load m (a + k) j := by
  apply load_congr
  intro i within
  rw [ofList_load (by omega), Nat.add_assoc]

/-! ## Writes -/

/-- `memcpy`: `n` bytes from the start of `src` to address `dst`. -/
def copy (m : Mem) (dst : Nat) (src : Mem) (n : Nat) : Mem :=
  fun i => if dst ≤ i ∧ i < dst + n then src (i - dst) else m i

/-- Write a byte string at an address. -/
def store (m : Mem) (a : Nat) (bs : List UInt8) : Mem :=
  copy m a (ofList bs) bs.length

theorem copy_apply_within (m src : Mem) (dst n i : Nat) (h : i < n) :
    copy m dst src n (dst + i) = src i := by
  rw [copy, if_pos (by omega), Nat.add_sub_cancel_left]

theorem copy_apply_outside {m src : Mem} {dst n i : Nat} (h : i < dst ∨ dst + n ≤ i) :
    copy m dst src n i = m i := by
  rw [copy, if_neg (by omega)]

theorem store_apply_outside {m : Mem} {a i : Nat} {bs : List UInt8}
    (h : i < a ∨ a + bs.length ≤ i) : store m a bs i = m i :=
  copy_apply_outside h

theorem store_congr {m m' : Mem} {a i : Nat} {bs : List UInt8} (agree : m i = m' i) :
    store m a bs i = store m' a bs i := by
  simp only [store, copy, agree]

@[simp] theorem store_nil (m : Mem) (a : Nat) : store m a [] = m := by
  funext i
  exact store_apply_outside (by simp; omega)

/-- A load inside a written range reads the source of the write. -/
theorem load_copy_within {m src : Mem} {dst n a k : Nat} (h : a + k ≤ n) :
    load (copy m dst src n) (dst + a) k = load src a k := by
  apply load_congr
  intro i within
  rw [Nat.add_assoc, copy_apply_within m src dst n (a + i) (by omega)]

@[simp] theorem load_copy_same (m src : Mem) (dst n : Nat) :
    load (copy m dst src n) dst n = load src 0 n := by
  simpa using @load_copy_within m src dst n 0 n (by omega)

/-- A load that misses a write is not changed by it. -/
theorem load_copy_disjoint {m src : Mem} {dst n a k : Nat} (h : a + k ≤ dst ∨ dst + n ≤ a) :
    load (copy m dst src n) a k = load m a k := by
  apply load_congr
  intro i within
  exact copy_apply_outside (by omega)

@[simp] theorem load_store_same (m : Mem) (a : Nat) (bs : List UInt8) :
    load (store m a bs) a bs.length = bs := by
  rw [store, load_copy_same, load_ofList]

theorem load_store_of_length {m : Mem} {a n : Nat} {bs : List UInt8} (size : bs.length = n) :
    load (store m a bs) a n = bs := by
  rw [← size, load_store_same]

theorem load_store_disjoint {m : Mem} {a b k : Nat} {bs : List UInt8}
    (h : b + k ≤ a ∨ a + bs.length ≤ b) : load (store m a bs) b k = load m b k :=
  load_copy_disjoint h

theorem load_store_within {m : Mem} {a b k : Nat} {bs : List UInt8} (h : b + k ≤ bs.length) :
    load (store m a bs) (a + b) k = load (ofList bs) b k :=
  load_copy_within h

theorem load_store_one (m : Mem) (a : Nat) (b : UInt8) : load (store m a [b]) a 1 = [b] :=
  load_store_same m a [b]

/-- A byte string may be written piece by piece. -/
theorem store_append (m : Mem) (a : Nat) (xs ys : List UInt8) :
    store m a (xs ++ ys) = store (store m a xs) (a + xs.length) ys := by
  funext i
  by_cases inXs : a ≤ i ∧ i < a + xs.length
  · rw [store_apply_outside (by omega : i < a + xs.length ∨ _)]
    obtain ⟨k, rfl⟩ := Nat.exists_eq_add_of_le inXs.1
    have within : k < xs.length := by omega
    rw [store, store, copy_apply_within _ _ _ _ _ (by simp; omega),
      copy_apply_within _ _ _ _ _ within, ofList_apply (by simp; omega), ofList_apply within,
      List.getElem_append_left within]
  · by_cases inYs : a + xs.length ≤ i ∧ i < a + xs.length + ys.length
    · obtain ⟨k, rfl⟩ := Nat.exists_eq_add_of_le inYs.1
      have within : k < ys.length := by omega
      rw [store, store, copy_apply_within _ _ _ _ _ within, Nat.add_assoc,
        copy_apply_within _ _ _ _ _ (by simp; omega), ofList_apply (by simp; omega),
        ofList_apply within, List.getElem_append_right (by omega)]
      simp
    · rw [store_apply_outside (by simp; omega), store_apply_outside (by omega),
        store_apply_outside (by omega)]

theorem store_singleton (m : Mem) (a : Nat) (b : UInt8) :
    store m a [b] = Function.update m a b := by
  funext i
  by_cases here : i = a
  · subst here
    rw [Function.update_self]
    exact copy_apply_within m (ofList [b]) i 1 0 (by omega)
  · rw [Function.update_of_ne here, store_apply_outside (by simp; omega)]

theorem ofList_take {bs : List UInt8} {i k : Nat} (h : i < k) :
    ofList (bs.take k) i = ofList bs i := by
  rw [ofList, ofList, List.getD_eq_getElem?_getD, List.getElem?_take_of_lt h,
    List.getD_eq_getElem?_getD]

theorem load_ofList_take {bs : List UInt8} {a n k : Nat} (h : a + n ≤ k) :
    load (ofList (bs.take k)) a n = load (ofList bs) a n := by
  apply load_congr
  intro i within
  exact ofList_take (by omega)

theorem load_update_disjoint {m : Mem} {a b k : Nat} {v : UInt8} (h : b < a ∨ a + k ≤ b) :
    load (Function.update m b v) a k = load m a k := by
  apply load_congr
  intro i within
  rw [Function.update_of_ne (by omega)]

/-! ## Numbers in memory -/

/-- The 16-bit number at an address. -/
def get16 (m : Mem) (a : Nat) : UInt16 := UInt16.ofNat (ofLE (load m a 2))

/-- The 32-bit number at an address. -/
def get32 (m : Mem) (a : Nat) : UInt32 := UInt32.ofNat (ofLE (load m a 4))

/-- Write a 16-bit number. -/
def put16 (m : Mem) (a : Nat) (v : UInt16) : Mem := store m a (toLE 2 v.toNat)

/-- Write a 32-bit number. -/
def put32 (m : Mem) (a : Nat) (v : UInt32) : Mem := store m a (toLE 4 v.toNat)

theorem load_put16_same (m : Mem) (a : Nat) (v : UInt16) :
    load (put16 m a v) a 2 = toLE 2 v.toNat :=
  load_store_same m a (toLE 2 v.toNat)

theorem load_put32_same (m : Mem) (a : Nat) (v : UInt32) :
    load (put32 m a v) a 4 = toLE 4 v.toNat :=
  load_store_same m a (toLE 4 v.toNat)

theorem load_put16_disjoint {m : Mem} {a b k : Nat} {v : UInt16} (h : b + k ≤ a ∨ a + 2 ≤ b) :
    load (put16 m a v) b k = load m b k :=
  load_store_disjoint (by simpa using h)

theorem load_put32_disjoint {m : Mem} {a b k : Nat} {v : UInt32} (h : b + k ≤ a ∨ a + 4 ≤ b) :
    load (put32 m a v) b k = load m b k :=
  load_store_disjoint (by simpa using h)

theorem put16_apply_outside {m : Mem} {a i : Nat} {v : UInt16} (h : i < a ∨ a + 2 ≤ i) :
    put16 m a v i = m i :=
  store_apply_outside (by simpa using h)

theorem put32_apply_outside {m : Mem} {a i : Nat} {v : UInt32} (h : i < a ∨ a + 4 ≤ i) :
    put32 m a v i = m i :=
  store_apply_outside (by simpa using h)

theorem get16_congr {m m' : Mem} {a a' : Nat} (h : load m a 2 = load m' a' 2) :
    get16 m a = get16 m' a' := by
  rw [get16, get16, h]

theorem get32_congr {m m' : Mem} {a a' : Nat} (h : load m a 4 = load m' a' 4) :
    get32 m a = get32 m' a' := by
  rw [get32, get32, h]

theorem get32_copy_disjoint {m src : Mem} {dst n a : Nat} (h : a + 4 ≤ dst ∨ dst + n ≤ a) :
    get32 (copy m dst src n) a = get32 m a :=
  get32_congr (load_copy_disjoint h)

theorem get32_put32_disjoint {m : Mem} {a b : Nat} {v : UInt32} (h : b + 4 ≤ a ∨ a + 4 ≤ b) :
    get32 (put32 m a v) b = get32 m b :=
  get32_congr (load_put32_disjoint h)

/-- Numbers are read back as they were written. -/
theorem get16_of_load {m : Mem} {a : Nat} {v : UInt16} (h : load m a 2 = toLE 2 v.toNat) :
    get16 m a = v := by
  have small := v.toNat_lt
  rw [get16, h, ofLE_toLE_of_lt small, UInt16.ofNat_toNat]

theorem get32_of_load {m : Mem} {a : Nat} {v : UInt32} (h : load m a 4 = toLE 4 v.toNat) :
    get32 m a = v := by
  have small := v.toNat_lt
  rw [get32, h, ofLE_toLE_of_lt small, UInt32.ofNat_toNat]

@[simp] theorem get32_put32_same (m : Mem) (a : Nat) (v : UInt32) : get32 (put32 m a v) a = v :=
  get32_of_load (load_put32_same m a v)

theorem get16_store_within {m : Mem} {a k : Nat} {bs : List UInt8} (h : k + 2 ≤ bs.length) :
    get16 (store m a bs) (a + k) = get16 (ofList bs) k :=
  get16_congr (load_store_within h)

theorem get32_store_within {m : Mem} {a k : Nat} {bs : List UInt8} (h : k + 4 ≤ bs.length) :
    get32 (store m a bs) (a + k) = get32 (ofList bs) k :=
  get32_congr (load_store_within h)

theorem toNat_get16 (m : Mem) (a : Nat) : (get16 m a).toNat = ofLE (load m a 2) := by
  have small := ofLE_lt (load m a 2)
  rw [length_load] at small
  rw [get16, UInt16.toNat_ofNat']
  exact Nat.mod_eq_of_lt small

theorem toNat_get32 (m : Mem) (a : Nat) : (get32 m a).toNat = ofLE (load m a 4) := by
  have small := ofLE_lt (load m a 4)
  rw [length_load] at small
  rw [get32, UInt32.toNat_ofNat']
  exact Nat.mod_eq_of_lt small

theorem ofLE_load_zero {m : Mem} {a n : Nat} (zero : ∀ i, i < n → m (a + i) = 0) :
    ofLE (load m a n) = 0 := by
  induction n generalizing a with
  | zero => rfl
  | succ n ih =>
      have first := zero 0 (by omega)
      have rest := @ih (a + 1) fun i within => by
        rw [Nat.add_assoc, Nat.add_comm 1 i]
        exact zero (i + 1) (by omega)
      rw [Nat.add_zero] at first
      rw [load, ofLE_cons, rest, first]
      rfl

theorem ofLE_load_update_one {a n : Nat} (nonempty : 0 < n) :
    ofLE (load (Function.update (fun _ => 0) a 1) a n) = 1 := by
  obtain ⟨k, rfl⟩ : ∃ k, n = k + 1 := ⟨n - 1, by omega⟩
  have rest : ofLE (load (Function.update (fun _ => 0) a 1) (a + 1) k) = 0 :=
    ofLE_load_zero fun i _ => Function.update_of_ne (by omega) _ _
  rw [load, ofLE_cons, rest, Function.update_self]
  rfl

/-- The byte string lies in memory at `a`. -/
def Stored (m : Mem) (a : Nat) (bs : List UInt8) : Prop := load m a bs.length = bs

/-- Two byte strings lie one behind the other. -/
theorem stored_append {m : Mem} {a : Nat} {xs ys : List UInt8} :
    Stored m a (xs ++ ys) ↔ Stored m a xs ∧ Stored m (a + xs.length) ys := by
  simp only [Stored, List.length_append]
  constructor
  · intro both
    exact load_append_inj both rfl
  · intro ⟨left, right⟩
    rw [load_add, left, right]

theorem Stored.toNat_get16 {m : Mem} {a n : Nat} (h : Stored m a (toLE 2 n)) (small : n < 2 ^ 16) :
    (get16 m a).toNat = n := by
  rw [Stored, length_toLE] at h
  rw [ByteMemory.toNat_get16, h, ofLE_toLE_of_lt small]

theorem Stored.toNat_get32 {m : Mem} {a n : Nat} (h : Stored m a (toLE 4 n)) (small : n < 2 ^ 32) :
    (get32 m a).toNat = n := by
  rw [Stored, length_toLE] at h
  rw [ByteMemory.toNat_get32, h, ofLE_toLE_of_lt small]

/-- Bytewise greater memory spells greater numbers. -/
theorem ofLE_load_le {m m' : Mem} {a a' n : Nat}
    (below : ∀ i, i < n → (m (a + i)).toNat ≤ (m' (a' + i)).toNat) :
    ofLE (load m a n) ≤ ofLE (load m' a' n) := by
  induction n generalizing a a' with
  | zero => exact Nat.le_refl _
  | succ n ih =>
      have first := below 0 (by omega)
      have rest := @ih (a + 1) (a' + 1) fun i within => by
        rw [Nat.add_assoc, Nat.add_assoc, Nat.add_comm 1 i]
        exact below (i + 1) (by omega)
      rw [Nat.add_zero, Nat.add_zero] at first
      rw [load, load, ofLE_cons, ofLE_cons]
      omega

/-- Two equal numbers in memory are spelt by the same bytes. -/
theorem load_eq_of_get16 {m m' : Mem} {a a' : Nat} (h : get16 m a = get16 m' a') :
    load m a 2 = load m' a' 2 := by
  have equal : ofLE (load m a 2) = ofLE (load m' a' 2) := by
    rw [← toNat_get16, ← toNat_get16, h]
  have left := toLE_ofLE (load m a 2)
  have right := toLE_ofLE (load m' a' 2)
  rw [length_load] at left right
  rw [← left, ← right, equal]

theorem load_eq_of_get32 {m m' : Mem} {a a' : Nat} (h : get32 m a = get32 m' a') :
    load m a 4 = load m' a' 4 := by
  have equal : ofLE (load m a 4) = ofLE (load m' a' 4) := by
    rw [← toNat_get32, ← toNat_get32, h]
  have left := toLE_ofLE (load m a 4)
  have right := toLE_ofLE (load m' a' 4)
  rw [length_load] at left right
  rw [← left, ← right, equal]

/-! ## Memories that agree -/

/-- The two memories hold the same bytes at the addresses in `S`. -/
def AgreeOn (S : Nat → Prop) (m m' : Mem) : Prop := ∀ i, S i → m i = m' i

section AgreeOn

variable {S : Nat → Prop} {m m' : Mem}

theorem AgreeOn.copy (agree : AgreeOn S m m') (dst : Nat) (src : Mem) (n : Nat) :
    AgreeOn S (copy m dst src n) (copy m' dst src n) := by
  intro i inside
  simp only [ByteMemory.copy, agree i inside]

theorem AgreeOn.store (agree : AgreeOn S m m') (a : Nat) (bs : List UInt8) :
    AgreeOn S (store m a bs) (store m' a bs) :=
  agree.copy a (ofList bs) bs.length

theorem AgreeOn.put16 (agree : AgreeOn S m m') (a : Nat) (v : UInt16) :
    AgreeOn S (put16 m a v) (put16 m' a v) :=
  agree.store a (toLE 2 v.toNat)

theorem AgreeOn.put32 (agree : AgreeOn S m m') (a : Nat) (v : UInt32) :
    AgreeOn S (put32 m a v) (put32 m' a v) :=
  agree.store a (toLE 4 v.toNat)

theorem AgreeOn.update (agree : AgreeOn S m m') (a : Nat) (v : UInt8) :
    AgreeOn S (Function.update m a v) (Function.update m' a v) := by
  intro i inside
  by_cases here : i = a
  · rw [here, Function.update_self, Function.update_self]
  · rw [Function.update_of_ne here, Function.update_of_ne here, agree i inside]

theorem AgreeOn.load (agree : AgreeOn S m m') (a n : Nat) (inside : ∀ i, i < n → S (a + i)) :
    load m a n = load m' a n :=
  load_congr fun i within => agree (a + i) (inside i within)

theorem AgreeOn.get16 (agree : AgreeOn S m m') (a : Nat) (inside : ∀ i, i < 2 → S (a + i)) :
    get16 m a = get16 m' a :=
  get16_congr (agree.load a 2 inside)

theorem AgreeOn.get32 (agree : AgreeOn S m m') (a : Nat) (inside : ∀ i, i < 4 → S (a + i)) :
    get32 m a = get32 m' a :=
  get32_congr (agree.load a 4 inside)

end AgreeOn

end ByteMemory
