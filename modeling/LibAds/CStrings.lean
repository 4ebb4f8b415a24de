import Mathlib.Algebra.Group.Int.Defs
import Mathlib.Algebra.Group.Nat.Defs
import Mathlib.Data.List.TakeWhile

/-!
# C strings and decimal numbers

A string object is its bytes and a terminating zero. A pointer into it is the
list of the bytes from there to the end of the object, so a function that reads
past the object meets the empty list and has no result. `atoi()` and `strchr()`
are written over such pointers and shown to stop at the first byte that ends a
number, or at the byte looked for; `decimal` is what `%d` prints.
-/

namespace CStrings

/-! ## Strings -/

/-- The bytes of a string before its terminating zero. -/
structure CString where
  bytes : List UInt8
  nonzero : 0 ∉ bytes
  deriving DecidableEq, Repr

/-- The pointer to the start of a string. -/
def CString.start (s : CString) : List UInt8 := s.bytes ++ [0]

theorem CString.length_start (s : CString) : s.start.length = s.bytes.length + 1 :=
  List.length_append

/-! ## Numbers -/

/-- `isspace()` in the C locale. -/
def isspace (c : UInt8) : Bool := c = 32 || (9 ≤ c && c ≤ 13)

/-- `isdigit()` -/
def isdigit (c : UInt8) : Bool := 48 ≤ c && c ≤ 57

def skipSpace : List UInt8 → Option (List UInt8)
  | [] => none
  | c :: p => if isspace c then skipSpace p else some (c :: p)

/-- The number that digits continue. -/
def readDigits : Nat → List UInt8 → Option Nat
  | _, [] => none
  | n, c :: p => if isdigit c then readDigits (10 * n + (c.toNat - 48)) p else some n

def LONG_MAX : Int := 2 ^ 63 - 1

def LONG_MIN : Int := -2 ^ 63

/-- `strtol()` to the base 10, on an LP64 machine. -/
def strtol (p : List UInt8) : Option Int := do
  match ← skipSpace p with
  | [] => none
  | c :: p =>
    if c = 45 then
      let n ← readDigits 0 p
      some (max LONG_MIN (-n))
    else if c = 43 then
      let n ← readDigits 0 p
      some (min LONG_MAX n)
    else
      let n ← readDigits 0 (c :: p)
      some (min LONG_MAX n)

/-- `atoi()` is `strtol()` converted to `int`. -/
def atoi (p : List UInt8) : Option Int := do
  let n ← strtol p
  some (Int32.ofInt n).toInt

/-! ## The value of a text -/

/-- The number that the digits `ds` continue. -/
def digitsValue (n : Nat) (ds : List UInt8) : Nat := ds.foldl (fun n d => 10 * n + (d.toNat - 48)) n

/-- Blanks are skipped, then a sign is read, then the longest prefix of digits. -/
def longValue (text : List UInt8) : Int :=
  match text.dropWhile isspace with
  | [] => 0
  | c :: text =>
    if c = 45 then max LONG_MIN (-(digitsValue 0 (text.takeWhile isdigit)))
    else if c = 43 then min LONG_MAX (digitsValue 0 (text.takeWhile isdigit))
    else min LONG_MAX (digitsValue 0 ((c :: text).takeWhile isdigit))

/-- The value of a text as an `int`. -/
def atoiValue (text : List UInt8) : Int := (Int32.ofInt (longValue text)).toInt

/-- A byte that no number contains. -/
def EndsNumber (c : UInt8) : Prop := isspace c = false ∧ isdigit c = false ∧ c ≠ 45 ∧ c ≠ 43

section Numbers

variable {c : UInt8} {text rest : List UInt8}

theorem skipSpace_append (ends : isspace c = false) :
    skipSpace (text ++ c :: rest) = some (text.dropWhile isspace ++ c :: rest) := by
  induction text with
  | nil => simp [skipSpace, ends]
  | cons d text ih =>
      rcases blank : isspace d with _ | _
      · simp [skipSpace, blank]
      · simp [skipSpace, blank, ih]

theorem readDigits_append (ends : isdigit c = false) (n : Nat) :
    readDigits n (text ++ c :: rest) = some (digitsValue n (text.takeWhile isdigit)) := by
  induction text generalizing n with
  | nil => simp [readDigits, ends, digitsValue]
  | cons d text ih =>
      rcases digit : isdigit d with _ | _
      · simp [readDigits, digit, digitsValue]
      · simp only [List.cons_append, readDigits, digit, if_true, ih, List.takeWhile_cons_of_pos,
          digitsValue, List.foldl_cons]

/-- `strtol()` reads a text up to a byte that no number contains. -/
theorem strtol_append (ends : EndsNumber c) :
    strtol (text ++ c :: rest) = some (longValue text) := by
  obtain ⟨space, digit, minus, plus⟩ := ends
  unfold strtol longValue
  rw [skipSpace_append space, Option.bind_eq_bind, Option.bind_some]
  cases text.dropWhile isspace with
  | nil =>
      simp only [List.nil_append, if_neg minus, if_neg plus, readDigits, digit]
      rfl
  | cons d text =>
      simp only [List.cons_append]
      split_ifs
      · rw [readDigits_append digit]
        rfl
      · rw [readDigits_append digit]
        rfl
      · rw [← List.cons_append, readDigits_append digit]
        rfl

/-- **`atoi()` reads a text** up to a byte that no number contains, and nothing
behind it. -/
theorem atoi_append (ends : EndsNumber c) :
    atoi (text ++ c :: rest) = some (atoiValue text) := by
  rw [atoi, strtol_append ends]
  rfl

theorem atoiValue_of_range (low : -2 ^ 31 ≤ longValue text) (high : longValue text < 2 ^ 31) :
    atoiValue text = longValue text := by
  have size : Int32.size = 2 ^ 32 := rfl
  rw [atoiValue, Int32.toInt_ofInt, size, Int.bmod_eq_of_le (by omega) (by omega)]

theorem isdigit_iff : isdigit c ↔ 48 ≤ c.toNat ∧ c.toNat ≤ 57 := by
  simp only [isdigit, Bool.and_eq_true, decide_eq_true_eq, UInt8.le_iff_toNat_le]
  rfl

/-- A text of digits has the value of the digits. -/
theorem longValue_digits (digits : ∀ d ∈ text, isdigit d) (small : digitsValue 0 text < 2 ^ 63) :
    longValue text = digitsValue 0 text := by
  cases text with
  | nil => rfl
  | cons d text =>
      have range := isdigit_iff.mp (digits d List.mem_cons_self)
      have space : isspace d = false := by
        have above : ¬ d ≤ 13 := fun below => absurd (UInt8.le_iff_toNat_le.mp below) (by
          show ¬ d.toNat ≤ 13
          omega)
        have other : d ≠ 32 := by
          intro same
          subst same
          exact absurd range.1 (by decide)
        simp [isspace, above, other]
      have minus : d ≠ 45 := by
        intro same
        subst same
        exact absurd range.1 (by decide)
      have plus : d ≠ 43 := by
        intro same
        subst same
        exact absurd range.1 (by decide)
      have all : (d :: text).takeWhile isdigit = d :: text :=
        List.takeWhile_eq_self_iff.mpr digits
      simp only [longValue, List.dropWhile_cons, space, Bool.false_eq_true, if_false, if_neg minus,
        if_neg plus, all]
      unfold LONG_MAX
      omega

end Numbers

/-! ## Printing -/

/-- What `%d` prints for a number that is not negative. -/
def decimal (n : Nat) : List UInt8 := (Nat.toDigits 10 n).map fun c => UInt8.ofNat c.toNat

section Decimal

variable {n : Nat}

theorem toNat_digit {c : Char} (digit : c.isDigit) :
    48 ≤ c.toNat ∧ c.toNat ≤ 57 ∧ (UInt8.ofNat c.toNat).toNat = c.toNat := by
  obtain ⟨low, high⟩ : 48 ≤ c.toNat ∧ c.toNat ≤ 57 := Char.isDigit_iff_toNat.mp digit
  refine ⟨low, high, UInt8.toNat_ofNat_of_lt' ?_⟩
  exact (by omega : c.toNat < 256)

theorem isDigit_of_printed {c : Char} (inside : c ∈ Nat.toDigits 10 n) : c.isDigit :=
  Nat.isDigit_of_mem_toDigits (by omega) (Nat.le_refl 10) inside

theorem decimal_digits : ∀ d ∈ decimal n, isdigit d := by
  intro d printed
  obtain ⟨c, inside, rfl⟩ := List.mem_map.mp printed
  obtain ⟨low, high, value⟩ := toNat_digit (isDigit_of_printed inside)
  rw [isdigit_iff, value]
  exact ⟨low, high⟩

theorem digitsValue_chars {cs : List Char} (digits : ∀ c ∈ cs, c.isDigit) (k : Nat) :
    digitsValue k (cs.map fun c => UInt8.ofNat c.toNat) = Nat.ofDigitChars 10 cs k := by
  induction cs generalizing k with
  | nil => rfl
  | cons c cs ih =>
      rw [List.forall_mem_cons] at digits
      rw [Nat.ofDigitChars_cons, ← ih digits.2, List.map_cons, digitsValue, List.foldl_cons,
        (toNat_digit digits.1).2.2]
      rfl

/-- Reading what was printed gives the number. -/
theorem digitsValue_decimal : digitsValue 0 (decimal n) = n := by
  rw [decimal, digitsValue_chars fun _ => isDigit_of_printed, Nat.ofDigitChars_ten_toDigits]

end Decimal

/-! ## Searching -/

/-- `strchr()`: a pointer to the first `c`, or NULL. -/
def strchr : List UInt8 → UInt8 → Option (Option (List UInt8))
  | [], _ => none
  | d :: p, c => if d = c then some (some (d :: p)) else if d = 0 then some none else strchr p c

section Search

variable {c : UInt8} {text rest : List UInt8}

theorem strchr_found (nonzero : 0 ∉ text) (first : c ∉ text) :
    strchr (text ++ c :: rest) c = some (some (c :: rest)) := by
  induction text with
  | nil => exact if_pos rfl
  | cons d text ih =>
      rw [List.mem_cons, not_or] at nonzero first
      rw [List.cons_append, strchr, if_neg (Ne.symm first.1), if_neg (Ne.symm nonzero.1),
        ih nonzero.2 first.2]

theorem strchr_missing (nonzero : 0 ∉ text) (other : c ≠ 0) (missing : c ∉ text) :
    strchr (text ++ 0 :: rest) c = some none := by
  induction text with
  | nil => rw [List.nil_append, strchr, if_neg (Ne.symm other), if_pos rfl]
  | cons d text ih =>
      rw [List.mem_cons, not_or] at nonzero missing
      rw [List.cons_append, strchr, if_neg (Ne.symm missing.1), if_neg (Ne.symm nonzero.1),
        ih nonzero.2 missing.2]

end Search

end CStrings
