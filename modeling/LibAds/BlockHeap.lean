import Mathlib.Data.List.Nodup
import Mathlib.Logic.Function.Basic

/-!
# Heaps of blocks

A heap says for each address which block has been allocated there. `Owns h as`
says that the blocks in use are those at the addresses `as`, each of them once: an
allocation adds one to them, a release takes one away, and nothing else changes
them. A program that knows all addresses it owns releases none twice and loses
none.
-/

namespace BlockHeap

variable {β : Type}

/-- The blocks in use, by their addresses. -/
abbrev Heap (β : Type) := Nat → Option β

/-- The allocator can hand out an address: it is not `NULL`, and not in use. -/
def Available (h : Heap β) (a : Nat) : Prop := a ≠ 0 ∧ (h a).isNone

instance (h : Heap β) (a : Nat) : Decidable (Available h a) := inferInstanceAs (Decidable (_ ∧ _))

/-- Allocate a block at the address that is handed out, or get `NULL`. -/
def alloc (h : Heap β) (a : Nat) (b : β) : Heap β × Nat :=
  if Available h a then (Function.update h a (some b), a) else (h, 0)

/-- Release a block. `NULL` is passed over, and no other address may be released
that is not in use. -/
def free (h : Heap β) (a : Nat) : Option (Heap β) :=
  if a = 0 then some h
  else if (h a).isSome then some (Function.update h a none)
  else none

/-- The blocks in use are those at the addresses of a list, which are distinct. -/
structure Owns (h : Heap β) (as : List Nat) : Prop where
  distinct : as.Nodup
  live : ∀ a, (h a).isSome ↔ a ∈ as
  notNull : 0 ∉ as

section Owns

variable {h : Heap β} {as as' : List Nat} {a : Nat} {b : β}

theorem alloc_of_available (available : Available h a) (b : β) :
    alloc h a b = (Function.update h a (some b), a) :=
  if_pos available

theorem alloc_of_not_available (none : ¬ Available h a) (b : β) : alloc h a b = (h, 0) :=
  if_neg none

theorem Owns.nil : Owns (fun _ => none : Heap β) [] :=
  ⟨List.nodup_nil, fun a => by simp, List.not_mem_nil⟩

theorem Owns.perm (owns : Owns h as) (perm : as.Perm as') : Owns h as' :=
  ⟨perm.nodup_iff.mp owns.distinct, fun a => (owns.live a).trans perm.mem_iff,
    fun null => owns.notNull (perm.mem_iff.mpr null)⟩

theorem Owns.isSome (owns : Owns h as) (inside : a ∈ as) : (h a).isSome := (owns.live a).mpr inside

theorem Owns.eq_none (owns : Owns h as) (outside : a ∉ as) : h a = none := by
  rcases found : h a with _ | b
  · rfl
  · exact absurd ((owns.live a).mp (by rw [found]; rfl)) outside

theorem Owns.not_mem (owns : Owns h as) (available : Available h a) : a ∉ as := by
  intro inside
  have used := owns.isSome inside
  rw [Option.isNone_iff_eq_none.mp available.2] at used
  cases used

/-- Another block joins those in use. -/
theorem Owns.alloc (owns : Owns h as) (available : Available h a) (b : β) :
    Owns (Function.update h a (some b)) (a :: as) := by
  refine ⟨List.nodup_cons.mpr ⟨owns.not_mem available, owns.distinct⟩, fun a' => ?_, ?_⟩
  · rw [List.mem_cons]
    rcases eq_or_ne a' a with rfl | other
    · simp
    · rw [Function.update_of_ne other, owns.live, or_iff_right other]
  · rw [List.mem_cons, not_or]
    exact ⟨Ne.symm available.1, owns.notNull⟩

/-- A block in use is written. -/
theorem Owns.write (owns : Owns h as) (inside : a ∈ as) (b : β) :
    Owns (Function.update h a (some b)) as := by
  refine ⟨owns.distinct, fun a' => ?_, owns.notNull⟩
  rcases eq_or_ne a' a with rfl | other
  · simp [inside]
  · rw [Function.update_of_ne other, owns.live]

/-- A block in use is released, once. -/
theorem Owns.free (owns : Owns h (a :: as)) :
    free h a = some (Function.update h a none) ∧ Owns (Function.update h a none) as := by
  obtain ⟨fresh, distinct⟩ := List.nodup_cons.mp owns.distinct
  have notNull := owns.notNull
  rw [List.mem_cons, not_or] at notNull
  refine ⟨?_, distinct, fun a' => ?_, notNull.2⟩
  · rw [BlockHeap.free, if_neg (Ne.symm notNull.1), if_pos (owns.isSome List.mem_cons_self)]
  · rcases eq_or_ne a' a with rfl | other
    · simp [fresh]
    · rw [Function.update_of_ne other, owns.live, List.mem_cons, or_iff_right other]

end Owns

end BlockHeap
