import LibAds.ByteMemory
import LibAds.CStrings

/-!
# The symbol table

The answer to an upload of symbols is a table of entries of different sizes: a
packed header, three strings and padding. Two of the strings are found through
length fields of the header, the next entry through its length, and the end by
the word behind the entry, which is zero. `SymbolEntry.bytes` writes a table as
`AdsSymbolEntry` describes it, and the macros are followed along the entries.
-/

namespace LibAds

open ByteMemory CStrings

/-! ## The macros -/

/-- `sizeof(AdsSymbolEntry)`, packed. -/
def sizeofAdsSymbolEntry : Nat := 30

/-- `p->entryLength` -/
def entryLength (m : Mem) (p : Nat) : Nat := (get32 m p).toNat

/-- `p->nameLength` -/
def nameLength (m : Mem) (p : Nat) : Nat := (get16 m (p + 24)).toNat

/-- `p->typeLength` -/
def typeLength (m : Mem) (p : Nat) : Nat := (get16 m (p + 26)).toNat

/-- `PADSSYMBOLNAME()` -/
def padsSymbolName (p : Nat) : Nat := p + sizeofAdsSymbolEntry

/-- `PADSSYMBOLTYPE()` -/
def padsSymbolType (m : Mem) (p : Nat) : Nat := p + sizeofAdsSymbolEntry + nameLength m p + 1

/-- `PADSSYMBOLCOMMENT()` -/
def padsSymbolComment (m : Mem) (p : Nat) : Nat :=
  p + sizeofAdsSymbolEntry + nameLength m p + 1 + typeLength m p + 1

/-- `PADSNEXTSYMBOLENTRY()`; no address is `NULL`. -/
def padsNextSymbolEntry (m : Mem) (pEntry : Nat) : Option Nat :=
  if get32 m (pEntry + entryLength m pEntry) ≠ 0 then
    some (pEntry + entryLength m pEntry)
  else
    none

/-- The entries that a walk from `p` visits until it meets `NULL`, if it does
within the turns. -/
def walkSymbols (m : Mem) : Nat → Nat → Option (List Nat)
  | 0, _ => none
  | turns + 1, p =>
    match padsNextSymbolEntry m p with
    | none => some [p]
    | some q => (walkSymbols m turns q).map (p :: ·)

/-! ## Tables -/

/-- An entry that the length fields of `AdsSymbolEntry` can describe. -/
structure SymbolEntry where
  iGroup : UInt32
  iOffs : UInt32
  size : UInt32
  dataType : UInt32
  flags : UInt32
  name : CString
  type : CString
  comment : CString
  padding : List UInt8
  shortName : name.bytes.length < 2 ^ 16
  shortType : type.bytes.length < 2 ^ 16
  shortComment : comment.bytes.length < 2 ^ 16
  short : sizeofAdsSymbolEntry + (name.start ++ type.start ++ comment.start ++ padding).length < 2 ^ 32

namespace SymbolEntry

/-- The three strings, each with its terminating zero, and the padding. -/
def body (e : SymbolEntry) : List UInt8 :=
  e.name.start ++ e.type.start ++ e.comment.start ++ e.padding

/-- The size of the whole entry. -/
def length (e : SymbolEntry) : Nat := sizeofAdsSymbolEntry + e.body.length

def header (e : SymbolEntry) : List UInt8 :=
  toLE 4 e.length ++ toLE 4 e.iGroup.toNat ++ toLE 4 e.iOffs.toNat ++ toLE 4 e.size.toNat ++
    toLE 4 e.dataType.toNat ++ toLE 4 e.flags.toNat ++ toLE 2 e.name.bytes.length ++
    toLE 2 e.type.bytes.length ++ toLE 2 e.comment.bytes.length

def bytes (e : SymbolEntry) : List UInt8 := e.header ++ e.body

end SymbolEntry

/-- The entries back to back, and a zero word behind them. -/
def symbolTable (es : List SymbolEntry) : List UInt8 := es.flatMap SymbolEntry.bytes ++ toLE 4 0

/-- Where the entries of a table at `a` lie. -/
def symbolAddresses : Nat → List SymbolEntry → List Nat
  | _, [] => []
  | a, e :: es => a :: symbolAddresses (a + e.length) es

/-- The macros find the entry at `p`, and its strings. -/
structure EntryAt (m : Mem) (p : Nat) (e : SymbolEntry) : Prop where
  entry : Stored m p e.bytes
  name : Stored m (padsSymbolName p) e.name.start
  type : Stored m (padsSymbolType m p) e.type.start
  comment : Stored m (padsSymbolComment m p) e.comment.start

/-! ## One entry -/

section Entry

variable {m : Mem} {p : Nat} {e : SymbolEntry}

@[simp] theorem SymbolEntry.length_header (e : SymbolEntry) :
    e.header.length = sizeofAdsSymbolEntry := by
  simp only [header, List.length_append, length_toLE, sizeofAdsSymbolEntry]

@[simp] theorem SymbolEntry.length_bytes (e : SymbolEntry) : e.bytes.length = e.length := by
  rw [bytes, List.length_append, length_header, length]

theorem SymbolEntry.length_pos (e : SymbolEntry) : 0 < e.length := by
  simp only [length, sizeofAdsSymbolEntry]
  omega

/-- The length fields of a stored header. -/
theorem lengths_of_header (stored : Stored m p e.header) :
    entryLength m p = e.length ∧ nameLength m p = e.name.bytes.length ∧
      typeLength m p = e.type.bytes.length := by
  simp only [SymbolEntry.header, stored_append, List.length_append, length_toLE] at stored
  obtain ⟨⟨⟨⟨⟨⟨⟨⟨total, -⟩, -⟩, -⟩, -⟩, -⟩, name⟩, type⟩, -⟩ := stored
  exact ⟨total.toNat_get32 e.short, name.toNat_get16 e.shortName, type.toNat_get16 e.shortType⟩

/-- **The macros find the strings of a stored entry.** -/
theorem entryAt_of_stored (stored : Stored m p e.bytes) : EntryAt m p e := by
  obtain ⟨header, body⟩ := stored_append.mp stored
  rw [SymbolEntry.length_header] at body
  obtain ⟨-, names, types⟩ := lengths_of_header header
  simp only [SymbolEntry.body, stored_append, List.length_append,
    CString.length_start] at body
  obtain ⟨⟨⟨name, type⟩, comment⟩, -⟩ := body
  refine ⟨stored, name, ?_, ?_⟩
  · rw [padsSymbolType, names]
    exact type
  · rw [padsSymbolComment, names, types]
    simpa only [Nat.add_assoc] using comment

theorem entryLength_of_stored (stored : Stored m p e.bytes) : entryLength m p = e.length :=
  (lengths_of_header (stored_append.mp stored).1).1

end Entry

/-! ## The walk -/

section Walk

variable {m : Mem} {a : Nat} {e : SymbolEntry} {es : List SymbolEntry}

theorem stored_symbolTable_cons :
    Stored m a (symbolTable (e :: es)) ↔
      Stored m a e.bytes ∧ Stored m (a + e.length) (symbolTable es) := by
  rw [symbolTable, List.flatMap_cons, List.append_assoc, stored_append, SymbolEntry.length_bytes,
    ← symbolTable]

/-- The word behind the last entry is zero. -/
theorem padsNext_last (stored : Stored m a (symbolTable [e])) : padsNextSymbolEntry m a = none := by
  obtain ⟨entry, behind⟩ := stored_symbolTable_cons.mp stored
  have zero : get32 m (a + e.length) = 0 := by
    apply UInt32.toNat_inj.mp
    exact behind.toNat_get32 (by decide)
  rw [padsNextSymbolEntry, entryLength_of_stored entry, if_neg (not_not_intro zero)]

/-- The word behind any other entry is the length of the next one. -/
theorem padsNext_more {e' : SymbolEntry} (stored : Stored m a (symbolTable (e :: e' :: es))) :
    padsNextSymbolEntry m a = some (a + e.length) := by
  obtain ⟨entry, behind⟩ := stored_symbolTable_cons.mp stored
  have next : entryLength m (a + e.length) = e'.length :=
    entryLength_of_stored (stored_symbolTable_cons.mp behind).1
  have nonzero : get32 m (a + e.length) ≠ 0 := by
    intro zero
    have positive := e'.length_pos
    rw [← next, entryLength, zero] at positive
    exact absurd positive (by decide)
  rw [padsNextSymbolEntry, entryLength_of_stored entry, if_pos nonzero]

/-- The walk visits the entries of the table, and stops behind the last. -/
theorem walkSymbols_table (nonempty : es ≠ []) (stored : Stored m a (symbolTable es)) {turns : Nat}
    (enough : es.length ≤ turns) : walkSymbols m turns a = some (symbolAddresses a es) := by
  induction es generalizing a turns with
  | nil => exact absurd rfl nonempty
  | cons e es ih =>
      obtain ⟨turns, rfl⟩ : ∃ left, turns = left + 1 := ⟨turns - 1, by
        rw [List.length_cons] at enough
        omega⟩
      rw [walkSymbols]
      cases es with
      | nil =>
          rw [padsNext_last stored]
          rfl
      | cons e' es =>
          have rest := ih (List.cons_ne_nil e' es) (stored_symbolTable_cons.mp stored).2
            (Nat.le_of_succ_le_succ enough)
          rw [padsNext_more stored]
          simp only [rest, Option.map_some, symbolAddresses]

theorem entryAt_table (stored : Stored m a (symbolTable es)) :
    List.Forall₂ (EntryAt m) (symbolAddresses a es) es := by
  induction es generalizing a with
  | nil => exact .nil
  | cons e es ih =>
      obtain ⟨entry, rest⟩ := stored_symbolTable_cons.mp stored
      exact .cons (entryAt_of_stored entry) (ih rest)

theorem le_of_mem_symbolAddresses {p : Nat} (inside : p ∈ symbolAddresses a es) : a ≤ p := by
  induction es generalizing a with
  | nil => exact absurd inside List.not_mem_nil
  | cons e es ih =>
      rcases List.mem_cons.mp inside with rfl | inside
      · exact Nat.le_refl p
      · exact Nat.le_trans (Nat.le_add_right a e.length) (ih inside)

/-- No entry is visited twice. -/
theorem symbolAddresses_increasing (a : Nat) (es : List SymbolEntry) :
    (symbolAddresses a es).Pairwise (· < ·) := by
  induction es generalizing a with
  | nil => exact .nil
  | cons e es ih =>
      refine .cons (fun p inside => ?_) (ih (a + e.length))
      have behind := le_of_mem_symbolAddresses inside
      have positive := e.length_pos
      omega

/-- **The walk over a symbol table visits exactly its entries**, in their order and
each once, and the macros find the strings of each. -/
theorem symbols_visited (nonempty : es ≠ []) (stored : Stored m a (symbolTable es)) :
    (∀ turns, es.length ≤ turns → walkSymbols m turns a = some (symbolAddresses a es)) ∧
      List.Forall₂ (EntryAt m) (symbolAddresses a es) es ∧
      (symbolAddresses a es).Pairwise (· < ·) :=
  ⟨fun _ enough => walkSymbols_table nonempty stored enough, entryAt_table stored,
    symbolAddresses_increasing a es⟩

end Walk

/-- A variable with a comment: `n`, an `INT` in the process image. -/
def countSymbol : SymbolEntry :=
  { iGroup := 0x4040, iOffs := 0, size := 2, dataType := 2, flags := 0
    name := ⟨[110], by decide⟩
    type := ⟨[73, 78, 84], by decide⟩
    comment := ⟨[63], by decide⟩
    padding := [0]
    shortName := by decide, shortType := by decide, shortComment := by decide, short := by decide }

/-- A bit without a comment: `b`, a `BOOL`. -/
def flagSymbol : SymbolEntry :=
  { iGroup := 0x4041, iOffs := 16, size := 0, dataType := 33, flags := 2
    name := ⟨[98], by decide⟩
    type := ⟨[66, 79, 79, 76], by decide⟩
    comment := ⟨[], by decide⟩
    padding := []
    shortName := by decide, shortType := by decide, shortComment := by decide, short := by decide }

theorem symbols_visited_two :
    (∀ turns, 2 ≤ turns → walkSymbols (ofList (symbolTable [countSymbol, flagSymbol])) turns 0 =
        some [0, 39]) ∧
      List.Forall₂ (EntryAt (ofList (symbolTable [countSymbol, flagSymbol]))) [0, 39]
        [countSymbol, flagSymbol] ∧
      [0, 39].Pairwise (· < ·) :=
  symbols_visited (List.cons_ne_nil _ _) (load_ofList (symbolTable [countSymbol, flagSymbol]))

end LibAds
