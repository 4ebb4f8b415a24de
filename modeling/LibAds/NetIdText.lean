import LibAds.CStrings
import LibAds.PacketLayout

/-!
# NetIds as text

`_ADSparseNetID()` reads the bytes of a NetId with `atoi()`, each from the
pointer where the last `.` was found to the end of the whole text, and
`_msgAmsNetID2string()` prints them. The pointer is followed along the list of
components that a text has (`parseLoop_components`): what is read at each one is
its value alone.
-/

namespace LibAds

open CStrings

/-! ## The functions -/

def dot : UInt8 := 46

/-- `q[i] = v` -/
def AmsNetId.set (q : AmsNetId) (i : Nat) (v : UInt8) : AmsNetId :=
  ⟨q.b.set i v, by rw [List.length_set, q.size]⟩

/-- The loop of `_ADSparseNetID()` at `i`, with `turns` turns to go: what is
returned, and `*id` after it. The `int` of `atoi()` is stored in a `char`. -/
def parseLoop : Nat → Nat → List UInt8 → AmsNetId → Option (Int × AmsNetId)
  | 0, _, _, q => some (0, q)
  | turns + 1, i, p, q => do
    let n ← atoi p
    let q := q.set i (UInt8.ofInt n)
    match ← strchr p dot with
    | none => some (5 - i, q)
    | some p => parseLoop turns (i + 1) p.tail q

/-- `_ADSparseNetID()`; no result where it reads past the end of the string. -/
def adsParseNetID (netIDstring : List UInt8) (id : AmsNetId) : Option (Int × AmsNetId) :=
  parseLoop 6 0 netIDstring id

/-- `_msgAmsNetID2string()`, the text before the terminating zero:
`"%d.%d.%d.%d.%d.%d"`. -/
def msgAmsNetID2string (pNetid : AmsNetId) : List UInt8 :=
  [dot].intercalate (pNetid.b.map fun b => decimal b.toNat)

/-! ## Components -/

/-- The components of a text between its dots. -/
def components (text : List UInt8) : List (List UInt8) := text.splitOn dot

/-- The byte that is stored for a component: the value of `atoi()` modulo 256. -/
def componentByte (component : List UInt8) : UInt8 := UInt8.ofInt (atoiValue component)

/-- A component has no dot, and its bytes are some of the text. -/
theorem mem_components {text c : List UInt8} (inside : c ∈ components text) :
    dot ∉ c ∧ ∀ b ∈ c, b ∈ text := by
  induction text generalizing c with
  | nil =>
      obtain rfl : c = [] := List.mem_singleton.mp inside
      exact ⟨List.not_mem_nil, fun b none => absurd none List.not_mem_nil⟩
  | cons d text ih =>
      rw [components, List.splitOn_cons_eq_if_modifyHead] at inside
      have later : c ∈ components text → dot ∉ c ∧ ∀ b ∈ c, b ∈ d :: text := fun inside =>
        ⟨(ih inside).1, fun b within => List.mem_cons_of_mem d ((ih inside).2 b within)⟩
      by_cases separator : d = dot
      · rw [if_pos (beq_iff_eq.mpr separator)] at inside
        rcases List.mem_cons.mp inside with rfl | inside
        · exact ⟨List.not_mem_nil, fun b none => absurd none List.not_mem_nil⟩
        · exact later inside
      · rw [if_neg (fun equal => separator (beq_iff_eq.mp equal))] at inside
        obtain ⟨head, tail, split⟩ := List.exists_cons_of_ne_nil (List.splitOn_ne_nil dot text)
        rw [split, List.modifyHead_cons] at inside
        have first : head ∈ components text := by
          rw [components, split]
          exact List.mem_cons_self
        rcases List.mem_cons.mp inside with rfl | inside
        · refine ⟨?_, fun b within => ?_⟩
          · rw [List.mem_cons, not_or]
            exact ⟨Ne.symm separator, (ih first).1⟩
          · rcases List.mem_cons.mp within with rfl | within
            · exact List.mem_cons_self
            · exact List.mem_cons_of_mem d ((ih first).2 b within)
        · apply later
          rw [components, split]
          exact List.mem_cons_of_mem head inside

theorem endsNumber_dot : EndsNumber dot := by
  unfold EndsNumber
  decide

theorem endsNumber_zero : EndsNumber 0 := by
  unfold EndsNumber
  decide

/-- The bytes of `q` from `i` on are those of the components, as far as there are
components and bytes. -/
def StoresFrom (i : Nat) (cs : List (List UInt8)) (q q' : AmsNetId) : Prop :=
  ∀ j, j < 6 → q'.b[j]? = if i ≤ j then (cs[j - i]?.map componentByte).or q.b[j]? else q.b[j]?

theorem StoresFrom.nil (i : Nat) (q : AmsNetId) : StoresFrom i [] q q := by
  intro j _
  simp

theorem StoresFrom.cons {i : Nat} {c : List UInt8} {cs : List (List UInt8)} {q q' : AmsNetId}
    (rest : StoresFrom (i + 1) cs (q.set i (componentByte c)) q') :
    StoresFrom i (c :: cs) q q' := by
  intro j inside
  rw [rest j inside]
  have size := q.size
  rcases Nat.lt_trichotomy j i with before | rfl | behind
  · rw [if_neg (by omega), if_neg (by omega)]
    exact List.getElem?_set_ne (by omega)
  · rw [if_neg (by omega), if_pos (Nat.le_refl j), Nat.sub_self]
    simp only [AmsNetId.set, List.getElem?_cons_zero, Option.map_some, Option.some_or]
    exact List.getElem?_set_self (by omega)
  · obtain ⟨k, rfl⟩ : ∃ k, j = i + (k + 1) := ⟨j - i - 1, by omega⟩
    rw [if_pos (by omega), if_pos (by omega), Nat.add_sub_cancel_left, List.getElem?_cons_succ,
      show i + (k + 1) - (i + 1) = k from by omega]
    congr 1
    exact List.getElem?_set_ne (by omega)

/-- **The loop follows the components**: it stores a byte for each of them, as
long as it has turns, and returns how many are missing. -/
theorem parseLoop_components {turns : Nat} {cs : List (List UInt8)} (nonempty : cs ≠ [])
    (plain : ∀ c ∈ cs, 0 ∉ c ∧ dot ∉ c) (i : Nat) (left : i + turns = 6) (q : AmsNetId) :
    ∃ q', parseLoop turns i ([dot].intercalate cs ++ [0]) q =
        some (max 0 ((turns : Int) - cs.length), q') ∧ StoresFrom i cs q q' := by
  induction turns generalizing cs i q with
  | zero =>
      refine ⟨q, ?_, ?_⟩
      · rw [parseLoop]
        congr 2
        omega
      · intro j inside
        rw [if_neg (by omega)]
  | succ turns ih =>
      cases cs with
      | nil => exact absurd rfl nonempty
      | cons c cs =>
          obtain ⟨⟨nonzero, undotted⟩, rest⟩ := List.forall_mem_cons.mp plain
          cases cs with
          | nil =>
              refine ⟨q.set i (componentByte c), ?_, .cons (.nil _ _)⟩
              have missing : (5 - i : Int) = max 0 (((turns + 1 : Nat) : Int) - ([c].length : Nat)) := by
                rw [List.length_singleton]
                omega
              rw [List.intercalate_singleton, parseLoop, atoi_append endsNumber_zero,
                strchr_missing nonzero (by decide) undotted, ← missing]
              rfl
          | cons c' cs =>
              have text : [dot].intercalate (c :: c' :: cs) ++ [0] =
                  c ++ dot :: ([dot].intercalate (c' :: cs) ++ [0]) := by
                rw [List.intercalate_cons_cons, List.append_assoc, List.append_assoc]
                rfl
              obtain ⟨q', parsed, stores⟩ := ih (List.cons_ne_nil c' cs) rest (i + 1) (by omega)
                (q.set i (componentByte c))
              refine ⟨q', ?_, .cons stores⟩
              have missing : max 0 ((turns : Int) - (c' :: cs).length) =
                  max 0 (((turns + 1 : Nat) : Int) - ((c :: c' :: cs).length : Nat)) := by
                simp only [List.length_cons]
                omega
              rw [text, parseLoop, atoi_append endsNumber_dot, strchr_found nonzero undotted,
                ← missing]
              exact parsed

/-! ## Parsing -/

theorem adsParseNetID_components {cs : List (List UInt8)} (nonempty : cs ≠ [])
    (plain : ∀ c ∈ cs, 0 ∉ c ∧ dot ∉ c) (id : AmsNetId) :
    ∃ id', adsParseNetID ([dot].intercalate cs ++ [0]) id =
        some (max 0 (6 - (cs.length : Int)), id') ∧
      ∀ i, i < 6 → id'.b[i]? = (cs[i]?.map componentByte).or id.b[i]? := by
  obtain ⟨id', parsed, stores⟩ := parseLoop_components nonempty plain 0 (Nat.zero_add 6) id
  refine ⟨id', parsed, fun i inside => ?_⟩
  rw [stores i inside, if_pos (Nat.zero_le i), Nat.sub_zero]

theorem components_ne_nil (text : List UInt8) : components text ≠ [] :=
  List.splitOn_ne_nil dot text

theorem components_plain (s : CString) : ∀ c ∈ components s.bytes, 0 ∉ c ∧ dot ∉ c :=
  fun _ inside =>
    ⟨fun zero => s.nonzero ((mem_components inside).2 0 zero), (mem_components inside).1⟩

theorem start_eq (s : CString) : s.start = [dot].intercalate (components s.bytes) ++ [0] :=
  congrArg (· ++ [0]) (List.intercalate_splitOn dot).symm

/-- **What `_ADSparseNetID()` makes of a text.** It never reads past the end of
the text, stores the value of each component modulo 256 as far as there are
bytes and components, leaves the other bytes, and returns how many of six
components are missing. -/
theorem netID_parsed (s : CString) (id : AmsNetId) :
    ∃ id', adsParseNetID s.start id =
        some (max 0 (6 - ((components s.bytes).length : Int)), id') ∧
      ∀ i, i < 6 → id'.b[i]? = ((components s.bytes)[i]?.map componentByte).or id.b[i]? := by
  rw [start_eq]
  exact adsParseNetID_components (components_ne_nil s.bytes) (components_plain s) id

/-! ## Well-formed texts -/

/-- A byte, written in decimal digits. -/
def IsByteText (c : List UInt8) : Prop :=
  c ≠ [] ∧ (∀ d ∈ c, isdigit d) ∧ digitsValue 0 c ≤ 255

instance (c : List UInt8) : Decidable (IsByteText c) :=
  inferInstanceAs (Decidable (_ ∧ _ ∧ _))

/-- Six bytes, separated by dots. -/
def IsNetIDText (text : List UInt8) : Prop :=
  (components text).length = 6 ∧ ∀ c ∈ components text, IsByteText c

instance (text : List UInt8) : Decidable (IsNetIDText text) :=
  inferInstanceAs (Decidable (_ ∧ _))

theorem componentByte_digits {c : List UInt8} (digits : ∀ d ∈ c, isdigit d)
    (small : digitsValue 0 c ≤ 255) : componentByte c = UInt8.ofNat (digitsValue 0 c) := by
  have long := longValue_digits digits (by omega)
  have value : atoiValue c = digitsValue 0 c := by
    rw [atoiValue_of_range (by omega) (by omega), long]
  have byte : ((digitsValue 0 c : Int) % 2 ^ 8).toNat = digitsValue 0 c := by omega
  rw [componentByte, value, UInt8.ofInt, byte]

/-- What the parser accepts: every text with at least six components. A
well-formed one gives its six bytes. -/
theorem netID_accepted (s : CString) (id : AmsNetId) :
    ∃ ret id', adsParseNetID s.start id = some (ret, id') ∧
      (ret = 0 ↔ 6 ≤ (components s.bytes).length) ∧
      (IsNetIDText s.bytes → ret = 0 ∧
        id'.b = (components s.bytes).map fun c => UInt8.ofNat (digitsValue 0 c)) := by
  obtain ⟨id', parsed, stores⟩ := adsParseNetID_components (components_ne_nil s.bytes)
    (components_plain s) id
  rw [start_eq]
  refine ⟨_, id', parsed, by omega, ?_⟩
  intro wellFormed
  obtain ⟨six, bytes⟩ := wellFormed
  refine ⟨by omega, List.ext_getElem? fun i => ?_⟩
  by_cases inside : i < 6
  · rw [stores i inside, List.getElem?_map, List.getElem?_eq_getElem (by omega), Option.map_some,
      Option.map_some, Option.some_or]
    have text := bytes _ (List.getElem_mem (by omega : i < (components s.bytes).length))
    rw [componentByte_digits text.2.1 text.2.2]
  · have size := id'.size
    rw [List.getElem?_eq_none (by omega), List.getElem?_eq_none (by rw [List.length_map]; omega)]

/-- 256.0.0.0.1.1 -/
def wrongByteText : CString := ⟨[50, 53, 54, 46, 48, 46, 48, 46, 48, 46, 49, 46, 49], by decide⟩

/-- A component that is no byte is cut to one. -/
theorem accepted_not_only_netIDs :
    ¬ ∀ (s : CString) (id : AmsNetId), ∃ ret id', adsParseNetID s.start id = some (ret, id') ∧
      (ret = 0 ↔ IsNetIDText s.bytes) ∧
      (ret = 0 → id'.b = (components s.bytes).map fun c => UInt8.ofNat (digitsValue 0 c)) := by
  intro accepts
  obtain ⟨ret, id', parsed, accepted, -⟩ := accepts wrongByteText ⟨[0, 0, 0, 0, 0, 0], rfl⟩
  have taken : adsParseNetID wrongByteText.start ⟨[0, 0, 0, 0, 0, 0], rfl⟩ =
      some (0, ⟨[0, 0, 0, 0, 1, 1], rfl⟩) := by decide
  rw [taken] at parsed
  cases parsed
  have first : [50, 53, 54] ∈ components wrongByteText.bytes := by decide
  have small := ((accepted.mp rfl).2 _ first).2.2
  exact absurd small (by decide)

/-! ## Printing -/

theorem length_decimal_byte (b : UInt8) : (decimal b.toNat).length ≤ 3 := by
  have small := b.toNat_lt
  rw [decimal, List.length_map, Nat.length_toDigits_le_iff (by omega) (by omega)]
  omega

/-- `buffer[64]` is large enough. -/
theorem length_msgAmsNetID2string (pNetid : AmsNetId) :
    (msgAmsNetID2string pNetid).length + 1 ≤ 64 := by
  obtain ⟨b, size⟩ := pNetid
  match b, size with
  | [b₀, b₁, b₂, b₃, b₄, b₅], _ =>
      have h₀ := length_decimal_byte b₀
      have h₁ := length_decimal_byte b₁
      have h₂ := length_decimal_byte b₂
      have h₃ := length_decimal_byte b₃
      have h₄ := length_decimal_byte b₄
      have h₅ := length_decimal_byte b₅
      simp only [msgAmsNetID2string, List.map_cons, List.map_nil, List.intercalate_cons_cons,
        List.intercalate_singleton, List.length_append, List.length_singleton]
      omega

theorem componentByte_decimal (b : UInt8) : componentByte (decimal b.toNat) = b := by
  have small := b.toNat_lt
  rw [componentByte_digits decimal_digits (by rw [digitsValue_decimal]; omega),
    digitsValue_decimal, UInt8.ofNat_toNat]

/-- A printed byte has no dot and no zero. -/
theorem decimal_plain (n : Nat) : 0 ∉ decimal n ∧ dot ∉ decimal n :=
  ⟨fun inside => absurd (decimal_digits 0 inside) (by decide),
    fun inside => absurd (decimal_digits dot inside) (by decide)⟩

theorem adsParseNetID_printed (id prior : AmsNetId) :
    adsParseNetID (msgAmsNetID2string id ++ [0]) prior = some (0, id) := by
  have size := id.size
  have nonempty : (id.b.map fun b => decimal b.toNat) ≠ [] := by
    intro empty
    have length := congrArg List.length empty
    rw [List.length_map, size] at length
    cases length
  obtain ⟨id', parsed, stores⟩ := adsParseNetID_components nonempty (by
    intro c inside
    obtain ⟨b, -, rfl⟩ := List.mem_map.mp inside
    exact decimal_plain b.toNat) prior
  have bytes : id'.b = id.b := by
    apply List.ext_getElem?
    intro i
    by_cases inside : i < 6
    · rw [stores i inside, List.getElem?_map, List.getElem?_eq_getElem (by omega), Option.map_some,
        Option.map_some, Option.some_or, componentByte_decimal]
    · have size' := id'.size
      rw [List.getElem?_eq_none (by omega), List.getElem?_eq_none (by omega)]
  have equal : id' = id := by
    cases id'
    cases id
    congr 1
  rw [msgAmsNetID2string, parsed, List.length_map, size, equal]
  rfl

/-- **Printing and parsing.** The text of a NetId is parsed back to it, so no two
NetIds have the same text. -/
theorem netID_round_trip :
    (∀ id prior : AmsNetId, adsParseNetID (msgAmsNetID2string id ++ [0]) prior = some (0, id)) ∧
      ∀ id id' : AmsNetId, msgAmsNetID2string id = msgAmsNetID2string id' → id = id' := by
  refine ⟨adsParseNetID_printed, fun id id' same => ?_⟩
  have parsed := adsParseNetID_printed id id
  rw [same, adsParseNetID_printed id' id] at parsed
  cases parsed
  rfl

end LibAds
