import LibAds.ConnectionTable
import LibAds.NetIdText

/-!
# The address a client connects to

`main()` of `ADSclient.c` makes an `AmsAddr` of its arguments: it prints the host
with `.1.1` behind it into `addr[20]` and parses that. `ADSsocketConnect()` makes a
text of the first four bytes again and connects there. The host that is contacted
is the one that was given if and only if that was four bytes in decimal digits
(`client_connects_iff`); every other text is taken for some such address.
-/

namespace LibAds

open CStrings

/-! ## The functions -/

/-- Bytes with dots between them. -/
def dottedText (bs : List UInt8) : List UInt8 := [dot].intercalate (bs.map fun b => decimal b.toNat)

/-- `addr` after `snprintf(addr, 20, "%s.1.1", argv[1])`. -/
def printAddr (host : CString) : CString where
  bytes := (host.bytes ++ [dot, 49, dot, 49]).take 19
  nonzero := by
    intro zero
    rcases List.mem_append.mp (List.mem_of_mem_take zero) with inside | behind
    · exact host.nonzero inside
    · exact absurd behind (by decide)

/-- `Addr` in `main()`, for the arguments `host` and `port` and what is in
`Addr.netId` before. No result where a string is read past its end. -/
def clientAddress (host port : CString) (prior : AmsNetId) : Option AmsAddr := do
  let (_, netId) ← adsParseNetID (printAddr host).start prior
  let n ← strtol port.start
  some ⟨netId, UInt16.ofInt n⟩

/-- `peer` in `ADSsocketConnect()`: the text that is given to `inet_aton()`. -/
def peerText (pAddr : AmsAddr) : List UInt8 := dottedText (pAddr.netId.b.take 4)

/-! ## Dotted texts -/

theorem msgAmsNetID2string_eq (id : AmsNetId) : msgAmsNetID2string id = dottedText id.b := rfl

theorem AmsNetId.take_four (id : AmsNetId) : ∃ a b c d, id.b.take 4 = [a, b, c, d] := by
  obtain ⟨b, size⟩ := id
  match b, size with
  | [b₀, b₁, b₂, b₃, b₄, b₅], _ => exact ⟨b₀, b₁, b₂, b₃, rfl⟩

/-- `peer[16]` is large enough for four bytes. -/
theorem length_dottedText (a b c d : UInt8) : (dottedText [a, b, c, d]).length ≤ 15 := by
  have h₀ := length_decimal_byte a
  have h₁ := length_decimal_byte b
  have h₂ := length_decimal_byte c
  have h₃ := length_decimal_byte d
  simp only [dottedText, List.map_cons, List.map_nil, List.intercalate_cons_cons,
    List.intercalate_singleton, List.length_append, List.length_singleton]
  omega

/-- And `addr[20]` is large enough for them with `.1.1` behind. -/
theorem printAddr_dotted {host : CString} {a b c d : UInt8}
    (quad : host.bytes = dottedText [a, b, c, d]) :
    (printAddr host).bytes = dottedText [a, b, c, d, 1, 1] := by
  have small := length_dottedText a b c d
  have one : decimal (1 : UInt8).toNat = [49] := by decide
  have whole : dottedText [a, b, c, d] ++ [dot, 49, dot, 49] = dottedText [a, b, c, d, 1, 1] := by
    simp only [dottedText, List.map_cons, List.map_nil, List.intercalate_cons_cons,
      List.intercalate_singleton, one, List.append_assoc, List.cons_append, List.nil_append]
  unfold printAddr
  dsimp only
  rw [quad, List.take_of_length_le, whole]
  rw [List.length_append]
  exact Nat.add_le_add_right small 4

/-! ## Arguments -/

/-- No argument makes the program read past the end of a string. -/
theorem clientAddress_total (host port : CString) (prior : AmsNetId) :
    ∃ netId, (∃ ret, adsParseNetID (printAddr host).start prior = some (ret, netId)) ∧
      clientAddress host port prior = some ⟨netId, UInt16.ofInt (longValue port.bytes)⟩ := by
  obtain ⟨netId, parsed, -⟩ := adsParseNetID_components
    (components_ne_nil (printAddr host).bytes) (components_plain (printAddr host)) prior
  rw [← start_eq] at parsed
  have number : strtol port.start = some (longValue port.bytes) := strtol_append endsNumber_zero
  refine ⟨netId, ⟨_, parsed⟩, ?_⟩
  rw [clientAddress, parsed, number]
  rfl

/-- A port in decimal digits is that port. -/
theorem port_printed (port : UInt16) : UInt16.ofInt (longValue (decimal port.toNat)) = port := by
  have small := port.toNat_lt
  have value : ((port.toNat : Int) % 2 ^ 16).toNat = port.toNat := by omega
  rw [longValue_digits decimal_digits (by rw [digitsValue_decimal]; omega), digitsValue_decimal,
    UInt16.ofInt, value, UInt16.ofNat_toNat]

/-- **Where the client connects.** For any arguments and whatever was in `Addr`
before, the program finds an address, and prints `peer` inside its buffer. It
connects to the host it was given exactly if that is four bytes in decimal
digits, and then the NetId is these bytes and 1.1 and a port in decimal digits is
the port. -/
theorem client_connects_iff (host port : CString) (prior : AmsNetId) :
    ∃ addr, clientAddress host port prior = some addr ∧ (peerText addr).length + 1 ≤ 16 ∧
      (peerText addr = host.bytes ↔ ∃ a b c d, host.bytes = dottedText [a, b, c, d]) ∧
      ∀ a b c d n, host.bytes = dottedText [a, b, c, d] → port.bytes = decimal n.toNat →
        addr = ⟨⟨[a, b, c, d, 1, 1], rfl⟩, n⟩ := by
  obtain ⟨netId, ⟨ret, parsed⟩, made⟩ := clientAddress_total host port prior
  obtain ⟨p, q, r, s, peer⟩ := netId.take_four
  have netIds : ∀ {a b c d}, host.bytes = dottedText [a, b, c, d] →
      netId = ⟨[a, b, c, d, 1, 1], rfl⟩ := by
    intro a b c d quad
    have printed := adsParseNetID_printed ⟨[a, b, c, d, 1, 1], rfl⟩ prior
    rw [msgAmsNetID2string_eq, ← printAddr_dotted quad] at printed
    rw [CString.start, printed] at parsed
    cases parsed
    rfl
  refine ⟨_, made, ?_, ⟨fun same => ?_, ?_⟩, ?_⟩
  · have small := length_dottedText p q r s
    rw [peerText, peer]
    omega
  · rw [peerText, peer] at same
    exact ⟨p, q, r, s, same.symm⟩
  · rintro ⟨a, b, c, d, quad⟩
    rw [peerText, netIds quad, quad]
    rfl
  · intro a b c d n quad digits
    rw [netIds quad, digits, port_printed]

end LibAds
