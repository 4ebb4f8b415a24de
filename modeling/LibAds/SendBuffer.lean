import LibAds.ReadFailure

/-!
# The send buffer

What the six builders store, and what of it is sent. A builder stores from
`msgOut` on and never looks at the size of the buffer, so the caller's data can
run into the addresses behind it. And it never clears the buffer, so a packet
that announces data for a null pointer carries whatever an earlier request left
there.
-/

namespace LibAds

open ByteMemory SocketModel

/-! ## What a builder stores -/

/-- The caller's data that a builder copies, if its pointer is not NULL. -/
def Call.data : Call → Option Mem
  | .writeBytes _ _ _ data | .readWriteBytes _ _ _ _ data _ | .writeControl _ _ data _ => data
  | _ => none

/-- Where a builder copies them to. -/
def Call.dataStart (c : Call) : Nat := msgOut + dataOffset + c.dataAt

/-- The lengths that are an `int` are one. -/
def Call.IntLength : Call → Prop
  | .writeBytes _ _ length _ | .writeControl _ _ _ length => IntRange length
  | _ => True

/-- The copied data stand in the packet, however long they are. -/
theorem Call.request_copied {c : Call} {data : Mem} (pointer : c.data = some data)
    (dc : ADSConnection) {j : Nat} (inside : j < c.dataSize) :
    (c.request dc).mem (c.dataStart + j) = data j := by
  have sizes := packetSizes
  cases c with
  | writeBytes indexGroup offset length data' =>
      cases pointer
      exact copy_apply_within _ data _ _ j inside
  | readWriteBytes indexGroup offset readLength writeLength writeBuffer pnRead =>
      cases pointer
      exact copy_apply_within _ data _ _ j inside
  | writeControl ADSstate devState data' length =>
      cases pointer
      simp only [Call.dataStart, Call.dataAt, Call.request, writeControlRequest]
      rw [put32_apply_outside (by omega), put32_apply_outside (by omega)]
      exact copy_apply_within _ data _ _ j inside
  | readBytes => cases pointer
  | readDeviceInfo => cases pointer
  | readState => cases pointer

/-- With data to copy, fitting means that they end inside the buffer. -/
theorem Call.fits_iff {c : Call} {data : Mem} (pointer : c.data = some data) (int : c.IntLength) :
    c.Fits ↔ dataOffset + c.dataAt + c.dataSize ≤ MAXDATALEN := by
  refine ⟨Call.Fits.dataSize, fun inside => ?_⟩
  have sizes := packetSizes
  have nonneg : ∀ {length : Int}, IntRange length → dataOffset + sizeT length ≤ MAXDATALEN →
      0 ≤ length ∧ (sizeT length : Int) = length := by
    rintro length ⟨low, high⟩ small
    unfold sizeT at small ⊢
    omega
  cases c with
  | writeBytes indexGroup offset length data' =>
      cases pointer
      have inside : dataOffset + 12 + sizeT length ≤ MAXDATALEN := inside
      rcases nonneg int (by omega) with ⟨nonneg, size⟩
      exact ⟨nonneg, by omega⟩
  | readWriteBytes indexGroup offset readLength writeLength writeBuffer pnRead =>
      cases pointer
      exact inside
  | writeControl ADSstate devState data' length =>
      cases pointer
      have inside : dataOffset + 8 + sizeT length ≤ MAXDATALEN := inside
      rcases nonneg int (by omega) with ⟨nonneg, size⟩
      exact ⟨nonneg, by omega⟩
  | readBytes => cases pointer
  | readDeviceInfo => cases pointer
  | readState => cases pointer

/-- The builder of a call stores at `i`: in some connection the byte there
changes. -/
def Call.Stores (c : Call) (i : Nat) : Prop := ∃ dc, (c.request dc).mem i ≠ dc.mem i

theorem Call.Stores.inside {c : Call} {i : Nat} (stores : c.Stores i) :
    msgOut ≤ i ∧ i < c.dataStart + c.dataSize := by
  rcases stores with ⟨dc, changed⟩
  refine ⟨?_, ?_⟩
  · by_contra below
    exact changed (Call.request_mem (by omega))
  · by_contra past
    exact changed (Call.request_past (by unfold Call.dataStart at past; omega))

/-- Every byte of the caller's data is a byte stored. -/
theorem Call.stores_data {c : Call} {data : Mem} (pointer : c.data = some data) {j : Nat}
    (inside : j < c.dataSize) : c.Stores (c.dataStart + j) := by
  refine ⟨{ freshConnection with mem := fun _ => data j + 1 }, ?_⟩
  rw [Call.request_copied pointer _ inside]
  simp

/-! ## The addresses behind the buffer -/

/-- The addresses of a connection are kept when its bytes are. -/
theorem identity_kept_iff {dc dc' : ADSConnection} :
    (dc'.partner = dc.partner ∧ dc'.AMSport = dc.AMSport) ↔
      ∀ i, partnerOffset ≤ i → i < sizeofConnection → dc'.mem i = dc.mem i := by
  constructor
  · rintro ⟨partner, AMSport⟩ i front back
    have netId := congrArg AmsNetId.b partner
    have port := load_eq_of_get32 AMSport
    unfold sizeofConnection portOffset at back
    unfold portOffset at port
    by_cases inNetId : i < partnerOffset + 6
    · have byte := load_eq_apply netId (by omega : i - partnerOffset < 6)
      rwa [Nat.add_sub_cancel' front] at byte
    · have byte := load_eq_apply port (by omega : i - (partnerOffset + 6) < 4)
      rwa [Nat.add_sub_cancel' (by omega)] at byte
  · intro kept
    have netId : load dc'.mem partnerOffset 6 = load dc.mem partnerOffset 6 :=
      load_congr fun i within => kept _ (by omega) (by unfold sizeofConnection portOffset; omega)
    have port : load dc'.mem portOffset 4 = load dc.mem portOffset 4 :=
      load_congr fun i within => kept _ (by unfold portOffset; omega)
        (by unfold sizeofConnection; omega)
    exact ⟨by simp only [ADSConnection.partner, AmsNetId.read, netId], get32_congr port⟩

/-- The caller's data that run into the addresses are what stands there. -/
def Call.SparesIdentity (c : Call) (data : Mem) (dc : ADSConnection) : Prop :=
  ∀ j, j < c.dataSize → partnerOffset ≤ c.dataStart + j → c.dataStart + j < sizeofConnection →
    data j = dc.mem (c.dataStart + j)

theorem Call.sparesIdentity_iff {σ : Type} [Socket σ] {c : Call} {data : Mem}
    (pointer : c.data = some data) {dc : ADSConnection} {s : σ} :
    c.SparesIdentity data dc ↔
      (c.run dc s).dc.partner = dc.partner ∧ (c.run dc s).dc.AMSport = dc.AMSport := by
  have start : c.dataStart ≤ partnerOffset := by
    have sizes := packetSizes
    have small : c.dataAt ≤ 16 := by cases c <;> simp [Call.dataAt]
    unfold Call.dataStart partnerOffset
    omega
  rw [identity_kept_iff]
  constructor
  · intro spares i front back
    rw [Call.run_mem (by unfold partnerOffset at front; omega)]
    by_cases copied : i < c.dataStart + c.dataSize
    · obtain ⟨j, rfl⟩ : ∃ j, i = c.dataStart + j := ⟨i - c.dataStart, by omega⟩
      rw [Call.request_copied pointer dc (by omega)]
      exact spares j (by omega) front back
    · exact Call.request_past (by unfold Call.dataStart at copied; omega)
  · intro kept j inside front back
    rw [← kept _ front back, Call.run_mem (by unfold partnerOffset at front; omega),
      Call.request_copied pointer dc inside]

/-! ## What is sent -/

/-- The bytes of its request that a call sends. -/
def Call.sent {σ : Type} [Socket σ] (c : Call) (dc : ADSConnection) (s : σ) : List UInt8 :=
  packetSent dc.iface (c.request dc).mem msgOut s

theorem Call.sent_length_le (c : Call) (dc : ADSConnection) (s : Script) :
    (c.sent dc s).length ≤ (c.handed dc).length := by
  unfold Call.sent packetSent
  split
  · exact Nat.zero_le _
  · exact List.length_take_le' _ _

theorem Call.handed_ne_nil (c : Call) (dc : ADSConnection) : c.handed dc ≠ [] := by
  have sizes := packetSizes
  apply List.ne_nil_of_length_pos
  rw [Call.handed, length_load]
  omega

/-- Nothing is sent where the call does not come to `send()`, or `send()` takes
nothing. -/
theorem Call.sent_eq_nil_iff (c : Call) (dc : ADSConnection) (s : Script) :
    c.sent dc s = [] ↔ dc.iface.error ≠ 0 ∨ s.TakesNothing := by
  unfold Call.sent packetSent
  by_cases flagged : dc.iface.error ≠ 0
  · rw [if_pos flagged]
    exact iff_of_true rfl (Or.inl flagged)
  · rw [if_neg flagged, or_iff_right flagged, ← Script.taken_eq_zero_iff (c.handed_ne_nil dc)]
    exact List.take_eq_nil_iff.trans (or_iff_left (c.handed_ne_nil dc))

/-- A call of which nothing is sent fails. -/
theorem Call.fails_of_unsent {c : Call} {dc : ADSConnection} {s : Script}
    (unsent : c.sent dc s = []) : (c.run dc s).ret ≠ 0 := by
  by_cases flagged : dc.iface.error ≠ 0
  · rw [Call.run_of_unsent (by omega) (adsWritePacket_flagged flagged)]
    exact (by decide : (1 : Int) ≠ 0)
  · have clear : dc.iface.error = 0 := not_not.mp flagged
    obtain ⟨errno, tx, next⟩ := ((c.sent_eq_nil_iff dc s).mp unsent).resolve_left flagged
    have refused : (0x1a : Int) ≠ 0 := by decide
    rcases s with ⟨tx', rx, handed⟩
    rcases next with rfl | rfl
    · rw [Call.run_of_unsent (Int.le_refl 0) (adsWritePacket_failed clear rfl)]
      exact refused
    · have short : sizeT (wrapInt (0 : Nat)) ≠
          sizeofTCPheader + (adsLength (c.request dc).mem msgOut).toNat := by
        rw [show sizeT (wrapInt (0 : Nat)) = 0 from by decide]
        exact (Nat.add_pos_left (by decide) _).ne
      have written : adsWritePacket (some dc.iface) (c.request dc).mem msgOut
          (⟨.short 0 errno :: tx, rx, handed⟩ : Script) =
          ⟨0, some errno, ⟨tx, rx, handed ++ [c.handed dc]⟩⟩ := by
        simp only [adsWritePacket, if_neg flagged, Socket.send, Script.send, if_pos short]
        rfl
      rw [Call.run_of_unsent (Int.le_refl 0) written]
      exact refused

/-! ## Calls that stay inside the buffer -/

/-- The call returns: it is refused and nothing is sent, or everything it stores
and everything it sends lies in `msgOut`; and the connection keeps its addresses. -/
structure Call.Contained (c : Call) (dc : ADSConnection) (s : Script) (r : CallResult Script) :
    Prop where
  returns : c.exec dc s = .ok r
  buffer : (r.ret ≠ 0 ∧ c.sent dc s = []) ∨
    ((∀ i, c.Stores i → msgOut ≤ i ∧ i < msgOut + MAXDATALEN) ∧
      (c.sent dc s).length ≤ MAXDATALEN)
  partner : r.dc.partner = dc.partner
  AMSport : r.dc.AMSport = dc.AMSport

/-- The first byte behind the buffer is stored by every call that does not fit. -/
theorem Call.stores_partner {c : Call} {data : Mem} (pointer : c.data = some data)
    (int : c.IntLength) (large : ¬ c.Fits) :
    ∃ j, c.dataStart + j = partnerOffset ∧ j < c.dataSize := by
  have sizes := packetSizes
  have small : c.dataAt ≤ 16 := by cases c <;> simp [Call.dataAt]
  rw [Call.fits_iff pointer int] at large
  refine ⟨partnerOffset - c.dataStart, ?_, ?_⟩ <;> unfold Call.dataStart partnerOffset <;> omega

/-- **Which calls stay inside the send buffer.** Those that fit, and of those
that end in the ten bytes behind it the ones of which nothing is sent and whose
data repeat the addresses they are written over. -/
theorem contained_iff (c : Call) (data : Mem) (pointer : c.data = some data) (int : c.IntLength)
    (dc : ADSConnection) (s : Script) :
    (∃ r, c.Contained dc s r) ↔ c.Fits ∨
      (c.InConnection ∧ (dc.iface.error ≠ 0 ∨ s.TakesNothing) ∧ c.SparesIdentity data dc) := by
  constructor
  · rintro ⟨r, contained⟩
    obtain ⟨inside, rfl⟩ := Call.exec_eq_ok.mp contained.returns
    by_cases fits : c.Fits
    · exact Or.inl fits
    · refine Or.inr ⟨inside, ?_,
        (Call.sparesIdentity_iff pointer).mpr ⟨contained.partner, contained.AMSport⟩⟩
      rcases contained.buffer with ⟨-, unsent⟩ | ⟨stored, -⟩
      · exact (c.sent_eq_nil_iff dc s).mp unsent
      · obtain ⟨j, first, inside⟩ := Call.stores_partner pointer int fits
        have behind := (stored _ (Call.stores_data pointer inside)).2
        rw [first] at behind
        exact absurd behind (Nat.lt_irrefl partnerOffset)
  · rintro (fits | ⟨inside, unsent, spares⟩)
    · have keeps := (Call.run_keeps fits dc s).1
      refine ⟨c.run dc s, Call.exec_eq_ok.mpr ⟨fits.inConnection, rfl⟩,
        Or.inr ⟨fun i stores => ?_, ?_⟩, keeps.partner, keeps.AMSport⟩
      · have inside := fits.dataSize
        have range := stores.inside
        unfold Call.dataStart at range
        omega
      · refine (c.sent_length_le dc s).trans ?_
        rw [Call.handed, length_load]
        exact (Call.request_length fits dc).2
    · have unsent := (c.sent_eq_nil_iff dc s).mpr unsent
      have kept := (Call.sparesIdentity_iff (s := s) pointer).mp spares
      exact ⟨c.run dc s, Call.exec_eq_ok.mpr ⟨inside, rfl⟩,
        Or.inl ⟨Call.fails_of_unsent unsent, unsent⟩, kept.1, kept.2⟩

/-- One byte more than a write request has room for. -/
def writeOneTooMany : Call := .writeBytes 0xf005 0 8143 (some fun _ => 7)

theorem writeOneTooMany_contained_iff :
    (∃ r, writeOneTooMany.Contained freshConnection ⟨[], [], []⟩ r) ↔ writeOneTooMany.Fits ∨
      (writeOneTooMany.InConnection ∧
        (freshConnection.iface.error ≠ 0 ∨ Script.TakesNothing ⟨[], [], []⟩) ∧
        writeOneTooMany.SparesIdentity (fun _ => 7) freshConnection) :=
  contained_iff writeOneTooMany (fun _ => 7) rfl ⟨by decide, by decide⟩ freshConnection
    ⟨[], [], []⟩

/-- Its last byte replaces the first one of the partner's NetId. -/
theorem calls_not_always_contained :
    ¬ ∀ (c : Call) (data : Mem), c.data = some data → c.IntLength →
      ∀ (dc : ADSConnection) (s : Script), ∃ r, c.Contained dc s r := by
  intro contained
  obtain ⟨r, returns, -, partner, AMSport⟩ := contained writeOneTooMany (fun _ => 7) rfl
    ⟨by decide, by decide⟩ freshConnection ⟨[], [], []⟩
  obtain ⟨-, rfl⟩ := Call.exec_eq_ok.mp returns
  have spares := (Call.sparesIdentity_iff rfl).mpr ⟨partner, AMSport⟩
  have repeated := spares 8142 (by decide) (by decide) (by decide)
  have netId : freshConnection.mem (writeOneTooMany.dataStart + 8142) = 10 := by decide +kernel
  rw [netId] at repeated
  exact absurd repeated (by decide)

/-! ## Where the bytes of a packet come from -/

/-- The bytes that a builder assigns, from the start of the packet on. -/
def Call.written (c : Call) (dc : ADSConnection) : List UInt8 :=
  headerBytes c.tcpLength (c.header dc) ++ c.asRequest.fixed ++ c.asRequest.data

theorem Call.load_written {c : Call} (fits : c.Fits) (dc : ADSConnection) :
    load (c.request dc).mem msgOut (c.written dc).length = c.written dc := by
  rw [Call.written, List.length_append, List.length_append, length_headerBytes,
    Request.length_fixed, load_add, load_add, Call.request_headers fits dc,
    Call.request_fixed fits dc, ← Nat.add_assoc, Call.request_data fits dc]

theorem Call.length_handed {c : Call} (fits : c.Fits) (dc : ADSConnection) :
    (c.handed dc).length = sizeofTCPheader + c.tcpLength.toNat := by
  rw [Call.handed, length_load, (headerBytes_read (Call.request_headers fits dc)).1]

/-- No data are announced that the builder does not copy. -/
def Call.sourced : Call → Prop
  | .writeBytes _ _ length none => length = 0
  | .readWriteBytes _ _ _ writeLength none _ => writeLength = 0
  | _ => True

/-- Then every byte of the packet is assigned. `ADSwriteControl()` sends less
than it assigns when it has data. -/
theorem Call.handed_written {c : Call} (fits : c.Fits) (sourced : c.sourced)
    (dc : ADSConnection) :
    c.handed dc = (c.written dc).take (sizeofTCPheader + c.tcpLength.toNat) := by
  have small := c.announced_le fits
  have sizes := packetSizes
  have covered : sizeofTCPheader + c.tcpLength.toNat ≤ (c.written dc).length := by
    rw [Call.written, List.length_append, List.length_append, length_headerBytes,
      Request.length_fixed]
    by_cases sendable : c.sendable
    · rcases Call.sendable_lengths fits sendable with ⟨size, length⟩
      rw [length, toNat_tcpLength (by omega), size]
      omega
    · cases c with
      | writeControl ADSstate devState data length =>
          have value : (Call.writeControl ADSstate devState data length).tcpLength.toNat = 40 := rfl
          have fixed : (Call.writeControl ADSstate devState data length).asRequest.fixedSize = 8 :=
            rfl
          omega
      | writeBytes indexGroup offset length data =>
          cases data <;> exact absurd sourced sendable
      | readWriteBytes indexGroup offset readLength writeLength writeBuffer pnRead =>
          cases writeBuffer <;> exact absurd sourced sendable
      | readBytes => exact absurd trivial sendable
      | readDeviceInfo => exact absurd trivial sendable
      | readState => exact absurd trivial sendable
  have whole := Call.load_written fits dc
  generalize c.written dc = bytes at whole covered ⊢
  obtain ⟨k, size⟩ := Nat.exists_eq_add_of_le covered
  rw [Call.handed, (headerBytes_read (Call.request_headers fits dc)).1, ← whole, size,
    @load_add _ _ _ k, List.take_left' (length_load _ _ _)]

/-- Otherwise the first byte behind the fixed fields is one that an earlier
request left there. -/
theorem Call.handed_leftover {c : Call} (fits : c.Fits) (unsourced : ¬ c.sourced)
    (dc : ADSConnection) :
    (c.handed dc)[dataOffset + c.dataAt]? = some (dc.mem (msgOut + (dataOffset + c.dataAt))) := by
  have length := Call.length_handed fits dc
  have small := c.announced_le fits
  have sizes := packetSizes
  have announced : c.dataSize = 0 ∧ dataOffset + c.dataAt < sizeofTCPheader + c.tcpLength.toNat := by
    cases c with
    | writeBytes indexGroup offset n data =>
        cases data with
        | some data => exact absurd trivial unsourced
        | none =>
            rcases fits with ⟨nonneg, fits⟩
            rcases Int.eq_ofNat_of_zero_le nonneg with ⟨n, rfl⟩
            have positive : (n : Int) ≠ 0 := unsourced
            refine ⟨rfl, ?_⟩
            simp only [Call.tcpLength, Call.dataAt, Call.asRequest, Request.fixedSize,
              Request.announced] at small ⊢
            rw [toNat_ofInt_natCast (by omega)] at small ⊢
            rw [toNat_tcpLength (by omega)]
            omega
    | readWriteBytes indexGroup offset readLength writeLength writeBuffer pnRead =>
        cases writeBuffer with
        | some data => exact absurd trivial unsourced
        | none =>
            have positive : writeLength.toNat ≠ 0 := fun zero =>
              unsourced (UInt32.toNat_inj.mp zero)
            refine ⟨rfl, ?_⟩
            simp only [Call.tcpLength, Call.dataAt, Call.asRequest, Request.fixedSize,
              Request.announced] at small ⊢
            rw [toNat_tcpLength (by omega)]
            omega
    | readBytes => exact absurd trivial unsourced
    | readDeviceInfo => exact absurd trivial unsourced
    | readState => exact absurd trivial unsourced
    | writeControl => exact absurd trivial unsourced
  rw [Call.handed, length_load] at length
  rw [Call.handed, getElem?_load, length, if_pos announced.2, Call.request_past (by omega)]

/-! ## What two connections send -/

/-- The connections agree in all but their buffers. -/
structure SameConnection (dc dc' : ADSConnection) : Prop where
  iface : dc'.iface = dc.iface
  partner : dc'.partner = dc.partner
  AMSport : dc'.AMSport = dc.AMSport
  invokeId : dc'.invokeId = dc.invokeId

theorem Call.written_same (c : Call) {dc dc' : ADSConnection} (same : SameConnection dc dc') :
    c.written dc' = c.written dc := by
  rcases same with ⟨iface, partner, AMSport, invokeId⟩
  simp only [Call.written, Call.header, iface, partner, AMSport, invokeId]

/-- A connection whose `msgOut` has another byte at `i`. -/
def ADSConnection.withByte (dc : ADSConnection) (i : Nat) : ADSConnection :=
  { dc with mem := Function.update dc.mem i (dc.mem i + 1) }

theorem ADSConnection.withByte_same (dc : ADSConnection) {i : Nat} (inside : i < partnerOffset) :
    SameConnection dc (dc.withByte i) := by
  have kept : ∀ k, partnerOffset ≤ k → k < sizeofConnection → (dc.withByte i).mem k = dc.mem k :=
    fun k front _ => Function.update_of_ne (by omega) _ _
  rcases identity_kept_iff.mpr kept with ⟨partner, AMSport⟩
  exact ⟨rfl, partner, AMSport, rfl⟩

/-- With data announced that are not copied, the leftovers of two connections
show in what they send. -/
theorem Call.leaks {c : Call} (fits : c.Fits) (unsourced : ¬ c.sourced) {dc : ADSConnection}
    (clear : dc.iface.error = 0) :
    ∃ dc', SameConnection dc dc' ∧
      ∀ s : Script, (c.run dc' s).sock.handed ≠ (c.run dc s).sock.handed := by
  have sizes := packetSizes
  have small : c.dataAt ≤ 16 := by cases c <;> simp [Call.dataAt]
  have same := dc.withByte_same
    (by unfold partnerOffset; omega : msgOut + (dataOffset + c.dataAt) < partnerOffset)
  refine ⟨_, same, fun s handed => ?_⟩
  rw [Call.run_hands, Call.run_hands, if_pos clear, if_pos (same.iface ▸ clear)] at handed
  have equal := List.singleton_inj.mp (List.append_cancel_left handed)
  have byte := Call.handed_leftover fits unsourced
    (dc.withByte (msgOut + (dataOffset + c.dataAt)))
  rw [equal, Call.handed_leftover fits unsourced dc] at byte
  simp [ADSConnection.withByte] at byte

/-- **Whose requests carry nothing of an earlier one.** Whatever the buffers
hold, the same bytes are handed to `send()`, unless data are announced for a
null pointer. -/
theorem request_fresh_iff (c : Call) (fits : c.Fits) (dc : ADSConnection) :
    (∀ dc', SameConnection dc dc' → ∀ s : Script,
        (c.run dc' s).sock.handed = (c.run dc s).sock.handed) ↔
      dc.iface.error ≠ 0 ∨ c.sourced := by
  constructor
  · intro fresh
    by_contra leaking
    rcases not_or.mp leaking with ⟨clear, unsourced⟩
    obtain ⟨dc', same, differ⟩ := Call.leaks fits unsourced (not_not.mp clear)
    exact differ ⟨[], [], []⟩ (fresh dc' same ⟨[], [], []⟩)
  · intro settled dc' same s
    rw [Call.run_hands, Call.run_hands, same.iface]
    by_cases clear : dc.iface.error = 0
    · have sourced := settled.resolve_left (not_not_intro clear)
      rw [Call.handed_written fits sourced, Call.handed_written fits sourced,
        c.written_same same]
    · rw [if_neg clear, if_neg clear]

/-- Four bytes announced and a null pointer for them. -/
def writeNull : Call := .writeBytes 0xf005 0 4 none

theorem writeNull_fresh_iff :
    (∀ dc', SameConnection freshConnection dc' → ∀ s : Script,
        (writeNull.run dc' s).sock.handed = (writeNull.run freshConnection s).sock.handed) ↔
      freshConnection.iface.error ≠ 0 ∨ writeNull.sourced :=
  request_fresh_iff writeNull ⟨by decide, by decide⟩ freshConnection

/-- The packet carries what stood in `msgOut` before. -/
theorem request_not_always_fresh :
    ¬ ∀ (c : Call), c.Fits → ∀ dc dc', SameConnection dc dc' → ∀ s : Script,
      (c.run dc' s).sock.handed = (c.run dc s).sock.handed := by
  intro fresh
  have fits : writeNull.Fits := ⟨by decide, by decide⟩
  have unsourced : ¬ writeNull.sourced := fun (zero : (4 : Int) = 0) => absurd zero (by decide)
  obtain ⟨dc', same, differ⟩ := @Call.leaks writeNull fits unsourced freshConnection rfl
  exact differ ⟨[], [], []⟩ (fresh writeNull fits freshConnection dc' same ⟨[], [], []⟩)

end LibAds
