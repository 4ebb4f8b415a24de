import LibAds.RequestEncoding

/-!
# Requests issued one after the other

A connection keeps its addresses and counts its requests whatever arrives in
between, so a sequence of calls hands one packet after the other to `send()`,
each with the next invoke id. A peer that reads packet by packet and looks at
them through the request structs recovers the sequence (`requests_decoded`).
-/

namespace LibAds

open ByteMemory SocketModel

/-! ## Looking at a request -/

/-- The command of a request. -/
def Request.command : Request → UInt16
  | .readDevInfo => cmdADSreadDevInfo
  | .read .. => cmdADSread
  | .write .. => cmdADSwrite
  | .readState => cmdADSreadState
  | .writeControl .. => cmdADSwriteControl
  | .readWrite .. => cmdADSreadWrite

/-- The request in the packet at `p`, seen through the request structs. -/
def Request.decode (m : Mem) (p : Nat) : Option Request :=
  let rq := p + dataOffset
  if commandId m p = cmdADSreadDevInfo then some .readDevInfo
  else if commandId m p = cmdADSread then
    some (.read (get32 m rq) (get32 m (rq + 4)) (get32 m (rq + 8)))
  else if commandId m p = cmdADSwrite then
    some (.write (get32 m rq) (get32 m (rq + 4)) (get32 m (rq + 8))
      (load m (rq + 12) (get32 m (rq + 8)).toNat))
  else if commandId m p = cmdADSreadState then some .readState
  else if commandId m p = cmdADSwriteControl then
    some (.writeControl (get16 m rq) (get16 m (rq + 2)) (get32 m (rq + 4))
      (load m (rq + 8) (get32 m (rq + 4)).toNat))
  else if commandId m p = cmdADSreadWrite then
    some (.readWrite (get32 m rq) (get32 m (rq + 4)) (get32 m (rq + 8)) (get32 m (rq + 12))
      (load m (rq + 16) (get32 m (rq + 12)).toNat))
  else none

/-- A request is read back from its packet. -/
theorem Request.decode_of_packet {m : Mem} {p : Nat} {h : AMSheader} {r : Request}
    (held : load m p (dataOffset + (r.fixed ++ r.data).length) = adsPacket h (r.fixed ++ r.data))
    (command : h.commandId = r.command) (counted : r.data.length = r.announced) :
    Request.decode m p = some r := by
  obtain ⟨header, body⟩ := adsPacket_read held
  have seen : commandId m p = r.command := by
    rw [← command, ← header]
    rfl
  rw [List.length_append] at body
  obtain ⟨fields, data⟩ := load_append_inj body rfl
  unfold Request.decode
  rw [seen]
  cases r with
  | readDevInfo => rfl
  | read indexGroup indexOffset length =>
      obtain ⟨front, third⟩ := @load_append_inj m (p + dataOffset) 8 4 _ _ fields (by simp)
      obtain ⟨first, second⟩ := @load_append_inj m (p + dataOffset) 4 4 _ _ front (by simp)
      simp only [get32_of_load first, get32_of_load second, get32_of_load third]
      rfl
  | write indexGroup indexOffset length bytes =>
      obtain ⟨front, third⟩ := @load_append_inj m (p + dataOffset) 8 4 _ _ fields (by simp)
      obtain ⟨first, second⟩ := @load_append_inj m (p + dataOffset) 4 4 _ _ front (by simp)
      have size : length.toNat = bytes.length := counted.symm
      have tail : load m (p + dataOffset + 12) bytes.length = bytes := data
      simp only [get32_of_load first, get32_of_load second, get32_of_load third, size, tail]
      rfl
  | readState => rfl
  | writeControl ADSstate devState length bytes =>
      obtain ⟨front, third⟩ := @load_append_inj m (p + dataOffset) 4 4 _ _ fields (by simp)
      obtain ⟨first, second⟩ := @load_append_inj m (p + dataOffset) 2 2 _ _ front (by simp)
      have size : length.toNat = bytes.length := counted.symm
      have tail : load m (p + dataOffset + 8) bytes.length = bytes := data
      simp only [get16_of_load first, get16_of_load second, get32_of_load third, size, tail]
      rfl
  | readWrite indexGroup indexOffset readLength writeLength bytes =>
      obtain ⟨front, fourth⟩ := @load_append_inj m (p + dataOffset) 12 4 _ _ fields (by simp)
      obtain ⟨front, third⟩ := @load_append_inj m (p + dataOffset) 8 4 _ _ front (by simp)
      obtain ⟨first, second⟩ := @load_append_inj m (p + dataOffset) 4 4 _ _ front (by simp)
      have size : writeLength.toNat = bytes.length := counted.symm
      have tail : load m (p + dataOffset + 16) bytes.length = bytes := data
      simp only [get32_of_load first, get32_of_load second, get32_of_load third,
        get32_of_load fourth, size, tail]
      rfl

/-! ## What a call leaves for the next one -/

/-- The interface and the addresses of the connection are as before. -/
structure Keeps (dc dc' : ADSConnection) : Prop where
  iface : dc'.iface = dc.iface
  partner : dc'.partner = dc.partner
  AMSport : dc'.AMSport = dc.AMSport

theorem Keeps.of_mem {dc dc' : ADSConnection} (iface : dc'.iface = dc.iface)
    (behind : ∀ i, partnerOffset ≤ i → dc'.mem i = dc.mem i) : Keeps dc dc' := by
  refine ⟨iface, ?_, ?_⟩
  · have bytes : load dc'.mem partnerOffset 6 = load dc.mem partnerOffset 6 :=
      load_congr fun i _ => behind _ (by omega)
    simp only [ADSConnection.partner, AmsNetId.read, bytes]
  · have bytes : load dc'.mem portOffset 4 = load dc.mem portOffset 4 :=
      load_congr fun i _ => behind _ (by unfold portOffset; omega)
    exact get32_congr bytes

/-- A call whose request fits keeps the connection's identity, whatever the
transport does, and counts one request. -/
theorem Call.run_keeps {σ : Type} [Socket σ] {c : Call} (fits : c.Fits) (dc : ADSConnection)
    (s : σ) : Keeps dc (c.run dc s).dc ∧ (c.run dc s).dc.invokeId = dc.invokeId + 1 := by
  rcases c.unsent_or_sends dc s with unsent | ⟨s₁, sends⟩
  · rw [Call.run_unsent unsent]
    exact ⟨.of_mem (c.request_iface dc) fun i behind => Call.request_behind fits behind,
      c.request_invokeId dc⟩
  · have kept : ∀ i, partnerOffset ≤ i → (c.run dc s).dc.mem i = dc.mem i := by
      intro i behind
      rw [Call.run_mem (by unfold partnerOffset at behind; omega)]
      exact Call.request_behind fits behind
    rw [Call.run_sent sends] at kept ⊢
    exact ⟨.of_mem (c.finish_iface dc _) kept, c.finish_invokeId dc _⟩

/-- Reading touches neither the outcomes of `send()` nor what was handed to it. -/
theorem adsReadPacket_script (di : Option ADSInterface) (m : Mem) (b : Nat) (s : Script) :
    (adsReadPacket di m b s).sock.tx = s.tx ∧
      (adsReadPacket di m b s).sock.handed = s.handed := by
  refine @adsReadPacket_invariant Script _ (fun _ s' => s'.tx = s.tx ∧ s'.handed = s.handed) b
    ?_ (fun _ _ kept => kept) di m s ⟨rfl, rfl⟩
  rintro m' ⟨tx, rx, handed⟩ a pt _ _ kept
  rcases rx with _ | ⟨_ | _ | _ | _ | _, rx⟩ <;> exact kept

/-- A call hands one packet to `send()`, unless the interface is flagged. -/
theorem Call.run_hands (c : Call) (dc : ADSConnection) (s : Script) :
    (c.run dc s).sock.handed =
      if dc.iface.error = 0 then s.handed ++ [c.handed dc] else s.handed := by
  have written : (c.run dc s).sock.handed =
      (adsWritePacket (some dc.iface) (c.request dc).mem msgOut s).sock.handed := by
    rcases c.unsent_or_sends dc s with unsent | ⟨s₁, sends⟩
    · rw [Call.run_unsent unsent]
    · rw [Call.run_sent sends, Call.finish_sock, (adsReadPacket_script _ _ _ _).2]
      unfold Call.Sends at sends
      rw [sends]
  rw [written]
  by_cases clear : dc.iface.error = 0
  · rw [if_pos clear, adsWritePacket_handed clear]
    rfl
  · simp only [adsWritePacket, clear, ne_eq, not_false_eq_true, if_true, if_false]

/-- The AMS header of a request that is `k` calls ahead. -/
def Call.headerAt (c : Call) (dc : ADSConnection) (k : Nat) : AMSheader :=
  { c.header dc with invokeId := dc.invokeId + UInt32.ofNat k + 1 }

theorem Call.headerAt_zero (c : Call) (dc : ADSConnection) : c.headerAt dc 0 = c.header dc := by
  have first : dc.invokeId + UInt32.ofNat 0 + 1 = dc.invokeId + 1 := by simp
  rw [Call.headerAt, first]
  rfl

/-- One call later, every request ahead is one call nearer. -/
theorem Call.headerAt_succ {dc dc' : ADSConnection} (c : Call) (k : Nat) (keeps : Keeps dc dc')
    (counted : dc'.invokeId = dc.invokeId + 1) : c.headerAt dc' k = c.headerAt dc (k + 1) := by
  have next : dc.invokeId + 1 + UInt32.ofNat k = dc.invokeId + UInt32.ofNat (k + 1) := by
    rw [UInt32.ofNat_add, UInt32.add_assoc, UInt32.add_comm 1]
    rfl
  unfold Call.headerAt Call.header
  rw [keeps.iface, keeps.partner, keeps.AMSport, counted, next]

/-- A request as a packet. -/
def requestPacket (h : AMSheader) (r : Request) : List UInt8 := adsPacket h (r.fixed ++ r.data)

/-- The request passes data exactly where its command takes them: writes and
read-writes with data, state changes without. -/
def Call.plain : Call → Prop
  | .writeBytes _ _ _ data => data.isSome
  | .readWriteBytes _ _ _ _ writeBuffer _ => writeBuffer.isSome
  | .writeControl _ _ data _ => data = none
  | _ => True

theorem Call.plain.sendable {c : Call} (plain : c.plain) : c.sendable := by
  cases c with
  | readBytes => trivial
  | writeBytes indexGroup offset length data =>
      cases data with
      | none => cases plain
      | some data => trivial
  | readDeviceInfo => trivial
  | readWriteBytes indexGroup offset readLength writeLength writeBuffer pnRead =>
      cases writeBuffer with
      | none => cases plain
      | some data => trivial
  | readState => trivial
  | writeControl ADSstate devState data length =>
      cases plain
      trivial

theorem Call.asRequest_command (c : Call) : c.asRequest.command = c.command := by
  cases c <;> rfl

theorem Call.length_requestPacket {c : Call} (fits : c.Fits) (sendable : c.sendable)
    (h : AMSheader) : (requestPacket h c.asRequest).length ≤ MAXDATALEN := by
  have announced := c.announced_le fits
  rw [requestPacket, length_adsPacket, List.length_append, Request.length_fixed,
    (Call.sendable_lengths fits sendable).1]
  exact announced

/-- One call over a script hands its packet to `send()`. -/
theorem Call.run_handed {c : Call} (fits : c.Fits) (sendable : c.sendable) {dc : ADSConnection}
    (clear : dc.iface.error = 0) (rx : List RxEvent) (handed : List (List UInt8)) :
    (c.run dc (⟨[], rx, handed⟩ : Script)).sock.tx = [] ∧
      (c.run dc (⟨[], rx, handed⟩ : Script)).sock.handed =
        handed ++ [requestPacket (c.header dc) c.asRequest] := by
  have packet := Call.request_packet fits sendable dc
  have small := (Call.request_length fits dc).2
  unfold MAXDATALEN at small
  have sends := @Call.sends_script c dc rx handed clear (by omega)
  rw [packet] at sends
  rw [Call.run_sent sends, Call.finish_sock]
  exact adsReadPacket_script _ _ _ _

/-! ## Sequences of calls -/

/-- Calls made one after the other: their results, and what is left behind. -/
def runCalls {σ : Type} [Socket σ] :
    List Call → ADSConnection → σ → List (CallResult σ) × ADSConnection × σ
  | [], dc, s => ([], dc, s)
  | c :: cs, dc, s =>
    let r := c.run dc s
    let (rs, last) := runCalls cs r.dc r.sock
    (r :: rs, last)

/-- What every call preserves, a sequence of calls preserves. -/
theorem runCalls_invariant {σ : Type} [Socket σ] {I : ADSConnection → σ → Prop} {cs : List Call}
    (step : ∀ c ∈ cs, ∀ dc s, I dc s → I (c.run dc s).dc (c.run dc s).sock)
    {dc : ADSConnection} {s : σ} (holds : I dc s) :
    I (runCalls cs dc s).2.1 (runCalls cs dc s).2.2 := by
  induction cs generalizing dc s with
  | nil => exact holds
  | cons c cs ih =>
      exact ih (fun c inside => step c (List.mem_cons_of_mem _ inside))
        (step c (List.mem_cons_self ..) dc s holds)

theorem Script.eq_of_tx {s : Script} (tx : s.tx = []) : (⟨[], s.rx, s.handed⟩ : Script) = s := by
  rw [← tx]

/-- A sequence of calls hands one packet after the other to `send()`. -/
theorem runCalls_handed (cs : List Call) (dc : ADSConnection) (rx : List RxEvent)
    (handed : List (List UInt8)) (clear : dc.iface.error = 0)
    (fits : ∀ c ∈ cs, c.Fits ∧ c.sendable) :
    (runCalls cs dc (⟨[], rx, handed⟩ : Script)).2.2.handed =
      handed ++ cs.mapIdx fun k c => requestPacket (c.headerAt dc k) c.asRequest := by
  induction cs generalizing dc rx handed with
  | nil => simp [runCalls]
  | cons c cs ih =>
      rcases fits c (List.mem_cons_self ..) with ⟨own, sendable⟩
      rcases Call.run_keeps own dc (⟨[], rx, handed⟩ : Script) with ⟨keeps, counted⟩
      rcases Call.run_handed own sendable clear rx handed with ⟨tx, sent⟩
      have rest := ih (c.run dc (⟨[], rx, handed⟩ : Script)).dc
        (c.run dc (⟨[], rx, handed⟩ : Script)).sock.rx
        (c.run dc (⟨[], rx, handed⟩ : Script)).sock.handed (by rw [keeps.iface, clear])
        fun c inside => fits c (List.mem_cons_of_mem _ inside)
      rw [Script.eq_of_tx tx, sent] at rest
      simp only [runCalls, rest, List.mapIdx_cons, Call.headerAt_zero, List.append_assoc,
        Call.headerAt_succ _ _ keeps counted, List.singleton_append]

/-! ## Decoding the stream -/

/-- A peer that calls `_ADSReadPacket()` `n` times and looks at every packet
through the header and the request structs. -/
def decodeRequests {σ : Type} [Socket σ] (di : ADSInterface) (b : Nat) :
    Nat → Mem → σ → List (Option (AMSheader × Request)) × σ
  | 0, _, s => ([], s)
  | n + 1, m, s =>
    let r := adsReadPacket (some di) m b s
    let request :=
      if r.rc > 0 ∧ r.error = 0 then
        (Request.decode r.mem b).map fun request => (AMSheader.read r.mem b, request)
      else none
    let (requests, last) := decodeRequests di b n r.mem r.sock
    (request :: requests, last)

/-- A request that its packet describes rightly. -/
structure WellFormed (h : AMSheader) (r : Request) : Prop where
  fits : (requestPacket h r).length ≤ MAXDATALEN
  command : h.commandId = r.command
  counted : r.data.length = r.announced

/-- Decoding undoes encoding, for a stream of any length. -/
theorem decodeRequests_packets {di : ADSInterface} (clear : di.error = 0) (b : Nat) (m : Mem)
    (rs : List (AMSheader × Request)) (wellFormed : ∀ x ∈ rs, WellFormed x.1 x.2) :
    decodeRequests di b rs.length m
        (⟨[], arrive (rs.flatMap fun x => requestPacket x.1 x.2), []⟩ : Script) =
      (rs.map some, ⟨[], [], []⟩) := by
  induction rs generalizing m with
  | nil => rfl
  | cons x rs ih =>
      rcases x with ⟨h, r⟩
      rcases wellFormed ⟨h, r⟩ (List.mem_cons_self ..) with ⟨fits, command, counted⟩
      dsimp only at fits command counted
      have complete : Complete (requestPacket h r) :=
        adsPacket_complete (Nat.lt_of_le_of_lt fits (by decide))
      have delivery := Script.delivers (readTimeout di.timeout) [] [] (requestPacket h r)
        (arrive (rs.flatMap fun x => requestPacket x.1 x.2))
      have read := @adsReadPacket_complete Script _ di m b _ _ _ _ clear delivery complete
      rw [if_neg (by omega)] at read
      have positive : ((requestPacket h r).length : Int) > 0 := by
        unfold requestPacket
        rw [length_adsPacket]
        unfold dataOffset sizeofTCPheader
        omega
      have held : load (store m b (requestPacket h r)) b (dataOffset + (r.fixed ++ r.data).length) =
          adsPacket h (r.fixed ++ r.data) := by
        rw [← length_adsPacket h]
        exact load_store_same m b (requestPacket h r)
      have rest := ih (store m b (requestPacket h r)) fun x inside =>
        wellFormed x (List.mem_cons_of_mem _ inside)
      simp only [List.length_cons, decodeRequests, List.flatMap_cons, arrive_append, read, positive,
        and_self, if_true, Request.decode_of_packet held command counted, (adsPacket_read held).1,
        Option.map_some, rest, List.map_cons]

/-- The requests of a sequence of calls, each under the header it travels with. -/
def headedRequests (dc : ADSConnection) (cs : List Call) : List (AMSheader × Request) :=
  cs.mapIdx fun k c => (c.headerAt dc k, c.asRequest)

theorem headedRequests_wellFormed {dc : ADSConnection} {cs : List Call}
    (fits : ∀ c ∈ cs, c.Fits ∧ c.sendable) : ∀ x ∈ headedRequests dc cs, WellFormed x.1 x.2 := by
  intro x inside
  rcases List.mem_mapIdx.mp inside with ⟨k, within, rfl⟩
  rcases fits cs[k] (List.getElem_mem within) with ⟨own, sendable⟩
  exact ⟨Call.length_requestPacket own sendable _, cs[k].asRequest_command.symm,
    (Call.sendable_lengths own sendable).1⟩

/-- **What is sent can be decoded.** A peer that reads the bytes of a sequence
of calls packet by packet recovers the requests in order with nothing left
over: each with the partner as target, the interface as source, flags 4, no
error and the next invoke id. -/
theorem requests_decoded (cs : List Call) (dc : ADSConnection) (rx : List RxEvent)
    (clear : dc.iface.error = 0) (fits : ∀ c ∈ cs, c.Fits ∧ c.plain)
    (peer : ADSInterface) (peerClear : peer.error = 0) (b : Nat) (m : Mem) :
    decodeRequests peer b cs.length m
        (⟨[], arrive (runCalls cs dc (⟨[], rx, []⟩ : Script)).2.2.handed.flatten, []⟩ : Script) =
      (cs.mapIdx fun k c => some (c.headerAt dc k, c.asRequest), ⟨[], [], []⟩) := by
  have sendable : ∀ c ∈ cs, c.Fits ∧ c.sendable := fun c inside =>
    ⟨(fits c inside).1, (fits c inside).2.sendable⟩
  have handed := runCalls_handed cs dc rx [] clear sendable
  have stream : (runCalls cs dc (⟨[], rx, []⟩ : Script)).2.2.handed.flatten =
      (headedRequests dc cs).flatMap fun x => requestPacket x.1 x.2 := by
    rw [handed, List.nil_append, headedRequests, List.flatMap_def, List.mapIdx_eq_zipIdx_map,
      List.mapIdx_eq_zipIdx_map, List.map_map]
    rfl
  have decoded := decodeRequests_packets peerClear b m (headedRequests dc cs)
    (headedRequests_wellFormed sendable)
  have found : (headedRequests dc cs).map some =
      cs.mapIdx fun k c => some (c.headerAt dc k, c.asRequest) := by
    rw [headedRequests, List.mapIdx_eq_zipIdx_map, List.mapIdx_eq_zipIdx_map, List.map_map]
    rfl
  have length : (headedRequests dc cs).length = cs.length := List.length_mapIdx
  rw [stream, ← length, decoded, found]

/-- A write of three bytes and the device info after it. -/
theorem requests_decoded_pair :
    decodeRequests freshConnection.iface 0 2 (fun _ => 0)
        (⟨[], arrive (runCalls [.writeBytes 0xf005 0 3 (some fun _ => 7), .readDeviceInfo]
          freshConnection (⟨[], [], []⟩ : Script)).2.2.handed.flatten, []⟩ : Script) =
      ([some (Call.headerAt (.writeBytes 0xf005 0 3 (some fun _ => 7)) freshConnection 0,
          .write 0xf005 0 3 [7, 7, 7]),
        some (Call.headerAt .readDeviceInfo freshConnection 1, .readDevInfo)], ⟨[], [], []⟩) :=
  requests_decoded [.writeBytes 0xf005 0 3 (some fun _ => 7), .readDeviceInfo] freshConnection []
    rfl (by simp [Call.Fits, Call.plain, dataOffset, MAXDATALEN, sizeofTCPheader, sizeofAMSheader])
    freshConnection.iface rfl 0 fun _ => 0

end LibAds
