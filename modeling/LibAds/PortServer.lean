import LibAds.ConnectionTable
import LibAds.PacketDelivery
import LibAds.ServerHandler

/-!
# The loop of a port server

`portServer()` of `examples/ADSserver.c` reads packets from one connection and
hands each one that `_ADSReadPacket()` counts to `ranalyze()`, until 1000 reads
in a row have failed. What its reader makes of the events on the line can be
said without its memory (`packetsIn`), and the answers it sends are those of
`answerTo`, one for each packet, in order, whatever came before
(`portServer_answers`).
-/

namespace LibAds

open ByteMemory SocketModel

/-! ## `portServer()` -/

/-- How many failed reads in a row end a port server. -/
def maxWaits : Nat := 1000

section Code

variable {σ : Type} [Socket σ]

/-- The variables of `portServer()` and its socket. -/
structure PortServer (σ : Type) where
  dc : ADSConnection
  waitCount : Nat
  sock : σ

/-- One turn of `while (waitCount < 1000)`. The error that `_ADSReadPacket()`
reports is not looked at. -/
def portServerTurn (globals : Mem) (st : PortServer σ) : PortServer σ :=
  let r := adsReadPacket (some st.dc.iface) st.dc.mem msgIn st.sock
  let dc := st.dc.received r.rc r.mem
  if dc.AnswLen > 0 then
    let (dc, s) := ranalyze globals dc r.sock
    ⟨dc, 0, s⟩
  else ⟨dc, st.waitCount + 1, r.sock⟩

/-- `while (waitCount < 1000)`. The first argument bounds the number of turns;
`none` if it is used up. -/
def portServerLoop (globals : Mem) : Nat → PortServer σ → Option (PortServer σ)
  | 0, _ => none
  | turns + 1, st =>
    if st.waitCount < maxWaits then portServerLoop globals turns (portServerTurn globals st)
    else some st

/-- The connection that `portServer()` sets up for a descriptor. -/
def portServerConnection (heap : Mem) (fd : Int) (me partner : AmsNetId) : ADSConnection :=
  let di := { adsNewInterface fd me AMSPORT_R0_PLC_RTS1 "IF" with timeout := 900000 }
  adsNewConnection heap di partner AMSPORT_R0_PLC_RTS1

/-- Where `portServer()` enters its loop. -/
def portServerStart (heap : Mem) (fd : Int) (me partner : AmsNetId) (s : σ) : PortServer σ :=
  ⟨portServerConnection heap fd me partner, 0, s⟩

/-- `portServer()` -/
def portServer (globals heap : Mem) (fd : Int) (me partner : AmsNetId) (turns : Nat) (s : σ) :
    Option (PortServer σ) :=
  portServerLoop globals turns (portServerStart heap fd me partner s)

end Code

/-! ## Packets among events -/

instance (bs : List UInt8) : Decidable (Complete bs) :=
  inferInstanceAs (Decidable (_ ∧ _))

/-- The packets a port server takes out of what happens on its line, where
`taken` are the bytes of the packet it is reading and `waits` reads have failed
in a row. A packet of `2 ^ 31` bytes fails with its last byte. -/
def packetsIn : Nat → List UInt8 → List RxEvent → List (List UInt8)
  | _, _, [] => []
  | waits, taken, .byte b :: rx =>
    if Complete (taken ++ [b]) then (taken ++ [b]) :: packetsIn 0 [] rx
    else if (taken ++ [b]).length = 2 ^ 31 then
      if waits + 1 < maxWaits then packetsIn (waits + 1) [] rx else []
    else packetsIn waits (taken ++ [b]) rx
  | waits, _, .timeOut :: rx | waits, _, .shutDown :: rx | waits, _, .selectError _ :: rx
  | waits, _, .recvError _ :: rx =>
    if waits + 1 < maxWaits then packetsIn (waits + 1) [] rx else []

/-- The buffer as `_ADSReadPacket()` leaves it for a packet. -/
def packetView (bs : List UInt8) : Mem :=
  if bs.length > MAXDATALEN then markOverlong (fill (bufferAt 0) 0 (fun _ => 0) bs) 0
  else ofList bs

/-- The answer to a packet. -/
def answerTo (globals : Mem) (bs : List UInt8) : List UInt8 :=
  answerPacket globals (packetView bs) 0

/-- A packet with all the fields that `ranalyze()` looks at, whose answer fits
`msgOut`. -/
structure Answerable (bs : List UInt8) : Prop where
  headers : dataOffset ≤ bs.length
  fields : commandId (ofList bs) 0 = cmdADSreadWrite ∨ commandId (ofList bs) 0 = cmdADSread →
    dataOffset + 12 ≤ bs.length
  fits : answerSize (packetView bs) 0 ≤ MAXDATALEN

/-! ## What is incomplete -/

theorem Incomplete.left {xs ys : List UInt8} (incomplete : Incomplete (xs ++ ys)) :
    Incomplete xs := by
  obtain ⟨counted, wanting⟩ := incomplete
  rw [List.length_append] at counted wanting
  refine ⟨by omega, ?_⟩
  by_cases header : xs.length < sizeofTCPheader
  · exact Or.inl header
  · rw [adsLength_append (Nat.le_of_not_lt header)] at wanting
    exact Or.inr (by omega)

theorem Incomplete.not_complete {bs : List UInt8} (incomplete : Incomplete bs) :
    ¬ Complete bs := by
  intro complete
  obtain ⟨_, wanting⟩ := incomplete
  obtain ⟨_, size⟩ := complete
  omega

/-- Bytes of a packet that goes on are taken. -/
theorem packetsIn_incomplete (waits : Nat) (xs : List UInt8) (rx : List RxEvent) :
    ∀ taken, Incomplete (taken ++ xs) →
      packetsIn waits taken (arrive xs ++ rx) = packetsIn waits (taken ++ xs) rx := by
  induction xs with
  | nil =>
      intro taken _
      rw [List.append_nil]
      rfl
  | cons x xs ih =>
      intro taken incomplete
      have split : taken ++ x :: xs = taken ++ [x] ++ xs := by
        rw [List.append_assoc, List.singleton_append]
      rw [split] at incomplete ⊢
      have first := incomplete.left
      have short : ¬ (taken ++ [x]).length = 2 ^ 31 := Nat.ne_of_lt first.1
      rw [arrive_cons, List.cons_append, packetsIn, if_neg first.not_complete, if_neg short]
      exact ih _ incomplete

theorem packetsIn_complete (waits : Nat) {bs : List UInt8} (rx : List RxEvent)
    (complete : Complete bs) :
    packetsIn waits [] (arrive bs ++ rx) = bs :: packetsIn 0 [] rx := by
  rcases bs.eq_nil_or_concat with rfl | ⟨xs, b, rfl⟩
  · obtain ⟨_, size⟩ := complete
    cases size
  · rw [List.concat_eq_append] at complete ⊢
    have incomplete : Incomplete ([] ++ xs) := complete.incomplete (List.cons_ne_nil b [])
    rw [arrive_append, List.append_assoc, packetsIn_incomplete waits xs _ [] incomplete,
      List.nil_append, arrive_cons, arrive_nil, List.cons_append, List.nil_append, packetsIn,
      if_pos complete]

/-- What is taken after a failed read. -/
def afterFailure (waits : Nat) (rx : List RxEvent) : List (List UInt8) :=
  if waits + 1 < maxWaits then packetsIn (waits + 1) [] rx else []

theorem packetsIn_overflow (waits : Nat) {bs : List UInt8} (rx : List RxEvent)
    (size : bs.length = 2 ^ 31)
    (long : 2 ^ 31 ≤ sizeofTCPheader + (adsLength (ofList bs) 0).toNat) :
    packetsIn waits [] (arrive bs ++ rx) = afterFailure waits rx := by
  rcases bs.eq_nil_or_concat with rfl | ⟨xs, b, rfl⟩
  · cases size
  · rw [List.concat_eq_append] at size long ⊢
    have counted := size
    rw [List.length_append, List.length_singleton] at counted
    have sizes := packetSizes
    have incomplete : Incomplete ([] ++ xs) := by
      rw [adsLength_append (by omega)] at long
      exact ⟨by rw [List.nil_append]; omega, Or.inr (by rw [List.nil_append]; omega)⟩
    have open_ : ¬ Complete (xs ++ [b]) := fun complete => by
      have small := complete.1
      omega
    rw [arrive_append, List.append_assoc, packetsIn_incomplete waits xs _ [] incomplete,
      List.nil_append, arrive_cons, arrive_nil, List.cons_append, List.nil_append, packetsIn,
      if_neg open_, if_pos size]
    rfl

theorem packetsIn_broken (waits : Nat) {bs : List UInt8} {e : RxEvent} (rx : List RxEvent)
    (incomplete : Incomplete bs) (failure : ∀ b, e ≠ .byte b) :
    packetsIn waits [] (arrive bs ++ e :: rx) = afterFailure waits rx := by
  rw [packetsIn_incomplete waits bs _ [] incomplete, List.nil_append]
  cases e with
  | byte b => exact absurd rfl (failure b)
  | timeOut => rfl
  | shutDown => rfl
  | selectError errno => rfl
  | recvError errno => rfl

theorem packetsIn_ended (waits : Nat) {bs : List UInt8} (incomplete : Incomplete bs) :
    packetsIn waits [] (arrive bs) = [] := by
  have taken := packetsIn_incomplete waits bs [] [] incomplete
  rw [List.append_nil] at taken
  rw [taken, packetsIn]

/-! ## What is seen of a packet -/

/-- The marking of an over-long packet is the same wherever its buffer lies. -/
theorem markOverlong_shift {m m' : Mem} {b b' i : Nat} (agree : m (b + i) = m' (b' + i)) :
    markOverlong m b (b + i) = markOverlong m' b' (b' + i) := by
  have shift : ∀ (m m' src : Mem) (d n : Nat), m (b + i) = m' (b' + i) →
      copy m (b + d) src n (b + i) = copy m' (b' + d) src n (b' + i) := by
    intro m m' src d n agree
    have index : b + i - (b + d) = b' + i - (b' + d) := by omega
    have range : (b + d ≤ b + i ∧ b + i < b + d + n) ↔ (b' + d ≤ b' + i ∧ b' + i < b' + d + n) := by
      omega
    simp only [copy, index, range, agree]
  unfold markOverlong put32 store
  rw [Nat.add_assoc, Nat.add_assoc]
  exact shift _ _ _ _ _ (shift _ _ _ _ _ agree)

/-- What `ranalyze()` looks at is in the packet, not in what the buffer held
before. -/
theorem Answerable.sameRequest {bs : List UInt8} (answerable : Answerable bs) (m : Mem) :
    SameRequest
      (if bs.length > MAXDATALEN then markOverlong (fill (bufferAt msgIn) 0 m bs) msgIn
        else store m msgIn bs) msgIn (packetView bs) 0 := by
  have sizes := packetSizes
  unfold packetView
  by_cases long : bs.length > MAXDATALEN
  · rw [if_pos long, if_pos long]
    apply SameRequest.of_agree
    intro i within
    apply markOverlong_shift
    rw [fill_bufferAt_apply (by omega), fill_bufferAt_apply (by omega)]
    unfold store
    rw [copy_apply_within _ _ _ _ _ (by omega), copy_apply_within _ _ _ _ _ (by omega)]
  · rw [if_neg long, if_neg long]
    have bytes : ∀ k n, k + n ≤ bs.length →
        load (store m msgIn bs) (msgIn + k) n = load (ofList bs) (0 + k) n := by
      intro k n within
      rw [load_store_within within, Nat.zero_add]
    have header : load (store m msgIn bs) msgIn dataOffset = load (ofList bs) 0 dataOffset :=
      bytes 0 dataOffset (by rw [Nat.zero_add]; exact answerable.headers)
    have command : commandId (store m msgIn bs) msgIn = commandId (ofList bs) 0 :=
      congrArg AMSheader.commandId (AMSheader.read_congr header)
    refine ⟨header, fun reads => ?_⟩
    rw [command] at reads
    have long := answerable.fields reads
    exact bytes (dataOffset + 4) 8 (by omega)

/-! ## One turn -/

/-- A script delivers what it lists. -/
theorem Script.delivers_inv {pt pt' : Option Timeval} {s s' : Script} {bs : List UInt8}
    (delivery : Delivers pt s bs pt' s') :
    s.rx = arrive bs ++ s'.rx ∧ s'.tx = s.tx ∧ s'.handed = s.handed := by
  induction delivery with
  | nil => exact ⟨rfl, rfl, rfl⟩
  | @cons pt pt₁ pt' s s₁ s₂ s' b bs selected received _ ih =>
      obtain ⟨tx, rx, handed⟩ := s
      rcases rx with _ | ⟨_ | _ | _ | _ | _, rx⟩
      · cases selected
      · cases selected
        cases received
        obtain ⟨events, kept⟩ := ih
        exact ⟨congrArg (RxEvent.byte _ :: ·) events, kept⟩
      · cases selected
      · cases selected
        cases received
      · cases selected
      · cases selected
        cases received

/-- A script fails with the event that is next, or because there is none. -/
theorem Script.breaks_inv {pt : Option Timeval} {s s' : Script} {rc error : Int}
    (breaks : Breaks pt s rc error s') :
    (s'.tx = s.tx ∧ s'.handed = s.handed) ∧
      ((s.rx = [] ∧ s'.rx = []) ∨ ∃ e, s.rx = e :: s'.rx ∧ ∀ b, e ≠ .byte b) := by
  obtain ⟨failed, step⟩ := breaks
  obtain ⟨pt', step⟩ := step (fun _ => 0) 0
  have sock := congrArg ByteRead.sock step
  obtain ⟨tx, rx, handed⟩ := s
  rcases rx with _ | ⟨b | _ | _ | _ | _, rx⟩
  · cases sock
    exact ⟨⟨rfl, rfl⟩, Or.inl ⟨rfl, rfl⟩⟩
  · exact absurd (congrArg ByteRead.rc step).symm failed
  · cases sock
    exact ⟨⟨rfl, rfl⟩, Or.inr ⟨_, rfl, fun _ equal => by cases equal⟩⟩
  · cases sock
    exact ⟨⟨rfl, rfl⟩, Or.inr ⟨_, rfl, fun _ equal => by cases equal⟩⟩
  · cases sock
    exact ⟨⟨rfl, rfl⟩, Or.inr ⟨_, rfl, fun _ equal => by cases equal⟩⟩
  · cases sock
    exact ⟨⟨rfl, rfl⟩, Or.inr ⟨_, rfl, fun _ equal => by cases equal⟩⟩

/-- What holds of a port server between two turns. -/
structure PortServer.Ready {σ : Type} (st : PortServer σ) : Prop where
  clear : st.dc.iface.error = 0
  out : OutClear st.dc.mem

theorem PortServer.Ready.received {σ : Type} [Socket σ] {st : PortServer σ} (ready : st.Ready) :
    OutClear (adsReadPacket (some st.dc.iface) st.dc.mem msgIn st.sock).mem := by
  have place : msgOut = msgIn + MAXDATALEN := rfl
  intro i low high
  rw [adsReadPacket_outside (by omega)]
  exact ready.out i low high

/-- Neither reading nor answering touches the interface, or the part of `msgOut`
that is never cleared. -/
theorem portServerTurn_ready {σ : Type} [Socket σ] (globals : Mem) {st : PortServer σ}
    (ready : st.Ready) : (portServerTurn globals st).Ready := by
  have kept := ready.received
  unfold portServerTurn
  dsimp only
  split
  · exact ⟨ready.clear, fun i low high =>
      (buildAnswer_apply (by omega)).trans (kept i low high)⟩
  · exact ⟨ready.clear, kept⟩

section Turn

variable {globals : Mem} {st : PortServer Script}

/-- Whatever `send()` takes, the answer was handed to it. -/
theorem Script.send_handed (s : Script) (bytes : List UInt8) :
    (Socket.send s bytes).2.rx = s.rx ∧ (Socket.send s bytes).2.handed = s.handed ++ [bytes] := by
  obtain ⟨tx, rx, handed⟩ := s
  rcases tx with _ | ⟨_ | _ | _, tx⟩ <;> exact ⟨rfl, rfl⟩

/-- A turn in which a packet is read. -/
theorem portServerTurn_packet {pt' : Option Timeval} {s' : Script} {bs : List UInt8}
    (ready : st.Ready) (delivery : Delivers (readTimeout st.dc.iface.timeout) st.sock bs pt' s')
    (complete : Complete bs) :
    (portServerTurn globals st).waitCount = 0 ∧ (portServerTurn globals st).sock.rx = s'.rx ∧
      (Answerable bs →
        (portServerTurn globals st).sock.handed = s'.handed ++ [answerTo globals bs]) := by
  have received := ready.received
  have read := @adsReadPacket_complete Script _ _ st.dc.mem msgIn st.sock s' bs pt' ready.clear
    delivery complete
  have positive : (bs.length : Int) > 0 := by
    obtain ⟨_, size⟩ := complete
    unfold sizeofTCPheader at size
    omega
  generalize shown : (if bs.length > MAXDATALEN then
    markOverlong (fill (bufferAt msgIn) 0 st.dc.mem bs) msgIn else store st.dc.mem msgIn bs) = m'
  have outcome : ∃ error, adsReadPacket (some st.dc.iface) st.dc.mem msgIn st.sock =
      ⟨bs.length, error, m', s'⟩ := by
    rw [read, ← shown]
    split
    · exact ⟨0xe, rfl⟩
    · exact ⟨0, rfl⟩
  obtain ⟨error, outcome⟩ := outcome
  rw [outcome] at received
  have turn : portServerTurn globals st =
      ⟨(ranalyze globals (st.dc.received bs.length m') s').1, 0,
        (ranalyze globals (st.dc.received bs.length m') s').2⟩ := by
    unfold portServerTurn
    simp only [outcome, ADSConnection.received_AnswLen, if_pos positive]
  have sends := @ranalyze_sock Script _ globals (st.dc.received bs.length m') s' ready.clear
  rw [turn, sends]
  obtain ⟨events, handed⟩ := Script.send_handed s' (handedAnswer globals m')
  refine ⟨rfl, events, fun answerable => ?_⟩
  have same := answerable.sameRequest st.dc.mem
  rw [shown] at same
  have answer : handedAnswer globals m' = answerTo globals bs := by
    rw [handedAnswer_eq_packet globals received (by rw [same.answerSize]; exact answerable.fits),
      same.answerPacket]
    rfl
  rw [← answer]
  exact handed

/-- A turn in which the reader reports no bytes. -/
theorem portServerTurn_failed {rc error : Int} {m' : Mem} {s' : Script}
    (read : adsReadPacket (some st.dc.iface) st.dc.mem msgIn st.sock = ⟨rc, error, m', s'⟩)
    (failed : rc ≤ 0) :
    (portServerTurn globals st).waitCount = st.waitCount + 1 ∧
      (portServerTurn globals st).sock = s' := by
  have none_ : ¬ rc > 0 := by omega
  unfold portServerTurn
  simp only [read, ADSConnection.received_AnswLen, if_neg none_]
  exact ⟨trivial, trivial⟩

/-- A turn whose packet breaks off: what there was of it is gone. -/
theorem portServerTurn_broken {bs : List UInt8} {pt₁ : Option Timeval} {s₁ s' : Script}
    {rc error : Int} (ready : st.Ready)
    (delivery : Delivers (readTimeout st.dc.iface.timeout) st.sock bs pt₁ s₁)
    (incomplete : Incomplete bs) (breaks : Breaks pt₁ s₁ rc error s') :
    packetsIn st.waitCount [] st.sock.rx =
        afterFailure st.waitCount (portServerTurn globals st).sock.rx ∧
      ((portServerTurn globals st).sock.rx.length < st.sock.rx.length ∨
        st.sock.rx = [] ∧ (portServerTurn globals st).sock.rx = []) ∧
      (portServerTurn globals st).waitCount = st.waitCount + 1 ∧
      (portServerTurn globals st).sock.handed = st.sock.handed := by
  obtain ⟨events, _, handed⟩ := Script.delivers_inv delivery
  obtain ⟨⟨_, handed'⟩, rest⟩ := Script.breaks_inv breaks
  have read := @adsReadPacket_broken Script _ _ st.dc.mem msgIn _ _ _ _ _ _ _ ready.clear delivery
    incomplete breaks
  have failed := breaks.rc_cases
  obtain ⟨waits, sock⟩ := @portServerTurn_failed globals _ _ _ _ _ read (by omega)
  rw [sock]
  rcases rest with ⟨ended, last⟩ | ⟨e, next, failure⟩
  · refine ⟨?_, ?_, waits, handed'.trans handed⟩
    · rw [events, ended, last, List.append_nil, packetsIn_ended _ incomplete]
      unfold afterFailure
      split <;> rfl
    · rw [events, ended, last, List.append_nil]
      rcases bs with _ | ⟨b, bs⟩
      · exact Or.inr ⟨rfl, rfl⟩
      · exact Or.inl (Nat.succ_pos _)
  · refine ⟨?_, Or.inl ?_, waits, handed'.trans handed⟩
    · rw [events, next]
      exact packetsIn_broken _ _ incomplete failure
    · rw [events, next, List.length_append, List.length_cons]
      omega

/-- **One turn over a script.** A packet is answered, anything else counts as a
failed read. -/
theorem portServerTurn_cases (globals : Mem) (ready : st.Ready) :
    (∃ bs, packetsIn st.waitCount [] st.sock.rx =
          bs :: packetsIn 0 [] (portServerTurn globals st).sock.rx ∧
        (portServerTurn globals st).sock.rx.length < st.sock.rx.length ∧
        (portServerTurn globals st).waitCount = 0 ∧
        (Answerable bs →
          (portServerTurn globals st).sock.handed = st.sock.handed ++ [answerTo globals bs])) ∨
      (packetsIn st.waitCount [] st.sock.rx =
          afterFailure st.waitCount (portServerTurn globals st).sock.rx ∧
        ((portServerTurn globals st).sock.rx.length < st.sock.rx.length ∨
          st.sock.rx = [] ∧ (portServerTurn globals st).sock.rx = []) ∧
        (portServerTurn globals st).waitCount = st.waitCount + 1 ∧
        (portServerTurn globals st).sock.handed = st.sock.handed) := by
  have sizes := packetSizes
  rcases adsReadPacket_cases st.dc.iface ready.clear st.dc.mem msgIn st.sock with
    ⟨bs, pt', s', delivery, complete⟩ |
    ⟨bs, pt₁, s₁, rc, error, s', delivery, incomplete, breaks⟩ |
    ⟨bs, pt', s', delivery, size, long, m', overflow⟩
  · obtain ⟨events, _, handed⟩ := Script.delivers_inv delivery
    obtain ⟨waits, rest, answered⟩ := @portServerTurn_packet globals _ _ _ _ ready delivery complete
    obtain ⟨_, counted⟩ := id complete
    refine Or.inl ⟨bs, ?_, ?_, waits, ?_⟩
    · rw [events, rest]
      exact packetsIn_complete _ _ complete
    · rw [events, rest, List.length_append]
      simp only [arrive, List.length_map]
      omega
    · rw [← handed]
      exact answered
  · exact Or.inr (portServerTurn_broken ready delivery incomplete breaks)
  · obtain ⟨events, _, handed⟩ := Script.delivers_inv delivery
    obtain ⟨waits, sock⟩ := @portServerTurn_failed globals _ _ _ _ _ overflow (by omega)
    rw [sock]
    refine Or.inr ⟨?_, Or.inl ?_, waits, handed⟩
    · rw [events]
      exact packetsIn_overflow _ _ size long
    · rw [events, List.length_append]
      simp only [arrive, List.length_map]
      omega

end Turn

/-! ## The whole loop -/

/-- The packets still to be answered. -/
def PortServer.due (st : PortServer Script) : List (List UInt8) :=
  if st.waitCount < maxWaits then packetsIn st.waitCount [] st.sock.rx else []

/-- How many turns are left at most: every turn takes something off the script,
and when there is nothing left to take 1000 reads fail. -/
def PortServer.turnsLeft (st : PortServer Script) : Nat :=
  if st.sock.rx = [] then maxWaits - st.waitCount else st.sock.rx.length + maxWaits

theorem PortServer.turnsLeft_lt {st st' : PortServer Script} (goesOn : st.waitCount < maxWaits)
    (used : st'.sock.rx.length < st.sock.rx.length ∨
      (st.sock.rx = [] ∧ st'.sock.rx = []) ∧ st'.waitCount = st.waitCount + 1) :
    st'.turnsLeft < st.turnsLeft := by
  unfold PortServer.turnsLeft
  rcases used with shorter | ⟨⟨ended, ended'⟩, counted⟩
  · have nonempty : st.sock.rx ≠ [] := List.ne_nil_of_length_pos (by omega)
    rw [if_neg nonempty]
    split <;> omega
  · rw [if_pos ended, if_pos ended']
    omega

/-- The loop ends, and has then answered what was due. -/
theorem portServerLoop_answers (globals : Mem) (turns : Nat) :
    ∀ st : PortServer Script, st.Ready → st.waitCount ≤ maxWaits → st.turnsLeft < turns →
      (∀ p ∈ st.due, Answerable p) →
      ∃ last, portServerLoop globals turns st = some last ∧ last.waitCount = maxWaits ∧
        last.sock.handed = st.sock.handed ++ st.due.map (answerTo globals) := by
  induction turns with
  | zero =>
      intro st _ _ enough
      exact absurd enough (Nat.not_lt_zero _)
  | succ turns ih =>
      intro st ready waits enough answerable
      rw [portServerLoop]
      by_cases goesOn : st.waitCount < maxWaits
      · have next := ih (portServerTurn globals st) (portServerTurn_ready globals ready)
        have due : st.due = packetsIn st.waitCount [] st.sock.rx := if_pos goesOn
        rw [due] at answerable ⊢
        rw [if_pos goesOn]
        have positive : 0 < maxWaits := by decide
        rcases portServerTurn_cases globals ready with
          ⟨bs, taken, shorter, reset, answered⟩ | ⟨taken, shorter, counted, kept⟩
        · have rest : (portServerTurn globals st).due =
              packetsIn 0 [] (portServerTurn globals st).sock.rx := by
            rw [PortServer.due, reset, if_pos positive]
          rw [taken, List.forall_mem_cons] at answerable
          have fewer := PortServer.turnsLeft_lt goesOn (Or.inl shorter)
          obtain ⟨last, loop, ended, handed⟩ := next (by omega) (by omega)
            (by rw [rest]; exact answerable.2)
          refine ⟨last, loop, ended, ?_⟩
          rw [handed, rest, answered answerable.1, taken, List.map_cons, List.append_assoc,
            List.singleton_append]
        · have rest : (portServerTurn globals st).due =
              afterFailure st.waitCount (portServerTurn globals st).sock.rx := by
            rw [PortServer.due, counted]
            rfl
          rw [taken] at answerable ⊢
          have fewer := PortServer.turnsLeft_lt goesOn
            (shorter.imp_right fun both => ⟨both, counted⟩)
          obtain ⟨last, loop, ended, handed⟩ := next (by omega) (by omega)
            (by rw [rest]; exact answerable)
          exact ⟨last, loop, ended, by rw [handed, rest, kept]⟩
      · rw [if_neg goesOn]
        refine ⟨st, rfl, by omega, ?_⟩
        rw [PortServer.due, if_neg goesOn, List.map_nil, List.append_nil]

theorem portServerStart_ready {σ : Type} (heap : Mem) (fd : Int) (me partner : AmsNetId) (s : σ) :
    (portServerStart heap fd me partner s).Ready := by
  refine ⟨rfl, fun i _ high => ?_⟩
  have six := partner.size
  have place : partnerOffset = msgOut + MAXDATALEN := rfl
  have port : portOffset = partnerOffset + 6 := rfl
  have whole : sizeofConnection = portOffset + 4 := rfl
  show put32 (store (copy heap 0 (fun _ => 0) sizeofConnection) partnerOffset partner.b) portOffset
    _ (msgOut + i) = 0
  rw [put32_apply_outside (by omega), store_apply_outside (by omega), copy, if_pos (by omega)]

/-- **A port server over its whole life.** Whatever happens on its line, if each
packet it takes can be answered, and whatever `send()` makes of it: it ends with
the 1000th read in a row that fails, and until then it has sent one packet for
each packet it took, in their order, each determined by the packet that it answers
and the memory behind `dummyRes` alone. -/
theorem portServer_answers (globals heap : Mem) (fd : Int) (me partner : AmsNetId)
    (tx : List TxEvent) (rx : List RxEvent) (answerable : ∀ p ∈ packetsIn 0 [] rx, Answerable p)
    {turns : Nat} (enough : rx.length + maxWaits < turns) :
    ∃ last, portServer globals heap fd me partner turns (⟨tx, rx, []⟩ : Script) = some last ∧
      last.waitCount = maxWaits ∧
      last.sock.handed = (packetsIn 0 [] rx).map (answerTo globals) := by
  have ready := portServerStart_ready heap fd me partner (⟨tx, rx, []⟩ : Script)
  have positive : 0 < maxWaits := by decide
  have due : (portServerStart heap fd me partner (⟨tx, rx, []⟩ : Script)).due =
      packetsIn 0 [] rx := if_pos positive
  have left : (portServerStart heap fd me partner (⟨tx, rx, []⟩ : Script)).turnsLeft < turns := by
    refine Nat.lt_of_le_of_lt ?_ enough
    unfold PortServer.turnsLeft
    split_ifs
    · exact Nat.le_trans (Nat.sub_le _ _) (Nat.le_add_left _ _)
    · exact Nat.le_refl _
  have run := portServerLoop_answers globals turns _ ready (Nat.zero_le _) left
    (by rw [due]; exact answerable)
  rw [due] at run
  exact run

/-- A state request as the only packet. -/
theorem portServer_answers_state :
    let h := firstReply cmdADSreadState 4 0 0
    ∃ last, portServer (ofList dummyRes) (fun _ => 0) 4 h.targetId h.sourceId 1100
        (⟨[], arrive (adsPacket h []) ++ [], []⟩ : Script) = some last ∧
      last.waitCount = maxWaits ∧
      last.sock.handed = (packetsIn 0 [] (arrive (adsPacket h []) ++ [])).map
        (answerTo (ofList dummyRes)) := by
  intro h
  have taken := packetsIn_complete 0 []
    (adsPacket_complete (by decide : (adsPacket h []).length < _))
  refine portServer_answers (ofList dummyRes) (fun _ => 0) 4 h.targetId h.sourceId [] _ ?_
    (by decide)
  rw [taken]
  intro p inside
  rw [List.mem_singleton.mp inside]
  exact ⟨by decide, by decide, by decide⟩

end LibAds
