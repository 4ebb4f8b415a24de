import LibAds.PacketDelivery
import LibAds.LabelledRuns

/-!
# Packet boundaries over a run

Both directions of one interface over any sequence of `_ADSReadPacket()` and
`_ADSWritePacket()`. A call that stops inside a packet leaves the stream there:
the interface's error flag is tested by both functions, but neither ever sets
it, so the next call goes on from the middle of the packet.
-/

namespace LibAds

open ByteMemory SocketModel LabelledRuns

/-! ## The line -/

/-- A socket with both its streams: the coming outcomes of `send()`, what
arrives, the bytes received so far and the bytes sent so far. -/
structure Line where
  tx : List TxEvent
  rx : List RxEvent
  received : List UInt8
  sent : List UInt8
  deriving DecidableEq, Repr

def Line.send (l : Line) (bytes : List UInt8) : SendResult × Line :=
  match l.tx with
  | [] => (.sent bytes.length 0, { l with sent := l.sent ++ bytes })
  | .complete :: tx => (.sent bytes.length 0, { l with tx := tx, sent := l.sent ++ bytes })
  | .short n errno :: tx =>
    (.sent (min n bytes.length) errno, { l with tx := tx, sent := l.sent ++ bytes.take n })
  | .error errno :: tx => (.failed errno, { l with tx := tx })

def Line.select (l : Line) (pt : Option Timeval) : SelectResult × Option Timeval × Line :=
  match l.rx with
  | [] => (.timedOut, pt, l)
  | .timeOut :: rx => (.timedOut, pt, { l with rx := rx })
  | .selectError errno :: rx => (.failed errno, pt, { l with rx := rx })
  | .byte _ :: _ | .shutDown :: _ | .recvError _ :: _ => (.ready, pt, l)

def Line.recv (l : Line) : RecvResult × Line :=
  match l.rx with
  | .byte b :: rx => (.byte b, { l with rx := rx, received := l.received ++ [b] })
  | .recvError errno :: rx => (.failed errno, { l with rx := rx })
  | .shutDown :: rx => (.shutDown, { l with rx := rx })
  | [] | .timeOut :: _ | .selectError _ :: _ => (.shutDown, l)

instance : Socket Line where
  send := Line.send
  select := Line.select
  recv := Line.recv

/-- The bytes among what arrives. -/
def arriving (rx : List RxEvent) : List UInt8 :=
  rx.filterMap fun
    | .byte b => some b
    | _ => none

/-- Bytes that arrive without a pause are received. -/
theorem Line.delivers (pt : Option Timeval) (tx : List TxEvent) (bs : List UInt8)
    (rest : List RxEvent) (received sent : List UInt8) :
    Delivers pt (⟨tx, arrive bs ++ rest, received, sent⟩ : Line) bs pt
      ⟨tx, rest, received ++ bs, sent⟩ := by
  induction bs generalizing received with
  | nil =>
      rw [List.append_nil]
      exact .nil pt _
  | cons b bs ih =>
      have tail := ih (received ++ [b])
      rw [List.append_assoc, List.singleton_append] at tail
      exact .cons rfl rfl tail

/-- Where no byte comes next the reader fails, and the streams stay. -/
theorem Line.breaks {l : Line} (pt : Option Timeval)
    (pause : ∀ b rx, l.rx ≠ .byte b :: rx) :
    ∃ rc error l', Breaks pt l rc error l' ∧ l'.received = l.received ∧ l'.sent = l.sent ∧
      l'.tx = l.tx ∧ arriving l'.rx = arriving l.rx := by
  obtain ⟨tx, rx, received, sent⟩ := l
  rcases rx with _ | ⟨b | _ | _ | errno | errno, rx⟩
  · exact ⟨-1, 0, _, Breaks.of_timedOut rfl, rfl, rfl, rfl, rfl⟩
  · exact absurd rfl (pause b rx)
  · exact ⟨-1, 0, _, Breaks.of_timedOut rfl, rfl, rfl, rfl, rfl⟩
  · exact ⟨-2, 0, _, Breaks.of_shutDown rfl rfl, rfl, rfl, rfl, rfl⟩
  · exact ⟨0, errno, _, Breaks.of_selectFailed rfl, rfl, rfl, rfl, rfl⟩
  · exact ⟨0, errno, _, Breaks.of_recvFailed rfl rfl, rfl, rfl, rfl, rfl⟩

/-! ## Packets of a stream -/

/-- A TCP header and as many bytes as it announces. -/
def Whole (p : List UInt8) : Prop :=
  p.length = sizeofTCPheader + (adsLength (ofList p) 0).toNat

instance (p : List UInt8) : Decidable (Whole p) :=
  inferInstanceAs (Decidable (p.length = sizeofTCPheader + (adsLength (ofList p) 0).toNat))

/-- What `_ADSWritePacket()` hands to `send()` is a packet. -/
theorem whole_load (m : Mem) (p : Nat) :
    Whole (load m p (sizeofTCPheader + (adsLength m p).toNat)) := by
  have sizes := packetSizes
  have field : adsLength (ofList (load m p (sizeofTCPheader + (adsLength m p).toNat))) 0 =
      adsLength m p := get32_congr (load_ofList_load (by omega))
  rw [Whole, field, length_load]

/-- Of two packets at the start of one stream neither goes further. -/
theorem Whole.unique {p q x y : List UInt8} (hp : Whole p) (hq : Whole q)
    (stream : p ++ x = q ++ y) : p = q := by
  have lengths : p.length = q.length := by
    unfold Whole at hp hq
    rw [hp, hq, ← @adsLength_append p x (by omega), stream, adsLength_append (by omega)]
  exact (List.append_inj stream lengths).1

/-! ## Calls on one interface -/

/-- A call with the memory and the place of its packet. -/
inductive PacketCall where
  | read (m : Mem) (b : Nat)
  | write (m : Mem) (p : Nat)

/-- The line after a call. -/
def PacketCall.next (di : ADSInterface) : PacketCall → Line → Line
  | .read m b, l => (adsReadPacket (some di) m b l).sock
  | .write m p, l => (adsWritePacket (some di) m p l).sock

/-- The call reports a complete packet. -/
def PacketCall.Succeeds (di : ADSInterface) : PacketCall → Line → Prop
  | .read m b, l => (adsReadPacket (some di) m b l).rc > 0 ∧ (adsReadPacket (some di) m b l).error = 0
  | .write m p, l => (adsWritePacket (some di) m p l).rc = 1

/-- The call starts at a packet boundary of its stream, where `ps` are the
packets of the peer. -/
def PacketCall.Aligned (ps : List (List UInt8)) : PacketCall → Line → Prop
  | .read .., l => ∃ seen, seen <+: ps ∧ l.received = seen.flatten
  | .write .., l => ∃ qs : List (List UInt8), (∀ q ∈ qs, Whole q) ∧ l.sent = qs.flatten

/-- The line does not stop the call inside a packet: no byte comes at all or a
whole packet without a pause, and `send()` takes nothing or everything. -/
def PacketCall.Spared : PacketCall → Line → Prop
  | .read .., l => (∀ b rx, l.rx ≠ .byte b :: rx) ∨
    ∃ p rx, Whole p ∧ p.length ≤ 2 ^ 31 ∧ l.rx = arrive p ++ rx
  | .write m p, l => ∀ n errno tx, l.tx = .short n errno :: tx →
    n = 0 ∨ sizeofTCPheader + (adsLength m p).toNat ≤ n

/-- The calls on an interface. -/
def packetStep (di : ADSInterface) (l : Line) (op : PacketCall) (l' : Line) : Prop :=
  op.next di l = l'

/-- Those that are not stopped inside a packet. -/
def sparedStep (di : ADSInterface) : Line → PacketCall → Line → Prop :=
  Guarded (fun l op => di.error = 0 → op.Spared l) (packetStep di)

/-! ## Both streams stay at packet boundaries -/

/-- What was received is whole packets of the peer, what will arrive continues
with the next one, and what was sent is whole packets. -/
structure Line.AtBoundary (ps : List (List UInt8)) (l : Line) : Prop where
  incoming : ∃ seen coming, ps = seen ++ coming ∧ l.received = seen.flatten ∧
    arriving l.rx <+: coming.flatten
  outgoing : ∃ qs : List (List UInt8), (∀ q ∈ qs, Whole q) ∧ l.sent = qs.flatten

theorem adsReadPacket_whole {σ : Type} [Socket σ] {di : ADSInterface} {m : Mem} {b : Nat}
    {s s' : σ} {p : List UInt8} {pt' : Option Timeval} (clear : di.error = 0)
    (delivery : Delivers (readTimeout di.timeout) s p pt' s') (whole : Whole p)
    (small : p.length ≤ 2 ^ 31) : (adsReadPacket (some di) m b s).sock = s' := by
  rcases Nat.lt_or_eq_of_le small with counted | full
  · rw [adsReadPacket_complete clear delivery ⟨counted, whole⟩]
    split <;> rfl
  · obtain ⟨m', read⟩ := @adsReadPacket_overflow σ _ di m b s s' p pt' clear delivery full
      (by unfold Whole at whole; omega)
    rw [read]

theorem arriving_arrive (p : List UInt8) (rx : List RxEvent) :
    arriving (arrive p ++ rx) = p ++ arriving rx := by
  induction p with
  | nil => rfl
  | cons b p ih => exact congrArg (b :: ·) ih

variable {di : ADSInterface} {ps : List (List UInt8)} {l : Line}

theorem Line.AtBoundary.read (boundary : l.AtBoundary ps) (whole : ∀ p ∈ ps, Whole p)
    (m : Mem) (b : Nat) (spared : di.error = 0 → (PacketCall.read m b).Spared l) :
    ((PacketCall.read m b).next di l).AtBoundary ps := by
  by_cases clear : di.error = 0
  · rcases spared clear with pause | ⟨p, rx, packet, small, arrives⟩
    · obtain ⟨rc, error, l', breaks, received, sent, -, rest⟩ :=
        Line.breaks (readTimeout di.timeout) pause
      have read := @adsReadPacket_broken Line _ di m b l l l' [] _ rc error clear (.nil _ _)
        ⟨by decide, Or.inl (by decide)⟩ breaks
      rw [PacketCall.next, read]
      exact ⟨by rw [received, rest]; exact boundary.incoming, by rw [sent]; exact boundary.outgoing⟩
    · obtain ⟨tx, rx', received, sent⟩ := l
      have arrives : rx' = arrive p ++ rx := arrives
      subst arrives
      rw [PacketCall.next, adsReadPacket_whole clear (Line.delivers _ tx p rx received sent) packet
        small]
      refine ⟨?_, boundary.outgoing⟩
      obtain ⟨seen, coming, rfl, taken, stream⟩ := boundary.incoming
      rw [arriving_arrive] at stream
      obtain ⟨rest, stream⟩ := stream
      rw [List.append_assoc] at stream
      -- The packet that came is the next one of the peer.
      cases coming with
      | nil =>
          have sizes := packetSizes
          have none := congrArg List.length stream
          unfold Whole at packet
          rw [List.length_append, List.flatten_nil, List.length_nil] at none
          omega
      | cons q coming =>
          rw [List.flatten_cons] at stream
          have same := Whole.unique packet
            (whole q (List.mem_append_right _ (List.mem_cons_self ..))) stream
          subst same
          refine ⟨seen ++ [p], coming, ?_, ?_, rest, List.append_cancel_left stream⟩
          · rw [List.append_assoc, List.singleton_append]
          · show received ++ p = _
            rw [List.flatten_append, List.flatten_singleton, ← taken]
  · have read : (PacketCall.read m b).next di l = l := by
      simp only [PacketCall.next, adsReadPacket, ne_eq, clear, not_false_eq_true, if_true]
    rwa [read]

/-- What a `send()` does to the stream. -/
theorem Line.send_cases (l : Line) (bytes : List UInt8)
    (all : ∀ n errno tx, l.tx = .short n errno :: tx → n = 0 ∨ bytes.length ≤ n) :
    (Socket.send l bytes).2.received = l.received ∧ (Socket.send l bytes).2.rx = l.rx ∧
      ((Socket.send l bytes).2.sent = l.sent ∨ (Socket.send l bytes).2.sent = l.sent ++ bytes) := by
  obtain ⟨tx, rx, received, sent⟩ := l
  rcases tx with _ | ⟨_ | ⟨n, errno⟩ | errno, tx⟩
  · exact ⟨rfl, rfl, Or.inr rfl⟩
  · exact ⟨rfl, rfl, Or.inr rfl⟩
  · refine ⟨rfl, rfl, ?_⟩
    rcases all n errno tx rfl with rfl | large
    · exact Or.inl (List.append_nil _)
    · exact Or.inr (congrArg (sent ++ ·) (List.take_of_length_le large))
  · exact ⟨rfl, rfl, Or.inl rfl⟩

theorem Line.AtBoundary.write (boundary : l.AtBoundary ps) (m : Mem) (p : Nat)
    (spared : di.error = 0 → (PacketCall.write m p).Spared l) :
    ((PacketCall.write m p).next di l).AtBoundary ps := by
  by_cases clear : di.error = 0
  · have after : (PacketCall.write m p).next di l =
        (Socket.send l (load m p (sizeofTCPheader + (adsLength m p).toNat))).2 := by
      simp only [PacketCall.next, adsWritePacket, clear, ne_eq, not_true_eq_false, if_false]
      split
      · next sent => rw [sent]
      · next sent =>
          rw [sent]
          split <;> rfl
    have all := spared clear
    have packet := whole_load m p
    have size := length_load m p (sizeofTCPheader + (adsLength m p).toNat)
    generalize load m p (sizeofTCPheader + (adsLength m p).toNat) = bytes at after packet size
    rcases Line.send_cases l bytes (by rw [size]; exact all) with ⟨received, rx, sent⟩
    rw [after]
    refine ⟨by rw [received, rx]; exact boundary.incoming, ?_⟩
    obtain ⟨qs, whole, before⟩ := boundary.outgoing
    rcases sent with nothing | everything
    · exact ⟨qs, whole, nothing.trans before⟩
    · refine ⟨qs ++ [bytes], fun q inside => ?_, ?_⟩
      · rcases List.mem_append.mp inside with old | new
        · exact whole q old
        · exact List.mem_singleton.mp new ▸ packet
      · rw [everything, before, List.flatten_append, List.flatten_singleton]
  · have written : (PacketCall.write m p).next di l = l := by
      simp only [PacketCall.next, adsWritePacket, ne_eq, clear, not_false_eq_true, if_true]
    rwa [written]

/-- **Packet boundaries.** In a run whose calls are not stopped inside a packet,
every call that reports a packet starts at a packet boundary of its stream. -/
theorem packets_aligned (di : ADSInterface) (ps : List (List UInt8)) (whole : ∀ p ∈ ps, Whole p)
    (start : Line) (received : start.received = []) (sent : start.sent = [])
    (stream : arriving start.rx <+: ps.flatten) (ops : List PacketCall) (l : Line)
    (run : Run (sparedStep di) start ops l) (op : PacketCall) :
    op.Succeeds di l → op.Aligned ps l := by
  have first : start.AtBoundary ps :=
    ⟨⟨[], ps, rfl, received, stream⟩, ⟨[], fun q inside => absurd inside List.not_mem_nil, sent⟩⟩
  have boundary : l.AtBoundary ps := by
    apply Run.invariant run first
    rintro l op l' boundary ⟨spared, rfl⟩
    cases op with
    | read m b => exact boundary.read whole m b spared
    | write m p => exact boundary.write m p spared
  intro _
  cases op with
  | read m b =>
      obtain ⟨seen, coming, split, taken, -⟩ := boundary.incoming
      exact ⟨seen, ⟨coming, split.symm⟩, taken⟩
  | write m p => exact boundary.outgoing

/-- One packet of nine bytes. -/
def ninePacket : List UInt8 := [0, 0, 3, 0, 0, 0, 0, 7, 7]

/-- It pauses behind its first byte, and the reader runs into its time limit. -/
def pausedLine : Line := ⟨[], .byte 0 :: .timeOut :: arrive [0, 3, 0, 0, 0, 0, 7, 7], [], []⟩

/-- An interface with a time limit. -/
def impatient : ADSInterface :=
  { adsNewInterface 3 ⟨[10, 0, 0, 3, 1, 1], rfl⟩ 801 "LinuxADS" with timeout := 1000 }

/-- A packet that comes whole after a time out. -/
theorem packets_aligned_late :
    (PacketCall.read (fun _ => 0) 0).Succeeds impatient ⟨[], arrive ninePacket, [], []⟩ ∧
      (PacketCall.read (fun _ => 0) 0).Aligned [ninePacket] ⟨[], arrive ninePacket, [], []⟩ := by
  have succeeds : (PacketCall.read (fun _ => 0) 0).Succeeds impatient
      ⟨[], arrive ninePacket, [], []⟩ := by
    show _ ∧ _
    decide +kernel
  have whole : ∀ p ∈ [ninePacket], Whole p := by decide +kernel
  have waits : sparedStep impatient ⟨[], .timeOut :: arrive ninePacket, [], []⟩
      (.read (fun _ => 0) 0) ⟨[], arrive ninePacket, [], []⟩ :=
    ⟨fun _ => Or.inl fun b rx found => absurd found (by simp),
      (by decide +kernel : (PacketCall.read (fun _ => 0) 0).next impatient _ = _)⟩
  exact ⟨succeeds, packets_aligned impatient [ninePacket] whole _ rfl rfl ⟨[], rfl⟩
    [.read (fun _ => 0) 0] _ (.single waits) (.read (fun _ => 0) 0) succeeds⟩

/-- The second call takes the rest of the header for a packet of six bytes. -/
theorem packets_not_always_aligned :
    ¬ ∀ (di : ADSInterface) (ps : List (List UInt8)), (∀ p ∈ ps, Whole p) →
      ∀ start : Line, start.received = [] → start.sent = [] → arriving start.rx <+: ps.flatten →
      ∀ (ops : List PacketCall) (l : Line), Run (packetStep di) start ops l →
      ∀ op : PacketCall, op.Succeeds di l → op.Aligned ps l := by
  intro aligned
  have run : Run (packetStep impatient) pausedLine [.read (fun _ => 0) 0]
      ⟨[], arrive [0, 3, 0, 0, 0, 0, 7, 7], [0], []⟩ :=
    .cons (by decide +kernel : (PacketCall.read (fun _ => 0) 0).next impatient pausedLine = _)
      (.nil _)
  have succeeds : (PacketCall.read (fun _ => 0) 0).Succeeds impatient
      ⟨[], arrive [0, 3, 0, 0, 0, 0, 7, 7], [0], []⟩ := by
    show _ ∧ _
    decide +kernel
  have whole : ∀ p ∈ [ninePacket], Whole p := by decide +kernel
  obtain ⟨seen, front, received⟩ := aligned impatient [ninePacket] whole pausedLine rfl rfl
    ⟨[], rfl⟩ _ _ run (.read (fun _ => 0) 0) succeeds
  -- Only nothing or all of the packet lies before a boundary.
  rcases seen with _ | ⟨q, rest⟩
  · cases received
  · rcases front with ⟨more, stream⟩
    cases (List.cons.inj stream).1
    cases congrArg List.length received

end LibAds
