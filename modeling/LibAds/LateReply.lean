import LibAds.RequestStream

/-!
# Replies that come late

A server that answers every request once and in order, a network that delays
the answers, and a client that gives up at any byte (`Wire`). No operation
compares the invoke id of a packet with the one of its request, so a reply that
comes after its call has timed out is read by the next call. Until something
times out the wire is empty between two calls (`Wire.Settled`), and then a call
meets its own reply (`replies_matched`).
-/

namespace LibAds

open ByteMemory SocketModel

/-! ## The wire -/

/-- An answer of the server. The invoke id is filled in when it is sent. -/
structure ServerAnswer where
  header : AMSheader
  data : List UInt8
  small : dataOffset + data.length < 2 ^ 31
  deriving DecidableEq

def ServerAnswer.packet (a : ServerAnswer) (invokeId : UInt32) : List UInt8 :=
  adsPacket { a.header with invokeId := invokeId } a.data

/-- What happens while the client waits in `select()`: the server answers the
oldest request it has not answered, a byte arrives, or the time is up. -/
inductive Turn where
  | answer (a : ServerAnswer)
  | arrive
  | timeOut
  deriving DecidableEq

/-- The server and the network: the requests not yet answered, the bytes under
way, what is to happen, and whether a time limit has passed so far. -/
structure Wire where
  pending : List UInt32
  stream : List UInt8
  turns : List Turn
  expired : Bool
  deriving DecidableEq

/-- `select()` returns when a byte has arrived or the time is up. -/
def Wire.wait : List Turn → List UInt32 → List UInt8 → Bool → SelectResult × Wire
  | [], pending, stream, _ => (.timedOut, ⟨pending, stream, [], true⟩)
  | .timeOut :: turns, pending, stream, _ => (.timedOut, ⟨pending, stream, turns, true⟩)
  | .answer a :: turns, id :: pending, stream, expired =>
    Wire.wait turns pending (stream ++ a.packet id) expired
  | .answer _ :: turns, [], stream, expired => Wire.wait turns [] stream expired
  | .arrive :: turns, pending, [], expired => Wire.wait turns pending [] expired
  | .arrive :: turns, pending, b :: stream, expired =>
    (.ready, ⟨pending, b :: stream, turns, expired⟩)

/-- The server gets a request. -/
def Wire.ask (w : Wire) (invokeId : UInt32) : Wire :=
  { w with pending := w.pending ++ [invokeId] }

instance : Socket Wire where
  send w bytes := (.sent bytes.length 0, w.ask (invokeIdOf (ofList bytes) 0))
  select w pt :=
    let (result, w) := Wire.wait w.turns w.pending w.stream w.expired
    (result, pt, w)
  recv w :=
    match w.stream with
    | [] => (.shutDown, w)
    | b :: stream => (.byte b, { w with stream := stream })

/-- A wire on which nothing has happened. -/
def Wire.idle (turns : List Turn) : Wire := ⟨[], [], turns, false⟩

/-! ## One reply -/

theorem ServerAnswer.complete (a : ServerAnswer) (invokeId : UInt32) :
    Complete (a.packet invokeId) :=
  adsPacket_complete (by rw [length_adsPacket]; exact a.small)

theorem ServerAnswer.packet_cons (a : ServerAnswer) (invokeId : UInt32) :
    ∃ b bs, a.packet invokeId = b :: bs := by
  apply List.exists_cons_of_length_pos
  rw [ServerAnswer.packet, length_adsPacket]
  exact Nat.add_pos_left (by decide) _

/-- A wait with bytes under way and no request pending. -/
theorem Wire.wait_stream (b : UInt8) (bs : List UInt8) (turns : List Turn) :
    (∃ turns', Wire.wait turns [] (b :: bs) false = (.ready, ⟨[], b :: bs, turns', false⟩)) ∨
      ∃ w, Wire.wait turns [] (b :: bs) false = (.timedOut, w) ∧ w.expired = true := by
  induction turns with
  | nil => exact Or.inr ⟨_, rfl, rfl⟩
  | cons turn turns ih =>
      cases turn with
      | answer a => exact ih
      | arrive => exact Or.inl ⟨turns, rfl⟩
      | timeOut => exact Or.inr ⟨_, rfl, rfl⟩

/-- A wait with one request pending and no byte under way. -/
theorem Wire.wait_pending (id : UInt32) (turns : List Turn) :
    (∃ (a : ServerAnswer) (turns' : List Turn),
        Wire.wait turns [id] [] false = (.ready, ⟨[], a.packet id, turns', false⟩)) ∨
      ∃ w, Wire.wait turns [id] [] false = (.timedOut, w) ∧ w.expired = true := by
  induction turns with
  | nil => exact Or.inr ⟨_, rfl, rfl⟩
  | cons turn turns ih =>
      cases turn with
      | answer a =>
          rcases a.packet_cons id with ⟨b, bs, packet⟩
          rcases Wire.wait_stream b bs turns with ⟨turns', ready⟩ | ⟨w, timedOut, expired⟩
          · exact Or.inl ⟨a, turns', by rw [Wire.wait, List.nil_append, packet, ready]⟩
          · exact Or.inr ⟨w, by rw [Wire.wait, List.nil_append, packet, timedOut], expired⟩
      | arrive => exact ih
      | timeOut => exact Or.inr ⟨_, rfl, rfl⟩

theorem Wire.breaks {w w' : Wire} (pt : Option Timeval)
    (timedOut : Wire.wait w.turns w.pending w.stream w.expired = (.timedOut, w')) :
    Breaks pt w (-1) 0 w' := by
  refine ⟨by decide, fun m b => ⟨pt, ?_⟩⟩
  simp only [adsReadByte, Socket.select, timedOut]

theorem Wire.delivers_cons {w : Wire} {pt pt' : Option Timeval} {b : UInt8} {bs xs : List UInt8}
    {turns : List Turn} {w' : Wire}
    (ready : Wire.wait w.turns w.pending w.stream w.expired =
      (.ready, ⟨[], b :: bs, turns, false⟩))
    (rest : Delivers pt (⟨[], bs, turns, false⟩ : Wire) xs pt' w') :
    Delivers pt w (b :: xs) pt' w' := by
  have selected : Socket.select w pt = (.ready, pt, ⟨[], b :: bs, turns, false⟩) := by
    simp only [Socket.select, ready]
  exact .cons selected rfl rest

/-- Bytes under way come to the last one, or the time is up before. -/
theorem Wire.delivers_or_breaks (pt : Option Timeval) (bs : List UInt8) (turns : List Turn) :
    (∃ turns', Delivers pt (⟨[], bs, turns, false⟩ : Wire) bs pt ⟨[], [], turns', false⟩) ∨
      ∃ xs ys w w', bs = xs ++ ys ∧ ys ≠ [] ∧
        Delivers pt (⟨[], bs, turns, false⟩ : Wire) xs pt w ∧ Breaks pt w (-1) 0 w' ∧
        w'.expired = true := by
  induction bs generalizing turns with
  | nil => exact Or.inl ⟨turns, .nil pt _⟩
  | cons b bs ih =>
      rcases Wire.wait_stream b bs turns with ⟨turns', ready⟩ | ⟨w', timedOut, expired⟩
      · rcases ih turns' with ⟨last, delivery⟩ | ⟨xs, ys, w, w', rfl, missing, delivery, breaks⟩
        · exact Or.inl ⟨last, Wire.delivers_cons ready delivery⟩
        · exact Or.inr ⟨b :: xs, ys, w, w', rfl, missing, Wire.delivers_cons ready delivery, breaks⟩
      · exact Or.inr ⟨[], b :: bs, _, w', rfl, List.cons_ne_nil b bs, .nil pt _,
          Wire.breaks pt timedOut, expired⟩

/-- The one request pending gets its reply, or the time is up before. -/
theorem Wire.reply_or_breaks (pt : Option Timeval) (id : UInt32) (turns : List Turn) :
    (∃ (a : ServerAnswer) (turns' : List Turn),
        Delivers pt (⟨[id], [], turns, false⟩ : Wire) (a.packet id) pt ⟨[], [], turns', false⟩) ∨
      ∃ xs w w', Delivers pt (⟨[id], [], turns, false⟩ : Wire) xs pt w ∧ Incomplete xs ∧
        Breaks pt w (-1) 0 w' ∧ w'.expired = true := by
  rcases Wire.wait_pending id turns with ⟨a, turns', ready⟩ | ⟨w', timedOut, expired⟩
  · rcases a.packet_cons id with ⟨b, bs, packet⟩
    have complete := a.complete id
    rw [packet] at ready complete
    rcases Wire.delivers_or_breaks pt bs turns' with
      ⟨last, delivery⟩ | ⟨xs, ys, w, w', rfl, missing, delivery, breaks⟩
    · refine Or.inl ⟨a, last, ?_⟩
      rw [packet]
      exact Wire.delivers_cons ready delivery
    · exact Or.inr ⟨b :: xs, w, w', Wire.delivers_cons ready delivery,
        Complete.incomplete complete missing, breaks⟩
  · exact Or.inr ⟨[], _, w', .nil pt _, ⟨by decide, Or.inl (by decide)⟩,
      Wire.breaks pt timedOut, expired⟩

/-- The invoke id of a packet is read from the buffer whether it fits or not. -/
theorem invokeIdOf_adsReadPacket {σ : Type} [Socket σ] {di : ADSInterface} {m : Mem} {b : Nat}
    {s s' : σ} {a : ServerAnswer} {id : UInt32} {pt' : Option Timeval} (clear : di.error = 0)
    (delivery : Delivers (readTimeout di.timeout) s (a.packet id) pt' s') :
    invokeIdOf (adsReadPacket (some di) m b s).mem b = id ∧
      (adsReadPacket (some di) m b s).sock = s' := by
  have held : load (store m b (a.packet id)) b (dataOffset + a.data.length) = a.packet id :=
    load_store_of_length (length_adsPacket _ _)
  have stored : invokeIdOf (store m b (a.packet id)) b = id :=
    congrArg AMSheader.invokeId (adsPacket_read held).1
  rw [adsReadPacket_complete clear delivery (a.complete id)]
  by_cases long : (a.packet id).length > MAXDATALEN
  · rw [if_pos long]
    exact ⟨(get32_congr (load_markOverlong (by decide) (by decide))).trans stored, rfl⟩
  · rw [if_neg long]
    exact ⟨stored, rfl⟩

/-- **One reply.** With one request pending and nothing under way,
`_ADSReadPacket()` reads the reply to that request and leaves the wire empty,
or it times out. -/
theorem Wire.readPacket {di : ADSInterface} {m : Mem} {b : Nat} {id : UInt32} {turns : List Turn}
    (clear : di.error = 0) :
    (invokeIdOf (adsReadPacket (some di) m b (⟨[id], [], turns, false⟩ : Wire)).mem b = id ∧
        ∃ turns', (adsReadPacket (some di) m b (⟨[id], [], turns, false⟩ : Wire)).sock =
          ⟨[], [], turns', false⟩) ∨
      ((adsReadPacket (some di) m b (⟨[id], [], turns, false⟩ : Wire)).rc = -1 ∧
        (adsReadPacket (some di) m b (⟨[id], [], turns, false⟩ : Wire)).sock.expired = true) := by
  rcases Wire.reply_or_breaks (readTimeout di.timeout) id turns with
    ⟨a, turns', delivery⟩ | ⟨xs, w, w', delivery, incomplete, breaks, expired⟩
  · rcases @invokeIdOf_adsReadPacket Wire _ di m b _ _ a id _ clear delivery with ⟨read, after⟩
    exact Or.inl ⟨read, turns', after⟩
  · rw [adsReadPacket_broken clear delivery incomplete breaks]
    exact Or.inr ⟨rfl, expired⟩

/-! ## What is under way between two calls -/

/-- Nothing has timed out, and then nothing is under way; or something has. -/
def Wire.Settled (w : Wire) : Prop := w.expired = true ∨ (w.pending = [] ∧ w.stream = [])

theorem Wire.wait_expired (turns : List Turn) (pending : List UInt32) (stream : List UInt8) :
    (Wire.wait turns pending stream true).2.expired = true := by
  induction turns generalizing pending stream with
  | nil => rfl
  | cons turn turns ih =>
      cases turn with
      | answer a =>
          cases pending with
          | nil => exact ih [] stream
          | cons id pending => exact ih pending _
      | arrive =>
          cases stream with
          | nil => exact ih pending []
          | cons b stream => rfl
      | timeOut => rfl

/-- A time limit that has passed stays passed. -/
theorem Wire.readPacket_expired {di : Option ADSInterface} {m : Mem} {b : Nat} {w : Wire}
    (expired : w.expired = true) : (adsReadPacket di m b w).sock.expired = true := by
  refine @adsReadPacket_invariant Wire _ (fun _ w => w.expired = true) b ?_ (fun _ _ kept => kept)
    di m w expired
  rintro m ⟨pending, stream, turns, passed⟩ a pt _ _ rfl
  have waited := Wire.wait_expired turns pending stream
  unfold adsReadByte
  simp only [Socket.select, Socket.recv]
  generalize Wire.wait turns pending stream true = result at waited ⊢
  rcases result with ⟨_ | _ | _, ⟨pending', stream', turns', passed⟩⟩
  · exact waited
  · exact waited
  · cases stream' <;> exact waited

/-! ## Runs -/

/-- The invoke id a call puts into its request. -/
theorem Call.request_id {c : Call} (fits : c.Fits) (dc : ADSConnection) :
    invokeIdOf (c.request dc).mem msgOut = dc.invokeId + 1 :=
  congrArg AMSheader.invokeId (headerBytes_read (Call.request_headers fits dc)).2

theorem Call.sends_wire {c : Call} {dc : ADSConnection} (fits : c.Fits)
    (clear : dc.iface.error = 0) (w : Wire) : c.Sends dc w (w.ask (dc.invokeId + 1)) := by
  rcases Call.request_length fits dc with ⟨headers, small⟩
  unfold MAXDATALEN at small
  unfold dataOffset sizeofTCPheader sizeofAMSheader at headers
  have sentId : invokeIdOf (ofList (load (c.request dc).mem msgOut
      (sizeofTCPheader + (adsLength (c.request dc).mem msgOut).toNat))) 0 = dc.invokeId + 1 := by
    rw [← c.request_id fits dc]
    exact get32_congr (load_ofList_load headers)
  refine @Call.sends_of_send Wire _ c dc w _ 0 clear (by omega) ?_
  simp only [Socket.send, length_load, sentId]

/-- A call that returns 0 or stores anything has found in `msgIn` the invoke id
of its own request. -/
def Call.Matched {σ : Type} [Socket σ] (c : Call) (dc : ADSConnection) (s : σ) : Prop :=
  (c.run dc s).ret = 0 ∨ (c.run dc s).outs ≠ {} →
    invokeIdOf (c.run dc s).dc.mem msgIn = invokeIdOf (c.request dc).mem msgOut

/-- A whole packet comes in time once the request of the call has been sent. -/
def Call.Answered (c : Call) (dc : ADSConnection) (w : Wire) : Prop :=
  ∃ bs pt' w', Delivers (readTimeout dc.iface.timeout)
    (w.ask (invokeIdOf (c.request dc).mem msgOut)) bs pt' w' ∧ Complete bs

/-- A reading operation reports a time out. -/
theorem Call.finish_timedOut {σ : Type} {c : Call} (dc : ADSConnection) {r : PacketRead σ}
    (read : c.isWrite = false) (timedOut : r.rc = -1) :
    ¬ ((c.finish dc r).ret = 0 ∨ (c.finish dc r).outs ≠ {}) := by
  rcases r with ⟨rc, error, m, s⟩
  subst timedOut
  have failed : ¬ (((c.request dc).received (-1) m).AnswLen > 0 ∧ error = 0) :=
    fun taken => absurd taken.1 (show ¬ (-1 : Int) > 0 by decide)
  simp only [Call.finish, Call.answer_failed read failed]
  rintro (zero | stored)
  · exact absurd zero (show (0x15 : Int) ≠ 0 by decide)
  · exact stored rfl

/-- One call keeps the wire settled. -/
theorem Call.run_settled {c : Call} {dc : ADSConnection} {w : Wire} (fits : c.Fits)
    (clear : dc.iface.error = 0) (settled : w.Settled) : (c.run dc w).sock.Settled := by
  rw [Call.run_sent (c.sends_wire fits clear w), Call.finish_sock]
  rcases w with ⟨pending, stream, turns, passed⟩
  cases passed with
  | true => exact Or.inl (Wire.readPacket_expired rfl)
  | false =>
      rcases settled with expired | ⟨rfl, rfl⟩
      · cases expired
      · rcases @Wire.readPacket dc.iface (c.request dc).mem msgIn (dc.invokeId + 1) turns clear with
          ⟨_, turns', after⟩ | ⟨_, expired⟩
        · exact Or.inr (after.symm ▸ ⟨rfl, rfl⟩)
        · exact Or.inl expired

/-- Any number of calls keep it settled. -/
theorem runCalls_settled {cs : List Call} {dc : ADSConnection} {w : Wire}
    (fits : ∀ c ∈ cs, c.Fits) (clear : dc.iface.error = 0) (settled : w.Settled) :
    (runCalls cs dc w).2.2.Settled ∧ (runCalls cs dc w).2.1.iface.error = 0 := by
  refine @runCalls_invariant Wire _ (fun dc w => w.Settled ∧ dc.iface.error = 0) cs ?_ dc w
    ⟨settled, clear⟩
  intro c inside dc w holds
  rcases holds with ⟨settled, clear⟩
  have keeps := (Call.run_keeps (fits c inside) dc w).1
  exact ⟨Call.run_settled (fits c inside) clear settled, by rw [keeps.iface, clear]⟩

/-- On a wire where nothing has timed out, a call that gets a packet gets its own reply. -/
theorem Call.matched_of_settled {c : Call} {dc : ADSConnection} {w : Wire} (fits : c.Fits)
    (clear : dc.iface.error = 0) (settled : w.Settled) (inTime : w.expired = false)
    (answered : c.isWrite → c.Answered dc w) : c.Matched dc w := by
  rcases w with ⟨pending, stream, turns, passed⟩
  cases inTime
  rcases settled with expired | ⟨rfl, rfl⟩
  · cases expired
  · unfold Call.Matched
    rw [Call.run_sent (c.sends_wire fits clear _), Call.finish_mem, c.request_id fits]
    rcases @Wire.readPacket dc.iface (c.request dc).mem msgIn (dc.invokeId + 1) turns clear with
      ⟨read, _⟩ | ⟨timedOut, _⟩
    · exact fun _ => read
    · cases write : c.isWrite with
      | false => exact fun taken => absurd taken (c.finish_timedOut dc write timedOut)
      | true =>
          rcases answered write with ⟨bs, pt', w', delivery, complete⟩
          rw [c.request_id fits] at delivery
          have whole := @adsReadPacket_complete Wire _ dc.iface (c.request dc).mem msgIn _ _ bs pt'
            clear delivery complete
          have count : (adsReadPacket (some dc.iface) (c.request dc).mem msgIn
              (Wire.ask ⟨[], [], turns, false⟩ (dc.invokeId + 1))).rc = bs.length := by
            rw [whole]
            split <;> rfl
          have count := count.symm.trans timedOut
          omega

/-- **A call meets its own reply until something times out.** In every run, as
long as no earlier `select()` has timed out, a reading operation that succeeds
has read the reply to its own request, and so has a write to which a whole
packet came in time. -/
theorem replies_matched (cs : List Call) (c : Call) (dc : ADSConnection) (turns : List Turn)
    (clear : dc.iface.error = 0) (fits : ∀ c' ∈ cs ++ [c], c'.Fits)
    (inTime : (runCalls cs dc (Wire.idle turns)).2.2.expired = false)
    (answered : c.isWrite → c.Answered (runCalls cs dc (Wire.idle turns)).2.1
      (runCalls cs dc (Wire.idle turns)).2.2) :
    c.Matched (runCalls cs dc (Wire.idle turns)).2.1 (runCalls cs dc (Wire.idle turns)).2.2 := by
  have earlier : ∀ c' ∈ cs, c'.Fits := fun c' inside => fits c' (List.mem_append_left _ inside)
  rcases @runCalls_settled cs dc (Wire.idle turns) earlier clear (Or.inr ⟨rfl, rfl⟩) with
    ⟨settled, clear⟩
  exact Call.matched_of_settled (fits c (by simp)) clear settled inTime answered

/-! ## A prompt server and a late one -/

theorem Wire.delivers_arrive (pt : Option Timeval) (bs : List UInt8) (turns : List Turn) :
    Delivers pt (⟨[], bs, List.replicate bs.length .arrive ++ turns, false⟩ : Wire) bs pt
      ⟨[], [], turns, false⟩ :=
  @Delivers.of_feed Wire _ pt
    (fun bs => ⟨[], bs, List.replicate bs.length .arrive ++ turns, false⟩)
    (fun _ _ => ⟨_, rfl, rfl⟩) bs

/-- The turns in which a request is answered and the reply arrives. -/
def promptTurns (a : ServerAnswer) (turns : List Turn) : List Turn :=
  .answer a :: List.replicate (dataOffset + a.data.length) .arrive ++ turns

theorem Wire.delivers_prompt (pt : Option Timeval) (id : UInt32) (a : ServerAnswer)
    (turns : List Turn) :
    Delivers pt (⟨[id], [], promptTurns a turns, false⟩ : Wire) (a.packet id) pt
      ⟨[], [], turns, false⟩ := by
  have size : dataOffset + a.data.length = (a.packet id).length :=
    (length_adsPacket _ _).symm
  rcases a.packet_cons id with ⟨b, bs, packet⟩
  unfold promptTurns
  rw [size, packet]
  refine Wire.delivers_cons ?_ (Wire.delivers_arrive pt bs turns)
  show Wire.wait (List.replicate (b :: bs).length .arrive ++ turns) [] ([] ++ a.packet id) false = _
  rw [packet]
  rfl

/-- The answer to a read state request: the device runs. -/
def stateAnswered : ServerAnswer :=
  ⟨firstReply cmdADSreadState 5 8 0, [0, 0, 0, 0, 5, 0, 0, 0], by decide⟩

/-- The answer to a write request: done. -/
def writeAnswered : ServerAnswer := ⟨firstReply cmdADSwrite 5 4 0, [0, 0, 0, 0], by decide⟩

/-- A write of four bytes. -/
def writeFour : Call := .writeBytes 0xf005 0 4 (some fun _ => 7)

/-- A read state and a write that are both answered in time. -/
theorem replies_matched_prompt :
    writeFour.Matched
      (runCalls [.readState] hurriedConnection
        (Wire.idle (promptTurns stateAnswered (promptTurns writeAnswered [])))).2.1
      (runCalls [.readState] hurriedConnection
        (Wire.idle (promptTurns stateAnswered (promptTurns writeAnswered [])))).2.2 := by
  have wire : (runCalls [.readState] hurriedConnection
      (Wire.idle (promptTurns stateAnswered (promptTurns writeAnswered [])))).2.2 =
      Wire.idle (promptTurns writeAnswered []) := by
    decide +kernel
  refine replies_matched [.readState] writeFour hurriedConnection
    (promptTurns stateAnswered (promptTurns writeAnswered [])) rfl
    (by simp [writeFour, Call.Fits, dataOffset, MAXDATALEN, sizeofTCPheader, sizeofAMSheader])
    (by rw [wire]; rfl) fun _ => ?_
  rw [wire]
  exact ⟨_, _, _, Wire.delivers_prompt _ _ writeAnswered [], writeAnswered.complete _⟩

/-- The reply to a read state request that timed out answers the next one. -/
theorem replies_not_always_matched :
    ¬ ∀ (cs : List Call) (c : Call) (dc : ADSConnection) (turns : List Turn),
      dc.iface.error = 0 → (∀ c' ∈ cs ++ [c], c'.Fits) →
      c.Matched (runCalls cs dc (Wire.idle turns)).2.1
        (runCalls cs dc (Wire.idle turns)).2.2 := by
  intro matched
  have taken := matched [.readState] .readState hurriedConnection
    (.timeOut :: promptTurns stateAnswered []) rfl (by simp [Call.Fits])
  unfold Call.Matched at taken
  have success : (Call.readState.run
      (runCalls [.readState] hurriedConnection
        (Wire.idle (.timeOut :: promptTurns stateAnswered []))).2.1
      (runCalls [.readState] hurriedConnection
        (Wire.idle (.timeOut :: promptTurns stateAnswered []))).2.2).ret = 0 := by
    decide +kernel
  exact absurd (taken (Or.inl success)) (by decide +kernel)

end LibAds
