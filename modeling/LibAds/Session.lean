import LibAds.HandlerReply

/-!
# A client and the server

One client of the library and one port server of `examples/ADSserver.c`, with
the bytes under way between them. Either side is where its code is after the
bytes it has taken: a call that waits, or a turn of the server's loop that waits,
goes on with the next byte or comes to its end. Whatever the order of the two
sides' steps, what is under way is always the request of the call in progress or
the reply to it (`Session.Sound.step`).
-/

namespace LibAds

open ByteMemory LabelledRuns SocketModel

/-! ## The two sides -/

/-- A client with the calls it has yet to make, a port server, and the stream in
either direction. -/
structure Session where
  calls : List Call
  results : List (Int × Outputs)
  client : ADSConnection
  current : Option Call
  clientTaken : List UInt8
  toServer : List UInt8
  toClient : List UInt8
  server : ADSConnection
  waitCount : Nat
  serverTaken : List UInt8

/-- The call in progress, over the bytes that have been taken for it. -/
def Session.call (st : Session) (c : Call) : CallResult Script :=
  c.run st.client ⟨[], arrive st.clientTaken, []⟩

/-- The call in progress returns. -/
def Session.returned (st : Session) (c : Call) : Session :=
  { st with
    results := st.results ++ [((st.call c).ret, (st.call c).outs)]
    client := (st.call c).dc
    current := none
    clientTaken := [] }

/-- The turn of the server's loop, over the bytes that have been taken in it. -/
def Session.turn (globals : Mem) (st : Session) : PortServer Script :=
  portServerTurn globals ⟨st.server, st.waitCount, ⟨[], arrive st.serverTaken, []⟩⟩

/-- The server's turn ends. What it has handed to `send()` is under way. -/
def Session.turned (globals : Mem) (st : Session) : Session :=
  { st with
    server := (st.turn globals).dc
    waitCount := (st.turn globals).waitCount
    serverTaken := []
    toClient := st.toClient ++ (st.turn globals).sock.handed.flatten }

/-- What a side does next. -/
inductive Action where
  | send
  | serverByte
  | answer
  | serverTimeOut
  | serverBreaksOff
  | clientByte
  | finish
  | clientTimeOut
  deriving DecidableEq

/-- The client does not give up, and the server not in the middle of a packet. -/
def Action.InTime (action : Action) : Prop := action ≠ .clientTimeOut ∧ action ≠ .serverBreaksOff

/-- A step of either side. Bytes that are under way can be late, so a read may
time out at any time, the client's only if it has a time limit. The server takes
no more steps when 1000 reads in a row have failed. -/
inductive SessionStep (globals : Mem) : Session → Action → Session → Prop
  | send {st : Session} {c : Call} {cs : List Call} :
    st.client.iface.error = 0 → st.current = none → st.calls = c :: cs →
    SessionStep globals st .send
      { st with calls := cs, current := some c, toServer := st.toServer ++ c.handed st.client }
  | serverByte {st : Session} {b : UInt8} {bs : List UInt8} :
    st.waitCount < maxWaits → Incomplete st.serverTaken → st.toServer = b :: bs →
    SessionStep globals st .serverByte
      { st with serverTaken := st.serverTaken ++ [b], toServer := bs }
  | answer {st : Session} :
    st.waitCount < maxWaits → ¬ Incomplete st.serverTaken →
    SessionStep globals st .answer (st.turned globals)
  | serverTimeOut {st : Session} :
    st.waitCount < maxWaits → st.serverTaken = [] →
    SessionStep globals st .serverTimeOut (st.turned globals)
  | serverBreaksOff {st : Session} :
    st.waitCount < maxWaits → Incomplete st.serverTaken → st.serverTaken ≠ [] →
    SessionStep globals st .serverBreaksOff (st.turned globals)
  | clientByte {st : Session} {c : Call} {b : UInt8} {bs : List UInt8} :
    st.current = some c → Incomplete st.clientTaken → st.toClient = b :: bs →
    SessionStep globals st .clientByte
      { st with clientTaken := st.clientTaken ++ [b], toClient := bs }
  | finish {st : Session} {c : Call} :
    st.current = some c → ¬ Incomplete st.clientTaken →
    SessionStep globals st .finish (st.returned c)
  | clientTimeOut {st : Session} {c : Call} :
    st.client.iface.timeout ≠ 0 → st.current = some c → Incomplete st.clientTaken →
    SessionStep globals st .clientTimeOut (st.returned c)

/-- A client and a server that have just been connected. -/
def Session.start (calls : List Call) (client server : ADSConnection) : Session where
  calls := calls
  results := []
  client := client
  current := none
  clientTaken := []
  toServer := []
  toClient := []
  server := server
  waitCount := 0
  serverTaken := []

/-! ## What a call gets -/

/-- The size of the response struct a call is answered with. -/
def Call.replySize : Call → Nat
  | .readBytes _ _ length _ _ => 8 + length.toNat
  | .readWriteBytes _ _ readLength _ _ _ => 8 + readLength.toNat
  | .readDeviceInfo => 32
  | .readState => 8
  | .writeBytes .. | .writeControl .. => 4

/-- Request and reply fit the packet buffers. -/
structure Call.Served (c : Call) : Prop where
  fits : c.Fits
  plain : c.plain
  reply : dataOffset + c.replySize ≤ MAXDATALEN

theorem Call.length_reply (c : Call) (globals : Mem) (invokeId : UInt32) :
    ((serverReply globals invokeId c.asRequest).body c.asRequest).length = c.replySize := by
  cases c with
  | readBytes =>
      simp only [Call.asRequest, serverReply, Reply.body, List.length_append, length_toLE,
        length_load, Call.replySize]
  | readWriteBytes =>
      simp only [Call.asRequest, serverReply, Reply.body, List.length_append, length_toLE,
        length_load, Call.replySize]
  | writeBytes => rfl
  | readDeviceInfo => rfl
  | readState => rfl
  | writeControl => rfl

/-- The outcome of a call, the `k`-th of those made on the connection: the
server's reply to its own request. -/
def Call.answered (c : Call) (globals : Mem) (dc : ADSConnection) (k : Nat) : Int × Outputs :=
  c.expected (serverReply globals (c.headerAt dc k).invokeId c.asRequest)

/-- **A call over the reply.** With a response to its command in front of it, a
call returns what the response says. -/
theorem Call.run_reply {c : Call} {dc : ADSConnection} {h : AMSheader} {reply : Reply}
    (clear : dc.iface.error = 0) (own : c.Fits) (command : h.commandId = c.command)
    (fits : dataOffset + (reply.body c.asRequest).length ≤ MAXDATALEN) :
    ((c.run dc (⟨[], arrive (adsPacket h (reply.body c.asRequest)), []⟩ : Script)).ret,
      (c.run dc (⟨[], arrive (adsPacket h (reply.body c.asRequest)), []⟩ : Script)).outs) =
      c.expected reply := by
  have small := (Call.request_length own dc).2
  have length := length_adsPacket h (reply.body c.asRequest)
  have size : (adsPacket h (reply.body c.asRequest)).length ≤ MAXDATALEN := by omega
  have whole : dataOffset ≤ (adsPacket h (reply.body c.asRequest)).length := by omega
  have sends := @Call.sends_script c dc (arrive (adsPacket h (reply.body c.asRequest))) [] clear
    (Nat.lt_of_le_of_lt small (by decide))
  have delivery := Script.delivers (readTimeout dc.iface.timeout) [] ([] ++ [c.handed dc])
    (adsPacket h (reply.body c.asRequest)) []
  rw [List.append_nil] at delivery
  have complete := adsPacket_complete (Nat.lt_of_le_of_lt size (by decide))
  rw [Call.run_complete sends delivery complete size]
  have decoded := @Call.finish_decode Script _ c dc
    (store (c.request dc).mem msgIn (adsPacket h (reply.body c.asRequest)))
    ⟨[], [], [] ++ [c.handed dc]⟩ (Nat.lt_of_lt_of_le (by decide) whole)
    (Nat.lt_of_le_of_lt size (by decide)) fun _ => whole
  rw [decoded.1, decoded.2]
  obtain ⟨found, body⟩ := adsPacket_read (load_store_of_length length)
  rw [Call.decode_of_command ((congrArg AMSheader.commandId found).trans command)]
  exact Call.accept_body body fits

/-! ## What holds in every order of the steps -/

/-- What is under way: nothing between two calls, else the request of the call
in progress or the reply to it. -/
inductive Session.Traffic (globals : Mem) (header : Call → AMSheader) (st : Session) : Prop
  | quiet : st.current = none → st.clientTaken = [] → st.toServer = [] → st.serverTaken = [] →
    st.toClient = [] → Traffic globals header st
  | request (c : Call) : st.current = some c → st.clientTaken = [] → st.toClient = [] →
    st.serverTaken ++ st.toServer = requestPacket (header c) c.asRequest →
    Traffic globals header st
  | reply (c : Call) : st.current = some c → st.serverTaken = [] → st.toServer = [] →
    st.clientTaken ++ st.toClient = replyPacket globals (header c) c.asRequest →
    Traffic globals header st

/-- The calls `done` have returned what they ought to, and the next one is under
way or still to be made. -/
structure Session.Sound (globals : Mem) (calls : List Call) (dc : ADSConnection)
    (done : List Call) (st : Session) : Prop where
  made : calls = done ++ (st.current.toList ++ st.calls)
  results : st.results = done.mapIdx fun k c => c.answered globals dc k
  keeps : Keeps dc st.client
  counted : st.client.invokeId = dc.invokeId + UInt32.ofNat done.length
  clear : st.server.iface.error = 0
  out : OutClear st.server.mem
  traffic : st.Traffic globals fun c => c.headerAt dc done.length

section Steps

variable {globals : Mem} {calls done : List Call} {dc : ADSConnection} {st : Session}

theorem Session.Sound.header (sound : st.Sound globals calls dc done) (c : Call) :
    c.header st.client = c.headerAt dc done.length := by
  unfold Call.headerAt Call.header
  rw [sound.keeps.iface, sound.keeps.partner, sound.keeps.AMSport, sound.counted]

theorem Session.Sound.mem (sound : st.Sound globals calls dc done) {c : Call}
    (current : st.current = some c) : c ∈ calls := by
  rw [sound.made, current]
  simp

theorem Call.Served.wellFormed {c : Call} (served : c.Served) (dc : ADSConnection) (k : Nat) :
    WellFormed (c.headerAt dc k) c.asRequest :=
  ⟨Call.length_requestPacket served.fits served.plain.sendable _, c.asRequest_command.symm,
    (Call.sendable_lengths served.fits served.plain.sendable).1⟩

theorem Call.Served.replyFits {c : Call} (served : c.Served) (globals : Mem) (invokeId : UInt32) :
    dataOffset + ((serverReply globals invokeId c.asRequest).body c.asRequest).length ≤
      MAXDATALEN := by
  rw [c.length_reply]
  exact served.reply

/-- A prefix of a packet is the packet as soon as the reader wants no more. -/
theorem Complete.whole {xs ys p : List UInt8} (complete : Complete p) (prefix_ : xs ++ ys = p)
    (enough : ¬ Incomplete xs) : xs = p ∧ ys = [] := by
  rcases ys with _ | ⟨y, ys⟩
  · rw [List.append_nil] at prefix_
    exact ⟨prefix_, rfl⟩
  · rw [← prefix_] at complete
    exact absurd (complete.incomplete (List.cons_ne_nil y ys)) enough

theorem incomplete_nil : Incomplete [] := ⟨by decide, Or.inl (by decide)⟩

theorem WellFormed.complete {h : AMSheader} {r : Request} (wellFormed : WellFormed h r) :
    Complete (requestPacket h r) :=
  adsPacket_complete (Nat.lt_of_le_of_lt wellFormed.fits (by decide))

theorem Call.Served.complete {c : Call} (served : c.Served) (globals : Mem) (h : AMSheader) :
    Complete (replyPacket globals h c.asRequest) := by
  apply adsPacket_complete
  have fits := served.replyFits globals h.invokeId
  rw [length_adsPacket]
  exact Nat.lt_of_le_of_lt fits (by decide)

/-- The next call sends its request. -/
theorem Session.Sound.send (sound : st.Sound globals calls dc done)
    (served : ∀ c ∈ calls, c.Served) {c : Call} {cs : List Call} (idle : st.current = none)
    (next : st.calls = c :: cs) :
    Session.Sound globals calls dc done
      { st with
        calls := cs
        current := some c
        toServer := st.toServer ++ c.handed st.client } := by
  have made := sound.made
  rw [idle, next] at made
  have own : c.Served := served c (by rw [made]; simp)
  refine { sound with made := made, traffic := ?_ }
  rcases sound.traffic with ⟨_, taken, wire, read, back⟩ | ⟨c', current, _⟩ | ⟨c', current, _⟩
  · refine .request c rfl taken back ?_
    have packet := Call.request_packet own.fits own.plain.sendable st.client
    rw [sound.header c] at packet
    rw [read, wire, List.nil_append, List.nil_append]
    exact packet
  · rw [idle] at current
    cases current
  · rw [idle] at current
    cases current

/-- The server takes a byte of the request. -/
theorem Session.Sound.serverByte (sound : st.Sound globals calls dc done) {b : UInt8}
    {bs : List UInt8} (wire : st.toServer = b :: bs) :
    Session.Sound globals calls dc done
      { st with serverTaken := st.serverTaken ++ [b], toServer := bs } := by
  refine { sound with traffic := ?_ }
  rcases sound.traffic with ⟨_, _, empty, _⟩ | ⟨c, current, taken, back, stream⟩ |
    ⟨c, _, _, empty, _⟩
  · rw [empty] at wire
    cases wire
  · refine .request c current taken back ?_
    rw [wire] at stream
    rw [List.append_assoc]
    exact stream
  · rw [empty] at wire
    cases wire

/-- The client takes a byte of the reply. -/
theorem Session.Sound.clientByte (sound : st.Sound globals calls dc done) {b : UInt8}
    {bs : List UInt8} (wire : st.toClient = b :: bs) :
    Session.Sound globals calls dc done
      { st with clientTaken := st.clientTaken ++ [b], toClient := bs } := by
  refine { sound with traffic := ?_ }
  rcases sound.traffic with ⟨_, _, _, _, empty⟩ | ⟨c, _, _, empty, _⟩ |
    ⟨c, current, read, sent, stream⟩
  · rw [empty] at wire
    cases wire
  · rw [empty] at wire
    cases wire
  · refine .reply c current read sent ?_
    rw [wire] at stream
    rw [List.append_assoc]
    exact stream

/-- The server's turn over a whole request. -/
theorem Session.turn_request {h : AMSheader} {r : Request}
    (sound : st.Sound globals calls dc done) (wellFormed : WellFormed h r)
    (fits : dataOffset + ((serverReply globals h.invokeId r).body r).length ≤ MAXDATALEN)
    (taken : st.serverTaken = requestPacket h r) :
    (st.turn globals).Ready ∧ (st.turn globals).waitCount = 0 ∧
      (st.turn globals).sock.handed = [replyPacket globals h r] := by
  have ready : PortServer.Ready
      (⟨st.server, st.waitCount, ⟨[], arrive st.serverTaken, []⟩⟩ : PortServer Script) :=
    ⟨sound.clear, sound.out⟩
  have delivery := Script.delivers (readTimeout st.server.iface.timeout) [] [] st.serverTaken []
  rw [List.append_nil] at delivery
  rw [taken] at ready delivery
  unfold Session.turn
  rw [taken]
  obtain ⟨waits, _, answered⟩ :=
    @portServerTurn_packet globals _ _ _ _ ready delivery wellFormed.complete
  refine ⟨portServerTurn_ready globals ready, waits, ?_⟩
  rw [answered (requestPacket_answerable wellFormed fits), answerTo_request wellFormed fits]
  rfl

/-- The server's turn with nothing to read. -/
theorem Session.turn_idle (sound : st.Sound globals calls dc done) (taken : st.serverTaken = []) :
    (st.turn globals).Ready ∧ (st.turn globals).waitCount = st.waitCount + 1 ∧
      (st.turn globals).sock.handed = [] := by
  have ready : PortServer.Ready
      (⟨st.server, st.waitCount, ⟨[], arrive st.serverTaken, []⟩⟩ : PortServer Script) :=
    ⟨sound.clear, sound.out⟩
  rw [taken] at ready
  unfold Session.turn
  rw [taken]
  refine ⟨portServerTurn_ready globals ready, ?_⟩
  rcases portServerTurn_cases globals ready with ⟨bs, packet, _⟩ | ⟨_, _, counted, kept⟩
  · cases packet
  · exact ⟨counted, kept⟩

/-- What the server has read when it wants no more is the request of the call in
progress. -/
theorem Session.Sound.request (sound : st.Sound globals calls dc done)
    (served : ∀ c ∈ calls, c.Served) (enough : ¬ Incomplete st.serverTaken) :
    ∃ c, st.current = some c ∧ c.Served ∧
      st.serverTaken = requestPacket (c.headerAt dc done.length) c.asRequest ∧
      st.toServer = [] ∧ st.clientTaken = [] ∧ st.toClient = [] := by
  rcases sound.traffic with ⟨_, _, _, read, _⟩ | ⟨c, current, taken, back, stream⟩ |
    ⟨c, _, read, _⟩
  · rw [read] at enough
    exact absurd incomplete_nil enough
  · have own := served c (sound.mem current)
    obtain ⟨whole, sent⟩ := (own.wellFormed dc done.length).complete.whole stream enough
    exact ⟨c, current, own, whole, sent, taken, back⟩
  · rw [read] at enough
    exact absurd incomplete_nil enough

/-- The server answers the request it has read. -/
theorem Session.Sound.answer (sound : st.Sound globals calls dc done)
    (served : ∀ c ∈ calls, c.Served) (enough : ¬ Incomplete st.serverTaken) :
    Session.Sound globals calls dc done (st.turned globals) := by
  obtain ⟨c, current, own, whole, sent, taken, back⟩ := sound.request served enough
  obtain ⟨ready, _, handed⟩ :=
    Session.turn_request sound (own.wellFormed dc done.length) (own.replyFits _ _) whole
  refine { sound with clear := ready.clear, out := ready.out, traffic := ?_ }
  refine .reply c current rfl sent ?_
  show st.clientTaken ++ (st.toClient ++ (st.turn globals).sock.handed.flatten) = _
  rw [taken, back, handed]
  simp

/-- A server that waits for a request waits for the next one. -/
theorem Session.Sound.serverTimeOut (sound : st.Sound globals calls dc done)
    (unread : st.serverTaken = []) : Session.Sound globals calls dc done (st.turned globals) := by
  obtain ⟨ready, _, handed⟩ := Session.turn_idle sound unread
  refine { sound with clear := ready.clear, out := ready.out, traffic := ?_ }
  have back : st.toClient ++ (st.turn globals).sock.handed.flatten = st.toClient := by
    rw [handed, List.flatten_nil, List.append_nil]
  rcases sound.traffic with ⟨idle, taken, wire, _, reply⟩ | ⟨c, current, taken, reply, stream⟩ |
    ⟨c, current, _, wire, stream⟩
  · exact .quiet idle taken wire rfl (back.trans reply)
  · rw [unread] at stream
    exact .request c current taken (back.trans reply) stream
  · refine .reply c current rfl wire ?_
    show st.clientTaken ++ (st.toClient ++ (st.turn globals).sock.handed.flatten) = _
    rw [back]
    exact stream

theorem Keeps.trans {dc dc' dc'' : ADSConnection} (first : Keeps dc dc') (second : Keeps dc' dc'') :
    Keeps dc dc'' :=
  ⟨second.iface.trans first.iface, second.partner.trans first.partner,
    second.AMSport.trans first.AMSport⟩

/-- The call in progress returns with the reply to it. -/
theorem Session.Sound.finish (sound : st.Sound globals calls dc done)
    (fresh : dc.iface.error = 0) (served : ∀ c ∈ calls, c.Served) {c : Call}
    (current : st.current = some c) (enough : ¬ Incomplete st.clientTaken) :
    Session.Sound globals calls dc (done ++ [c]) (st.returned c) := by
  have own := served c (sound.mem current)
  rcases sound.traffic with ⟨idle, _⟩ | ⟨c', _, taken, _⟩ | ⟨c', current', read, sent, stream⟩
  · rw [idle] at current
    cases current
  · rw [taken] at enough
    exact absurd incomplete_nil enough
  · rw [current] at current'
    cases current'
    obtain ⟨whole, back⟩ := (own.complete globals _).whole stream enough
    have clear : st.client.iface.error = 0 := by rw [sound.keeps.iface, fresh]
    have outcome := @Call.run_reply c st.client
      ((c.headerAt dc done.length).answer (UInt32.ofNat ((serverReply globals
        (c.headerAt dc done.length).invokeId c.asRequest).body c.asRequest).length))
      (serverReply globals (c.headerAt dc done.length).invokeId c.asRequest) clear own.fits rfl
      (own.replyFits _ _)
    obtain ⟨keeps, counted⟩ := Call.run_keeps own.fits st.client
      (⟨[], arrive st.clientTaken, []⟩ : Script)
    constructor
    · have made := sound.made
      rw [current] at made
      rw [made, List.append_assoc]
      rfl
    · show st.results ++ [((st.call c).ret, (st.call c).outs)] = _
      unfold Session.call
      rw [whole, sound.results, List.mapIdx_concat]
      exact congrArg (_ ++ [·]) outcome
    · exact sound.keeps.trans keeps
    · have next := counted.trans (congrArg (· + 1) sound.counted)
      rw [List.length_append, List.length_singleton, UInt32.ofNat_add, ← UInt32.add_assoc]
      exact next
    · exact sound.clear
    · exact sound.out
    · exact .quiet rfl rfl sent read back

/-- **Every step in time keeps a session sound.** -/
theorem Session.Sound.step (sound : st.Sound globals calls dc done) (fresh : dc.iface.error = 0)
    (served : ∀ c ∈ calls, c.Served) {action : Action} {st' : Session} (inTime : action.InTime)
    (step : SessionStep globals st action st') :
    ∃ done', Session.Sound globals calls dc done' st' := by
  cases step with
  | send _ idle next => exact ⟨done, sound.send served idle next⟩
  | serverByte _ _ wire => exact ⟨done, sound.serverByte wire⟩
  | answer _ enough => exact ⟨done, sound.answer served enough⟩
  | serverTimeOut _ unread => exact ⟨done, sound.serverTimeOut unread⟩
  | serverBreaksOff => exact absurd rfl inTime.2
  | clientByte _ _ wire => exact ⟨done, sound.clientByte wire⟩
  | finish current enough => exact ⟨_, sound.finish fresh served current enough⟩
  | clientTimeOut => exact absurd rfl inTime.1

end Steps

theorem Session.start_sound {globals heap : Mem} {fd : Int} {me partner : AmsNetId}
    {calls : List Call} {client : ADSConnection} :
    Session.Sound globals calls client []
      (.start calls client (portServerConnection heap fd me partner)) := by
  have ready := portServerStart_ready heap fd me partner ()
  exact ⟨rfl, rfl, ⟨rfl, rfl, rfl⟩, (UInt32.add_zero _).symm, ready.clear, ready.out,
    .quiet rfl rfl rfl rfl rfl⟩

end LibAds
