import LibAds.RequestStream

/-!
# Calling a server

A server that answers every request with one packet, laid out by the response
structs, is an environment like any other (`Running`). Calls made against it
come out as if the caller had applied the server's handler to its arguments
directly (`calls_match_handler`): whatever earlier calls have left in the two
packet buffers, the wire is empty again after each call and the handler has
seen what the caller passed.
-/

namespace LibAds

open ByteMemory SocketModel

/-! ## Servers -/

/-- What a handler answers: the fields of all response structs, of which the
command decides which ones are sent. -/
structure Reply where
  result : UInt32
  data : List UInt8
  version : AdsVersion
  name : List UInt8
  nameSize : name.length = 24
  ADSstate : UInt16
  devState : UInt16

/-- `AdsVersion` in memory. -/
def AdsVersion.encode (v : AdsVersion) : List UInt8 :=
  [v.version] ++ [v.revision] ++ toLE 2 v.build.toNat

/-- The response struct of a command with the fields of a reply. -/
def Reply.body (reply : Reply) : Request → List UInt8
  | .readDevInfo => toLE 4 reply.result.toNat ++ reply.version.encode ++ reply.name
  | .read .. | .readWrite .. =>
    toLE 4 reply.result.toNat ++ toLE 4 reply.data.length ++ reply.data
  | .write .. | .writeControl .. => toLE 4 reply.result.toNat
  | .readState =>
    toLE 4 reply.result.toNat ++ toLE 2 reply.ADSstate.toNat ++ toLE 2 reply.devState.toNat

/-- A server over states `δ`: its handler, and the header it puts on the answer
to a request, which repeats the command and the invoke id and reports no error. -/
structure Server (δ : Type) where
  handler : δ → Request → δ × Reply
  header : δ → AMSheader → AMSheader
  header_commandId : ∀ d h, (header d h).commandId = h.commandId
  header_invokeId : ∀ d h, (header d h).invokeId = h.invokeId
  header_errorCode : ∀ d h, (header d h).errorCode = 0

variable {δ : Type}

/-- A running server: the state of its handler, what it has sent and the client
has not read, and the requests it has seen. -/
structure Running (server : Server δ) where
  state : δ
  wire : List UInt8
  seen : List Request

variable {server : Server δ}

/-- The server takes a request: the handler runs and one packet goes out. -/
def Running.serve (s : Running server) (bytes : List UInt8) : Running server :=
  match Request.decode (ofList bytes) 0 with
  | none => s
  | some request =>
    let (state, reply) := server.handler s.state request
    let header := server.header s.state (AMSheader.read (ofList bytes) 0)
    ⟨state, s.wire ++ adsPacket header (reply.body request), s.seen ++ [request]⟩

instance : Socket (Running server) where
  send s bytes := (.sent bytes.length 0, s.serve bytes)
  select s pt :=
    match s.wire with
    | [] => (.timedOut, pt, s)
    | _ :: _ => (.ready, pt, s)
  recv s :=
    match s.wire with
    | [] => (.shutDown, s)
    | b :: wire => (.byte b, { s with wire := wire })

/-- What is on the wire arrives. -/
theorem Running.delivers (pt : Option Timeval) (state : δ) (bs : List UInt8)
    (seen : List Request) :
    Delivers pt (⟨state, bs, seen⟩ : Running server) bs pt ⟨state, [], seen⟩ :=
  @Delivers.of_feed (Running server) _ pt (fun bs => ⟨state, bs, seen⟩)
    (fun _ _ => ⟨_, rfl, rfl⟩) bs

/-- A server that gets a request as a packet. -/
theorem Running.send_requestPacket {h : AMSheader} {r : Request} (s : Running server)
    (wellFormed : WellFormed h r) :
    Socket.send s (requestPacket h r) =
      (.sent (requestPacket h r).length 0,
        ⟨(server.handler s.state r).1,
          s.wire ++ adsPacket (server.header s.state h) ((server.handler s.state r).2.body r),
          s.seen ++ [r]⟩) := by
  have held := load_ofList (requestPacket h r)
  rw [requestPacket, length_adsPacket] at held
  have served : s.serve (requestPacket h r) =
      ⟨(server.handler s.state r).1,
        s.wire ++ adsPacket (server.header s.state h) ((server.handler s.state r).2.body r),
        s.seen ++ [r]⟩ := by
    unfold Running.serve
    rw [requestPacket, Request.decode_of_packet held wellFormed.command wellFormed.counted,
      (adsPacket_read held).1]
  rw [← served]
  rfl

/-! ## Calling the handler -/

/-- The outputs of a call for a reply, taken as they are. -/
def Call.replied : Call → Reply → Int × Outputs
  | .readBytes _ _ _ buffer pnRead, reply =>
    (intOf reply.result,
      { buffer := if buffer then reply.data else []
        pnRead := if pnRead then some (UInt32.ofNat reply.data.length) else none })
  | .writeBytes .., reply | .writeControl .., reply => (intOf reply.result, {})
  | .readDeviceInfo, reply =>
    (intOf reply.result, { pVersion := some reply.version, pDevName := some (reply.name.take 16) })
  | .readWriteBytes _ _ _ _ _ pnRead, reply =>
    (intOf reply.result,
      { buffer := reply.data
        pnRead := if pnRead then some (UInt32.ofNat reply.data.length) else none })
  | .readState, reply =>
    (intOf reply.result, { ADSstate := some reply.ADSstate, devState := some reply.devState })

/-- The number of bytes the caller has room for; without a buffer there is no
limit. -/
def Call.room : Call → Option UInt32
  | .readBytes _ _ length buffer _ => if buffer then some length else none
  | .readWriteBytes _ _ readLength _ _ _ => some readLength
  | _ => none

/-- The reply has more data than the caller has room for. -/
def Call.overruns (c : Call) (reply : Reply) : Bool :=
  match c.room with
  | some length => length.toNat < reply.data.length
  | none => false

/-- The outcome of a call for a reply: data beyond the caller's room are
refused, everything else is handed over. -/
def Call.expected (c : Call) (reply : Reply) : Int × Outputs :=
  if c.overruns reply then (0x705, {}) else c.replied reply

/-- The calls, made by applying the handler to their arguments. -/
def Server.callAll (server : Server δ) (outcome : Call → Reply → Int × Outputs) :
    List Call → δ → List (Int × Outputs) × δ
  | [], d => ([], d)
  | c :: cs, d =>
    let (d', reply) := server.handler d c.asRequest
    let (rest, last) := server.callAll outcome cs d'
    (outcome c reply :: rest, last)

/-- Every reply to the calls fits the packet buffer. -/
def Server.RepliesFit (server : Server δ) : List Call → δ → Prop
  | [], _ => True
  | c :: cs, d =>
    dataOffset + ((server.handler d c.asRequest).2.body c.asRequest).length ≤ MAXDATALEN ∧
      server.RepliesFit cs (server.handler d c.asRequest).1

/-! ## One call -/

theorem AdsVersion.read_of_load {m : Mem} {a : Nat} {v : AdsVersion}
    (held : load m a 4 = v.encode) : AdsVersion.read m a = v := by
  rcases @load_append_inj m a 2 2 _ _ held rfl with ⟨front, build⟩
  rcases @load_append_inj m a 1 1 _ _ front rfl with ⟨version, revision⟩
  have version : m a = v.version := List.singleton_inj.mp version
  have revision : m (a + 1) = v.revision := List.singleton_inj.mp revision
  rw [AdsVersion.read, version, revision, get16_of_load build]

/-- The data of a read response are taken or refused by their length. -/
theorem readOutcome_body {result length : UInt32} {data : List UInt8} {buffer pnRead : Bool}
    {m : Mem}
    (held : load m (msgIn + dataOffset) (4 + 4 + data.length) =
      toLE 4 result.toNat ++ toLE 4 data.length ++ data)
    (small : data.length < 2 ^ 32) :
    readOutcome length buffer pnRead m =
      if buffer ∧ length.toNat < data.length then (0x705, {})
      else (intOf result,
        { buffer := if buffer then data else []
          pnRead := if pnRead then some (UInt32.ofNat data.length) else none }) := by
  rcases load_append_inj held (by simp) with ⟨front, tail⟩
  rcases load_append_inj front (length_toLE 4 _) with ⟨first, second⟩
  have value : (UInt32.ofNat data.length).toNat = data.length := by
    rw [UInt32.toNat_ofNat']
    exact Nat.mod_eq_of_lt small
  have result' : resultOf m = result := get32_of_load first
  have length' : lengthOf m = UInt32.ofNat data.length :=
    get32_of_load (by rw [value]; exact second)
  have data' : load m (msgIn + dataOffset + 8) data.length = data := tail
  have longer : UInt32.ofNat data.length > length ↔ length.toNat < data.length := by
    rw [gt_iff_lt, UInt32.lt_iff_toNat_lt, value]
  simp only [readOutcome, result', length', longer, value, data']

/-- An operation that finds its response struct hands over what the reply says. -/
theorem Call.accept_body {c : Call} {reply : Reply} {m : Mem}
    (held : load m (msgIn + dataOffset) (reply.body c.asRequest).length = reply.body c.asRequest)
    (fits : dataOffset + (reply.body c.asRequest).length ≤ MAXDATALEN) :
    c.accept m = c.expected reply := by
  have sizes := packetSizes
  cases c with
  | readBytes indexGroup offset length buffer pnRead =>
      simp only [Call.asRequest, Reply.body, List.length_append, length_toLE] at held fits
      have read := @readOutcome_body reply.result length reply.data buffer pnRead m held (by omega)
      simp only [Call.accept, read, Call.expected, Call.overruns, Call.room, Call.replied]
      cases buffer <;> simp
  | writeBytes indexGroup offset length data =>
      have result : resultOf m = reply.result := get32_of_load held
      simp only [Call.accept, result]
      rfl
  | readDeviceInfo =>
      have size : (reply.version.encode).length = 4 := rfl
      simp only [Call.asRequest, Reply.body, List.length_append, length_toLE, size,
        reply.nameSize] at held
      rcases @load_append_inj m (msgIn + dataOffset) 8 24 _ _ held rfl with ⟨front, name⟩
      rcases @load_append_inj m (msgIn + dataOffset) 4 4 _ _ front (length_toLE 4 _) with
        ⟨first, version⟩
      have result : resultOf m = reply.result := get32_of_load first
      simp only [Call.accept, result, AdsVersion.read_of_load version]
      have short : load m (msgIn + dataOffset + 8) 16 = reply.name.take 16 := by
        have size : (24 : Nat) = 16 + 8 := rfl
        rw [← name, size, load_add, List.take_left' (length_load _ _ _)]
      rw [short]
      rfl
  | readWriteBytes indexGroup offset readLength writeLength writeBuffer pnRead =>
      simp only [Call.asRequest, Reply.body, List.length_append, length_toLE] at held fits
      have read := @readOutcome_body reply.result readLength reply.data true pnRead m held
        (by omega)
      simp only [Call.accept, read, Call.expected, Call.overruns, Call.room, Call.replied]
      simp
  | readState =>
      rcases @load_append_inj m (msgIn + dataOffset) 6 2 _ _ held (by simp) with ⟨front, third⟩
      rcases @load_append_inj m (msgIn + dataOffset) 4 2 _ _ front (length_toLE 4 _) with
        ⟨first, second⟩
      have result : resultOf m = reply.result := get32_of_load first
      simp only [Call.accept, result, get16_of_load second, get16_of_load third]
      rfl
  | writeControl ADSstate devState data length =>
      have result : resultOf m = reply.result := get32_of_load held
      simp only [Call.accept, result]
      rfl

/-- A call against a server whose wire is empty looks at one whole packet, which
is of its command and holds what the handler replies. -/
theorem Call.run_served_packet {c : Call} {dc : ADSConnection} {d : δ} (seen : List Request)
    (clear : dc.iface.error = 0) (own : c.Fits) (sendable : c.sendable)
    (fits : dataOffset + ((server.handler d c.asRequest).2.body c.asRequest).length ≤ MAXDATALEN) :
    ∃ bs : List UInt8, dataOffset ≤ bs.length ∧ bs.length ≤ MAXDATALEN ∧
      c.run dc (⟨d, [], seen⟩ : Running server) =
        c.finish dc ⟨bs.length, 0, store (c.request dc).mem msgIn bs,
          ⟨(server.handler d c.asRequest).1, [], seen ++ [c.asRequest]⟩⟩ ∧
      commandId (store (c.request dc).mem msgIn bs) msgIn = c.command ∧
      load (store (c.request dc).mem msgIn bs) (msgIn + dataOffset)
        ((server.handler d c.asRequest).2.body c.asRequest).length =
        (server.handler d c.asRequest).2.body c.asRequest := by
  have wellFormed : WellFormed (c.header dc) c.asRequest :=
    ⟨Call.length_requestPacket own sendable _, c.asRequest_command.symm,
      (Call.sendable_lengths own sendable).1⟩
  have sent := Running.send_requestPacket (⟨d, [], seen⟩ : Running server) wellFormed
  dsimp only at sent
  generalize server.handler d c.asRequest = answer at sent fits ⊢
  rcases answer with ⟨d', reply⟩
  have header : (server.header d (c.header dc)).commandId = c.command :=
    server.header_commandId d (c.header dc)
  generalize server.header d (c.header dc) = h at sent header
  have size : (adsPacket h (reply.body c.asRequest)).length ≤ MAXDATALEN := by
    rw [length_adsPacket]
    exact fits
  have whole : dataOffset ≤ (adsPacket h (reply.body c.asRequest)).length := by
    rw [length_adsPacket]
    omega
  -- the request goes out and the reply is on the wire
  have small := (Call.request_length own dc).2
  have sends : c.Sends dc (⟨d, [], seen⟩ : Running server)
      ⟨d', adsPacket h (reply.body c.asRequest), seen ++ [c.asRequest]⟩ := by
    refine @Call.sends_of_send _ _ c dc _ _ 0 clear (by unfold MAXDATALEN at small; omega) ?_
    have packet : _ = requestPacket _ _ := Call.request_packet own sendable dc
    have counted := congrArg List.length packet
    rw [length_load] at counted
    rw [packet, counted]
    exact sent
  -- it arrives whole
  have delivery := @Running.delivers δ server (readTimeout dc.iface.timeout) d'
    (adsPacket h (reply.body c.asRequest)) (seen ++ [c.asRequest])
  have complete := adsPacket_complete (Nat.lt_of_le_of_lt size (by decide))
  rcases adsPacket_read (load_store_of_length (length_adsPacket h (reply.body c.asRequest)))
    with ⟨found, body⟩
  exact ⟨_, whole, size, Call.run_complete sends delivery complete size,
    (congrArg AMSheader.commandId found).trans header, body⟩

/-- **One call against a server** whose wire is empty: the caller gets what the
handler replies, and the wire is empty again. -/
theorem Call.run_served {c : Call} {dc : ADSConnection} {d : δ} (seen : List Request)
    (clear : dc.iface.error = 0) (own : c.Fits) (sendable : c.sendable)
    (fits : dataOffset + ((server.handler d c.asRequest).2.body c.asRequest).length ≤ MAXDATALEN) :
    ((c.run dc (⟨d, [], seen⟩ : Running server)).ret,
        (c.run dc (⟨d, [], seen⟩ : Running server)).outs) =
        c.expected (server.handler d c.asRequest).2 ∧
      (c.run dc (⟨d, [], seen⟩ : Running server)).sock =
        ⟨(server.handler d c.asRequest).1, [], seen ++ [c.asRequest]⟩ := by
  obtain ⟨bs, whole, size, run, command, body⟩ :=
    Call.run_served_packet seen clear own sendable fits
  have decoded := @Call.finish_decode (Running server) _ c dc
    (store (c.request dc).mem msgIn bs)
    ⟨(server.handler d c.asRequest).1, [], seen ++ [c.asRequest]⟩
    (Nat.lt_of_lt_of_le (by decide) whole) (Nat.lt_of_le_of_lt size (by decide)) fun _ => whole
  rw [run]
  refine ⟨?_, rfl⟩
  rw [decoded.1, decoded.2, Call.decode_of_command command]
  exact Call.accept_body body fits

/-! ## Any number of calls -/

/-- What the caller of each operation sees. -/
def observed {σ : Type} (rs : List (CallResult σ)) : List (Int × Outputs) :=
  rs.map fun r => (r.ret, r.outs)

/-- **Calls against a server are calls of its handler.** For every sequence of
calls whose requests and replies fit, each call returns the handler's result
and outputs, except that data beyond the caller's room are refused with 0x705;
the handler has seen the arguments of every call in order, and nothing is left
on the wire. -/
theorem calls_match_handler (server : Server δ) (cs : List Call) (d : δ) (dc : ADSConnection)
    (seen : List Request) (clear : dc.iface.error = 0) (fits : ∀ c ∈ cs, c.Fits ∧ c.plain)
    (replies : server.RepliesFit cs d) :
    observed (runCalls cs dc (⟨d, [], seen⟩ : Running server)).1 =
        (server.callAll Call.expected cs d).1 ∧
      (runCalls cs dc (⟨d, [], seen⟩ : Running server)).2.2 =
        ⟨(server.callAll Call.expected cs d).2, [], seen ++ cs.map Call.asRequest⟩ := by
  induction cs generalizing d dc seen with
  | nil => simp [runCalls, observed, Server.callAll]
  | cons c cs ih =>
      rcases fits c (List.mem_cons_self ..) with ⟨own, plain⟩
      rcases replies with ⟨first, rest⟩
      rcases Call.run_served seen clear own plain.sendable first with ⟨outcome, after⟩
      have keeps := (Call.run_keeps own dc (⟨d, [], seen⟩ : Running server)).1
      rcases ih (server.handler d c.asRequest).1 (c.run dc (⟨d, [], seen⟩ : Running server)).dc
        (seen ++ [c.asRequest]) (by rw [keeps.iface, clear])
        (fun c inside => fits c (List.mem_cons_of_mem _ inside)) rest with ⟨outcomes, last⟩
      simp only [observed] at outcomes
      simp only [runCalls, observed, after, List.map_cons, outcome, outcomes, last, Server.callAll,
        List.append_assoc, List.singleton_append, and_self]

/-- A server that keeps the last bytes written to it and hands them out again. -/
def registerServer : Server (List UInt8) where
  handler stored request :=
    let reply (data : List UInt8) : Reply :=
      ⟨0, data, ⟨3, 1, 4024⟩, List.replicate 24 0x41, rfl, 5, 0⟩
    match request with
    | .write _ _ _ data => (data, reply [])
    | .read .. => (stored, reply stored)
    | _ => (stored, reply [])
  header _ h := { h with stateFlags := 5, errorCode := 0 }
  header_commandId _ _ := rfl
  header_invokeId _ _ := rfl
  header_errorCode _ _ := rfl

/-- What is written is read again. -/
theorem calls_match_handler_register :
    observed (runCalls [.writeBytes 0xf005 0 3 (some fun _ => 7), .readBytes 0xf005 0 4 true true]
        freshConnection (⟨[], [], []⟩ : Running registerServer)).1 =
        [(0, {}), (0, { buffer := [7, 7, 7], pnRead := some 3 })] ∧
      (runCalls [.writeBytes 0xf005 0 3 (some fun _ => 7), .readBytes 0xf005 0 4 true true]
        freshConnection (⟨[], [], []⟩ : Running registerServer)).2.2 =
        ⟨[7, 7, 7], [], [.write 0xf005 0 3 [7, 7, 7], .read 0xf005 0 4]⟩ :=
  calls_match_handler registerServer
    [.writeBytes 0xf005 0 3 (some fun _ => 7), .readBytes 0xf005 0 4 true true] [] freshConnection
    [] rfl
    (by simp [Call.Fits, Call.plain, dataOffset, MAXDATALEN, sizeofTCPheader, sizeofAMSheader])
    ⟨by decide, by decide, trivial⟩

/-- Three bytes are refused when there is room for two. -/
theorem calls_not_always_replied :
    ¬ ∀ (δ : Type) (server : Server δ) (cs : List Call) (d : δ) (dc : ADSConnection),
      dc.iface.error = 0 → (∀ c ∈ cs, c.Fits ∧ c.plain) → server.RepliesFit cs d →
      observed (runCalls cs dc (⟨d, [], []⟩ : Running server)).1 =
        (server.callAll Call.replied cs d).1 := by
  intro all
  have read := all (List UInt8) registerServer [.readBytes 0xf005 0 2 true true] [7, 7, 7]
    freshConnection rfl (by simp [Call.Fits, Call.plain]) ⟨by decide, trivial⟩
  have served := @Call.run_served _ registerServer (.readBytes 0xf005 0 2 true true)
    freshConnection [7, 7, 7] [] rfl trivial trivial (by decide)
  have code := congrArg Prod.fst (served.1.symm.trans (List.cons.inj read).1)
  exact absurd code (by decide)

end LibAds
