import LibAds.Session

/-!
# A session comes to its end

What a session has still to do is a number, and every step that is not a
time-out takes one off it (`Session.left_step`). While it is not 0 such a step
can be taken, unless the server has given up (`Session.Sound.progress`).
-/

namespace LibAds

open ByteMemory LabelledRuns SocketModel

/-! ## What is left -/

/-- Every step but a time-out is work. -/
def Action.works : Action → Bool
  | .serverTimeOut | .serverBreaksOff | .clientTimeOut => false
  | _ => true

/-- The bytes of a call's request. -/
def Call.requestSize (c : Call) : Nat :=
  dataOffset + (c.asRequest.fixedSize + c.asRequest.data.length)

/-- One step for every byte of the request and of the reply, and three more: the
call sends its request, the server answers it, and the call returns. -/
def Call.work (c : Call) : Nat :=
  c.requestSize + (dataOffset + c.replySize) + 3

/-- The work of a list of calls. -/
def workOf : List Call → Nat
  | [] => 0
  | c :: cs => c.work + workOf cs

/-- The work of the call in progress that is left. -/
def Session.leftOfCall (st : Session) : Nat :=
  match st.current with
  | none => 0
  | some c =>
    if st.serverTaken ++ st.toServer = [] then st.toClient.length + 1
    else st.toServer.length + (dataOffset + c.replySize) + 2

/-- The work of a session that is left. -/
def Session.left (st : Session) : Nat := st.leftOfCall + workOf st.calls

section Left

variable {globals : Mem} {calls done : List Call} {dc : ADSConnection} {st : Session} {c : Call}

theorem Session.leftOfCall_quiet (idle : st.current = none) : st.leftOfCall = 0 := by
  unfold Session.leftOfCall
  rw [idle]

theorem Session.leftOfCall_reply (current : st.current = some c) (read : st.serverTaken = [])
    (wire : st.toServer = []) : st.leftOfCall = st.toClient.length + 1 := by
  unfold Session.leftOfCall
  rw [current, read, wire]
  rfl

theorem Session.leftOfCall_request {h : AMSheader} (current : st.current = some c)
    (stream : st.serverTaken ++ st.toServer = requestPacket h c.asRequest) :
    st.leftOfCall = st.toServer.length + (dataOffset + c.replySize) + 2 := by
  have nonempty : st.serverTaken ++ st.toServer ≠ [] := by
    intro empty
    have length := congrArg List.length (stream.symm.trans empty)
    rw [requestPacket, length_adsPacket, List.length_nil] at length
    have sizes := packetSizes
    omega
  unfold Session.leftOfCall
  rw [current]
  exact if_neg nonempty

theorem Call.length_request (c : Call) (h : AMSheader) :
    (requestPacket h c.asRequest).length = c.requestSize := by
  rw [requestPacket, length_adsPacket, List.length_append, Request.length_fixed]
  rfl

theorem Call.length_replyPacket (c : Call) (globals : Mem) (h : AMSheader) :
    (replyPacket globals h c.asRequest).length = dataOffset + c.replySize := by
  rw [replyPacket, length_adsPacket, c.length_reply]

/-- A sound session with a call in progress is about its request or its reply. -/
theorem Session.Sound.stage (sound : st.Sound globals calls dc done)
    (current : st.current = some c) :
    (∃ h, st.toClient = [] ∧ st.clientTaken = [] ∧
        st.serverTaken ++ st.toServer = requestPacket h c.asRequest) ∨
      ∃ h, st.serverTaken = [] ∧ st.toServer = [] ∧
        st.clientTaken ++ st.toClient = replyPacket globals h c.asRequest := by
  rcases sound.traffic with ⟨idle, _⟩ | ⟨c', same, taken, back, stream⟩ |
    ⟨c', same, read, wire, stream⟩
  · rw [idle] at current
    cases current
  · rw [current] at same
    cases same
    exact Or.inl ⟨_, back, taken, stream⟩
  · rw [current] at same
    cases same
    exact Or.inr ⟨_, read, wire, stream⟩

/-- With the calls to come unchanged, what is left changes with the call in
progress. -/
theorem Session.left_of_calls {st' : Session} {k : Nat} (later : st'.calls = st.calls)
    (paced : st.leftOfCall = st'.leftOfCall + k) : st.left = st'.left + k := by
  unfold Session.left
  rw [later, paced]
  exact Nat.add_right_comm ..

/-- Nothing is left when no call is in progress and none is to be made. -/
theorem Session.left_eq_zero (finished : st.left = 0) : st.current = none ∧ st.calls = [] := by
  obtain ⟨ofCall, later⟩ := Nat.add_eq_zero_iff.mp finished
  constructor
  · rcases Option.eq_none_or_eq_some st.current with equal | ⟨c, equal⟩
    · exact equal
    · unfold Session.leftOfCall at ofCall
      rw [equal] at ofCall
      dsimp only at ofCall
      split at ofCall
      · exact absurd ofCall (Nat.succ_ne_zero _)
      · exact absurd ofCall (Nat.succ_ne_zero _)
  · rcases equal : st.calls with _ | ⟨c, cs⟩
    · rfl
    · rw [equal, workOf, Call.work] at later
      omega

/-- Between two calls nothing is under way. -/
theorem Session.Sound.quiet (sound : st.Sound globals calls dc done) (idle : st.current = none) :
    st.clientTaken = [] ∧ st.toServer = [] ∧ st.serverTaken = [] ∧ st.toClient = [] := by
  rcases sound.traffic with ⟨_, taken, wire, read, back⟩ | ⟨c, current, _⟩ | ⟨c, current, _⟩
  · exact ⟨taken, wire, read, back⟩
  · rw [idle] at current
    cases current
  · rw [idle] at current
    cases current

end Left

/-! ## One step -/

section Steps

variable {globals : Mem} {calls done : List Call} {dc : ADSConnection} {st : Session} {c : Call}

/-- A call under way has its request and its reply before it. -/
theorem Session.left_send (sound : st.Sound globals calls dc done)
    (served : ∀ c ∈ calls, c.Served) {cs : List Call} (idle : st.current = none)
    (next : st.calls = c :: cs) :
    st.left = Session.left { st with
      calls := cs, current := some c, toServer := st.toServer ++ c.handed st.client } + 1 := by
  obtain ⟨taken, wire, read, back⟩ := sound.quiet idle
  rcases (sound.send served idle next).stage rfl with ⟨h, _, _, stream⟩ | ⟨h, _, _, stream⟩
  · have sent := congrArg List.length stream
    rw [c.length_request, List.length_append, read, List.length_nil, Nat.zero_add] at sent
    have request : Session.leftOfCall { st with
        calls := cs, current := some c, toServer := st.toServer ++ c.handed st.client } =
        (st.toServer ++ c.handed st.client).length + (dataOffset + c.replySize) + 2 :=
      Session.leftOfCall_request rfl stream
    unfold Session.left
    rw [Session.leftOfCall_quiet idle, request, next, workOf, sent, Call.work]
    show _ = _ + workOf cs + 1
    omega
  · have length := congrArg List.length stream
    have whole := Call.length_replyPacket c globals h
    rw [← length, List.length_append, taken, back] at whole
    have header : 0 < dataOffset := by decide
    simp only [List.length_nil] at whole
    omega

/-- The server has one byte of the request less to take. -/
theorem Session.left_serverByte (sound : st.Sound globals calls dc done) {b : UInt8}
    {bs : List UInt8} (wire : st.toServer = b :: bs) :
    st.left = Session.left { st with
      serverTaken := st.serverTaken ++ [b], toServer := bs } + 1 := by
  rcases Option.eq_none_or_eq_some st.current with equal | ⟨c, equal⟩
  · rw [(sound.quiet equal).2.1] at wire
    cases wire
  · rcases sound.stage equal with ⟨h, _, _, stream⟩ | ⟨h, _, empty, _⟩
    · have before := Session.leftOfCall_request equal stream
      have after : Session.leftOfCall { st with
          serverTaken := st.serverTaken ++ [b], toServer := bs } =
          bs.length + (dataOffset + c.replySize) + 2 := by
        refine Session.leftOfCall_request equal (h := h) ?_
        rw [wire] at stream
        rw [List.append_assoc]
        exact stream
      refine Session.left_of_calls rfl ?_
      rw [before, after, wire, List.length_cons]
      omega
    · rw [empty] at wire
      cases wire

/-- The client has one byte of the reply less to take. -/
theorem Session.left_clientByte (sound : st.Sound globals calls dc done) {b : UInt8}
    {bs : List UInt8} (wire : st.toClient = b :: bs) :
    st.left = Session.left { st with
      clientTaken := st.clientTaken ++ [b], toClient := bs } + 1 := by
  rcases Option.eq_none_or_eq_some st.current with equal | ⟨c, equal⟩
  · rw [(sound.quiet equal).2.2.2] at wire
    cases wire
  · rcases sound.stage equal with ⟨h, empty, _⟩ | ⟨h, read, sent, _⟩
    · rw [empty] at wire
      cases wire
    · have before := Session.leftOfCall_reply equal read sent
      have after : Session.leftOfCall { st with
          clientTaken := st.clientTaken ++ [b], toClient := bs } = bs.length + 1 :=
        Session.leftOfCall_reply equal read sent
      refine Session.left_of_calls rfl ?_
      rw [before, after, wire, List.length_cons]

/-- With the answer under way only the reply is left. -/
theorem Session.left_answer (sound : st.Sound globals calls dc done)
    (served : ∀ c ∈ calls, c.Served) (enough : ¬ Incomplete st.serverTaken) :
    st.left = (st.turned globals).left + 1 := by
  obtain ⟨c, current, own, whole, sent, taken, back⟩ := sound.request served enough
  have stream : st.serverTaken ++ st.toServer =
      requestPacket (c.headerAt dc done.length) c.asRequest := by
    rw [whole, sent, List.append_nil]
  obtain ⟨_, _, handed⟩ :=
    Session.turn_request sound (own.wellFormed dc done.length) (own.replyFits _ _) whole
  have length : (st.turned globals).toClient.length = dataOffset + c.replySize := by
    show (st.toClient ++ (st.turn globals).sock.handed.flatten).length = _
    rw [back, handed, List.nil_append, List.flatten_singleton, Call.length_replyPacket]
  have current' : (st.turned globals).current = some c := current
  refine Session.left_of_calls rfl ?_
  rw [Session.leftOfCall_request current stream, Session.leftOfCall_reply current' rfl sent, length,
    sent, List.length_nil, Nat.zero_add]

/-- A time-out of the server changes nothing of what is left. -/
theorem Session.left_serverTimeOut (sound : st.Sound globals calls dc done)
    (read : st.serverTaken = []) : st.left = (st.turned globals).left := by
  obtain ⟨_, _, handed⟩ := Session.turn_idle sound read
  have same : (st.turned globals).toClient = st.toClient := by
    show st.toClient ++ (st.turn globals).sock.handed.flatten = st.toClient
    rw [handed, List.flatten_nil, List.append_nil]
  refine Session.left_of_calls (k := 0) rfl ?_
  unfold Session.leftOfCall
  rw [same, read]
  rfl

/-- A call that returns leaves the calls after it. -/
theorem Session.left_finish (sound : st.Sound globals calls dc done)
    (served : ∀ c ∈ calls, c.Served) (current : st.current = some c)
    (enough : ¬ Incomplete st.clientTaken) : st.left = (st.returned c).left + 1 := by
  have own := served c (sound.mem current)
  rcases sound.stage current with ⟨_, _, taken, _⟩ | ⟨h, read, sent, stream⟩
  · rw [taken] at enough
    exact absurd incomplete_nil enough
  · have before := Session.leftOfCall_reply current read sent
    have after : (st.returned c).leftOfCall = 0 := Session.leftOfCall_quiet rfl
    obtain ⟨_, back⟩ := (own.complete globals h).whole stream enough
    refine Session.left_of_calls rfl ?_
    rw [before, after, back, List.length_nil]

/-- **The pace of a session.** Every step that is not a time-out takes one off
what is left, a time-out of the server nothing. -/
theorem Session.left_step (sound : st.Sound globals calls dc done)
    (served : ∀ c ∈ calls, c.Served) {action : Action} {st' : Session} (inTime : action.InTime)
    (step : SessionStep globals st action st') :
    st.left = st'.left + if action.works then 1 else 0 := by
  cases step with
  | send _ idle next => exact Session.left_send sound served idle next
  | serverByte _ _ wire => exact Session.left_serverByte sound wire
  | answer _ enough => exact Session.left_answer sound served enough
  | serverTimeOut _ unread => exact Session.left_serverTimeOut sound unread
  | serverBreaksOff => exact absurd rfl inTime.2
  | clientByte _ _ wire => exact Session.left_clientByte sound wire
  | finish current enough => exact Session.left_finish sound served current enough
  | clientTimeOut => exact absurd rfl inTime.1

/-- **A session with work left goes on**, unless the server has given up. -/
theorem Session.Sound.progress (sound : st.Sound globals calls dc done) (fresh : dc.iface.error = 0)
    (served : ∀ c ∈ calls, c.Served) (awake : st.waitCount < maxWaits) (unfinished : 0 < st.left) :
    ∃ action st', action.works = true ∧ SessionStep globals st action st' := by
  rcases sound.traffic with ⟨idle, _⟩ | ⟨c, current, _, _, stream⟩ | ⟨c, current, _, _, stream⟩
  · rcases next : st.calls with _ | ⟨c, cs⟩
    · unfold Session.left at unfinished
      rw [Session.leftOfCall_quiet idle, next] at unfinished
      exact absurd unfinished (Nat.lt_irrefl 0)
    · have clear : st.client.iface.error = 0 := by rw [sound.keeps.iface, fresh]
      exact ⟨_, _, rfl, .send clear idle next⟩
  · by_cases wanting : Incomplete st.serverTaken
    · rcases wire : st.toServer with _ | ⟨b, bs⟩
      · have own := served c (sound.mem current)
        have complete := (own.wellFormed dc done.length).complete
        rw [← stream, wire, List.append_nil] at complete
        exact absurd complete wanting.not_complete
      · exact ⟨_, _, rfl, .serverByte awake wanting wire⟩
    · exact ⟨_, _, rfl, .answer awake wanting⟩
  · by_cases wanting : Incomplete st.clientTaken
    · rcases wire : st.toClient with _ | ⟨b, bs⟩
      · have own := served c (sound.mem current)
        have complete := own.complete globals (c.headerAt dc done.length)
        rw [← stream, wire, List.append_nil] at complete
        exact absurd complete wanting.not_complete
      · exact ⟨_, _, rfl, .clientByte current wanting wire⟩
    · exact ⟨_, _, rfl, .finish current wanting⟩

/-- A port server has waited in a row at most as often as its reads have timed
out in all. -/
theorem Session.Sound.waits (sound : st.Sound globals calls dc done)
    (served : ∀ c ∈ calls, c.Served) {action : Action} {st' : Session} {actions : List Action}
    (inTime : action.InTime) (step : SessionStep globals st action st')
    (waited : st.waitCount ≤ actions.count .serverTimeOut) :
    st'.waitCount ≤ (actions ++ [action]).count .serverTimeOut := by
  rw [List.count_append]
  cases step with
  | answer _ enough =>
      obtain ⟨c, _, own, whole, _⟩ := sound.request served enough
      obtain ⟨_, reset, _⟩ :=
        Session.turn_request sound (own.wellFormed dc done.length) (own.replyFits _ _) whole
      show (st.turn globals).waitCount ≤ _
      rw [reset]
      exact Nat.zero_le _
  | serverTimeOut _ unread =>
      obtain ⟨_, counted, _⟩ := Session.turn_idle sound unread
      show (st.turn globals).waitCount ≤ _
      rw [counted]
      exact Nat.add_le_add_right waited 1
  | send => exact Nat.le_add_right_of_le waited
  | serverByte => exact Nat.le_add_right_of_le waited
  | clientByte => exact Nat.le_add_right_of_le waited
  | finish => exact Nat.le_add_right_of_le waited
  | serverBreaksOff => exact absurd rfl inTime.2
  | clientTimeOut => exact Nat.le_add_right_of_le waited

end Steps

end LibAds
