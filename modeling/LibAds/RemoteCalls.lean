import LibAds.AddressIsolation
import LibAds.ServerLoop

/-!
# What the API is for

Seen by a program, the API is a way to call the handlers of servers far away: a
request is executed by the server at its address, once, and returns what the
handler replies, or the server cannot be reached and nothing has happened.
`RemoteStep` says just that, without packets, connections or a table, and every
run of the library against servers is a run of it (`api_calls_remotely`).
-/

namespace LibAds

open ByteMemory SocketModel LabelledRuns

variable {δ : Type}

/-! ## The abstract level -/

/-- What there is to know of an address: the state of its server, whether the
library is connected to it, how attempts to connect will go, and the requests
that the server has executed. -/
structure Remote (δ : Type) where
  state : δ
  connected : Bool
  outcomes : List ConnectOutcome
  seen : List Request

def Remote.next (remote : Remote δ) : ConnectOutcome := remote.outcomes.headD ⟨true, none, none⟩

/-- The server executes the request of a call. -/
def Remote.execute (server : Server δ) (c : Call) (remote : Remote δ) : Remote δ :=
  { remote with
    state := (server.handler remote.state c.asRequest).1
    seen := remote.seen ++ [c.asRequest] }

/-- What a call returns that its server executes. -/
def Remote.reply (server : Server δ) (c : Call) (remote : Remote δ) : Int × Outputs :=
  c.expected (server.handler remote.state c.asRequest).2

/-- An attempt to connect has been made. -/
def Remote.tried (remote : Remote δ) : Remote δ := { remote with outcomes := remote.outcomes.tail }

/-- An attempt with this outcome ends in a connection. -/
def Granted (ifaddrs : Option (List IfAddrs)) (o : ConnectOutcome) : Prop :=
  (o.socket = true ∧ o.connect = none ∧ o.setsockopt = none) ∧
    (localAddress unsetAddr ifaddrs).1 = 0

/-- A request to an address is executed there, or the address cannot be reached. -/
inductive RemoteStep (server : Server δ) (ifaddrs : Option (List IfAddrs))
    (remotes : AmsAddr → Remote δ) :
    (AmsAddr × ApiRequest) × (Int × Outputs) → (AmsAddr → Remote δ) → Prop
  | call {addr : AmsAddr} {r : ApiRequest} : (remotes addr).connected = true →
    RemoteStep server ifaddrs remotes ((addr, r), (remotes addr).reply server r.call)
      (Function.update remotes addr ((remotes addr).execute server r.call))
  | connect {addr : AmsAddr} {r : ApiRequest} : (remotes addr).connected = false →
    Granted ifaddrs (remotes addr).next →
    RemoteStep server ifaddrs remotes ((addr, r), (remotes addr).reply server r.call)
      (Function.update remotes addr
        { (remotes addr).tried.execute server r.call with connected := true })
  | refuse {addr : AmsAddr} {r : ApiRequest} {code : Int} : (remotes addr).connected = false →
    ¬ Granted ifaddrs (remotes addr).next → code ≠ 0 →
    RemoteStep server ifaddrs remotes ((addr, r), (code, {}))
      (Function.update remotes addr (remotes addr).tried)

/-! ## The library against servers -/

section Servers

variable {server : Server δ} {ifaddrs : Option (List IfAddrs)}

/-- The abstract level of a state of the library and its peers. -/
def System.remotes (S : System (Running server)) (addr : AmsAddr) : Remote δ where
  state := (S.peers addr).sock.state
  connected := S.lib.has addr
  outcomes := (S.peers addr).outcomes
  seen := (S.peers addr).sock.seen

/-- A request that fits the packet buffer, and so does the reply it will get. -/
def Manageable (S : System (Running server)) (l : (AmsAddr × ApiRequest) × (Int × Outputs)) :
    Prop :=
  l.1.2.call.Fits ∧ l.1.2.call.plain ∧
    dataOffset + ((server.handler (S.peers l.1.1).sock.state l.1.2.call.asRequest).2.body
      l.1.2.call.asRequest).length ≤ MAXDATALEN

/-- No connection has its error flag set, and nothing is left on any wire. -/
structure System.Serving (ifaddrs : Option (List IfAddrs)) (S : System (Running server))
    (T : Table) : Prop where
  sound : S.Sound ifaddrs T
  clear : ∀ dc ∈ T.connections, dc.iface.error = 0
  silent : ∀ addr, (S.peers addr).sock.wire = []

variable {S S' : System (Running server)} {T T' : Table} {addr other : AmsAddr} {r : ApiRequest}
  {a : Attempt} {reply : RequestReply (Running server)}

theorem System.Sound.has_of_misses (sound : S.Sound ifaddrs T) (misses : T.Misses addr) :
    S.lib.has addr = false := by
  rcases has : S.lib.has addr with _ | _
  · rfl
  · exact absurd misses (sound.holds.has_iff.mp has)

/-- A request to one address does not connect the library to another. -/
theorem Table.Request.has_other (sound : S.Sound ifaddrs T) (sound' : S'.Sound ifaddrs T')
    (fits : r.call.Fits) (made : T.Request addr r a (S.peers addr).sock T' reply)
    (others : other ≠ addr) : S'.lib.has other = S.lib.has other := by
  rcases T.lookup other with ⟨i, dc, finds⟩ | misses
  · have kept := made.finds_other fits (Ne.symm others) finds
    rw [sound.holds.has_iff.mpr finds.not_misses, sound'.holds.has_iff.mpr kept.not_misses]
  · have kept := made.misses_other fits (Ne.symm others) misses
    rw [sound.has_of_misses misses, sound'.has_of_misses kept]

/-- The abstract level changes at the address of the request only. -/
theorem System.remotes_update {peer : Peer (Running server)}
    (peers : S'.peers = Function.update S.peers addr peer)
    (has : ∀ other, other ≠ addr → S'.lib.has other = S.lib.has other) :
    S'.remotes = Function.update S.remotes addr
      ⟨peer.sock.state, S'.lib.has addr, peer.outcomes, peer.sock.seen⟩ := by
  funext other
  unfold System.remotes
  by_cases same : other = addr
  · subst same
    rw [Function.update_self, peers, Function.update_self]
  · rw [Function.update_of_ne same, peers, Function.update_of_ne same, has other same]

/-- An attempt that fails has a code. -/
theorem Attempt.code_ne_zero (fails : ¬ a.Succeeds T) (allocated : a.newConnection = true) :
    a.code T ≠ 0 := by
  have translated : ∀ errno, connectError errno ≠ 0 := by
    intro errno
    unfold connectError
    split <;> decide
  unfold Attempt.code
  rcases connected : a.connectFails T.sockets with _ | errno
  · rcases option : a.setsockopt with _ | errno
    · by_cases undetermined : (localAddress T.meAddr a.ifaddrs).1 = 0
      · exact absurd ⟨⟨connected, option⟩, undetermined, allocated⟩ fails
      · simp only [ne_eq, undetermined, not_false_eq_true, if_true]
    · exact translated errno
  · exact translated errno

/-- A call on a connection to a server. -/
theorem System.Serving.run (serving : S.Serving ifaddrs T) {dc : ADSConnection}
    (clear : dc.iface.error = 0) {c : Call} (fits : c.Fits) (plain : c.plain)
    (small : dataOffset + ((server.handler (S.peers addr).sock.state c.asRequest).2.body
      c.asRequest).length ≤ MAXDATALEN) :
    ((c.run dc (S.peers addr).sock).ret, (c.run dc (S.peers addr).sock).outs) =
        (S.remotes addr).reply server c ∧
      (c.run dc (S.peers addr).sock).sock =
        ⟨((S.remotes addr).execute server c).state, [],
          ((S.remotes addr).execute server c).seen⟩ ∧
      (c.run dc (S.peers addr).sock).dc.iface.error = 0 := by
  have silent := serving.silent addr
  unfold System.remotes
  generalize (S.peers addr).sock = sock at silent small
  obtain ⟨state, wire, seen⟩ := sock
  obtain rfl : wire = [] := silent
  obtain ⟨outcome, after⟩ := Call.run_served seen clear fits plain.sendable small
  refine ⟨outcome, after, ?_⟩
  rw [(Call.run_keeps fits dc _).1.iface, clear]

/-- A peer that has sent no more than was asked for leaves the others silent too. -/
theorem System.Serving.quiet (serving : S.Serving ifaddrs T) {peer : Peer (Running server)}
    (peers : S'.peers = Function.update S.peers addr peer) (silent : peer.sock.wire = []) :
    ∀ other, (S'.peers other).sock.wire = [] := by
  intro other
  rw [peers]
  by_cases same : other = addr
  · subst same
    rw [Function.update_self]
    exact silent
  · rw [Function.update_of_ne same]
    exact serving.silent other

/-- **A request of the library is a call at a distance.** -/
theorem requestStep_remotely (serving : S.Serving ifaddrs T)
    {l : (AmsAddr × ApiRequest) × (Int × Outputs)} (bounds : Manageable S l)
    (step : requestStep ifaddrs S l S') :
    (∃ T', S'.Serving ifaddrs T') ∧ RemoteStep server ifaddrs S.remotes l S'.remotes := by
  obtain ⟨⟨addr, r⟩, out⟩ := l
  obtain ⟨fits, plain, small⟩ : r.call.Fits ∧ r.call.plain ∧ _ := bounds
  obtain ⟨a, T', reply, meets, made, sound', rfl, peers⟩ :=
    requestStep_refines serving.sound fits step
  have others : ∀ other, other ≠ addr → S'.lib.has other = S.lib.has other := fun _ =>
    made.has_other serving.sound sound' fits
  have shown := System.remotes_update peers others
  cases made with
  | @found i dc finds =>
      have inside := List.mem_of_getElem? finds.entry
      obtain ⟨outcome, sock, clear⟩ := serving.run (serving.clear dc inside) fits plain small
      have has := serving.sound.holds.has_iff.mpr finds.not_misses
      have has' := sound'.holds.has_iff.mpr (finds.after fits (S.peers addr).sock).not_misses
      refine ⟨⟨_, sound', ?_, serving.quiet peers (by rw [sock])⟩, ?_⟩
      · intro dc' known
        rcases List.mem_or_eq_of_mem_set known with before | rfl
        · exact serving.clear dc' before
        · exact clear
      · rw [shown, outcome, has', if_pos has, sock, ← has]
        exact .call has
  | failed misses _ fails =>
      have has := serving.sound.has_of_misses misses
      have has' := sound'.has_of_misses misses
      refine ⟨⟨_, sound', serving.clear, serving.quiet peers (serving.silent addr)⟩, ?_⟩
      have own : (⟨(S.peers addr).sock.state, false, (S.peers addr).outcomes.tail,
          (S.peers addr).sock.seen⟩ : Remote δ) = (S.remotes addr).tried := by
        unfold System.remotes Remote.tried
        rw [has]
      have coded := Attempt.code_ne_zero fails meets.served.2.1
      rw [meets.succeeds_iff serving.sound.holds serving.sound.determined] at fails
      rw [shown, has', has, if_neg (by decide), own]
      exact @RemoteStep.refuse _ server ifaddrs S.remotes addr r _ has fails coded
  | opened misses succeeds =>
      have new : (a.connection addr T).iface.error = 0 := rfl
      obtain ⟨outcome, sock, clear⟩ := serving.run new fits plain small
      have has := serving.sound.has_of_misses misses
      have key := (Call.run_key fits (a.connection addr T) (S.peers addr).sock).trans
        (a.connection_key addr T)
      have has' := sound'.holds.has_iff.mpr (misses.append key _ _).not_misses
      refine ⟨⟨_, sound', ?_, serving.quiet peers (by rw [sock])⟩, ?_⟩
      · intro dc' known
        rcases List.mem_append.mp known with before | last
        · exact serving.clear dc' before
        · rw [List.mem_singleton.mp last]
          exact clear
      · rw [shown, outcome, has', has, sock]
        exact .connect has ((meets.succeeds_iff serving.sound.holds serving.sound.determined).mp
          succeeds)

/-- **The API is a way to call handlers.** Every run of requests that fit to any
addresses against servers whose replies fit, whatever descriptors and heap blocks
it gets, is a run of the abstract level with the same results: each request is
executed exactly once, by the server at its address, and returns what its handler
replies, or the address is not connected and cannot be reached, and no server has
executed anything. -/
theorem api_calls_remotely (server : Server δ) (ifaddrs : Option (List IfAddrs))
    (states : AmsAddr → δ) (outcomes : AmsAddr → List ConnectOutcome)
    (ls : List ((AmsAddr × ApiRequest) × (Int × Outputs))) (S : System (Running server))
    (run : Run (Guarded Manageable (requestStep ifaddrs))
      (.initial fun addr => ⟨outcomes addr, ⟨states addr, [], []⟩⟩) ls S) :
    Run (RemoteStep server ifaddrs) (fun addr => ⟨states addr, false, outcomes addr, []⟩) ls
      S.remotes := by
  refine @Run.refines _ _ _ _ _ _ _ (RemoteStep server ifaddrs)
    (fun S => ∃ T, S.Serving ifaddrs T) System.remotes run ?_ ?_ ?_
  · exact ⟨_, System.initial_sound ifaddrs _, fun _ inside => absurd inside List.not_mem_nil,
      fun _ => rfl⟩
  · rintro _ _ _ ⟨T, serving⟩ ⟨bounds, step⟩
    exact (requestStep_remotely serving bounds step).1
  · rintro _ _ _ ⟨T, serving⟩ ⟨bounds, step⟩
    exact (requestStep_remotely serving bounds step).2

end Servers

/-- One request, to a server that can be reached. -/
theorem api_calls_remotely_readState :
    ∃ (ls : List ((AmsAddr × ApiRequest) × (Int × Outputs))) (S : System (Running registerServer)),
      ls.map Prod.fst = [(plcAddress, ApiRequest.readState)] ∧
      Run (RemoteStep registerServer grantedAttempt.ifaddrs) (fun _ => ⟨[], false, [], []⟩) ls
        S.remotes := by
  have sound := @System.initial_sound (Running registerServer) grantedAttempt.ifaddrs
    fun _ => ⟨[], ⟨[], [], []⟩⟩
  obtain ⟨out, S, step⟩ := @System.Sound.exists_step _ _ _ _ .readState _ sound plcAddress trivial
    fun _ _ => by decide
  have small : dataOffset +
      ((registerServer.handler [] .readState).2.body .readState).length ≤ MAXDATALEN := by decide
  exact ⟨_, S, rfl, api_calls_remotely registerServer grantedAttempt.ifaddrs (fun _ => [])
    (fun _ => []) [((plcAddress, .readState), out)] S
    (.single ⟨⟨trivial, trivial, small⟩, step⟩)⟩

end LibAds
