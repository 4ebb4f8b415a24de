import LibAds.ConnectionDispatch
import LibAds.SessionProgress

/-!
# The whole server and its clients

`ADSserver` with any number of clients: `accepter()` and `main()` hand the
connections out, each port server works on the descriptor that it was given, and
every client makes its calls. Seen from one connection a step of the program is
a step of one session or none (`AdsServer.Sound.step`), so as long as the
connections are handed out in order every client gets its own replies
(`server_results`), and none of them is stuck (`server_goes_on`).
-/

namespace LibAds

open ByteMemory LabelledRuns

/-! ## The program -/

/-- What connects: a client and the calls that it is going to make. -/
structure RemoteClient where
  client : ADSConnection
  calls : List Call
  clear : client.iface.error = 0
  served : ∀ c ∈ calls, c.Served

/-- A connection: its client, and the bytes under way. -/
structure Link where
  calls : List Call
  results : List (Int × Outputs)
  client : ADSConnection
  current : Option Call
  clientTaken : List UInt8
  toServer : List UInt8
  toClient : List UInt8

/-- A port server in its loop. -/
structure Worker where
  server : ADSConnection
  waitCount : Nat
  serverTaken : List UInt8

/-- A connection with a port server that works on it. -/
def Link.session (link : Link) (worker : Worker) : Session where
  calls := link.calls
  results := link.results
  client := link.client
  current := link.current
  clientTaken := link.clientTaken
  toServer := link.toServer
  toClient := link.toClient
  server := worker.server
  waitCount := worker.waitCount
  serverTaken := worker.serverTaken

def Session.link (st : Session) : Link where
  calls := st.calls
  results := st.results
  client := st.client
  current := st.current
  clientTaken := st.clientTaken
  toServer := st.toServer
  toClient := st.toClient

def Session.worker (st : Session) : Worker where
  server := st.server
  waitCount := st.waitCount
  serverTaken := st.serverTaken

/-- The threads that hand out the connections, the connections by descriptor,
and the port servers that have been given a descriptor. -/
structure AdsServer where
  dispatch : Dispatch
  links : Int → Link
  workers : Int → List Worker

/-- The steps that are the client's. -/
def Action.byClient : Action → Bool
  | .send | .clientByte | .finish | .clientTimeOut => true
  | .serverByte | .answer | .serverTimeOut | .serverBreaksOff => false

inductive ServerEvent where
  | dispatch (event : DispatchEvent)
  | client (f : Int) (action : Action)
  | worker (f : Int) (action : Action)

/-- A connection as it is accepted. -/
def RemoteClient.link (p : RemoteClient) : Link where
  calls := p.calls
  results := []
  client := p.client
  current := none
  clientTaken := []
  toServer := []
  toClient := []

section Program

variable (globals heap : Mem) (me partner : AmsNetId) (peers : Int → RemoteClient)

/-- A port server as it enters its loop. -/
def Worker.start (f : Int) : Worker where
  server := portServerConnection heap f me partner
  waitCount := 0
  serverTaken := []

/-- The steps of the program and its clients, where `peers` are those that
connect. A thread that reads its argument becomes a port server on what it finds
there. -/
inductive ServerStep : AdsServer → ServerEvent → AdsServer → Prop
  | accept {st : AdsServer} {d : Dispatch} {f : Int} :
    DispatchStep st.dispatch .accept d → d.newfd = some f →
    ServerStep st (.dispatch .accept)
      { st with dispatch := d, links := Function.update st.links f (peers f).link }
  | serve {st : AdsServer} {d : Dispatch} : DispatchStep st.dispatch .serve d →
    ServerStep st (.dispatch .serve)
      { st with
        dispatch := d
        workers := Function.update st.workers st.dispatch.fd
          (st.workers st.dispatch.fd ++ [.start heap me partner st.dispatch.fd]) }
  | dispatch {st : AdsServer} {d : Dispatch} {event : DispatchEvent} :
    event ≠ .accept → event ≠ .serve → DispatchStep st.dispatch event d →
    ServerStep st (.dispatch event) { st with dispatch := d }
  | client {st : AdsServer} {f : Int} {worker : Worker} {action : Action} {next : Session} :
    f ∈ st.dispatch.accepted → action.byClient = true →
    SessionStep globals ((st.links f).session worker) action next →
    ServerStep st (.client f action)
      { st with links := Function.update st.links f next.link }
  | worker {st : AdsServer} {f : Int} {before after : List Worker} {worker : Worker}
      {action : Action} {next : Session} :
    st.workers f = before ++ worker :: after → action.byClient = false →
    SessionStep globals ((st.links f).session worker) action next →
    ServerStep st (.worker f action)
      { st with
        links := Function.update st.links f next.link
        workers := Function.update st.workers f (before ++ next.worker :: after) }

/-- The program before the first connection. -/
def AdsServer.start (opened : List Int) (fd : Int) (links : Int → Link) : AdsServer where
  dispatch := .start opened fd
  links := links
  workers := fun _ => []

end Program

/-- No `accept()` fails, no connection is lost on its way to a port server, and every
read that waits for the rest of a packet is in time. -/
def ServerEvent.Good : ServerEvent → Prop
  | .dispatch event => event ≠ .overtake ∧ event ≠ .createFails ∧ event ≠ .acceptFails
  | .client _ action | .worker _ action => action.InTime

/-- The steps that bring a connection to its port server. -/
def DispatchEvent.handsOut : DispatchEvent → Bool
  | .write | .read | .create | .serve => true
  | _ => false

/-- What happens on the connection with a descriptor. -/
def ServerEvent.action? (f : Int) : ServerEvent → Option Action
  | .dispatch _ => none
  | .client g action | .worker g action => if g = f then some action else none

/-- Work on that connection. -/
def ServerEvent.worksAt (f : Int) (event : ServerEvent) : Bool :=
  ((event.action? f).map Action.works).getD false

/-- Steps that bring that connection on. -/
def ServerEvent.helps (f : Int) : ServerEvent → Bool
  | .dispatch event => event.handsOut
  | .client g action | .worker g action => g = f && action.works

/-! ## One connection in the program -/

/-- A connection with its port server, also where none has been started yet. -/
def AdsServer.session (heap : Mem) (me partner : AmsNetId) (st : AdsServer) (f : Int) : Session :=
  (st.links f).session ((st.workers f).headD (.start heap me partner f))

/-- Only `accept()` and a thread that reads its argument show in what has been
accepted and served. -/
theorem DispatchStep.keeps {st d : Dispatch} {event : DispatchEvent}
    (step : DispatchStep st event d) (accepts : event ≠ .accept) (fails : event ≠ .acceptFails)
    (serves : event ≠ .serve) : d.accepted = st.accepted ∧ d.served = st.served := by
  cases step with
  | accept => exact absurd rfl accepts
  | acceptFails => exact absurd rfl fails
  | serve => exact absurd rfl serves
  | write | read | overtake | create | createFails => exact ⟨rfl, rfl⟩

/-- What a client does has nothing to do with the port server. -/
theorem SessionStep.client_frame {globals : Mem} {link : Link} {worker : Worker} {action : Action}
    {next : Session} (step : SessionStep globals (link.session worker) action next)
    (own : action.byClient = true) (other : Worker) :
    next.worker = worker ∧
      SessionStep globals (link.session other) action (next.link.session other) := by
  cases step with
  | send clear idle next =>
      exact ⟨rfl, @SessionStep.send globals (link.session other) _ _ clear idle next⟩
  | clientByte current wanting wire =>
      exact ⟨rfl, @SessionStep.clientByte globals (link.session other) _ _ _ current wanting wire⟩
  | finish current enough =>
      exact ⟨rfl, @SessionStep.finish globals (link.session other) _ current enough⟩
  | clientTimeOut limited current wanting =>
      exact ⟨rfl, @SessionStep.clientTimeOut globals (link.session other) _ limited current wanting⟩
  | serverByte | answer | serverTimeOut | serverBreaksOff => cases own

/-- Every connection is a sound session, and has one port server at most. -/
structure AdsServer.Sound (globals heap : Mem) (me partner : AmsNetId) (peers : Int → RemoteClient)
    (st : AdsServer) : Prop where
  distinct : st.dispatch.Distinct
  inOrder : st.dispatch.InOrder
  staffed : ∀ f, (st.workers f).length = st.dispatch.served.count f
  sound : ∀ f ∈ st.dispatch.accepted, ∃ done,
    Session.Sound globals (peers f).calls (peers f).client done (st.session heap me partner f)

section Steps

variable {globals heap : Mem} {me partner : AmsNetId} {peers : Int → RemoteClient}
  {st st' : AdsServer} {event : ServerEvent} {f : Int}

/-- A port server is given a descriptor that was accepted, and no other one gets
it. -/
theorem AdsServer.Sound.served (sound : st.Sound globals heap me partner peers) :
    st.dispatch.served.Nodup ∧ ∀ f ∈ st.dispatch.served, f ∈ st.dispatch.accepted := by
  have nodup := sound.distinct.nodup
  rw [sound.inOrder.passed] at nodup ⊢
  exact ⟨(List.nodup_append.mp nodup).1, fun f inside => List.mem_append_left _ inside⟩

theorem AdsServer.Sound.unstaffed (sound : st.Sound globals heap me partner peers)
    (new : f ∉ st.dispatch.served) : st.workers f = [] := by
  have none_ := sound.staffed f
  rw [List.count_eq_zero.mpr new] at none_
  exact List.length_eq_zero_iff.mp none_

/-- The port server of a connection is the only one it has. -/
theorem AdsServer.Sound.only (sound : st.Sound globals heap me partner peers)
    {before after : List Worker} {worker : Worker}
    (working : st.workers f = before ++ worker :: after) :
    before = [] ∧ after = [] ∧ f ∈ st.dispatch.accepted := by
  obtain ⟨nodup, inside⟩ := sound.served
  have counted := sound.staffed f
  have single := List.nodup_iff_count.mp nodup f
  rw [working, List.length_append, List.length_cons] at counted
  refine ⟨List.length_eq_zero_iff.mp (by omega), List.length_eq_zero_iff.mp (by omega), ?_⟩
  exact inside f (List.count_pos_iff.mp (by omega))

/-- A step as it is seen from the connection with a descriptor: nothing happens
there, it is accepted, or its session takes the step. -/
inductive Seen (globals heap : Mem) (me partner : AmsNetId) (peers : Int → RemoteClient) (f : Int)
    (st st' : AdsServer) : Option Action → Prop
  | rest : (f ∈ st'.dispatch.accepted ↔ f ∈ st.dispatch.accepted) →
    st'.session heap me partner f = st.session heap me partner f →
    Seen globals heap me partner peers f st st' none
  | accept : f ∉ st.dispatch.accepted → f ∈ st'.dispatch.accepted →
    st'.session heap me partner f =
      .start (peers f).calls (peers f).client (portServerConnection heap f me partner) →
    Seen globals heap me partner peers f st st' none
  | step {action : Action} : f ∈ st.dispatch.accepted → f ∈ st'.dispatch.accepted →
    action.InTime →
    SessionStep globals (st.session heap me partner f) action (st'.session heap me partner f) →
    Seen globals heap me partner peers f st st' (some action)

theorem Seen.other (accepted : f ∈ st'.dispatch.accepted ↔ f ∈ st.dispatch.accepted)
    (link : st'.links f = st.links f) (workers : st'.workers f = st.workers f) :
    Seen globals heap me partner peers f st st' none := by
  refine .rest accepted ?_
  unfold AdsServer.session
  rw [link, workers]

/-- A new connection is seen on its own descriptor. -/
theorem AdsServer.Sound.seen_accept (sound : st.Sound globals heap me partner peers)
    {d : Dispatch} {g : Int} (step : DispatchStep st.dispatch .accept d) (new : d.newfd = some g)
    (f : Int) :
    Seen globals heap me partner peers f st
      { st with dispatch := d, links := Function.update st.links g (peers g).link } none := by
  cases step with
  | accept idle positive fresh =>
      cases new
      have first : g ∉ st.dispatch.accepted := fun known => fresh (sound.distinct.open_ g known)
      by_cases same : f = g
      · subst same
        refine .accept first (List.mem_append_right _ (List.mem_singleton_self f)) ?_
        simp only [AdsServer.session, Function.update_self,
          sound.unstaffed fun served => first (sound.served.2 f served)]
        rfl
      · refine .other ?_ (Function.update_of_ne same _ _) rfl
        exact ⟨fun inside => (List.mem_append.mp inside).resolve_right fun now =>
          same (List.mem_singleton.mp now), List.mem_append_left _⟩

/-- A port server that starts changes nothing of what is seen: it was to start
like that. -/
theorem AdsServer.Sound.seen_serve (sound : st.Sound globals heap me partner peers)
    {d : Dispatch} (step : DispatchStep st.dispatch .serve d) (f : Int) :
    st.dispatch.fd ∉ st.dispatch.served ∧
      Seen globals heap me partner peers f st
        { st with
          dispatch := d
          workers := Function.update st.workers st.dispatch.fd
            (st.workers st.dispatch.fd ++ [.start heap me partner st.dispatch.fd]) } none := by
  have distinct := sound.distinct.step step nofun nofun
  have inOrder := sound.inOrder.step step nofun nofun
  cases step with
  | serve waiting =>
      have nodup := distinct.nodup
      rw [inOrder.passed] at nodup
      have new : st.dispatch.fd ∉ st.dispatch.served := fun inside =>
        (List.nodup_append.mp (List.nodup_append.mp nodup).1).2.2 _ inside _
          (List.mem_singleton_self _) rfl
      refine ⟨new, ?_⟩
      by_cases same : f = st.dispatch.fd
      · subst same
        refine .rest Iff.rfl ?_
        simp only [AdsServer.session, sound.unstaffed new, Function.update_self]
        rfl
      · exact .other Iff.rfl rfl (Function.update_of_ne same _ _)

/-- **A step of the program is a step of one session or of none.** -/
theorem AdsServer.Sound.seen (sound : st.Sound globals heap me partner peers)
    (step : ServerStep globals heap me partner peers st event st') (good : event.Good) (f : Int) :
    Seen globals heap me partner peers f st st' (event.action? f) := by
  cases step with
  | accept step new => exact sound.seen_accept step new f
  | serve step => exact (sound.seen_serve step f).2
  | dispatch accepts serves step =>
      have accepted := (step.keeps accepts good.2.2 serves).1
      exact .other (by rw [accepted]) rfl rfl
  | @client g worker action next known own step =>
      by_cases same : g = f
      · subst same
        have act : ServerEvent.action? g (.client g action) = some action := if_pos rfl
        obtain ⟨_, step⟩ :=
          step.client_frame own ((st.workers g).headD (.start heap me partner g))
        rw [act]
        refine .step known known good ?_
        simp only [AdsServer.session, Function.update_self]
        exact step
      · have act : ServerEvent.action? f (.client g action) = none := if_neg same
        rw [act]
        exact .other Iff.rfl (Function.update_of_ne (Ne.symm same) _ _) rfl
  | @worker g before after worker action next working own step =>
      obtain ⟨rfl, rfl, known⟩ := sound.only working
      by_cases same : g = f
      · subst same
        have act : ServerEvent.action? g (.worker g action) = some action := if_pos rfl
        rw [act]
        refine .step known known good ?_
        simp only [AdsServer.session, Function.update_self, working]
        exact step
      · have act : ServerEvent.action? f (.worker g action) = none := if_neg same
        rw [act]
        exact .other Iff.rfl (Function.update_of_ne (Ne.symm same) _ _)
          (Function.update_of_ne (Ne.symm same) _ _)

/-- A good step keeps the books of the port servers. -/
theorem AdsServer.Sound.staffed_step (sound : st.Sound globals heap me partner peers)
    (step : ServerStep globals heap me partner peers st event st') (good : event.Good) (f : Int) :
    (st'.workers f).length = st'.dispatch.served.count f := by
  have counted := sound.staffed f
  cases step with
  | accept step =>
      cases step with
      | accept => exact counted
  | serve step =>
      cases step with
      | serve waiting =>
          show (Function.update st.workers st.dispatch.fd _ f).length =
            (st.dispatch.served ++ [st.dispatch.fd]).count f
          by_cases same : f = st.dispatch.fd
          · subst same
            rw [Function.update_self, List.count_append, List.length_append, counted,
              List.count_singleton_self]
            rfl
          · rw [Function.update_of_ne same, List.count_append, counted,
              List.count_eq_zero.mpr fun inside => same (List.mem_singleton.mp inside)]
            rfl
  | dispatch accepts serves step =>
      rw [(step.keeps accepts good.2.2 serves).2]
      exact counted
  | client => exact counted
  | @worker g before after worker action next working own step =>
      show (Function.update st.workers g (before ++ next.worker :: after) f).length = _
      by_cases same : f = g
      · subst same
        rw [working, List.length_append, List.length_cons] at counted
        rw [Function.update_self, List.length_append, List.length_cons]
        exact counted
      · rw [Function.update_of_ne same]
        exact counted

/-- The connections are handed out in order. -/
theorem AdsServer.Sound.dispatch_step (sound : st.Sound globals heap me partner peers)
    (step : ServerStep globals heap me partner peers st event st') (good : event.Good) :
    st'.dispatch.Distinct ∧ st'.dispatch.InOrder := by
  cases step with
  | accept step =>
      exact ⟨sound.distinct.step step nofun nofun,
        sound.inOrder.step step nofun nofun⟩
  | serve step =>
      exact ⟨sound.distinct.step step nofun nofun,
        sound.inOrder.step step nofun nofun⟩
  | dispatch _ _ step =>
      obtain ⟨waits, creates, fails⟩ := good
      exact ⟨sound.distinct.step step fails creates, sound.inOrder.step step waits creates⟩
  | client => exact ⟨sound.distinct, sound.inOrder⟩
  | worker => exact ⟨sound.distinct, sound.inOrder⟩

/-- **Every good step keeps every connection sound.** -/
theorem AdsServer.Sound.step (sound : st.Sound globals heap me partner peers)
    (step : ServerStep globals heap me partner peers st event st') (good : event.Good) :
    st'.Sound globals heap me partner peers := by
  obtain ⟨distinct, inOrder⟩ := sound.dispatch_step step good
  refine ⟨distinct, inOrder, sound.staffed_step step good, ?_⟩
  intro f known
  have seen := sound.seen step good f
  generalize event.action? f = action at seen
  cases seen with
  | rest same view =>
      rw [view]
      exact sound.sound f (same.mp known)
  | accept _ _ view =>
      rw [view]
      exact ⟨[], Session.start_sound⟩
  | step before _ inTime step =>
      obtain ⟨done, sound⟩ := sound.sound f before
      exact sound.step (peers f).clear (peers f).served inTime step

/-- A connection is handed out, or already has its port server. -/
theorem AdsServer.Sound.handsOut (sound : st.Sound globals heap me partner peers)
    (known : f ∈ st.dispatch.accepted) (new : f ∉ st.dispatch.served) :
    ∃ event d, event.handsOut = true ∧ DispatchStep st.dispatch event d := by
  have passed := sound.inOrder.passed
  rcases busy : st.dispatch.creating with _ | _
  · rcases waiting : st.dispatch.starting with _ | n
    · rcases next : st.dispatch.pipe with _ | ⟨g, rest⟩
      · rcases held : st.dispatch.newfd with _ | g
        · rw [passed, busy, waiting, next, held] at known
          exact absurd (by simpa using known) new
        · exact ⟨_, _, rfl, .write held⟩
      · exact ⟨_, _, rfl, .read busy waiting next⟩
    · exact ⟨_, _, rfl, .serve waiting⟩
  · exact ⟨_, _, rfl, .create busy⟩

/-- Work on a connection that its port server has been given takes place. -/
theorem AdsServer.Sound.takes (sound : st.Sound globals heap me partner peers)
    (staffed : f ∈ st.dispatch.served) {action : Action} {next : Session}
    (works : action.works = true)
    (step : SessionStep globals (st.session heap me partner f) action next) :
    ∃ event st', event.helps f = true ∧ event.Good ∧
      ServerStep globals heap me partner peers st event st' := by
  have here : (f = f && action.works) = true := by
    rw [works]
    simp
  have inTime : action.InTime := by
    constructor <;> (rintro rfl; cases works)
  rcases own : action.byClient with _ | _
  · have counted := sound.staffed f
    have positive := List.count_pos_iff.mpr staffed
    rcases working : st.workers f with _ | ⟨worker, after⟩
    · rw [working, List.length_nil] at counted
      omega
    · have view : st.session heap me partner f = (st.links f).session worker := by
        rw [AdsServer.session, working]
        rfl
      rw [view] at step
      have taken := @ServerStep.worker globals heap me partner peers st f [] after worker action
        next working own step
      exact ⟨.worker f action, _, here, inTime, taken⟩
  · have known := sound.served.2 f staffed
    exact ⟨.client f action, _, here, inTime, .client known own step⟩

/-- The threads that hand out the connections take their steps in the program. -/
theorem ServerStep.hands {event : DispatchEvent} {d : Dispatch} (hands : event.handsOut = true)
    (step : DispatchStep st.dispatch event d) :
    ∃ event st', ServerEvent.helps f event = true ∧ event.Good ∧
      ServerStep globals heap me partner peers st event st' := by
  have other : ∀ {bad : DispatchEvent}, bad.handsOut = false → event ≠ bad := by
    intro bad idle equal
    rw [← equal, hands] at idle
    cases idle
  have good : (ServerEvent.dispatch event).Good := ⟨other rfl, other rfl, other rfl⟩
  by_cases serves : event = .serve
  · subst serves
    exact ⟨.dispatch .serve, _, rfl, good, .serve step⟩
  · exact ⟨.dispatch event, _, hands, good, .dispatch (other rfl) serves step⟩

/-- What is left of the work for a connection. -/
def AdsServer.left (heap : Mem) (me partner : AmsNetId) (peers : Int → RemoteClient) (f : Int)
    (st : AdsServer) : Nat :=
  if f ∈ st.dispatch.accepted then (st.session heap me partner f).left
  else workOf (peers f).calls

/-- **The pace of a connection.** Work on it takes one off what is left of it,
and nothing else does. -/
theorem AdsServer.Sound.left_step (sound : st.Sound globals heap me partner peers)
    (step : ServerStep globals heap me partner peers st event st') (good : event.Good) (f : Int) :
    st.left heap me partner peers f =
      st'.left heap me partner peers f + if event.worksAt f then 1 else 0 := by
  have seen := sound.seen step good f
  unfold ServerEvent.worksAt AdsServer.left
  generalize event.action? f = action at seen
  cases seen with
  | rest same view =>
      rw [view]
      simp only [same]
      rfl
  | accept new known view =>
      rw [if_neg new, if_pos known, view]
      exact (Nat.zero_add _).symm
  | @step action before after inTime step =>
      obtain ⟨done, sound⟩ := sound.sound f before
      rw [if_pos before, if_pos after]
      exact Session.left_step sound (peers f).served inTime step

/-- The port server of a connection has waited in a row at most as often as its
reads have timed out in all. -/
theorem AdsServer.Sound.waits_step (sound : st.Sound globals heap me partner peers)
    (step : ServerStep globals heap me partner peers st event st') (good : event.Good) (f : Int)
    {events : List ServerEvent}
    (waited : f ∈ st.dispatch.accepted → (st.session heap me partner f).waitCount ≤
      (events.filterMap (ServerEvent.action? f)).count .serverTimeOut)
    (known : f ∈ st'.dispatch.accepted) :
    (st'.session heap me partner f).waitCount ≤
      ((events ++ [event]).filterMap (ServerEvent.action? f)).count .serverTimeOut := by
  have seen := sound.seen step good f
  rw [List.filterMap_append, List.filterMap_cons, List.filterMap_nil]
  generalize event.action? f = action at seen
  cases seen with
  | rest same view =>
      rw [view, List.append_nil]
      exact waited (same.mp known)
  | accept _ _ view =>
      rw [view]
      exact Nat.zero_le _
  | step before _ inTime step =>
      obtain ⟨done, sound⟩ := sound.sound f before
      exact sound.waits (peers f).served inTime step (waited before)

end Steps

/-! ## Whole runs -/

section Runs

variable {globals heap : Mem} {me partner : AmsNetId} {peers : Int → RemoteClient}
  {opened : List Int} {fd : Int} {links : Int → Link} {events : List ServerEvent} {st : AdsServer}

theorem AdsServer.start_sound :
    AdsServer.Sound globals heap me partner peers (.start opened fd links) :=
  ⟨⟨List.nodup_nil, fun _ inside => absurd inside List.not_mem_nil⟩, ⟨Nat.zero_le 1, rfl⟩,
    fun _ => rfl, fun _ inside => absurd inside List.not_mem_nil⟩

/-- What is known of a state by the events that led to it. -/
structure AdsServer.Known (globals heap : Mem) (me partner : AmsNetId) (peers : Int → RemoteClient)
    (events : List ServerEvent) (st : AdsServer) : Prop where
  sound : st.Sound globals heap me partner peers
  waits : ∀ f ∈ st.dispatch.accepted, (st.session heap me partner f).waitCount ≤
    (events.filterMap (ServerEvent.action? f)).count .serverTimeOut

theorem server_known
    (run : Run (ServerStep globals heap me partner peers) (.start opened fd links) events st)
    (good : ∀ event ∈ events, event.Good) :
    st.Known globals heap me partner peers events := by
  have guarded := run.guarded good
  refine guarded.history ⟨AdsServer.start_sound, ?_⟩ ?_
  · exact fun _ inside => absurd inside List.not_mem_nil
  · intro events st event st' known ⟨good, step⟩
    exact ⟨known.sound.step step good, fun f inside =>
      known.sound.waits_step step good f (known.waits f) inside⟩

/-- **Every client gets its own replies.** In every order of the steps of the
threads and the clients in which no `accept()` fails, no connection is lost and no
packet is late, the calls that have returned on a connection are the first ones
that its client makes, each with what the server replies to it. -/
theorem server_results
    (run : Run (ServerStep globals heap me partner peers) (.start opened fd links) events st)
    (good : ∀ event ∈ events, event.Good) {f : Int} (known : f ∈ st.dispatch.accepted) :
    (st.links f).results <+:
      (peers f).calls.mapIdx fun k c => c.answered globals (peers f).client k := by
  obtain ⟨done, sound⟩ := (server_known run good).sound.sound f known
  have results : (st.links f).results = _ := sound.results
  rw [results]
  exact ⟨_, by rw [sound.made, List.mapIdx_append]⟩

/-- **No client is stuck.** Under the same conditions, while the port server of a
connection has timed out fewer than 1000 times, the work done on it is at most
that of its calls. As long as it is less, the connection is handed out or worked
on by a step that can be taken, and when it is as much, every call has returned
the server's reply to it. -/
theorem server_goes_on
    (run : Run (ServerStep globals heap me partner peers) (.start opened fd links) events st)
    (good : ∀ event ∈ events, event.Good) {f : Int} (known : f ∈ st.dispatch.accepted)
    (awake : (events.filterMap (ServerEvent.action? f)).count .serverTimeOut < maxWaits) :
    (events.countP (ServerEvent.worksAt f) < workOf (peers f).calls ∧
        ∃ event st', event.helps f = true ∧ event.Good ∧
          ServerStep globals heap me partner peers st event st') ∨
      (events.countP (ServerEvent.worksAt f) = workOf (peers f).calls ∧
        (st.links f).results =
          (peers f).calls.mapIdx fun k c => c.answered globals (peers f).client k) := by
  obtain ⟨sound, waits⟩ := server_known run good
  have pace := @Run.countdown _ _ _ _ _ _ (AdsServer.Sound globals heap me partner peers)
    (AdsServer.left heap me partner peers f) (ServerEvent.worksAt f) (run.guarded good)
    AdsServer.start_sound (fun _ _ _ sound ⟨good, step⟩ => sound.step step good)
    (fun _ _ _ sound ⟨good, step⟩ => sound.left_step step good f)
  have whole : AdsServer.left heap me partner peers f (.start opened fd links) =
      workOf (peers f).calls := rfl
  have left : st.left heap me partner peers f = (st.session heap me partner f).left := if_pos known
  rw [whole, left] at pace
  obtain ⟨done, session⟩ := sound.sound f known
  rcases Nat.eq_zero_or_pos (st.session heap me partner f).left with finished | unfinished
  · rw [finished, Nat.zero_add] at pace
    obtain ⟨idle, last⟩ := Session.left_eq_zero finished
    have made := session.made
    rw [idle, last, Option.toList_none, List.append_nil, List.append_nil] at made
    have results : (st.links f).results = _ := session.results
    exact Or.inr ⟨pace.symm, by rw [results, made]⟩
  · refine Or.inl ⟨by omega, ?_⟩
    by_cases staffed : f ∈ st.dispatch.served
    · obtain ⟨action, next, works, step⟩ := session.progress (peers f).clear (peers f).served
        (Nat.lt_of_le_of_lt (waits f known) awake) unfinished
      exact sound.takes staffed works step
    · obtain ⟨event, d, hands, step⟩ := sound.handsOut known staffed
      exact ServerStep.hands hands step

end Runs

/-- A client that reads the state. -/
def statePeer : RemoteClient where
  client := freshConnection
  calls := [.readState]
  clear := rfl
  served := fun c inside => List.mem_singleton.mp inside ▸ ⟨trivial, trivial, by decide⟩

/-- It is accepted as descriptor 4. -/
theorem statePeer_accepted (links : Int → Link) :
    ∃ st, Run (ServerStep (ofList dummyRes) (fun _ => 0) freshConnection.partner
        freshConnection.partner fun _ => statePeer)
      (.start [0, 1, 2, 3] 0 links) [.dispatch .accept] st ∧ 4 ∈ st.dispatch.accepted :=
  have fresh : (4 : Int) ∉ ([0, 1, 2, 3] : List Int) := by decide
  ⟨_, .single (.accept (.accept rfl (by decide) fresh) rfl), List.mem_singleton_self 4⟩

theorem server_results_accepted :
    ∃ st : AdsServer, 4 ∈ st.dispatch.accepted ∧ (st.links 4).results <+:
      [Call.readState].mapIdx fun k c => c.answered (ofList dummyRes) freshConnection k := by
  obtain ⟨st, run, known⟩ := statePeer_accepted fun _ => statePeer.link
  exact ⟨st, known, server_results run (by simp [ServerEvent.Good]) known⟩

theorem server_goes_on_accepted :
    ∃ st, 0 < workOf [Call.readState] ∧ ∃ event st', event.helps 4 = true ∧ event.Good ∧
      ServerStep (ofList dummyRes) (fun _ => 0) freshConnection.partner freshConnection.partner
        (fun _ => statePeer) st event st' := by
  obtain ⟨st, run, known⟩ := statePeer_accepted fun _ => statePeer.link
  rcases server_goes_on run (by simp [ServerEvent.Good]) known (by decide) with
    goesOn | ⟨all, _⟩
  · exact ⟨st, goesOn⟩
  · exact absurd all (by decide)

end LibAds
