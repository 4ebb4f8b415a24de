import Mathlib.Data.List.Perm.Subperm
import LibAds.LabelledRuns

/-!
# How connections reach their port servers

`accepter()` writes the descriptors it accepts into a pipe. `main()` of
`examples/ADSserver.c` reads one into its variable `fd`, starts a port server
with the address of that variable, and goes on to the next; the port server
reads the variable when it gets to run. A connection is lost if `main()` reads
the pipe before that, or if no thread can be started, and in no other order of
the steps (`dispatch_serves_iff`).
-/

namespace LibAds

open LabelledRuns

/-! ## The threads -/

/-- The descriptors that are open, what `accept()` has returned, the variables
`newfd` of `accepter()` and `fd` of `main()` with the pipe between them, whether
`main()` is about to start a thread, how many threads have not yet read their
argument, and what the others have read. -/
structure Dispatch where
  opened : List Int
  accepted : List Int
  newfd : Option Int
  pipe : List Int
  fd : Int
  creating : Bool
  starting : Nat
  served : List Int

/-- A step of a thread. `overtake` is a read of the pipe by `main()` while there
is a thread that has not read its argument. -/
inductive DispatchEvent where
  | accept
  | acceptFails
  | write
  | read
  | overtake
  | create
  | createFails
  | serve
  deriving DecidableEq

/-- The steps of `accepter()`, `main()` and the port servers. When no thread can
be started `main()` closes its own `newfd`, which is 0. -/
inductive DispatchStep : Dispatch → DispatchEvent → Dispatch → Prop
  | accept {st : Dispatch} {f : Int} : st.newfd = none → 0 ≤ f → f ∉ st.opened →
    DispatchStep st .accept
      { st with opened := f :: st.opened, accepted := st.accepted ++ [f], newfd := some f }
  | acceptFails {st : Dispatch} : st.newfd = none →
    DispatchStep st .acceptFails { st with accepted := st.accepted ++ [-1], newfd := some (-1) }
  | write {st : Dispatch} {f : Int} : st.newfd = some f →
    DispatchStep st .write { st with newfd := none, pipe := st.pipe ++ [f] }
  | read {st : Dispatch} {f : Int} {rest : List Int} : st.creating = false → st.starting = 0 →
    st.pipe = f :: rest →
    DispatchStep st .read { st with pipe := rest, fd := f, creating := true }
  | overtake {st : Dispatch} {f : Int} {rest : List Int} : st.creating = false → 0 < st.starting →
    st.pipe = f :: rest →
    DispatchStep st .overtake { st with pipe := rest, fd := f, creating := true }
  | create {st : Dispatch} : st.creating = true →
    DispatchStep st .create { st with creating := false, starting := st.starting + 1 }
  | createFails {st : Dispatch} : st.creating = true →
    DispatchStep st .createFails
      { st with creating := false, opened := st.opened.filter (· ≠ 0) }
  | serve {st : Dispatch} {n : Nat} : st.starting = n + 1 →
    DispatchStep st .serve { st with starting := n, served := st.served ++ [st.fd] }

/-- The server when `main()` has started its accepter. -/
def Dispatch.start (opened : List Int) (fd : Int) : Dispatch where
  opened := opened
  accepted := []
  newfd := none
  pipe := []
  fd := fd
  creating := false
  starting := 0
  served := []

/-- Nothing is on its way to a port server. -/
structure Dispatch.Idle (st : Dispatch) : Prop where
  newfd : st.newfd = none
  pipe : st.pipe = []
  creating : st.creating = false
  starting : st.starting = 0

/-! ## What holds in every order of the steps -/

/-- The books of a run, where `read` is what `main()` has read: nothing is
invented, and every descriptor read is for a thread. -/
structure Dispatch.Books (events : List DispatchEvent) (read : List Int) (st : Dispatch) :
    Prop where
  passed : st.accepted = read ++ (st.pipe ++ st.newfd.toList)
  shown : ∀ f ∈ st.served, f ∈ read
  current : st.creating = true ∨ 0 < st.starting → st.fd ∈ read
  counted : read.length =
    st.served.length + st.starting + st.creating.toNat + events.count .createFails

/-- All that has been accepted is open. -/
structure Dispatch.Distinct (st : Dispatch) : Prop where
  nodup : st.accepted.Nodup
  open_ : ∀ f ∈ st.accepted, f ∈ st.opened

/-- What `main()` has read is served or in `fd`, the only copy there is. -/
structure Dispatch.InOrder (st : Dispatch) : Prop where
  single : st.starting + st.creating.toNat ≤ 1
  passed : st.accepted =
    st.served ++ (List.replicate (st.starting + st.creating.toNat) st.fd ++
      (st.pipe ++ st.newfd.toList))

/-- A connection that no port server will ever see. -/
structure Dispatch.Lost (f : Int) (st : Dispatch) : Prop where
  accepted : f ∈ st.accepted
  unserved : f ∉ st.served
  gone : f ∉ st.pipe ++ st.newfd.toList
  overwritten : f ≠ st.fd

section Steps

variable {events : List DispatchEvent} {read : List Int} {st st' : Dispatch} {f : Int}
  {event : DispatchEvent}

/-- The books at the start. -/
theorem Dispatch.start_books (opened : List Int) (fd : Int) :
    (Dispatch.start opened fd).Books [] [] := by
  refine ⟨rfl, fun _ inside => inside, fun busy => ?_, rfl⟩
  rcases busy with busy | busy
  · cases busy
  · exact absurd busy (Nat.lt_irrefl 0)

/-- What `main()` takes out of the pipe goes into its variable. -/
theorem Dispatch.Books.take (books : st.Books events read) (fixed : event ≠ .createFails)
    (settled : st.creating = false) {rest : List Int} (next : st.pipe = f :: rest) :
    Dispatch.Books (events ++ [event]) (read ++ [f])
      { st with pipe := rest, fd := f, creating := true } := by
  obtain ⟨passed, shown, _, counted⟩ := books
  constructor
  · rw [next] at passed
    rw [List.append_assoc]
    exact passed
  · exact fun g inside => List.mem_append_left _ (shown g inside)
  · exact fun _ => List.mem_append_right _ (List.mem_singleton_self f)
  · have none_ : [event].count .createFails = 0 := List.count_eq_zero.mpr fun inside =>
      fixed (List.mem_singleton.mp inside).symm
    rw [settled, Bool.toNat_false] at counted
    rw [List.length_append, List.count_append, none_]
    show read.length + 1 =
      st.served.length + st.starting + 1 + (events.count .createFails + 0)
    omega

/-- **Every step keeps the books.** -/
theorem Dispatch.Books.step (books : st.Books events read) (step : DispatchStep st event st') :
    ∃ read', st'.Books (events ++ [event]) read' := by
  obtain ⟨passed, shown, current, counted⟩ := id books
  cases step with
  | accept idle =>
      refine ⟨read, ?_, shown, current, ?_⟩
      · rw [passed, idle, Option.toList_none, List.append_nil, List.append_assoc]
        rfl
      · rw [List.count_append]
        exact counted
  | acceptFails idle =>
      refine ⟨read, ?_, shown, current, ?_⟩
      · rw [passed, idle, Option.toList_none, List.append_nil, List.append_assoc]
        rfl
      · rw [List.count_append]
        exact counted
  | write holds =>
      refine ⟨read, ?_, shown, current, ?_⟩
      · rw [passed, holds, Option.toList_none, List.append_nil]
        rfl
      · rw [List.count_append]
        exact counted
  | read settled _ next => exact ⟨_, books.take (by decide) settled next⟩
  | overtake settled _ next => exact ⟨_, books.take (by decide) settled next⟩
  | create busy =>
      refine ⟨read, passed, shown, fun _ => current (Or.inl busy), ?_⟩
      rw [busy, Bool.toNat_true] at counted
      rw [List.count_append]
      show read.length =
        st.served.length + (st.starting + 1) + 0 + (events.count .createFails + 0)
      omega
  | createFails busy =>
      refine ⟨read, passed, shown, fun _ => current (Or.inl busy), ?_⟩
      rw [busy, Bool.toNat_true] at counted
      rw [List.count_append]
      show read.length =
        st.served.length + st.starting + 0 + (events.count .createFails + 1)
      omega
  | @serve n waiting =>
      have held : st.fd ∈ read := current (Or.inr (by omega))
      refine ⟨read, passed, fun g inside => ?_, fun _ => held, ?_⟩
      · rcases List.mem_append.mp inside with before | now
        · exact shown g before
        · rw [List.mem_singleton.mp now]
          exact held
      · rw [List.count_append, List.length_append]
        show read.length =
          st.served.length + 1 + n + st.creating.toNat + (events.count .createFails + 0)
        omega

/-- The kernel gives no descriptor twice while none is closed. -/
theorem Dispatch.Distinct.step (distinct : st.Distinct) (step : DispatchStep st event st')
    (accepts : event ≠ .acceptFails) (creates : event ≠ .createFails) : st'.Distinct := by
  obtain ⟨nodup, open_⟩ := distinct
  cases step with
  | @accept f _ _ fresh =>
      constructor
      · have new : f ∉ st.accepted := fun inside => fresh (open_ f inside)
        refine List.nodup_append.mpr ⟨nodup, List.pairwise_singleton _ f, ?_⟩
        intro a inside b same equal
        obtain rfl := List.mem_singleton.mp same
        exact new (equal ▸ inside)
      · intro g inside
        rcases List.mem_append.mp inside with before | now
        · exact List.mem_cons_of_mem _ (open_ g before)
        · rw [List.mem_singleton.mp now]
          exact List.mem_cons_self
  | acceptFails => exact absurd rfl accepts
  | createFails => exact absurd rfl creates
  | write | read | overtake | create | serve => exact ⟨nodup, open_⟩

/-- Without an overtaking read and with a thread for every connection, the
connections stay in order. -/
theorem Dispatch.InOrder.step (inOrder : st.InOrder) (step : DispatchStep st event st')
    (waits : event ≠ .overtake) (creates : event ≠ .createFails) : st'.InOrder := by
  obtain ⟨single, passed⟩ := inOrder
  cases step with
  | accept idle =>
      refine ⟨single, ?_⟩
      rw [passed, idle, Option.toList_none, List.append_nil]
      simp only [List.append_assoc]
      rfl
  | acceptFails idle =>
      refine ⟨single, ?_⟩
      rw [passed, idle, Option.toList_none, List.append_nil]
      simp only [List.append_assoc]
      rfl
  | write holds =>
      refine ⟨single, ?_⟩
      rw [passed, holds, Option.toList_none, List.append_nil]
      rfl
  | read settled quiet next =>
      rw [settled, quiet, next] at passed
      refine ⟨?_, ?_⟩
      · rw [quiet]
        exact Nat.le_refl 1
      · rw [quiet]
        exact passed
  | overtake => exact absurd rfl waits
  | create busy =>
      rw [busy] at single passed
      exact ⟨single, passed⟩
  | createFails => exact absurd rfl creates
  | @serve n waiting =>
      have settled : st.creating = false := by
        rcases equal : st.creating with _ | _
        · rfl
        · rw [equal, Bool.toNat_true] at single
          omega
      obtain rfl : n = 0 := by omega
      rw [waiting, settled] at passed
      refine ⟨?_, ?_⟩
      · rw [settled]
        exact Nat.zero_le 1
      · rw [settled, passed, List.append_assoc]
        rfl

/-- A lost connection stays lost. -/
theorem Dispatch.Lost.step (lost : st.Lost f) (distinct : st.Distinct)
    (step : DispatchStep st event st') (accepts : event ≠ .acceptFails) : st'.Lost f := by
  obtain ⟨accepted, unserved, gone, overwritten⟩ := lost
  rw [List.mem_append, not_or] at gone
  obtain ⟨unread, unheld⟩ := gone
  cases step with
  | @accept g _ _ fresh =>
      have other : f ∉ [g] := fun same =>
        fresh (by rw [← List.mem_singleton.mp same]; exact distinct.open_ f accepted)
      refine ⟨List.mem_append_left _ accepted, unserved, ?_, overwritten⟩
      rw [List.mem_append, not_or]
      exact ⟨unread, other⟩
  | acceptFails => exact absurd rfl accepts
  | @write g holds =>
      rw [holds, Option.toList_some] at unheld
      refine ⟨accepted, unserved, ?_, overwritten⟩
      rw [Option.toList_none, List.append_nil, List.mem_append, not_or]
      exact ⟨unread, unheld⟩
  | read _ _ next | overtake _ _ next =>
      rw [next, List.mem_cons, not_or] at unread
      refine ⟨accepted, unserved, ?_, unread.1⟩
      rw [List.mem_append, not_or]
      exact ⟨unread.2, unheld⟩
  | create | createFails =>
      refine ⟨accepted, unserved, ?_, overwritten⟩
      rw [List.mem_append, not_or]
      exact ⟨unread, unheld⟩
  | serve =>
      refine ⟨accepted, ?_, ?_, overwritten⟩
      · rw [List.mem_append, not_or]
        exact ⟨unserved, fun same => overwritten (List.mem_singleton.mp same)⟩
      · rw [List.mem_append, not_or]
        exact ⟨unread, unheld⟩

/-- A read of the pipe that overtakes a thread loses a connection: there are
more descriptors read than served, and only the last one read is still there. -/
theorem Dispatch.Books.overtaken (books : st.Books events read) (distinct : st.Distinct)
    (creates : .createFails ∉ events) (step : DispatchStep st .overtake st') :
    ∃ f, st'.Lost f := by
  obtain ⟨passed, _, _, counted⟩ := books
  obtain ⟨nodup, _⟩ := distinct
  cases step with
  | @overtake g rest settled waiting next =>
      rw [passed, List.nodup_append] at nodup
      obtain ⟨once, _, apart⟩ := nodup
      rw [List.count_eq_zero.mpr creates] at counted
      have missed : ∃ f ∈ read, f ∉ st.served := by
        by_contra all
        push Not at all
        have fewer := (once.subperm all).length_le
        omega
      obtain ⟨f, taken, unserved⟩ := missed
      have gone : f ∉ st.pipe ++ st.newfd.toList := fun inside => apart f taken f inside rfl
      rw [next, List.cons_append, List.mem_cons, not_or] at gone
      refine ⟨f, ?_, unserved, gone.2, gone.1⟩
      show f ∈ st.accepted
      rw [passed]
      exact List.mem_append_left _ taken

end Steps

/-! ## Whole runs -/

/-- What is known of a state by the events that led to it. -/
structure Dispatch.Known (events : List DispatchEvent) (st : Dispatch) : Prop where
  books : ∃ read, st.Books events read
  distinct : .acceptFails ∉ events → .createFails ∉ events → st.Distinct
  lost : .acceptFails ∉ events → .createFails ∉ events → .overtake ∈ events → ∃ f, st.Lost f
  inOrder : .overtake ∉ events → .createFails ∉ events → st.InOrder

section Runs

variable {events : List DispatchEvent} {opened : List Int} {fd : Int} {st : Dispatch}

theorem dispatch_known (run : Run DispatchStep (.start opened fd) events st) :
    st.Known events := by
  refine run.history ⟨⟨[], Dispatch.start_books opened fd⟩, fun _ _ => ⟨List.nodup_nil, ?_⟩,
    fun _ _ inside => absurd inside List.not_mem_nil, fun _ _ => ⟨Nat.zero_le 1, rfl⟩⟩ ?_
  · exact fun f inside => absurd inside List.not_mem_nil
  · intro events st event st' known step
    obtain ⟨⟨read, books⟩, distinct, lost, inOrder⟩ := known
    refine ⟨books.step step, ?_, ?_, ?_⟩
    · intro accepts creates
      rw [List.mem_append, not_or, List.mem_singleton] at accepts creates
      exact (distinct accepts.1 creates.1).step step (Ne.symm accepts.2) (Ne.symm creates.2)
    · intro accepts creates overtaken
      rw [List.mem_append, not_or, List.mem_singleton] at accepts creates
      have apart := distinct accepts.1 creates.1
      rcases List.mem_append.mp overtaken with before | now
      · obtain ⟨f, gone⟩ := lost accepts.1 creates.1 before
        exact ⟨f, gone.step apart step (Ne.symm accepts.2)⟩
      · obtain rfl := List.mem_singleton.mp now
        exact books.overtaken apart creates.1 step
    · intro waits creates
      rw [List.mem_append, not_or, List.mem_singleton] at waits creates
      exact (inOrder waits.1 creates.1).step step (Ne.symm waits.2) (Ne.symm creates.2)

/-- **When every connection is served.** Where no `accept()` fails, and once nothing
is on its way any more, the connections accepted have been handed out to port
servers once each, if and only if `main()` never read the pipe while a thread had
not read its argument, and could start a thread for every descriptor. -/
theorem dispatch_serves_iff (run : Run DispatchStep (.start opened fd) events st)
    (accepts : .acceptFails ∉ events) (idle : st.Idle) :
    st.served.Perm st.accepted ↔ .overtake ∉ events ∧ .createFails ∉ events := by
  obtain ⟨⟨read, books⟩, distinct, lost, inOrder⟩ := dispatch_known run
  constructor
  · intro all
    have creates : .createFails ∉ events := by
      have passed := books.passed
      have counted := books.counted
      rw [idle.pipe, idle.newfd, Option.toList_none, List.append_nil, List.append_nil] at passed
      rw [idle.starting, idle.creating, Bool.toNat_false, ← passed, ← all.length_eq] at counted
      exact List.count_eq_zero.mp (by omega)
    refine ⟨fun overtaken => ?_, creates⟩
    obtain ⟨f, gone⟩ := lost accepts creates overtaken
    exact gone.unserved (all.mem_iff.mpr gone.accepted)
  · intro ⟨waits, creates⟩
    have passed := (inOrder waits creates).passed
    rw [idle.pipe, idle.newfd, idle.starting, idle.creating, Option.toList_none, List.append_nil,
      List.append_nil] at passed
    rw [passed]
    exact List.Perm.of_eq (List.append_nil _).symm

end Runs

/-- Two connections at once: both port servers get the second. -/
theorem dispatch_serves_iff_pair : ¬ ([5, 5] : List Int).Perm [4, 5] := by
  intro all
  have run : Run DispatchStep (.start [0, 1, 2, 3] 0)
      [.accept, .write, .accept, .write, .read, .create, .overtake, .create, .serve, .serve]
      ⟨[5, 4, 0, 1, 2, 3], [4, 5], none, [], 5, false, 0, [5, 5]⟩ :=
    .cons (.accept rfl (by decide) (by decide)) <| .cons (.write rfl) <|
    .cons (.accept rfl (by decide) (by decide)) <| .cons (.write rfl) <|
    .cons (.read rfl rfl rfl) <| .cons (.create rfl) <|
    .cons (.overtake rfl (by decide) rfl) <| .cons (.create rfl) <|
    .cons (.serve rfl) <| .single (.serve rfl)
  exact ((dispatch_serves_iff run (by decide) ⟨rfl, rfl, rfl, rfl⟩).mp all).1 (by decide)

end LibAds
