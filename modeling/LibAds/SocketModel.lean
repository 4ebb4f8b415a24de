import Mathlib.Data.List.Basic

/-!
# A socket as its caller sees it

A stream socket is known to a program only through what `send()`, `select()`
and `recv()` answer. `Socket σ` takes these three calls as transitions of an
environment state `σ`; a program is written against the class and runs in any
environment. `Delivers` is the good case, a byte string that arrives one byte
for each `select()`/`recv()` pair, and `Script` the environment in which every
answer of the operating system is written down in advance.
-/

namespace SocketModel

/-! ## The system calls -/

/-- `struct timeval`. -/
structure Timeval where
  tv_sec : Int
  tv_usec : Int
  deriving DecidableEq, Repr

/-- The answer of `send()`: -1 with `errno`, or how many bytes were taken. -/
inductive SendResult where
  | failed (errno : Int)
  | sent (n : Nat) (errno : Int)
  deriving DecidableEq, Repr

/-- How many bytes it has taken. -/
def SendResult.taken : SendResult → Nat
  | .failed _ => 0
  | .sent n _ => n

/-- The answer of `select()` on one descriptor: -1 with `errno`, 0 or 1. -/
inductive SelectResult where
  | failed (errno : Int)
  | timedOut
  | ready
  deriving DecidableEq, Repr

/-- The answer of `recv()` for one byte: -1 with `errno`, 0, or the byte. -/
inductive RecvResult where
  | failed (errno : Int)
  | shutDown
  | byte (b : UInt8)
  deriving DecidableEq, Repr

/-- The calls a program makes on one socket, as transitions of the environment.
`select()` gets the time limit by pointer and hands it back updated; no limit
is the null pointer. -/
class Socket (σ : Type) where
  send : σ → List UInt8 → SendResult × σ
  select : σ → Option Timeval → SelectResult × Option Timeval × σ
  recv : σ → RecvResult × σ

/-! ## Bytes that arrive -/

variable {σ : Type} [Socket σ]

/-- `Delivers pt s bs pt' s'`: from `s`, the next `select()`/`recv()` pairs
succeed and yield exactly the bytes `bs`, leaving the environment in `s'` and
the time limit at `pt'`. -/
inductive Delivers : Option Timeval → σ → List UInt8 → Option Timeval → σ → Prop
  | nil (pt : Option Timeval) (s : σ) : Delivers pt s [] pt s
  | cons {pt pt₁ pt' : Option Timeval} {s s₁ s₂ s' : σ} {b : UInt8} {bs : List UInt8} :
    Socket.select s pt = (.ready, pt₁, s₁) → Socket.recv s₁ = (.byte b, s₂) →
    Delivers pt₁ s₂ bs pt' s' → Delivers pt s (b :: bs) pt' s'

/-- An environment that yields the bytes it is loaded with one by one delivers
them all. -/
theorem Delivers.of_feed {pt : Option Timeval} {feed : List UInt8 → σ}
    (step : ∀ b bs, ∃ s, Socket.select (feed (b :: bs)) pt = (.ready, pt, s) ∧
      Socket.recv s = (.byte b, feed bs)) (bs : List UInt8) :
    Delivers pt (feed bs) bs pt (feed []) := by
  induction bs with
  | nil => exact .nil pt _
  | cons b bs ih =>
      rcases step b bs with ⟨s, selected, received⟩
      exact .cons selected received ih

/-- A delivery of two strings passes through a state between them. -/
theorem Delivers.split {pt pt₂ : Option Timeval} {s s₂ : σ} {xs ys : List UInt8}
    (h : Delivers pt s (xs ++ ys) pt₂ s₂) :
    ∃ pt₁ s₁, Delivers pt s xs pt₁ s₁ ∧ Delivers pt₁ s₁ ys pt₂ s₂ := by
  induction xs generalizing pt s with
  | nil => exact ⟨pt, s, .nil pt s, h⟩
  | cons x xs ih =>
      cases h with
      | cons selected received rest =>
          obtain ⟨pt₁, s₁, left, right⟩ := ih rest
          exact ⟨pt₁, s₁, .cons selected received left, right⟩

/-- Deliveries follow one another. -/
theorem Delivers.append {pt pt₁ pt₂ : Option Timeval} {s s₁ s₂ : σ} {xs ys : List UInt8}
    (left : Delivers pt s xs pt₁ s₁) (right : Delivers pt₁ s₁ ys pt₂ s₂) :
    Delivers pt s (xs ++ ys) pt₂ s₂ := by
  induction left with
  | nil => exact right
  | cons selected received _ ih => exact .cons selected received (ih right)

/-! ## Scripted environments -/

/-- What `send()` does next. -/
inductive TxEvent where
  | complete
  | short (n : Nat) (errno : Int)
  | error (errno : Int)
  deriving DecidableEq, Repr

/-- What the next `select()`/`recv()` pair meets. -/
inductive RxEvent where
  | byte (b : UInt8)
  | timeOut
  | shutDown
  | selectError (errno : Int)
  | recvError (errno : Int)
  deriving DecidableEq, Repr

/-- An environment with every answer fixed in advance: the outcomes of the
coming `send()` calls, what arrives, and the bytes handed to `send()` so far.
When the outcomes of `send()` run out every later one is complete; when nothing
more arrives `select()` times out. -/
structure Script where
  tx : List TxEvent
  rx : List RxEvent
  handed : List (List UInt8)
  deriving DecidableEq, Repr

def Script.send (s : Script) (bytes : List UInt8) : SendResult × Script :=
  match s.tx with
  | [] => (.sent bytes.length 0, ⟨[], s.rx, s.handed ++ [bytes]⟩)
  | .complete :: tx => (.sent bytes.length 0, ⟨tx, s.rx, s.handed ++ [bytes]⟩)
  | .short n errno :: tx => (.sent n errno, ⟨tx, s.rx, s.handed ++ [bytes]⟩)
  | .error errno :: tx => (.failed errno, ⟨tx, s.rx, s.handed ++ [bytes]⟩)

def Script.select (s : Script) (pt : Option Timeval) :
    SelectResult × Option Timeval × Script :=
  match s.rx with
  | [] => (.timedOut, pt, s)
  | .timeOut :: rx => (.timedOut, pt, { s with rx := rx })
  | .selectError errno :: rx => (.failed errno, pt, { s with rx := rx })
  | .byte _ :: _ | .shutDown :: _ | .recvError _ :: _ => (.ready, pt, s)

def Script.recv (s : Script) : RecvResult × Script :=
  match s.rx with
  | .byte b :: rx => (.byte b, { s with rx := rx })
  | .recvError errno :: rx => (.failed errno, { s with rx := rx })
  | .shutDown :: rx => (.shutDown, { s with rx := rx })
  | [] | .timeOut :: _ | .selectError _ :: _ => (.shutDown, s)

instance : Socket Script where
  send := Script.send
  select := Script.select
  recv := Script.recv

/-- While no outcome says otherwise `send()` takes everything. -/
theorem Script.send_all (rx : List RxEvent) (handed : List (List UInt8)) (bytes : List UInt8) :
    Socket.send (⟨[], rx, handed⟩ : Script) bytes =
      (.sent bytes.length 0, ⟨[], rx, handed ++ [bytes]⟩) := rfl

/-- The next `send()` fails or takes nothing. -/
def Script.TakesNothing (s : Script) : Prop :=
  ∃ errno tx, s.tx = .error errno :: tx ∨ s.tx = .short 0 errno :: tx

theorem Script.taken_eq_zero_iff {s : Script} {bytes : List UInt8} (nonempty : bytes ≠ []) :
    (Socket.send s bytes).1.taken = 0 ↔ s.TakesNothing := by
  rcases s with ⟨tx, rx, handed⟩
  rcases tx with _ | ⟨_ | ⟨n, errno⟩ | errno, tx⟩ <;>
    simp [Socket.send, Script.send, SendResult.taken, Script.TakesNothing, nonempty]

/-- Bytes that arrive without a pause. -/
def arrive (bs : List UInt8) : List RxEvent := bs.map .byte

@[simp] theorem arrive_nil : arrive [] = [] := rfl

@[simp] theorem arrive_cons (b : UInt8) (bs : List UInt8) :
    arrive (b :: bs) = .byte b :: arrive bs := rfl

@[simp] theorem arrive_append (xs ys : List UInt8) :
    arrive (xs ++ ys) = arrive xs ++ arrive ys := by
  simp only [arrive, List.map_append]

/-- A script delivers the bytes it lists, whatever the time limit. -/
theorem Script.delivers (pt : Option Timeval) (tx : List TxEvent) (handed : List (List UInt8))
    (bs : List UInt8) (rest : List RxEvent) :
    Delivers pt (⟨tx, arrive bs ++ rest, handed⟩ : Script) bs pt ⟨tx, rest, handed⟩ :=
  @Delivers.of_feed Script _ pt (fun bs => ⟨tx, arrive bs ++ rest, handed⟩)
    (fun _ _ => ⟨_, rfl, rfl⟩) bs

end SocketModel
