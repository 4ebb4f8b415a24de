import LibAds.PacketLayout
import LibAds.SocketModel

/-!
# Sending and receiving one packet

`_ADSWritePacket()`, `_ADSReadByte()` and `_ADSReadPacket()` of `ads_io.c` over
an arbitrary socket. The reader's two loops are one definition: they store
byte after byte through `_ADSReadByte()` while the counter is below a bound
which is computed again from memory before each turn.
-/

namespace LibAds

open ByteMemory SocketModel

variable {σ : Type} [Socket σ]

/-! ## Sending -/

/-- What `_ADSWritePacket()` returns, what it stores through `error` (nothing
on success), and the socket after it. -/
structure PacketWrite (σ : Type) where
  rc : Int
  error : Option Int
  sock : σ

/-- `_ADSWritePacket()`: one `send()` of the packet at `p`. -/
def adsWritePacket (di : Option ADSInterface) (m : Mem) (p : Nat) (s : σ) : PacketWrite σ :=
  match di with
  | none => ⟨-3, some 0, s⟩
  | some di =>
    if di.error ≠ 0 then ⟨-4, some 0, s⟩
    else
      let length := sizeofTCPheader + (adsLength m p).toNat
      match Socket.send s (load m p length) with
      | (.failed errno, s) => ⟨0, some errno, s⟩
      | (.sent n errno, s) =>
        if sizeT (wrapInt n) ≠ length then ⟨0, some errno, s⟩
        else ⟨1, none, s⟩

/-- The bytes of the packet at `p` that `send()` takes of `_ADSWritePacket()`. -/
def packetSent (di : ADSInterface) (m : Mem) (p : Nat) (s : σ) : List UInt8 :=
  if di.error ≠ 0 then []
  else
    let packet := load m p (sizeofTCPheader + (adsLength m p).toNat)
    packet.take (Socket.send s packet).1.taken

/-! ## Receiving one byte -/

/-- What `_ADSReadByte()` returns and stores through `error`, with memory, the
time left and the socket after it. -/
structure ByteRead (σ : Type) where
  rc : Int
  error : Int
  mem : Mem
  pt : Option Timeval
  sock : σ

/-- `_ADSReadByte()`: wait for one byte and store it at `b`. -/
def adsReadByte (m : Mem) (b : Nat) (pt : Option Timeval) (s : σ) : ByteRead σ :=
  match Socket.select s pt with
  | (.failed errno, pt, s) => ⟨0, errno, m, pt, s⟩
  | (.timedOut, pt, s) => ⟨-1, 0, m, pt, s⟩
  | (.ready, pt, s) =>
    match Socket.recv s with
    | (.shutDown, s) => ⟨-2, 0, m, pt, s⟩
    | (.failed errno, s) => ⟨0, errno, m, pt, s⟩
    | (.byte v, s) => ⟨1, 0, Function.update m b v, pt, s⟩

/-! ## Receiving a packet -/

/-- What `_ADSReadPacket()` returns and stores through `error`, with memory and
the socket after it. -/
structure PacketRead (σ : Type) where
  rc : Int
  error : Int
  mem : Mem
  sock : σ

/-- The variables of the reader's loops. -/
structure ReadLoop (σ : Type) where
  res : Int
  mem : Mem
  pt : Option Timeval
  sock : σ

/-- `while (res < bound) { rc = _ADSReadByte(.., at res, ..); if (rc == 1)
res++; else return rc; }`. The first argument only bounds the recursion: the
counter of a loop that goes on is a nonnegative `int` and grows in every turn. -/
def readWhile (bound : Mem → Nat) (at' : Int → Nat) :
    Nat → ReadLoop σ → Except (PacketRead σ) (ReadLoop σ)
  | 0, st => .ok st
  | turns + 1, st =>
    if sizeT st.res < bound st.mem then
      let r := adsReadByte st.mem (at' st.res) st.pt st.sock
      if r.rc = 1 then
        readWhile bound at' turns ⟨wrapInt (st.res + 1), r.mem, r.pt, r.sock⟩
      else .error ⟨r.rc, r.error, r.mem, r.sock⟩
    else .ok st

/-- More turns than a loop over an `int` counter can take. -/
def maxTurns : Nat := 2 ^ 32

/-- `while (res < sizeof(AMS_TCPheader))` -/
def readHeader (b : Nat) : ReadLoop σ → Except (PacketRead σ) (ReadLoop σ) :=
  readWhile (fun _ => sizeofTCPheader) (fun res => ((b : Int) + res).toNat) maxTurns

/-- `b + (res < MAXDATALEN ? res : MAXDATALEN - 1)` -/
def bufferAt (b : Nat) (res : Int) : Nat :=
  ((b : Int) + (if res < MAXDATALEN then res else MAXDATALEN - 1)).toNat

/-- `while (res < sizeof(AMS_TCPheader) + h->length)`, with the length read from
the buffer that the loop fills. -/
def readBody (b : Nat) : ReadLoop σ → Except (PacketRead σ) (ReadLoop σ) :=
  readWhile (fun m => sizeofTCPheader + (adsLength m b).toNat) (bufferAt b) maxTurns

/-- The time limit `_ADSReadPacket()` sets up from `timeout`. -/
def readTimeout (timeout : Int) : Option Timeval :=
  if timeout ≠ 0 then
    some { tv_sec := timeout.tdiv 1000, tv_usec := timeout.tmod 1000 * 1000000 }
  else none

/-- The header of a packet that does not fit is patched in place: the length
becomes what fits and an 8-byte `unsigned long` 0xe goes behind the AMS header. -/
def markOverlong (m : Mem) (b : Nat) : Mem :=
  let m := put32 m (b + 2) (UInt32.ofNat (MAXDATALEN - sizeofTCPheader))
  store m (b + sizeofTCPheader + sizeofAMSheader) (toLE 8 0xe)

/-- `_ADSReadPacket()`: read one packet into the buffer at `b`. -/
def adsReadPacket (di : Option ADSInterface) (m : Mem) (b : Nat) (s : σ) : PacketRead σ :=
  match di with
  | none => ⟨-12, 0, m, s⟩
  | some di =>
    if di.error ≠ 0 then ⟨-11, 0, m, s⟩
    else
      match readHeader b ⟨0, m, readTimeout di.timeout, s⟩ with
      | .error r => r
      | .ok st =>
        match readBody b st with
        | .error r => r
        | .ok st =>
          if sizeofTCPheader + (adsLength st.mem b).toNat > MAXDATALEN then
            ⟨st.res, 0xe, markOverlong st.mem b, st.sock⟩
          else ⟨st.res, 0, st.mem, st.sock⟩

end LibAds
