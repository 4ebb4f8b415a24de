import LibAds.TableResources

/-!
# The texts of the error codes

`ADSerrorText()` of `ads.c` has a text for a list of codes, which its own comment
calls incomplete. It is complete where it matters: a code that the library makes
up has a text, and a code without one stands in the packet that the peer sent
(`request_code_explained`).
-/

namespace LibAds

open ByteMemory SocketModel LabelledRuns

/-! ## The table -/

/-- The cases of the `switch` in `ADSerrorText()`. -/
def errorTexts : List (Int × String) :=
  [(0, "ok"),
    (0x0001, "Internal error"),
    (0x0002, "No Rtime"),
    (0x0003, "Allocation locked memory error"),
    (0x0004, "Insert mailbox error"),
    (0x0005, "Wrong receive HMSG"),
    (0x0006, "target port not found"),
    (0x0007, "target machine not found"),
    (0x0008, "unknown command ID"),
    (0x0009, "Bad task ID"),
    (0x000a, "No IO"),
    (0x000b, "unknown AMS command"),
    (0x000c, "Win 32 error"),
    (0x000d, "port not connected"),
    (0x000e, "invalid AMS length"),
    (0x000f, "invalid AMS Net ID"),
    (0x0010, "Low installation level"),
    (0x0011, "No debug available"),
    (0x0012, "Port disabled"),
    (0x0013, "Port already connected"),
    (0x0014, "AMS Sync Win 32 error"),
    (0x0015, "AMS Sync timeout"),
    (0x0016, "AMS Sync AMS error"),
    (0x0017, "AMS Sync no index map"),
    (0x0018, "Invalid AMS port"),
    (0x0019, "No memory"),
    (0x001a, "TCP send error"),
    (0x001b, "Host unreachable"),
    (0x0500, "Router: no locked memory"),
    (0x0502, "Router: mailbox full"),
    (0x050a, "Router: not (yet) active"),
    (0x0700, "error class <device error>??"),
    (0x0701, "service is not supported by server"),
    (0x0702, "invalid index group"),
    (0x0703, "invalid index offset"),
    (0x0704, "reading/writing not permitted"),
    (0x0705, "parameter size not correct"),
    (0x0706, "invalid parameter value(s)"),
    (0x0707, "device is not in a ready state"),
    (0x0708, "device is busy"),
    (0x0709, "invalid context. (must be in Windows ?)"),
    (0x070a, "out of memory"),
    (0x070b, "invalid parameter value(s)"),
    (0x070c, "not found (files,...)"),
    (0x070d, "syntax error in command or file"),
    (0x070e, "objects do not match"),
    (0x070f, "object already exists"),
    (0x0710, "symbol not found"),
    (0x0711, "symbol version invalid"),
    (0x0712, "server is in invalid state"),
    (0x0713, "AdsTransMode not supported"),
    (0x0714, "Notification handle is invalid"),
    (0x0715, "Notification client not registered"),
    (0x0716, "No more notification handles"),
    (0x0717, "Size for watch too big"),
    (0x0718, "device not initialized"),
    (0x0719, "device has a timeout"),
    (0x0740, "error class <client error>??"),
    (0x0741, "invalid parameter at service"),
    (0x0742, "polling list is empty"),
    (0x0743, "var connection already in use"),
    (0x0744, "invoke ID in use"),
    (0x0745, "timeout elapsed"),
    (0x0746, "error in win32 subsystem"),
    (0x0748, "ads port not opened"),
    (0x0750, "internal error in ads sync"),
    (0x0751, "Hash table overflow"),
    (0x0752, "key not found in hash"),
    (0x0753, "no more symbols in cache"),
    (0x0754, "invalid response received"),
    (0x0755, "Sync port locked"),
    (0x274c, "A socket operation was attempted to an unreachable host"),
    (0x274d, "A connection attempt failed")]

/-- The text of its `default`. -/
def unknownErrorText : String := "Unknown error code"

/-- `ADSerrorText()` -/
def adsErrorText (err : Int) : String := (errorTexts.lookup err).getD unknownErrorText

/-- The `switch` has a case for a code. -/
def HasText (err : Int) : Prop := err ∈ errorTexts.map Prod.fst

instance (err : Int) : Decidable (HasText err) := inferInstanceAs (Decidable (_ ∈ _))

/-- No case has the text of the default. -/
theorem errorTexts_known : ∀ entry ∈ errorTexts, entry.2 ≠ unknownErrorText := by
  simp [errorTexts, unknownErrorText]

/-- A code is unknown exactly if the `switch` has no case for it. -/
theorem adsErrorText_eq_unknown_iff (err : Int) :
    adsErrorText err = unknownErrorText ↔ ¬ HasText err := by
  unfold adsErrorText HasText
  rcases found : errorTexts.lookup err with _ | text
  · have absent := List.lookup_eq_none_iff.mp found
    refine ⟨fun _ listed => ?_, fun _ => rfl⟩
    obtain ⟨entry, inside, same⟩ := List.mem_map.mp listed
    exact absurd same.symm (by simpa using absent entry inside)
  · obtain ⟨before, after, split, -⟩ := List.lookup_eq_some_iff.mp found
    have inside : (err, text) ∈ errorTexts := by simp [split]
    refine ⟨fun unknown => absurd unknown (errorTexts_known _ inside), fun unlisted => ?_⟩
    exact absurd (List.mem_map_of_mem inside) unlisted

/-! ## The codes of the library -/

theorem adsTranslateWrError_hasText (rc : Int) (nErr : Option Int) :
    HasText (adsTranslateWrError rc nErr) := by
  unfold adsTranslateWrError
  split_ifs <;> decide

theorem adsTranslateRdError_hasText (rc nErr : Int) : HasText (adsTranslateRdError rc nErr) := by
  unfold adsTranslateRdError
  split_ifs <;> decide

theorem connectError_hasText (errno : Int) : HasText (connectError errno) := by
  unfold connectError
  split_ifs <;> decide

theorem findInterface_hasText {nerr : Int} (list : List IfAddrs)
    (fails : findInterface list = .ok (.error nerr)) : HasText nerr := by
  induction list with
  | nil => cases fails
  | cons cur ifa_next ih =>
      unfold findInterface at fails
      split at fails
      · cases fails
      · split_ifs at fails
        · cases fails
        · cases fails
          decide
        · exact ih fails

theorem adsGetMeAddress_hasText {meAddr : AmsAddr} {AmsPort : Int} {list : Option (List IfAddrs)}
    {after : Int × AmsAddr} (made : adsGetMeAddress meAddr AmsPort list = .ok after) :
    HasText after.1 := by
  have ok : HasText 0 := by decide
  by_cases unset : meAddr.netId.b.getD 0 0 = 0
  · rcases list with _ | list
    · cases made.symm.trans (if_pos unset)
      exact (by decide : HasText 0x1)
    · rw [adsGetMeAddress_unset unset] at made
      rcases found : findInterface list with fault | nerr | _ | netAddr <;> rw [found] at made <;>
        cases made
      · exact findInterface_hasText list found
      · exact ok
      · exact ok
  · cases made.symm.trans (adsGetMeAddress_set unset _ _)
    exact ok

theorem localAddress_hasText (meAddr : AmsAddr) (ifaddrs : Option (List IfAddrs)) :
    HasText (localAddress meAddr ifaddrs).1 := by
  unfold localAddress
  rcases made : adsGetMeAddress meAddr AMSPORT_R0_PLC_RTS1 ifaddrs with fault | after
  · exact (by decide : HasText 0x1)
  · exact adsGetMeAddress_hasText made

/-- An attempt to connect that fails has one of them, unless there is no memory
for the connection: then nothing is stored in `adsError`. -/
theorem Attempt.code_hasText {a : Attempt} {T : Table} (fails : ¬ a.Succeeds T) :
    HasText (a.code T) ∨ a.newConnection = false ∧ a.code T = a.adsError := by
  unfold Attempt.code
  rcases connected : a.connectFails T.sockets with _ | errno
  · rcases option : a.setsockopt with _ | errno
    · dsimp only
      split_ifs with undetermined
      · exact Or.inl (localAddress_hasText ..)
      · refine Or.inr ⟨Bool.eq_false_iff.mpr fun allocated => ?_, rfl⟩
        exact fails ⟨⟨connected, option⟩, not_not.mp undetermined, allocated⟩
    · exact Or.inl (connectError_hasText errno)
  · exact Or.inl (connectError_hasText errno)

/-! ## The codes of a call -/

/-- A code stands in the packet in `msgIn`: in a response or in the AMS header. -/
def InReply (m : Mem) (code : Int) : Prop :=
  code = intOf (resultOf m) ∨ code = intOf (errorCode m msgIn)

theorem InReply.result (m : Mem) : InReply m (intOf (resultOf m)) := Or.inl rfl

theorem InReply.header (m : Mem) : InReply m (intOf (errorCode m msgIn)) := Or.inr rfl

/-- What an operation makes of an answer. -/
theorem Call.answer_code (c : Call) (dc : ADSConnection) (nErr : Int) :
    HasText (c.answer dc nErr).1 ∨ InReply (c.answer dc nErr).2.2.mem (c.answer dc nErr).1 := by
  have size : HasText 0x705 := by decide
  have read := adsTranslateRdError_hasText dc.AnswLen nErr
  rw [(c.answer_keeps dc nErr).1]
  cases c with
  | readBytes indexGroup offset length buffer pnRead =>
      simp only [Call.answer, readAnswer, apply_ite Prod.fst]
      split_ifs
      · exact Or.inl size
      · exact Or.inr (.result _)
      · exact Or.inr (.header _)
      · exact Or.inl read
  | writeBytes indexGroup offset length data =>
      simp only [Call.answer, writeAnswer, apply_ite Prod.fst]
      split_ifs
      · exact Or.inr (.result _)
      · exact Or.inr (.header _)
      · exact Or.inl read
  | readDeviceInfo =>
      simp only [Call.answer, deviceInfoAnswer, apply_ite Prod.fst]
      split_ifs
      · exact Or.inr (.result _)
      · exact Or.inr (.header _)
      · exact Or.inl read
  | readWriteBytes indexGroup offset readLength writeLength writeBuffer pnRead =>
      simp only [Call.answer, readWriteAnswer, apply_ite Prod.fst]
      split_ifs
      · exact Or.inl size
      · exact Or.inr (.result _)
      · exact Or.inr (.header _)
      · exact Or.inl read
  | readState =>
      simp only [Call.answer, stateAnswer, apply_ite Prod.fst]
      split_ifs
      · exact Or.inr (.result _)
      · exact Or.inr (.header _)
      · exact Or.inl read
  | writeControl ADSstate devState data length =>
      simp only [Call.answer, writeControlAnswer, apply_ite Prod.fst]
      split_ifs
      · exact Or.inr (.result _)
      · exact Or.inr (.header _)

section Calls

variable {σ : Type} [Socket σ]

/-- A call returns a code with a text, or one that stands in its packet buffer. -/
theorem Call.run_code (c : Call) (dc : ADSConnection) (s : σ) :
    HasText (c.run dc s).ret ∨ InReply (c.run dc s).dc.mem (c.run dc s).ret := by
  rw [c.run_eq_exchange]
  unfold exchange
  dsimp only
  split_ifs
  · exact Or.inl (adsTranslateWrError_hasText _ none)
  · exact c.answer_code ..

end Calls

/-! ## The codes of the API -/

section Requests

variable {σ : Type} [Socket σ] {lib lib' : Library} {calls : List (ApiCall σ)} {addr : AmsAddr}
  {r : ApiRequest} {a : Attempt} {s : σ} {reply : RequestReply σ}

/-- **The library has a text for its errors.** After any calls of the API and for
any peer, a request returns a code that `ADSerrorText()` knows, or one that
stands in the packet buffer of the connection it used, or, where there was no
memory for a connection, what was in the variable by chance. -/
theorem request_code_explained (run : Run (apiStep σ) .initial calls lib)
    (made : adsRequest addr r a s lib = .ok (lib', reply)) :
    adsErrorText reply.ret ≠ unknownErrorText ∨
      (∃ dcs i dc, lib'.connections = .ok dcs ∧ reply.connection = some i ∧
        dcs[i]? = some dc ∧ InReply dc.mem reply.ret) ∨
      reply.connection = none ∧ a.newConnection = false ∧ reply.ret = a.adsError := by
  obtain ⟨T, holds⟩ := apiRun_holds run Library.initial_holds
  obtain ⟨T', request, holds', -⟩ := adsRequest_refines holds made
  have known : ∀ {code}, HasText code → adsErrorText code ≠ unknownErrorText := by
    intro code text unknown
    exact (adsErrorText_eq_unknown_iff code).mp unknown text
  cases request with
  | @found i dc finds =>
      have inside := (List.getElem?_eq_some_iff.mp finds.entry).1
      refine (r.call.run_code dc s).imp known fun reply => Or.inl ?_
      exact ⟨_, i, _, holds'.connections, rfl, List.getElem?_set_self inside, reply⟩
  | failed misses _ fails =>
      exact (Attempt.code_hasText fails).imp known fun unset => Or.inr ⟨rfl, unset⟩
  | opened misses succeeds =>
      refine (r.call.run_code (a.connection addr T) s).imp known fun reply => Or.inl ?_
      exact ⟨_, T.connections.length, _, holds'.connections, rfl, by simp, reply⟩

end Requests

/-- The first request of a program, to a peer that stays silent. -/
theorem request_code_explained_readState :
    ∃ lib reply, adsRequest plcAddress .readState grantedAttempt (⟨[], [], []⟩ : Script)
      .initial = .ok (lib, reply) ∧
      (adsErrorText reply.ret ≠ unknownErrorText ∨
        ∃ dcs i dc, lib.connections = .ok dcs ∧ reply.connection = some i ∧
          dcs[i]? = some dc ∧ InReply dc.mem reply.ret) := by
  obtain ⟨lib, reply, made, -⟩ := readPlcState_made
  refine ⟨lib, reply, made, ?_⟩
  rcases request_code_explained (.nil _) made with text | given | ⟨-, unallocated, -⟩
  · exact Or.inl text
  · exact Or.inr given
  · cases unallocated

end LibAds
