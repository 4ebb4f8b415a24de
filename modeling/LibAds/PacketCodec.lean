import LibAds.PacketFraming

/-!
# Packets as byte strings

`adsPacket` writes an `ADSpacket` down as it travels: the TCP header with the
size of the rest, the AMS header, the data. Read through the struct accessors
wherever it lies in memory, it gives back the header and the data it was made
from (`adsPacket_read`).
-/

namespace LibAds

open ByteMemory SocketModel

/-- An `AMSheader` is read back from its 32 bytes. -/
theorem AMSheader.read_of_load {m : Mem} {p : Nat} {h : AMSheader}
    (held : load m (p + 6) sizeofAMSheader = h.encode) : AMSheader.read m p = h := by
  obtain ⟨held, invokeId⟩ := @load_append_inj m (p + 6) 28 4 _ _ held
    (by simp [h.targetId.size, h.sourceId.size])
  obtain ⟨held, errorCode⟩ := @load_append_inj m (p + 6) 24 4 _ _ held
    (by simp [h.targetId.size, h.sourceId.size])
  obtain ⟨held, dataLength⟩ := @load_append_inj m (p + 6) 20 4 _ _ held
    (by simp [h.targetId.size, h.sourceId.size])
  obtain ⟨held, stateFlags⟩ := @load_append_inj m (p + 6) 18 2 _ _ held
    (by simp [h.targetId.size, h.sourceId.size])
  obtain ⟨held, commandId⟩ := @load_append_inj m (p + 6) 16 2 _ _ held
    (by simp [h.targetId.size, h.sourceId.size])
  obtain ⟨held, sourcePort⟩ := @load_append_inj m (p + 6) 14 2 _ _ held
    (by simp [h.targetId.size, h.sourceId.size])
  obtain ⟨held, sourceId⟩ := @load_append_inj m (p + 6) 8 6 _ _ held (by simp [h.targetId.size])
  obtain ⟨targetId, targetPort⟩ := @load_append_inj m (p + 6) 6 2 _ _ held h.targetId.size
  obtain ⟨⟨target, _⟩, _, ⟨source, _⟩, _, _, _, _, _, _⟩ := h
  unfold AMSheader.read AmsNetId.read
  simp only [AMSheader.mk.injEq, AmsNetId.mk.injEq]
  exact ⟨targetId, get16_of_load targetPort, sourceId, get16_of_load sourcePort,
    get16_of_load commandId, get16_of_load stateFlags, get32_of_load dataLength,
    get32_of_load errorCode, get32_of_load invokeId⟩

/-- An `ADSpacket` as it travels. -/
def adsPacket (h : AMSheader) (data : List UInt8) : List UInt8 :=
  toLE 2 0 ++ toLE 4 (sizeofAMSheader + data.length) ++ (h.encode ++ data)

@[simp] theorem length_adsPacket (h : AMSheader) (data : List UInt8) :
    (adsPacket h data).length = dataOffset + data.length := by
  simp [adsPacket, dataOffset, sizeofTCPheader]
  omega

/-- A packet of this form announces its own size. -/
theorem adsPacket_eq_bytes {h : AMSheader} {data : List UInt8}
    (small : (h.encode ++ data).length ≤ 2 ^ 31 - 7) :
    adsPacket h data = Packet.bytes ⟨0, h.encode ++ data, small⟩ := by
  simp only [adsPacket, Packet.bytes, List.length_append, AMSheader.length_encode]
  rfl

theorem adsPacket_complete {h : AMSheader} {data : List UInt8}
    (counted : (adsPacket h data).length < 2 ^ 31) : Complete (adsPacket h data) := by
  have small : (h.encode ++ data).length ≤ 2 ^ 31 - 7 := by
    rw [length_adsPacket] at counted
    rw [List.length_append, AMSheader.length_encode]
    unfold dataOffset sizeofTCPheader at counted
    omega
  rw [adsPacket_eq_bytes small]
  exact Packet.complete _

/-- **A packet in memory is read as it was written.** -/
theorem adsPacket_read {m : Mem} {p : Nat} {h : AMSheader} {data : List UInt8}
    (held : load m p (dataOffset + data.length) = adsPacket h data) :
    AMSheader.read m p = h ∧ load m (p + dataOffset) data.length = data := by
  have size : dataOffset + data.length = 6 + (32 + data.length) := by
    unfold dataOffset sizeofTCPheader sizeofAMSheader
    omega
  rw [size] at held
  obtain ⟨_, rest⟩ := load_append_inj held (by simp)
  obtain ⟨header, tail⟩ := load_append_inj rest (by simp [sizeofAMSheader])
  exact ⟨AMSheader.read_of_load header, tail⟩

end LibAds
