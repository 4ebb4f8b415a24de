import LibAds.ByteMemory

/-!
# Packets and connections

The packed structs of `ads.h` and `AdsDEF.h`: the two headers every packet
starts with, the addresses in them, and `ADSConnection`, whose two packet
buffers and partner address form one block of memory. A packet is an address;
its fields are the offsets the packed layout gives them.
-/

namespace LibAds

open ByteMemory

/-! ## Sizes -/

/-- Size of either packet buffer of a connection. -/
def MAXDATALEN : Nat := 8192

/-- `sizeof(AMS_TCPheader)` -/
def sizeofTCPheader : Nat := 6

/-- `sizeof(AMSheader)` -/
def sizeofAMSheader : Nat := 32

/-- Offset of `data` in `ADSpacket`. -/
def dataOffset : Nat := sizeofTCPheader + sizeofAMSheader

/-- The sizes as numbers. -/
theorem packetSizes : MAXDATALEN = 8192 ∧ sizeofTCPheader = 6 ∧ sizeofAMSheader = 32 ∧
    dataOffset = 38 := ⟨rfl, rfl, rfl, rfl⟩

/-! ## C integers

An `int` is an `Int` and wraps explicitly where it can leave its range; the
unsigned types are Lean's. -/

/-- The value of an `int` after arithmetic that may have left its range. -/
def wrapInt (x : Int) : Int := (Int32.ofInt x).toInt

/-- Conversion of an `int` to `size_t` on an LP64 machine. -/
def sizeT (x : Int) : Nat := (x % 2 ^ 64).toNat

/-- Conversion of an `unsigned int` to `int`. -/
def intOf (v : UInt32) : Int := v.toInt32.toInt

theorem wrapInt_eq_bmod (x : Int) : wrapInt x = x.bmod (2 ^ 32) := Int32.toInt_ofInt

theorem wrapInt_of_range {x : Int} (low : -2 ^ 31 ≤ x) (high : x < 2 ^ 31) : wrapInt x = x := by
  rw [wrapInt_eq_bmod, Int.bmod_eq_of_le (by omega) (by omega)]

theorem sizeT_of_range {x : Int} (low : 0 ≤ x) (high : x < 2 ^ 64) : (sizeT x : Int) = x := by
  rw [sizeT, Int.emod_eq_of_lt low high, Int.toNat_of_nonneg low]

theorem sizeT_natCast {n : Nat} (h : n < 2 ^ 64) : sizeT (n : Int) = n := by
  have value : (sizeT (n : Int) : Int) = n := sizeT_of_range (by omega) (by omega)
  omega

theorem intOf_inj {v w : UInt32} : intOf v = intOf w ↔ v = w := by
  constructor
  · intro equal
    have signed : v.toInt32 = w.toInt32 := Int32.toInt_inj.mp equal
    exact UInt32.toBitVec_inj.mp (congrArg Int32.toBitVec signed)
  · exact congrArg intOf

theorem intOf_of_lt {v : UInt32} (small : v.toNat < 2 ^ 31) : intOf v = v.toNat := by
  show v.toBitVec.toInt = _
  rw [BitVec.toInt_eq_toNat_of_lt (by show 2 * v.toNat < 2 ^ 32; omega)]
  rfl

theorem intOf_of_le {v : UInt32} (large : 2 ^ 31 ≤ v.toNat) : intOf v < 0 := by
  show v.toBitVec.toInt < 0
  rw [BitVec.toInt_neg_iff]
  exact (by omega : 2 ^ 32 ≤ 2 * v.toNat)

/-- Every `unsigned int` keeps being zero or not when it is returned as `int`. -/
@[simp] theorem intOf_eq_zero_iff (v : UInt32) : intOf v = 0 ↔ v = 0 := @intOf_inj v 0

/-! ## Addresses -/

/-- `AmsNetId`, six bytes. -/
structure AmsNetId where
  b : List UInt8
  size : b.length = 6
  deriving DecidableEq, Repr

/-- The `AmsNetId` at an address. -/
def AmsNetId.read (m : Mem) (a : Nat) : AmsNetId := ⟨load m a 6, length_load m a 6⟩

/-- `AdsVersion` -/
structure AdsVersion where
  version : UInt8
  revision : UInt8
  build : UInt16
  deriving DecidableEq, Repr

def AdsVersion.read (m : Mem) (a : Nat) : AdsVersion := ⟨m a, m (a + 1), get16 m (a + 2)⟩

theorem AdsVersion.read_congr {m m' : Mem} {a a' : Nat} (h : load m a 4 = load m' a' 4) :
    AdsVersion.read m a = .read m' a' := by
  have version := load_eq_apply h (by omega : 0 < 4)
  have revision := load_eq_apply h (by omega : 1 < 4)
  have build : load m (a + 2) 2 = load m' (a' + 2) 2 := by
    apply load_congr
    intro i within
    rw [Nat.add_assoc, Nat.add_assoc]
    exact load_eq_apply h (by omega)
  rw [AdsVersion.read, AdsVersion.read, get16_congr build]
  exact congrArg₂ (fun v r => AdsVersion.mk v r _) version revision

/-! ## Packet fields

`p` is the address of an `ADSpacket`: the `AMS_TCPheader` at 0, the `AMSheader`
at 6, the data at 38. -/

/-- `adsHeader.length` -/
def adsLength (m : Mem) (p : Nat) : UInt32 := get32 m (p + 2)

def commandId (m : Mem) (p : Nat) : UInt16 := get16 m (p + 22)

def stateFlags (m : Mem) (p : Nat) : UInt16 := get16 m (p + 24)

def dataLength (m : Mem) (p : Nat) : UInt32 := get32 m (p + 26)

def errorCode (m : Mem) (p : Nat) : UInt32 := get32 m (p + 30)

def invokeIdOf (m : Mem) (p : Nat) : UInt32 := get32 m (p + 34)

/-- `AMSheader` -/
structure AMSheader where
  targetId : AmsNetId
  targetPort : UInt16
  sourceId : AmsNetId
  sourcePort : UInt16
  commandId : UInt16
  stateFlags : UInt16
  dataLength : UInt32
  errorCode : UInt32
  invokeId : UInt32
  deriving DecidableEq, Repr

/-- The `AMSheader` of the packet at `p`. -/
def AMSheader.read (m : Mem) (p : Nat) : AMSheader where
  targetId := .read m (p + 6)
  targetPort := get16 m (p + 12)
  sourceId := .read m (p + 14)
  sourcePort := get16 m (p + 20)
  commandId := LibAds.commandId m p
  stateFlags := LibAds.stateFlags m p
  dataLength := LibAds.dataLength m p
  errorCode := LibAds.errorCode m p
  invokeId := invokeIdOf m p

theorem AmsNetId.read_congr {m m' : Mem} {a a' : Nat} (h : load m a 6 = load m' a' 6) :
    AmsNetId.read m a = .read m' a' := by
  simp only [AmsNetId.read, h]

/-- Equal headers in memory are read as equal ones. -/
theorem AMSheader.read_congr {m m' : Mem} {p p' : Nat}
    (h : load m p dataOffset = load m' p' dataOffset) :
    AMSheader.read m p = .read m' p' := by
  have within : dataOffset = 38 := rfl
  have part := load_part h
  simp only [AMSheader.read, LibAds.commandId, LibAds.stateFlags, LibAds.dataLength,
    LibAds.errorCode, invokeIdOf, AMSheader.mk.injEq]
  exact ⟨AmsNetId.read_congr (part 6 6 (by omega)), get16_congr (part 12 2 (by omega)),
    AmsNetId.read_congr (part 14 6 (by omega)), get16_congr (part 20 2 (by omega)),
    get16_congr (part 22 2 (by omega)), get16_congr (part 24 2 (by omega)),
    get32_congr (part 26 4 (by omega)), get32_congr (part 30 4 (by omega)),
    get32_congr (part 34 4 (by omega))⟩

/-- The 32 bytes of an `AMSheader` in memory. -/
def AMSheader.encode (h : AMSheader) : List UInt8 :=
  h.targetId.b ++ toLE 2 h.targetPort.toNat ++ h.sourceId.b ++ toLE 2 h.sourcePort.toNat ++
    toLE 2 h.commandId.toNat ++ toLE 2 h.stateFlags.toNat ++ toLE 4 h.dataLength.toNat ++
    toLE 4 h.errorCode.toNat ++ toLE 4 h.invokeId.toNat

@[simp] theorem AMSheader.length_encode (h : AMSheader) :
    h.encode.length = sizeofAMSheader := by
  simp [encode, sizeofAMSheader, h.targetId.size, h.sourceId.size]

/-! ## `enum nAdsCommandId` and state flags -/

def cmdADSreadDevInfo : UInt16 := 1
def cmdADSread : UInt16 := 2
def cmdADSwrite : UInt16 := 3
def cmdADSreadState : UInt16 := 4
def cmdADSwriteControl : UInt16 := 5
def cmdADSreadWrite : UInt16 := 9

/-- Bit of `stateFlags` that is set in a response; zero means request. -/
def sfAMSresponse : UInt16 := 1

/-! ## Interfaces and connections -/

/-- `ADSInterface` -/
structure ADSInterface where
  sd : Int
  error : Int
  timeout : Int
  name : String
  me : AmsNetId
  AMSport : Int
  deriving DecidableEq, Repr

/-- `ADSConnection`. The fields from `msgIn` on lie in memory one after the
other, so that an access past the end of a buffer meets what follows it. -/
structure ADSConnection where
  iface : ADSInterface
  AnswLen : Int
  invokeId : UInt32
  dataPointer : Nat
  mem : Mem

/-- Offset of `msgIn` in `ADSConnection`. -/
def msgIn : Nat := 24

/-- Offset of `msgOut` in `ADSConnection`. -/
def msgOut : Nat := msgIn + MAXDATALEN

/-- Offset of `partner` in `ADSConnection`. -/
def partnerOffset : Nat := msgOut + MAXDATALEN

/-- Offset of `AMSport` in `ADSConnection`. -/
def portOffset : Nat := partnerOffset + 6

/-- `sizeof(ADSConnection)` -/
def sizeofConnection : Nat := portOffset + 4

def ADSConnection.partner (dc : ADSConnection) : AmsNetId := .read dc.mem partnerOffset

def ADSConnection.AMSport (dc : ADSConnection) : UInt32 := get32 dc.mem portOffset

/-- `_ADSNewInterface()` -/
def adsNewInterface (sd : Int) (me : AmsNetId) (port : Int) (nname : String) : ADSInterface :=
  { sd := sd, error := 0, timeout := 0, name := nname, me := me, AMSport := port }

/-- `_ADSNewConnection()`: a zeroed block of the heap with the interface and the
partner's address filled in. -/
def adsNewConnection (heap : Mem) (di : ADSInterface) (partner : AmsNetId) (port : Int) :
    ADSConnection :=
  let m := copy heap 0 (fun _ => 0) sizeofConnection
  let m := store m partnerOffset partner.b
  let m := put32 m portOffset (UInt32.ofInt port)
  { iface := di, AnswLen := 0, invokeId := 0, dataPointer := 0, mem := m }

/-! ## Faults -/

/-- How a call leaves defined behaviour: the table is used through a pointer
that does not refer to it, the list is freed twice, the null pointer of an
allocation that failed is used, or that of an interface without an address, or
data are copied with a negative length or past the end of their connection. -/
inductive Fault where
  | wildPointer
  | doubleFree
  | nullList
  | nullInterface
  | nullAddress
  | negativeLength
  | heapOverflow
  deriving DecidableEq, Repr

end LibAds
