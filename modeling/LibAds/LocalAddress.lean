import LibAds.PacketLayout

/-!
# The local address

`AdsGetMeAddress()` and `ADSGetLocalAMSId()` look for one interface in the list
that `getifaddrs()` returns. An entry of that list may have no address: the
second function tests `ifa_addr` for that, the first one uses it as it is, which
ends the call. The connection table (`ConnectionTable`) takes its address from the
first one, by `localAddress` where it returns.
-/

namespace LibAds

open ByteMemory

/-! ## Addresses and interfaces -/

/-- `AmsAddr` -/
structure AmsAddr where
  netId : AmsNetId
  port : UInt16
  deriving DecidableEq, Repr

/-- `meAddr` at the start of the program. -/
def unsetAddr : AmsAddr := ⟨⟨[0, 0, 0, 0, 0, 0], rfl⟩, 0⟩

/-- The `sockaddr` of an interface; `s_addr` is only there in the family
`AF_INET`, and holds the bytes of the address in the order they are written. -/
structure SockAddr where
  sa_family : Nat
  s_addr : UInt32
  deriving DecidableEq, Repr

/-- `struct ifaddrs`, an entry of the list that `getifaddrs()` returns. -/
structure IfAddrs where
  ifa_name : String
  ifa_addr : Option SockAddr
  deriving DecidableEq, Repr

def AF_INET : Nat := 2

def AMSPORT_R0_PLC_RTS1 : Int := 801

/-- The IPv4 address of an interface that is not the loopback. -/
def IfAddrs.inet (cur : IfAddrs) : Option UInt32 :=
  cur.ifa_addr.bind fun ifa_addr =>
    if ifa_addr.sa_family = AF_INET ∧ cur.ifa_name ≠ "lo" then some ifa_addr.s_addr else none

/-! ## `AdsGetMeAddress()` -/

/-- The loop of `AdsGetMeAddress()`: a code, or the address of the interface at
which it stops. An empty list is passed over. -/
def findInterface : List IfAddrs → Except Fault (Except Int (Option UInt32))
  | [] => .ok (.ok none)
  | cur :: ifa_next =>
    match cur.ifa_addr with
    | none => .error .nullAddress
    | some ifa_addr =>
      if ifa_addr.sa_family = AF_INET ∧ cur.ifa_name ≠ "lo" then .ok (.ok (some ifa_addr.s_addr))
      else if ifa_next.isEmpty then .ok (.error 0xa)
      else findInterface ifa_next

/-- The NetId made of an IPv4 address. -/
def netIdOf (netAddr : UInt32) : AmsNetId := ⟨toLE 4 netAddr.toNat ++ [1, 1], by simp⟩

/-- The end of `AdsGetMeAddress()`: its return value and `meAddr` after it. -/
def storeMeAddress (meAddr : AmsAddr) (AmsPort : Int) :
    Except Int (Option UInt32) → Int × AmsAddr
  | .error nerr => (nerr, meAddr)
  | .ok none => (0, ⟨meAddr.netId, UInt16.ofInt AmsPort⟩)
  | .ok (some netAddr) => (0, ⟨netIdOf netAddr, UInt16.ofInt AmsPort⟩)

/-- `AdsGetMeAddress()`: its return value and `meAddr` after it, which on
success is also the address it copies to its caller. The list is what
`getifaddrs()` returns, unless it fails. -/
def adsGetMeAddress (meAddr : AmsAddr) (AmsPort : Int) (list : Option (List IfAddrs)) :
    Except Fault (Int × AmsAddr) :=
  if meAddr.netId.b.getD 0 0 = 0 then
    match list with
    | none => .ok (0x1, meAddr)
    | some list => (findInterface list).map (storeMeAddress meAddr AmsPort)
  else .ok (0, meAddr)

theorem adsGetMeAddress_set {meAddr : AmsAddr} (set : meAddr.netId.b.getD 0 0 ≠ 0) (AmsPort : Int)
    (list : Option (List IfAddrs)) : adsGetMeAddress meAddr AmsPort list = .ok (0, meAddr) :=
  if_neg set

theorem adsGetMeAddress_unset {meAddr : AmsAddr} (unset : meAddr.netId.b.getD 0 0 = 0)
    (AmsPort : Int) (list : List IfAddrs) :
    adsGetMeAddress meAddr AmsPort (some list) =
      (findInterface list).map (storeMeAddress meAddr AmsPort) :=
  if_pos unset

/-- Asked again, it answers the same. -/
theorem adsGetMeAddress_again {meAddr : AmsAddr} {AmsPort : Int} {list : Option (List IfAddrs)}
    {after : Int × AmsAddr} (made : adsGetMeAddress meAddr AmsPort list = .ok after) :
    adsGetMeAddress after.2 AmsPort list = .ok after := by
  by_cases unset : meAddr.netId.b.getD 0 0 = 0
  · rcases list with _ | list
    · cases made.symm.trans (if_pos unset)
      exact made
    rw [adsGetMeAddress_unset unset] at made
    rcases found : findInterface list with fault | nerr | _ | netAddr <;> rw [found] at made <;>
      cases made
    · rw [storeMeAddress, adsGetMeAddress_unset unset, found]
      rfl
    · have still : (storeMeAddress meAddr AmsPort (.ok none)).2.netId.b.getD 0 0 = 0 := unset
      rw [adsGetMeAddress_unset still, found]
      rfl
    · by_cases zero : (netIdOf netAddr).b.getD 0 0 = 0
      · rw [storeMeAddress, adsGetMeAddress_unset zero, found]
        rfl
      · exact adsGetMeAddress_set zero _ _
  · cases made.symm.trans (adsGetMeAddress_set unset _ _)
    exact made

/-! ## `ADSGetLocalAMSId()` -/

/-- `ntohl()` of a little-endian machine. -/
def ntohl (v : UInt32) : UInt32 := UInt32.ofNat (ofLE (toLE 4 v.toNat).reverse)

/-- The NetId that `ADSGetLocalAMSId()` makes of an address. -/
def localNetId (s_addr : UInt32) : AmsNetId :=
  let b := toLE 4 (ntohl s_addr).toNat
  ⟨[b.getD 3 0, b.getD 2 0, b.getD 1 0, b.getD 0 0, 1, 1], rfl⟩

/-- The NetId of the loopback interface. -/
def loopbackNetId : AmsNetId := ⟨[127, 0, 0, 1, 1, 1], rfl⟩

/-- The loop of `ADSGetLocalAMSId()`, which stores in `id`. -/
def scanLocal (id : AmsNetId) : List IfAddrs → AmsNetId
  | [] => id
  | cur :: ifa_next =>
    match cur.inet with
    | some s_addr => localNetId s_addr
    | none => if ifa_next.isEmpty then loopbackNetId else scanLocal id ifa_next

/-- `ADSGetLocalAMSId()`: its return value and `*id` after it. -/
def adsGetLocalAMSId (id : AmsNetId) (list : List IfAddrs) : Int × AmsNetId :=
  (0, scanLocal id list)

/-! ## Both scans -/

/-- Every entry that `AdsGetMeAddress()` examines before it stops has an
address. -/
def Addressed (list : List IfAddrs) : Prop :=
  ∀ cur ∈ list.takeWhile (fun cur => cur.inet.isNone), cur.ifa_addr ≠ none

instance (list : List IfAddrs) : Decidable (Addressed list) :=
  inferInstanceAs (Decidable (∀ cur ∈ _, _))

theorem toLE_ntohl (s_addr : UInt32) :
    toLE 4 (ntohl s_addr).toNat = (toLE 4 s_addr.toNat).reverse := by
  have size : (toLE 4 s_addr.toNat).reverse.length = 4 := by simp
  have small := ofLE_lt (toLE 4 s_addr.toNat).reverse
  have bytes := toLE_ofLE (toLE 4 s_addr.toNat).reverse
  rw [size] at small bytes
  rw [ntohl, UInt32.toNat_ofNat_of_lt' small, bytes]

/-- The bytes of an address are swapped once by `ntohl()` and once more by the
order in which they are picked. -/
theorem localNetId_eq (s_addr : UInt32) : localNetId s_addr = netIdOf s_addr := by
  simp only [localNetId, toLE_ntohl]
  rfl

section Scans

variable {cur : IfAddrs} {list : List IfAddrs} {s_addr : UInt32}

theorem addressed_nil : Addressed [] := fun _ inside => absurd inside List.not_mem_nil

theorem addressed_of_found (found : cur.inet = some s_addr) : Addressed (cur :: list) := by
  intro entry inside
  rw [List.takeWhile_cons_of_neg (by simp [found])] at inside
  cases inside

theorem addressed_cons (other : cur.inet = none) :
    Addressed (cur :: list) ↔ cur.ifa_addr ≠ none ∧ Addressed list := by
  unfold Addressed
  rw [List.takeWhile_cons_of_pos (by simp [other]), List.forall_mem_cons]

theorem findInterface_found (found : cur.inet = some s_addr) :
    findInterface (cur :: list) = .ok (.ok (some s_addr)) := by
  unfold IfAddrs.inet at found
  rcases address : cur.ifa_addr with _ | ifa_addr
  · rw [address] at found
    cases found
  · rw [address, Option.bind_some] at found
    split at found
    · next taken =>
        cases found
        rw [findInterface, address]
        exact if_pos taken
    · cases found

theorem findInterface_other (other : cur.inet = none) :
    findInterface (cur :: list) =
      if cur.ifa_addr = none then .error .nullAddress
      else if list.isEmpty then .ok (.error 0xa) else findInterface list := by
  unfold IfAddrs.inet at other
  rcases address : cur.ifa_addr with _ | ifa_addr
  · rw [findInterface, address]
    rfl
  · rw [address, Option.bind_some] at other
    have passed : ¬ (ifa_addr.sa_family = AF_INET ∧ cur.ifa_name ≠ "lo") := by
      intro taken
      rw [if_pos taken] at other
      cases other
    rw [findInterface, address]
    simp only [if_neg passed, reduceCtorEq, if_false]

/-- `AdsGetMeAddress()` stops at the first interface, or at a NULL `ifa_addr`
before it. -/
theorem findInterface_eq (nonempty : list ≠ []) (addressed : Addressed list) :
    findInterface list = .ok (match list.findSome? IfAddrs.inet with
      | some s_addr => .ok (some s_addr)
      | none => .error 0xa) := by
  induction list with
  | nil => exact absurd rfl nonempty
  | cons cur ifa_next ih =>
      rcases found : cur.inet with _ | s_addr
      · obtain ⟨address, rest⟩ := (addressed_cons found).mp addressed
        rw [findInterface_other found, if_neg address, List.findSome?_cons, found]
        cases ifa_next with
        | nil => rfl
        | cons => exact ih (List.cons_ne_nil _ _) rest
      · rw [findInterface_found found, List.findSome?_cons, found]

theorem findInterface_null (null : ¬ Addressed list) :
    findInterface list = .error .nullAddress := by
  induction list with
  | nil => exact absurd addressed_nil null
  | cons cur ifa_next ih =>
      rcases found : cur.inet with _ | s_addr
      · rw [findInterface_other found]
        split
        · rfl
        · next address =>
            have rest : ¬ Addressed ifa_next :=
              fun rest => null ((addressed_cons found).mpr ⟨address, rest⟩)
            cases ifa_next with
            | nil => exact absurd addressed_nil rest
            | cons => exact ih rest
      · exact absurd (addressed_of_found found) null

/-- `ADSGetLocalAMSId()` stops at the first interface. -/
theorem scanLocal_eq (id : AmsNetId) (nonempty : list ≠ []) :
    scanLocal id list = match list.findSome? IfAddrs.inet with
      | some s_addr => netIdOf s_addr
      | none => loopbackNetId := by
  induction list with
  | nil => exact absurd rfl nonempty
  | cons cur ifa_next ih =>
      rcases found : cur.inet with _ | s_addr
      · rw [scanLocal, found, List.findSome?_cons, found]
        cases ifa_next with
        | nil => rfl
        | cons => exact ih (List.cons_ne_nil _ _)
      · rw [scanLocal, found, List.findSome?_cons, found]
        exact localNetId_eq s_addr

end Scans

/-! ## Where `AdsGetMeAddress()` returns -/

section Located

variable {meAddr : AmsAddr} {ifaddrs : Option (List IfAddrs)}

/-- The interfaces that may be examined have addresses. -/
def AllAddressed (ifaddrs : Option (List IfAddrs)) : Prop := ∀ list ∈ ifaddrs, Addressed list

instance (ifaddrs : Option (List IfAddrs)) : Decidable (AllAddressed ifaddrs) :=
  inferInstanceAs (Decidable (∀ list ∈ ifaddrs, _))

/-- The local address can be asked for: it is known, or no interface without an
address is examined. -/
def Located (meAddr : AmsAddr) (ifaddrs : Option (List IfAddrs)) : Prop :=
  meAddr.netId.b.getD 0 0 = 0 → AllAddressed ifaddrs

instance (meAddr : AmsAddr) (ifaddrs : Option (List IfAddrs)) :
    Decidable (Located meAddr ifaddrs) :=
  inferInstanceAs (Decidable (_ → _))

/-- What `AdsGetMeAddress()` returns and leaves in `meAddr` when it is asked for
the address of the library. -/
def localAddress (meAddr : AmsAddr) (ifaddrs : Option (List IfAddrs)) : Int × AmsAddr :=
  (adsGetMeAddress meAddr AMSPORT_R0_PLC_RTS1 ifaddrs).toOption.getD (0x1, meAddr)

theorem AllAddressed.located (addressed : AllAddressed ifaddrs) : Located meAddr ifaddrs :=
  fun _ => addressed

theorem Located.eq (located : Located meAddr ifaddrs) :
    adsGetMeAddress meAddr AMSPORT_R0_PLC_RTS1 ifaddrs = .ok (localAddress meAddr ifaddrs) := by
  have returns : ∃ found, adsGetMeAddress meAddr AMSPORT_R0_PLC_RTS1 ifaddrs = .ok found := by
    by_cases unset : meAddr.netId.b.getD 0 0 = 0
    · rcases ifaddrs with _ | _ | ⟨cur, ifa_next⟩
      · exact ⟨_, if_pos unset⟩
      · exact ⟨_, adsGetMeAddress_unset unset _ _⟩
      · rw [adsGetMeAddress_unset unset,
          findInterface_eq (List.cons_ne_nil _ _) (located unset _ rfl)]
        exact ⟨_, rfl⟩
    · exact ⟨_, adsGetMeAddress_set unset _ _⟩
  obtain ⟨found, eq⟩ := returns
  rw [localAddress, eq]
  rfl

theorem adsGetMeAddress_unlocated (unlocated : ¬ Located meAddr ifaddrs) :
    adsGetMeAddress meAddr AMSPORT_R0_PLC_RTS1 ifaddrs = .error .nullAddress := by
  obtain ⟨unset, examined⟩ := Classical.not_imp.mp unlocated
  obtain ⟨list, rfl, null⟩ : ∃ list, ifaddrs = some list ∧ ¬ Addressed list := by
    simpa [AllAddressed] using examined
  rw [adsGetMeAddress_unset unset, findInterface_null null]
  rfl

/-- A call of `AdsGetMeAddress()` returns exactly where it can be asked. -/
theorem located_iff :
    Located meAddr ifaddrs ↔
      ∃ found, adsGetMeAddress meAddr AMSPORT_R0_PLC_RTS1 ifaddrs = .ok found := by
  refine ⟨fun located => ⟨_, located.eq⟩, fun returns => ?_⟩
  by_contra unlocated
  obtain ⟨found, eq⟩ := returns
  rw [adsGetMeAddress_unlocated unlocated] at eq
  cases eq

/-- Where an address was found it could be asked for. -/
theorem located_of_zero (zero : (localAddress meAddr ifaddrs).1 = 0) : Located meAddr ifaddrs := by
  by_contra unlocated
  rw [localAddress, adsGetMeAddress_unlocated unlocated] at zero
  cases zero

end Located

/-! ## The law -/

namespace LocalAddress

/-- `AdsGetMeAddress()` uses no NULL address, finds an interface exactly when
there is one, and then takes the NetId that `ADSGetLocalAMSId()` finds: the
address of the first one, and 1.1. Without one it leaves `meAddr`. -/
structure FindsLocalAddress (meAddr : AmsAddr) (AmsPort : Int) (id : AmsNetId)
    (list : List IfAddrs) (ret : Int) (after : AmsAddr) : Prop where
  returns : adsGetMeAddress meAddr AmsPort (some list) = .ok (ret, after)
  found : ret = 0 ↔ ∃ cur ∈ list, cur.inet.isSome
  equal : ret = 0 → after.netId = (adsGetLocalAMSId id list).2
  first : ret = 0 → ∃ s_addr, list.findSome? IfAddrs.inet = some s_addr ∧
    after.netId.b = toLE 4 s_addr.toNat ++ [1, 1]
  kept : ret ≠ 0 → after = meAddr

/-- **The local address.** The two functions agree on every list that is not
empty and has an address in every entry up to the first interface. -/
theorem finds_local_address_iff (meAddr : AmsAddr) (unset : meAddr.netId.b.getD 0 0 = 0)
    (AmsPort : Int) (id : AmsNetId) (list : List IfAddrs) :
    (∃ ret after, FindsLocalAddress meAddr AmsPort id list ret after) ↔
      list ≠ [] ∧ Addressed list := by
  constructor
  · intro found
    obtain ⟨ret, after, finds⟩ := found
    have returns := finds.returns
    rw [adsGetMeAddress_unset unset] at returns
    refine ⟨?_, ?_⟩
    · intro empty
      subst empty
      cases returns
      obtain ⟨cur, inside, -⟩ := finds.found.mp rfl
      cases inside
    · by_contra null
      rw [findInterface_null null] at returns
      cases returns
  · intro condition
    obtain ⟨nonempty, addressed⟩ := condition
    have scanned := findInterface_eq nonempty addressed
    have localId := scanLocal_eq id nonempty
    have made := adsGetMeAddress_unset unset AmsPort list
    rcases found : list.findSome? IfAddrs.inet with _ | s_addr
    · rw [found] at scanned
      have missing : ¬ ∃ cur ∈ list, cur.inet.isSome := by
        intro present
        obtain ⟨cur, inside, some⟩ := present
        rw [List.findSome?_eq_none_iff.mp found cur inside] at some
        cases some
      have nonzero : (0xa : Int) ≠ 0 := by decide
      refine ⟨0xa, meAddr, ?_, iff_of_false nonzero missing, fun zero => absurd zero nonzero,
        fun zero => absurd zero nonzero, fun _ => rfl⟩
      rw [made, scanned]
      rfl
    · rw [found] at scanned localId
      have present : ∃ cur ∈ list, cur.inet.isSome := by
        obtain ⟨cur, inside, address⟩ := List.exists_of_findSome?_eq_some found
        exact ⟨cur, inside, by rw [address]; rfl⟩
      refine ⟨0, ⟨netIdOf s_addr, UInt16.ofInt AmsPort⟩, ?_, iff_of_true rfl present,
        fun _ => localId.symm, fun _ => ⟨s_addr, found, rfl⟩, fun nonzero => absurd rfl nonzero⟩
      rw [made, scanned]
      rfl

/-- A machine with one Ethernet interface. -/
def ethernet : List IfAddrs :=
  [⟨"lo", some ⟨AF_INET, 0x0100007f⟩⟩, ⟨"eth0", some ⟨AF_INET, 0x0100000a⟩⟩]

theorem finds_local_address_ethernet :
    (∃ ret after, FindsLocalAddress unsetAddr 801 loopbackNetId ethernet ret after) ↔
      ethernet ≠ [] ∧ Addressed ethernet :=
  finds_local_address_iff unsetAddr rfl 801 loopbackNetId ethernet

/-- A tunnel without an address stands before the Ethernet interface. -/
theorem local_address_not_always_found :
    ¬ ∀ (meAddr : AmsAddr), meAddr.netId.b.getD 0 0 = 0 → ∀ (AmsPort : Int) (id : AmsNetId)
      (list : List IfAddrs), ∃ ret after, FindsLocalAddress meAddr AmsPort id list ret after := by
  intro finds
  obtain ⟨ret, after, found⟩ := finds unsetAddr rfl 801 loopbackNetId (⟨"tun0", none⟩ :: ethernet)
  have faults : adsGetMeAddress unsetAddr 801 (some (⟨"tun0", none⟩ :: ethernet)) =
      .error .nullAddress := rfl
  have returns := found.returns
  rw [faults] at returns
  cases returns

end LocalAddress

end LibAds
