import NeutralRouting.Net.Address

/-!
# Virtual networks

Identifiers of the virtual networks (VNIs) that an EVPN carries, with the route distinguishers and
route targets under which they are announced.
-/

namespace NeutralRouting

open Std

/-- A route distinguisher: an address and a number assigned by the device. -/
structure RouteDistinguisher where
  address : Address
  index : Nat
deriving DecidableEq

namespace RouteDistinguisher

/-- Route distinguishers are ordered by address, then by index. -/
instance : Ord RouteDistinguisher := ⟨compareLex (compareOn address) (compareOn index)⟩

instance : TransOrd RouteDistinguisher :=
  inferInstanceAs (TransCmp (compareLex (compareOn address) (compareOn index)))

instance : LawfulEqOrd RouteDistinguisher :=
  lawfulEqCmp_compareLex address fun left right sameAddress sameIndex => by
    have sameIndex := compareOn_eq_eq.mp sameIndex
    cases left
    cases right
    simp_all

/-- The address and the index, separated by a colon. -/
def text (distinguisher : RouteDistinguisher) : String :=
  s!"{distinguisher.address}:{distinguisher.index}"

end RouteDistinguisher

/-- A route target: a 16-bit AS number and a value. -/
structure RouteTarget where
  asn : UInt16
  value : UInt32
deriving DecidableEq

namespace RouteTarget

/-- Route targets are ordered by AS number, then by value. -/
instance : Ord RouteTarget := ⟨compareLex (compareOn asn) (compareOn value)⟩

instance : TransOrd RouteTarget :=
  inferInstanceAs (TransCmp (compareLex (compareOn asn) (compareOn value)))

instance : LawfulEqOrd RouteTarget :=
  lawfulEqCmp_compareLex asn fun left right sameAsn sameValue => by
    have sameValue := compareOn_eq_eq.mp sameValue
    cases left
    cases right
    simp_all

/-- The target of a VNI announced by an AS, of whose number the low 16 bits are kept. -/
def ofVni (asn vni : UInt32) : RouteTarget := ⟨asn.toUInt16, vni⟩

/-- The AS number and the value, separated by a colon. -/
def text (target : RouteTarget) : String := s!"{target.asn}:{target.value}"

/-- Pattern of the route targets of a VNI announced by any AS. -/
def importPattern (vni : UInt32) : String := s!"^\\d+:{vni}$"

end RouteTarget

/-- A bridged segment present in a VRF. -/
structure Layer2Vni where
  vni : UInt32
  vrf : String
  /-- Source address of the tunnels. -/
  sourceAddress : Option Address
deriving DecidableEq

/-- A bridged segment announced to a peer. -/
structure Layer2Entry where
  vni : UInt32
  vrf : String
  distinguisher : RouteDistinguisher
  target : RouteTarget
deriving DecidableEq

namespace Layer2Entry

/-- Entries are ordered field by field. -/
instance : Ord Layer2Entry :=
  ⟨compareLex (compareOn vni) (compareLex (compareOn vrf)
    (compareLex (compareOn distinguisher) (compareOn target)))⟩

instance : TransOrd Layer2Entry :=
  inferInstanceAs (TransCmp (compareLex (compareOn vni) (compareLex (compareOn vrf)
    (compareLex (compareOn distinguisher) (compareOn target)))))

instance : LawfulEqOrd Layer2Entry :=
  lawfulEqCmp_compareLex vni fun left right sameVni sameRest => by
    simp only [compareLex_eq_eq, compareOn_eq_eq] at sameRest
    cases left
    cases right
    simp_all

end Layer2Entry

/-- A routed VRF announced to a peer. -/
structure Layer3Entry where
  vni : UInt32
  vrf : String
  distinguisher : RouteDistinguisher
  target : RouteTarget
  /-- Pattern of the route targets that the VRF imports. -/
  importPattern : String
  /-- The IPv4 unicast routes of the VRF are announced. -/
  advertiseIpv4 : Bool
deriving DecidableEq

namespace Layer3Entry

/-- Entries are ordered field by field. -/
instance : Ord Layer3Entry :=
  ⟨compareLex (compareOn vni) (compareLex (compareOn vrf)
    (compareLex (compareOn distinguisher) (compareLex (compareOn target)
      (compareLex (compareOn importPattern) (compareOn advertiseIpv4)))))⟩

instance : TransOrd Layer3Entry :=
  inferInstanceAs (TransCmp (compareLex (compareOn vni) (compareLex (compareOn vrf)
    (compareLex (compareOn distinguisher) (compareLex (compareOn target)
      (compareLex (compareOn importPattern) (compareOn advertiseIpv4)))))))

instance : LawfulEqOrd Layer3Entry :=
  lawfulEqCmp_compareLex vni fun left right sameVni sameRest => by
    simp only [compareLex_eq_eq, compareOn_eq_eq] at sameRest
    cases left
    cases right
    simp_all

end Layer3Entry
end NeutralRouting
