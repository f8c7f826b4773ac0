import NeutralRouting.Order

/-!
# Routing protocols

The protocols a route can be learnt from, with their administrative distances, the sources that
BGP can redistribute, and the origin attribute of BGP routes.
-/

namespace NeutralRouting

open Std

/-- The protocol a route was learnt from. -/
inductive Protocol where
  | aggregate
  | bgp
  | ibgp
  | connected
  | hostLocal
  | kernel
  | static
  | ospf
  | ospfInterArea
  | ospfExternal1
  | ospfExternal2
  | isis
  | rip
deriving DecidableEq, Inhabited

namespace Protocol

/-- Protocols are ordered as they are listed. -/
instance : Ord Protocol := ⟨compareOn Protocol.ctorIdx⟩

instance : TransOrd Protocol := inferInstanceAs (TransCmp (compareOn Protocol.ctorIdx))

instance : LawfulEqOrd Protocol :=
  lawfulEqCmp_compareOn Protocol.ctorIdx fun left right equal => by
    cases left <;> cases right <;> first | rfl | cases equal

/-- Preference of a protocol's routes; the lowest distance wins. -/
def adminDistance : Protocol → UInt32
  | connected | hostLocal | kernel => 0
  | static => 1
  | bgp => 20
  | ospf | ospfInterArea | ospfExternal1 | ospfExternal2 => 110
  | isis => 115
  | rip => 120
  | ibgp | aggregate => 200

/-- The keyword of a protocol. -/
def text : Protocol → String
  | aggregate => "aggregate"
  | bgp => "bgp"
  | ibgp => "ibgp"
  | connected => "connected"
  | hostLocal => "local"
  | kernel => "kernel"
  | static => "static"
  | ospf => "ospf"
  | ospfInterArea => "ospfIA"
  | ospfExternal1 => "ospfE1"
  | ospfExternal2 => "ospfE2"
  | isis => "isis"
  | rip => "rip"

instance : ToString Protocol := ⟨text⟩

end Protocol

/-- A source whose routes BGP can redistribute. -/
inductive RedistributionSource where
  | connected
  | kernel
  | ospf
  | static
deriving DecidableEq, Inhabited

namespace RedistributionSource

/-- Sources are ordered as they are listed. -/
instance : Ord RedistributionSource := ⟨compareOn RedistributionSource.ctorIdx⟩

instance : TransOrd RedistributionSource :=
  inferInstanceAs (TransCmp (compareOn RedistributionSource.ctorIdx))

instance : LawfulEqOrd RedistributionSource :=
  lawfulEqCmp_compareOn RedistributionSource.ctorIdx fun left right equal => by
    cases left <;> cases right <;> first | rfl | cases equal

/-- The keyword of a source. -/
def text : RedistributionSource → String
  | connected => "connected"
  | kernel => "kernel"
  | ospf => "ospf"
  | static => "static"

instance : ToString RedistributionSource := ⟨text⟩

/-- The protocols of a source's routes. -/
def protocols : RedistributionSource → List Protocol
  | connected => [.connected]
  | kernel => [.kernel]
  | static => [.static]
  | ospf => [.ospf, .ospfInterArea, .ospfExternal1, .ospfExternal2]

end RedistributionSource

/-- The origin attribute of a BGP route. -/
inductive Origin where
  | igp
  | egp
  | incomplete
deriving DecidableEq, Inhabited

/-- The keyword of an origin. -/
def Origin.text : Origin → String
  | igp => "igp"
  | egp => "egp"
  | incomplete => "incomplete"

instance : ToString Origin := ⟨Origin.text⟩

end NeutralRouting
