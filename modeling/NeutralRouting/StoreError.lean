/-!
# Refused insertions

Every named object of a configuration is inserted at most once.
-/

namespace NeutralRouting

/-- The kinds of named objects. -/
inductive ObjectKind where
  | vrf
  | interface
  | routingPolicy
  | routeFilterList
  | communityList
  | asPathAccessList
  | bgpPeer
deriving DecidableEq, Inhabited

/-- The words for a kind of objects. -/
def ObjectKind.text : ObjectKind → String
  | vrf => "VRF"
  | interface => "interface"
  | routingPolicy => "routing policy"
  | routeFilterList => "route filter list"
  | communityList => "community list"
  | asPathAccessList => "AS-path access list"
  | bgpPeer => "BGP peer"

instance : ToString ObjectKind := ⟨ObjectKind.text⟩

/-- Why an object was not put into a configuration. -/
inductive StoreError where
  /-- The name is taken. -/
  | duplicateName (kind : ObjectKind) (name : String)
  /-- The VRF that was to hold the object does not exist. -/
  | noSuchVrf (name : String)
deriving DecidableEq, Inhabited

/-- The wording of each cause. -/
def StoreError.message : StoreError → String
  | duplicateName kind name => s!"A {kind} named '{name}' already exists"
  | noSuchVrf name => s!"No such VRF '{name}'"

/-- What a change leaves behind, and why it was refused if it was. -/
abbrev Attempt (σ : Type) := σ × Except StoreError Unit

/-- A change of a part as a change of the whole. -/
def Attempt.within {σ τ : Type} (attempt : Attempt σ) (put : σ → τ) : Attempt τ :=
  (put attempt.1, attempt.2)

end NeutralRouting
