import NeutralRouting.Bgp.LocalAddress
import NeutralRouting.Proofs.Effects
import NeutralRouting.Proofs.PrefixCovering
import NeutralRouting.Proofs.Table

/-!
# The choice of local addresses

Which address a configuration gives to the session with an IP neighbor.  Without an update source
that can be found, it is the first one that faces the peer in its VRF: interfaces are searched by
name, and on each interface the primary address comes before the secondary ones.
-/

namespace NeutralRouting

open Std

/-- The update source has an address, which for an interface is the primary one. -/
inductive UpdateSource.Gives (configuration : Configuration) : UpdateSource → Address → Prop where
  | address (source : Address) : Gives configuration (.address source) source
  | interface {name : String} {interface : Interface} {primary : InterfaceAddress}
      (found : configuration.interfaces[name]? = some interface)
      (has_primary : interface.primary = some primary) :
      Gives configuration (.interface name) primary.address

/-- The update source has no address. -/
inductive UpdateSource.Fails (configuration : Configuration) :
    UpdateSource → UpdateSourceFault → Prop where
  | noInterface {name : String} (absent : configuration.interfaces[name]? = none) :
      Fails configuration (.interface name) (.noInterface name)
  | noAddress {name : String} {interface : Interface}
      (found : configuration.interfaces[name]? = some interface)
      (no_primary : interface.primary = none) :
      Fails configuration (.interface name) (.noAddress name)

namespace Configuration

/-- An address of an interface of the VRF, with its position among the primary and the secondary
ones, whose subnet holds the peer and which is not the address of the peer. -/
structure Faces (configuration : Configuration) (vrf : String) (peer : Address) (name : String)
    (position : Nat) (own : InterfaceAddress) : Prop where
  listed : ∃ interface, configuration.interfaces[name]? = some interface ∧ interface.vrf = vrf ∧
    (interface.primary.toList ++ interface.secondaries)[position]? = some own
  shares_subnet : Address.AgreeOn own.maskLength own.address peer
  not_peer : own.address ≠ peer

/-- Of all addresses that face the peer, none is on an interface with a smaller name or further in
front on the same interface. -/
def FirstFaces (configuration : Configuration) (vrf : String) (peer : Address)
    (own : InterfaceAddress) : Prop :=
  ∃ name position, configuration.Faces vrf peer name position own ∧
    ∀ other place another, configuration.Faces vrf peer other place another →
      name < other ∨ name = other ∧ position ≤ place

/-- The local address of a session with an IP neighbor. -/
inductive Chooses (configuration : Configuration) (vrf : String) (settings : NeighborSettings)
    (peer : Address) : Option Address → Prop where
  | source {source : UpdateSource} {address : Address}
      (configured : settings.updateSource = some source)
      (gives : source.Gives configuration address) :
      Chooses configuration vrf settings peer (some address)
  | subnet {own : InterfaceAddress}
      (no_source : ∀ source, settings.updateSource = some source →
        ∃ fault, source.Fails configuration fault)
      (first : configuration.FirstFaces vrf peer own) :
      Chooses configuration vrf settings peer (some own.address)
  | unset
      (no_source : ∀ source, settings.updateSource = some source →
        ∃ fault, source.Fails configuration fault)
      (none_faces : ∀ name position own, ¬configuration.Faces vrf peer name position own) :
      Chooses configuration vrf settings peer none

end Configuration

variable {configuration : Configuration}

section Sources

variable {source : UpdateSource} {address : Address} {fault : UpdateSourceFault}

theorem UpdateSource.find_eq_ok_iff :
    source.find configuration = .ok address ↔ source.Gives configuration address := by
  cases source with
  | address own =>
      rw [find, Except.ok.injEq]
      constructor
      · rintro rfl
        exact .address own
      · rintro ⟨⟩
        rfl
  | interface name =>
      rw [find]
      constructor
      · intro gives
        split at gives
        · cases gives
        · next interface found =>
            split at gives
            · cases gives
            · next primary has_primary =>
                cases gives
                exact .interface found has_primary
      · rintro (_ | ⟨found, has_primary⟩)
        simp only [found, has_primary]

theorem UpdateSource.find_eq_error_iff :
    source.find configuration = .error fault ↔ source.Fails configuration fault := by
  cases source with
  | address own => exact ⟨nofun, nofun⟩
  | interface name =>
      rw [find]
      constructor
      · intro fails
        split at fails
        · next absent =>
            cases fails
            exact .noInterface absent
        · next interface found =>
            split at fails
            · next no_primary =>
                cases fails
                exact .noAddress found no_primary
            · cases fails
      · rintro (absent | ⟨found, no_primary⟩)
        · simp only [absent]
        · simp only [found, no_primary]

end Sources

section Subnets

variable {vrf : String} {peer : Address} {own another : InterfaceAddress}

/-- The subnet of an address holds those that agree with it on the bits of the mask. -/
theorem InterfaceAddress.coversAddress_subnet_iff :
    own.subnet.coversAddress peer = true ↔ Address.AgreeOn own.maskLength own.address peer := by
  have itself : own.subnet.coversAddress own.address = true :=
    (Prefix.ofAddress_truncates own.address own.maskLength_le).coversAddress
  rw [Prefix.coversAddress_iff_agreeOn] at itself ⊢
  exact ⟨fun agree => itself.trans agree.symm, fun agree => agree.symm.trans itself⟩

/-- The address is one to be used towards the peer. -/
def InterfaceAddress.suits (peer : Address) (own : InterfaceAddress) : Bool :=
  own.subnet.coversAddress peer && own.address ≠ peer

theorem InterfaceAddress.suits_iff :
    own.suits peer = true ↔
      Address.AgreeOn own.maskLength own.address peer ∧ own.address ≠ peer := by
  rw [suits, Bool.and_eq_true, coversAddress_subnet_iff, decide_eq_true_iff]

namespace Configuration

/-- The interfaces of a VRF with the names they are found under. -/
def rowsIn (configuration : Configuration) (vrf : String) : List (String × Interface) :=
  configuration.interfaces.toList.filter (·.2.vrf = vrf)

theorem mem_rowsIn_iff {name : String} {interface : Interface} :
    (name, interface) ∈ configuration.rowsIn vrf ↔
      configuration.interfaces[name]? = some interface ∧ interface.vrf = vrf := by
  rw [rowsIn, List.mem_filter, ExtTreeMap.mem_toList_iff_getElem?_eq_some, decide_eq_true_iff]

theorem pairwise_rowsIn (configuration : Configuration) (vrf : String) :
    (configuration.rowsIn vrf).Pairwise (·.1 < ·.1) :=
  (configuration.interfaces.ordered_keys_toList.imp compareOfLessAndEq_eq_lt.mp).filter _

theorem subnetAddress?_eq_findSome? :
    subnetAddress? configuration vrf peer =
      ((configuration.rowsIn vrf).findSome? fun row =>
        row.2.addresses.find? (·.suits peer)).map (·.address) := by
  have interfaces : configuration.interfacesIn vrf = (configuration.rowsIn vrf).map (·.2) := by
    rw [interfacesIn, Table.values_eq_map_snd, List.filter_map]
    rfl
  rw [subnetAddress?, interfaces, List.flatMap_map, List.find?_flatMap]
  rfl

/-- An address faces the peer if it suits and its interface is one of the VRF. -/
theorem faces_iff {name : String} {position : Nat} :
    configuration.Faces vrf peer name position own ↔
      ∃ interface, (name, interface) ∈ configuration.rowsIn vrf ∧
        interface.addresses[position]? = some own ∧ own.suits peer = true := by
  simp only [mem_rowsIn_iff, InterfaceAddress.suits_iff]
  constructor
  · rintro ⟨⟨interface, found, own_vrf, here⟩, shares_subnet, not_peer⟩
    exact ⟨interface, ⟨found, own_vrf⟩, here, shares_subnet, not_peer⟩
  · rintro ⟨interface, ⟨found, own_vrf⟩, here, shares_subnet, not_peer⟩
    exact ⟨⟨interface, found, own_vrf, here⟩, shares_subnet, not_peer⟩

/-- The first suitable address in the rows is the first one that faces the peer. -/
theorem firstFaces_of_findSome?
    (search : (configuration.rowsIn vrf).findSome? (fun row =>
      row.2.addresses.find? (·.suits peer)) = some own) :
    configuration.FirstFaces vrf peer own := by
  obtain ⟨earlier, ⟨name, interface⟩, later, split, found, unfound⟩ :=
    List.findSome?_eq_some_iff.mp search
  obtain ⟨suits, position, inside, here, before⟩ := List.find?_eq_some_iff_getElem.mp found
  have ordered := configuration.pairwise_rowsIn vrf
  have rows : ∀ row, row ∈ configuration.rowsIn vrf ↔
      row ∈ earlier ∨ row = (name, interface) ∨ row ∈ later := by simp [split]
  rw [split, List.pairwise_append, List.pairwise_cons] at ordered
  refine ⟨name, position, faces_iff.mpr ⟨interface, (rows _).mpr (.inr (.inl rfl)),
    List.getElem?_eq_some_iff.mpr ⟨inside, here⟩, suits⟩, fun other place another faces => ?_⟩
  obtain ⟨facing, member, there, suits_too⟩ := faces_iff.mp faces
  rcases (rows _).mp member with in_front | same | behind
  · have none_suits := List.find?_eq_none.mp (unfound _ in_front) another
      (List.mem_of_getElem? there)
    exact absurd suits_too none_suits
  · cases same
    obtain ⟨within, rfl⟩ := List.getElem?_eq_some_iff.mp there
    refine .inr ⟨rfl, Nat.le_of_not_lt fun nearer => ?_⟩
    have unsuited := before place nearer
    rw [suits_too] at unsuited
    cases unsuited
  · exact .inl (ordered.2.1.1 _ behind)

/-- Without a suitable address in the rows, none faces the peer. -/
theorem not_faces_of_findSome?
    (search : (configuration.rowsIn vrf).findSome? (fun row =>
      row.2.addresses.find? (·.suits peer)) = none) (name : String) (position : Nat) :
    ¬configuration.Faces vrf peer name position own := by
  intro faces
  obtain ⟨interface, member, here, suits⟩ := faces_iff.mp faces
  have unfound := List.findSome?_eq_none_iff.mp search (name, interface) member
  exact List.find?_eq_none.mp unfound own (List.mem_of_getElem? here) suits

/-- Only one address is the first that faces the peer. -/
theorem FirstFaces.eq (first : configuration.FirstFaces vrf peer own)
    (also : configuration.FirstFaces vrf peer another) : own = another := by
  obtain ⟨name, position, faces, least⟩ := first
  obtain ⟨other, place, faces_too, least_too⟩ := also
  rcases least _ _ _ faces_too with smaller | ⟨rfl, position_le⟩
  · rcases least_too _ _ _ faces with smaller_too | ⟨rfl, -⟩
    · exact absurd smaller_too (String.lt_asymm smaller)
    · exact absurd smaller (String.lt_irrefl _)
  · rcases least_too _ _ _ faces with smaller | ⟨-, place_le⟩
    · exact absurd smaller (String.lt_irrefl _)
    · obtain ⟨interface, found, -, here⟩ := faces.listed
      obtain ⟨facing, found_too, -, there⟩ := faces_too.listed
      cases found.symm.trans found_too
      cases Nat.le_antisymm position_le place_le
      exact Option.some.inj (here.symm.trans there)

theorem subnetAddress?_eq_some_iff {address : Address} :
    subnetAddress? configuration vrf peer = some address ↔
      ∃ own, configuration.FirstFaces vrf peer own ∧ own.address = address := by
  rw [subnetAddress?_eq_findSome?, Option.map_eq_some_iff]
  refine exists_congr fun own => and_congr_left' ⟨firstFaces_of_findSome?, fun first => ?_⟩
  cases search : (configuration.rowsIn vrf).findSome? fun row =>
      row.2.addresses.find? (·.suits peer) with
  | none =>
      obtain ⟨name, position, faces, -⟩ := first
      exact absurd faces (not_faces_of_findSome? search name position)
  | some another => rw [(firstFaces_of_findSome? search).eq first]

theorem subnetAddress?_eq_none_iff :
    subnetAddress? configuration vrf peer = none ↔
      ∀ name position own, ¬configuration.Faces vrf peer name position own := by
  rw [subnetAddress?_eq_findSome?, Option.map_eq_none_iff]
  refine ⟨fun search name position own => not_faces_of_findSome? search name position,
    fun none_faces => ?_⟩
  cases search : (configuration.rowsIn vrf).findSome? fun row =>
      row.2.addresses.find? (·.suits peer) with
  | none => rfl
  | some own =>
      obtain ⟨name, position, faces, -⟩ := firstFaces_of_findSome? search
      exact absurd faces (none_faces name position own)

end Configuration

end Subnets

section Choices

variable {vrf : String} {settings : NeighborSettings} {peer : Address} {chosen : Option Address}

theorem source_eq_some_iff {address : Address} :
    (settings.updateSource >>= fun source => (source.find configuration).toOption) =
        some address ↔
      ∃ source, settings.updateSource = some source ∧ source.Gives configuration address := by
  simp only [Option.bind_eq_bind, Option.bind_eq_some_iff, toOption_eq_some_iff,
    UpdateSource.find_eq_ok_iff]

theorem source_eq_none_iff :
    (settings.updateSource >>= fun source => (source.find configuration).toOption) = none ↔
      ∀ source, settings.updateSource = some source →
        ∃ fault, source.Fails configuration fault := by
  simp only [Option.bind_eq_bind, Option.bind_eq_none_iff, ← UpdateSource.find_eq_error_iff]
  refine forall₂_congr fun source _ => ?_
  cases source.find configuration <;> simp [Except.toOption]

/-- An update source that fails leaves the choice as it is without one. -/
theorem localAddress?_eq_subnetAddress?
    (no_source : ∀ source, settings.updateSource = some source →
      ∃ fault, source.Fails configuration fault) :
    localAddress? configuration vrf settings peer = subnetAddress? configuration vrf peer := by
  rw [localAddress?, source_eq_none_iff.mpr no_source]
  rfl

/-- The local address of a session is the one that the configuration chooses. -/
theorem Configuration.chooses_iff :
    configuration.Chooses vrf settings peer chosen ↔
      localAddress? configuration vrf settings peer = chosen := by
  constructor
  · intro chooses
    cases chooses with
    | source configured gives =>
        rw [localAddress?, source_eq_some_iff.mpr ⟨_, configured, gives⟩]
        rfl
    | subnet no_source first =>
        rw [localAddress?_eq_subnetAddress? no_source]
        exact subnetAddress?_eq_some_iff.mpr ⟨_, first, rfl⟩
    | unset no_source none_faces =>
        rw [localAddress?_eq_subnetAddress? no_source]
        exact subnetAddress?_eq_none_iff.mpr none_faces
  · rintro rfl
    rw [localAddress?]
    cases given : settings.updateSource >>= fun source =>
        (source.find configuration).toOption with
    | some address =>
        obtain ⟨source, configured, gives⟩ := source_eq_some_iff.mp given
        exact .source configured gives
    | none =>
        have no_source := source_eq_none_iff.mp given
        cases shared : subnetAddress? configuration vrf peer with
        | some address =>
            obtain ⟨own, first, rfl⟩ := subnetAddress?_eq_some_iff.mp shared
            exact .subnet no_source first
        | none => exact .unset no_source (subnetAddress?_eq_none_iff.mp shared)

/-- The complaint about the update source of a neighbor, if it fails. -/
def sourceComplaint? (configuration : Configuration) (settings : NeighborSettings) :
    Option String :=
  (updateSourceWarnings configuration settings).head?

theorem updateSourceWarnings_eq :
    updateSourceWarnings configuration settings =
      (sourceComplaint? configuration settings).toList := by
  rw [sourceComplaint?, updateSourceWarnings]
  cases settings.updateSource with
  | none => rfl
  | some source => cases found : source.find configuration <;> simp [found]

/-- There is a complaint exactly if there is an update source and it fails. -/
theorem sourceComplaint?_eq_some_iff {complaint : String} :
    sourceComplaint? configuration settings = some complaint ↔
      ∃ source fault, settings.updateSource = some source ∧ source.Fails configuration fault ∧
        fault.message settings.name = complaint := by
  simp only [← UpdateSource.find_eq_error_iff]
  rw [sourceComplaint?, updateSourceWarnings]
  cases settings.updateSource with
  | none => simp
  | some source => cases found : source.find configuration <;> simp [found]

end Choices

end NeutralRouting
