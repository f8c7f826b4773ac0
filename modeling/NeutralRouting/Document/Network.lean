import NeutralRouting.DeviceError
import NeutralRouting.Document.Basic
import NeutralRouting.Net.InterfaceAddress
import NeutralRouting.Net.PrefixSpace

/-!
# Documents of addresses and prefixes

Prefixes and interface addresses that a person wrote are read in two stages: the shape of the
document first, then the texts in it.  Prefixes that the library wrote are read at once.
-/

namespace NeutralRouting

/-- Why a well-shaped document does not describe anything. -/
inductive BuildError where
  /-- An address or a prefix in it is malformed. -/
  | net (cause : NetError)
  /-- A declaration in it cannot stand beside another. -/
  | device (cause : DeviceError)
deriving DecidableEq, Inhabited

/-- The wording of each cause. -/
def BuildError.message : BuildError → String
  | net cause => cause.message
  | device cause => cause.message

/-- What a well-shaped document describes, if it describes anything. -/
abbrev Built (α : Type) := Except BuildError α

namespace Built

/-- A text that may be malformed. -/
def ofNet {α : Type} (value : Except NetError α) : Built α := value.mapError .net

/-- A declaration that may be refused. -/
def ofDevice {α : Type} (declared : α × Except DeviceError Unit) : Built α :=
  match declared with
  | (value, .ok ()) => .ok value
  | (_, .error cause) => .error (.device cause)

/-- Things described in order; the first failure is that of all. -/
def all {α : Type} (items : List (Built α)) : Built (List α) := items.mapM id

/-- A thing that may be missing. -/
def optional {α : Type} : Option (Built α) → Built (Option α)
  | none => .ok none
  | some value => value.map some

end Built

namespace Document

/-- A dotted quad. -/
def address? (document : Document) : Option Address := document.string? >>= Address.ofText?

/-- The text of a prefix, yet to be parsed. -/
def prefixText? (document : Document) : Option (Built Prefix) :=
  document.string?.map fun text => .ofNet (Prefix.ofText text)

/-- The prefix that a record is about, yet to be parsed.  Like every missing text, a missing one
is empty, and so no prefix. -/
def ownPrefix? (fields : Fields) : Option (Built Prefix) :=
  (fields.string "prefix").map fun text => .ofNet (Prefix.ofText text)

/-- The text of an interface address, yet to be parsed. -/
def interfaceAddressText? (document : Document) : Option (Built InterfaceAddress) :=
  document.string?.map fun text => .ofNet (InterfaceAddress.ofText text)

/-- A prefix in its own text. -/
def canonicalPrefix? (document : Document) : Option Prefix :=
  document.string? >>= fun text => (Prefix.ofText text).toOption

/-- A prefix range. -/
def range? (document : Document) : Option PrefixRange := do
  let fields ← document.fields?
  return ⟨← fields.required "prefix" canonicalPrefix?, ← fields.required "min_len" byte?,
    ← fields.required "max_len" byte?⟩

/-- A prefix space. -/
def space? (document : Document) : Option PrefixSpace :=
  (document.list? range?).map (·.foldl PrefixSpace.addRange .empty)

/-- The dotted quad of an address. -/
def ofAddress (address : Address) : Document := text address.text

/-- A prefix range with its base and bounds. -/
def ofRange (range : PrefixRange) : Document :=
  record [("prefix", text range.base.text), ("min_len", ofNat range.minLength),
    ("max_len", ofNat range.maxLength)]

/-- The ranges of a prefix space in order. -/
def ofSpace (space : PrefixSpace) : Document := ofList ofRange space.ranges.toList

/-- An address with its mask length. -/
def ofInterfaceAddress (address : InterfaceAddress) : Document :=
  record [("address", ofAddress address.address), ("mask_len", ofNat address.maskLength)]

end Document
end NeutralRouting
