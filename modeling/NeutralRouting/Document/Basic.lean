/-!
# Documents

Structured data with integers as its only numbers: the form in which devices are described and
configurations are shown.  The text syntax of documents is left to the programs that exchange
them.  A reader answers with nothing when a document does not have the expected shape.
-/

namespace NeutralRouting

/-- A piece of structured data. -/
inductive Document where
  | null
  | bool (value : Bool)
  | number (value : Int)
  | text (value : String)
  | list (items : List Document)
  | record (fields : List (String × Document))

instance : Inhabited Document := ⟨.null⟩

/-- A reading of documents as values. -/
abbrev Reader (α : Type) := Document → Option α

/-- The fields of a record. -/
abbrev Fields := List (String × Document)

namespace Fields

/-- A field that has to be there. -/
def required {α : Type} (fields : Fields) (name : String) (read : Reader α) : Option α :=
  fields.lookup name >>= read

/-- A field that may be missing, or null for the same. -/
def optional {α : Type} (fields : Fields) (name : String) (read : Reader α) :
    Option (Option α) :=
  match fields.lookup name with
  | none | some .null => some none
  | some document => (read document).map some

/-- A field with a value for when it is missing. -/
def defaulted {α : Type} (fields : Fields) (name : String) (default : α) (read : Reader α) :
    Option α :=
  match fields.lookup name with
  | none => some default
  | some document => read document

end Fields

namespace Document

/-- A text. -/
def string? : Reader String
  | text value => some value
  | _ => none

/-- A truth value. -/
def bool? : Reader Bool
  | bool value => some value
  | _ => none

/-- A natural number below a bound. -/
def below? (bound : Nat) : Reader Nat
  | number value => if 0 ≤ value ∧ value < bound then some value.toNat else none
  | _ => none

/-- A number of 8 bits. -/
def byte? : Reader Nat := below? UInt8.size

/-- A number of 32 bits. -/
def natural? : Reader Nat := below? UInt32.size

/-- A word of 8 bits. -/
def uint8? (document : Document) : Option UInt8 := document.byte?.map (·.toUInt8)

/-- A word of 16 bits. -/
def uint16? (document : Document) : Option UInt16 := (document.below? UInt16.size).map (·.toUInt16)

/-- A word of 32 bits. -/
def uint32? (document : Document) : Option UInt32 := document.natural?.map (·.toUInt32)

/-- A word of 64 bits. -/
def uint64? (document : Document) : Option UInt64 := (document.below? UInt64.size).map (·.toUInt64)

/-- A list of items. -/
def list? {α : Type} (item : Reader α) : Reader (List α)
  | list items => items.mapM item
  | _ => none

/-- A pair of items. -/
def pair? {α β : Type} (first : Reader α) (second : Reader β) : Reader (α × β)
  | list [left, right] => return (← first left, ← second right)
  | _ => none

/-- The fields of a record. -/
def fields? : Reader Fields
  | record fields => some fields
  | _ => none

/-- The fields of a record that has no others than those named. -/
def fieldsAmong? (names : List String) : Reader Fields
  | record fields => if fields.all (names.contains ·.1) then some fields else none
  | _ => none

/-- The field of a record that has one. -/
def field? : Reader (String × Document)
  | record [field] => some field
  | _ => none

/-- The value that a name stands for. -/
def named? {α : Type} (names : List (String × α)) (document : Document) : Option α := do
  names.lookup (← document.string?)

/-- A natural number. -/
def ofNat (value : Nat) : Document := number value

/-- A word of 32 bits. -/
def ofUInt32 (value : UInt32) : Document := ofNat value.toNat

/-- A value that may be missing. -/
def ofOption {α : Type} (write : α → Document) : Option α → Document
  | none => null
  | some value => write value

/-- Items in order. -/
def ofList {α : Type} (write : α → Document) (items : List α) : Document :=
  list (items.map write)

/-- The name that stands for a value. -/
def ofNamed {α : Type} [DecidableEq α] (names : List (String × α)) (value : α) : Document :=
  match names.find? (·.2 = value) with
  | some (name, _) => text name
  | none => null

/-- A record with one field. -/
def tagged (name : String) (content : Document) : Document := record [(name, content)]

end Document

namespace Fields

/-- A flag that is off when it is missing. -/
def flag (fields : Fields) (name : String) : Option Bool :=
  fields.defaulted name false Document.bool?

/-- A text that is empty when it is missing. -/
def string (fields : Fields) (name : String) : Option String :=
  fields.defaulted name "" Document.string?

/-- A list that is empty when it is missing. -/
def items {α : Type} (fields : Fields) (name : String) (item : Reader α) : Option (List α) :=
  fields.defaulted name [] (Document.list? item)

end Fields
end NeutralRouting
