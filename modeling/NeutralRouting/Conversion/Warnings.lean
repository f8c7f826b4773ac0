/-!
# Warnings

The problems met during a conversion that do not end it, in the order in which they were met.
-/

namespace NeutralRouting

/-- Recorded warnings. -/
structure Warnings where
  entries : List String
deriving DecidableEq

namespace Warnings

/-- Nothing is recorded. -/
def empty : Warnings := ⟨[]⟩

/-- Record a warning. -/
def flag (warnings : Warnings) (warning : String) : Warnings := ⟨warnings.entries ++ [warning]⟩

/-- Record a warning unless the same one is recorded already. -/
def flagOnce (warnings : Warnings) (warning : String) : Warnings :=
  if warning ∈ warnings.entries then warnings else warnings.flag warning

/-- Some warning contains the text. -/
def contains (warnings : Warnings) (needle : String) : Bool :=
  warnings.entries.any fun warning => @decide (needle.toList <:+: warning.toList)
    (List.instDecidableIsInfixOfDecidableEq needle.toList warning.toList)

/-- One line per warning. -/
def text (warnings : Warnings) : String :=
  String.join (warnings.entries.map fun warning => s!"warning: {warning}\n")

end Warnings
end NeutralRouting
