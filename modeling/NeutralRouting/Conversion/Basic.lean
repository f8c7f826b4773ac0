import NeutralRouting.Configuration
import NeutralRouting.Conversion.Warnings

/-!
# Conversions

A conversion builds a configuration step by step and records warnings on the way.  A step that
fails ends the conversion; what it did before failing stays in the configuration.
-/

namespace NeutralRouting

/-- Why a conversion was given up. -/
inductive ConversionError where
  /-- The neighbor has a remote AS of unknown type. -/
  | untypedRemoteAs (neighbor : String)
  /-- The route map has no policy. -/
  | routeMapNotCompiled (name reason : String)
  /-- The policy made from the route map has another name. -/
  | routeMapRenamed (name policy : String)
  /-- An object could not be put into the configuration. -/
  | store (cause : StoreError)
deriving DecidableEq, Inhabited

/-- The wording of each cause. -/
def ConversionError.message : ConversionError → String
  | untypedRemoteAs neighbor =>
    s!"Invalid remote-as type for BGP neighbor {neighbor}: remote AS is set without a type"
  | routeMapNotCompiled name reason => s!"Failed to compile route-map {name}: {reason}"
  | routeMapRenamed name policy =>
    s!"Failed to compile route-map {name}: compiled into a policy named {policy}"
  | store cause => cause.message

/-- What a conversion has built so far. -/
structure Progress where
  configuration : Configuration
  warnings : Warnings

/-- A step of a conversion. -/
abbrev Conversion := ExceptT ConversionError (StateM Progress)

namespace Conversion

/-- The outcome of a step, and what is built after it. -/
def runFrom {α : Type} (step : Conversion α) (progress : Progress) :
    Except ConversionError α × Progress :=
  (ExceptT.run step).run progress

/-- The configuration built so far. -/
def configuration : Conversion Configuration := return (← get).configuration

/-- Change the configuration. -/
def update (change : Configuration → Configuration) : Conversion Unit :=
  modify fun progress => { progress with configuration := change progress.configuration }

/-- Change the configuration by a change that may be refused. -/
def store (change : Configuration → Attempt Configuration) : Conversion Unit := do
  let (changed, outcome) := change (← configuration)
  update fun _ => changed
  match outcome with
  | .ok () => pure ()
  | .error cause => throw (.store cause)

/-- Record a warning. -/
def warn (warning : String) : Conversion Unit :=
  modify fun progress => { progress with warnings := progress.warnings.flag warning }

/-- Record a warning unless the same one is recorded already. -/
def warnOnce (warning : String) : Conversion Unit :=
  modify fun progress => { progress with warnings := progress.warnings.flagOnce warning }

/-- Record warnings in order. -/
def warnAll (warnings : List String) : Conversion Unit := warnings.forM warn

/-- Record warnings in order, each unless it is recorded already. -/
def warnAllOnce (warnings : List String) : Conversion Unit := warnings.forM warnOnce

/-- Go on with a value that may be missing for a reason. -/
def require {α : Type} (value : Except ConversionError α) : Conversion α :=
  match value with
  | .ok value => pure value
  | .error cause => throw cause

end Conversion
end NeutralRouting
