/-!
# Malformed prefixes and addresses

The causes for which the text of a prefix or of an interface address is refused.
-/

namespace NeutralRouting

/-- Why a prefix or an interface address was refused. -/
inductive NetError where
  /-- The text is not a prefix. -/
  | notPrefix (text : String)
  /-- The address given for a prefix is not a dotted quad. -/
  | notAddress
  /-- The address part of an interface address is not a dotted quad. -/
  | notInterfaceQuad
  /-- The text is not an address and a mask length separated by a slash. -/
  | notInterfaceAddress (text : String)
  /-- The length exceeds 32. -/
  | lengthTooLong (length : Nat)
deriving DecidableEq, Inhabited

/-- The wording of each cause. -/
def NetError.message : NetError → String
  | notPrefix text => s!"Invalid Prefix: {text}"
  | notAddress => "Invalid Prefix: Invalid address format"
  | notInterfaceQuad => "Invalid Prefix: invalid IPv4 address syntax"
  | notInterfaceAddress text => s!"Invalid interface address format: {text}"
  | lengthTooLong length => s!"Mask length {length} is invalid"

end NeutralRouting
