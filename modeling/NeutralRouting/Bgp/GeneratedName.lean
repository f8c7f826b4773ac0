/-!
# Names of generated policies and lists

Tildes delimit the names that a conversion generates and colons separate their fields.  VRF names
contain neither, and fields that may contain anything come last, so different objects get
different names.
-/

namespace NeutralRouting

/-- The version of the Internet protocol that a policy is about. -/
inductive IpVersion where
  | v4
  | v6
deriving DecidableEq, Inhabited

/-- The words for a version. -/
def IpVersion.text : IpVersion → String
  | v4 => "IPv4"
  | v6 => "IPv6"

instance : ToString IpVersion := ⟨IpVersion.text⟩

/-- What a generated policy or list is for. -/
inductive GeneratedName where
  /-- The export policy shared by the peers of a VRF. -/
  | commonExport (vrf : String)
  /-- The export policy of a peer. -/
  | peerExport (vrf peer : String)
  /-- The import policy of a peer. -/
  | peerImport (vrf peer : String)
  /-- The policy that lets a default route out to a peer. -/
  | defaultRoute (version : IpVersion) (vrf peer : String)
  /-- The policy that activates an aggregate. -/
  | aggregate (version : IpVersion) (vrf block : String)
  /-- The list of the networks that aggregates stand for. -/
  | suppressed (vrf : String)
deriving DecidableEq

/-- The name itself. -/
def GeneratedName.text : GeneratedName → String
  | commonExport vrf => s!"~BGP_COMMON_EXPORT_POLICY:{vrf}~"
  | peerExport vrf peer => s!"~BGP_PEER_EXPORT_POLICY:{vrf}:{peer}~"
  | peerImport vrf peer => s!"~BGP_PEER_IMPORT_POLICY:{vrf}:{peer}~"
  | defaultRoute version vrf peer =>
    s!"~BGP_DEFAULT_ROUTE_PEER_EXPORT_POLICY:{version}:{vrf}:{peer}~"
  | aggregate .v4 vrf block => s!"~AGGREGATE_ROUTE_GEN:{vrf}:{block}~"
  | aggregate .v6 vrf block => s!"~AGGREGATE_ROUTE6_GEN:{vrf}:{block}~"
  | suppressed vrf => s!"~MATCH_SUPPRESSED_SUMMARY_ONLY:{vrf}~"

end NeutralRouting
