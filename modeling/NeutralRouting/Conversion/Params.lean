import NeutralRouting.Protocol

/-!
# Conversion parameters

Platform constants that a conversion fills in.
-/

namespace NeutralRouting

/-- Platform constants. -/
structure ConversionParams where
  /-- Administrative distance of routes from external BGP peers. -/
  ebgpAdmin : UInt32
  /-- Administrative distance of routes from internal BGP peers. -/
  ibgpAdmin : UInt32
  /-- Administrative distance of aggregates. -/
  aggregateAdmin : UInt32
  /-- Administrative distance of the default routes originated towards peers. -/
  defaultRouteAdmin : UInt32
  /-- Reference bandwidth of OSPF, in bits per second. -/
  ospfReferenceBandwidth : UInt64
  /-- Name of the OSPF processes. -/
  ospfProcess : String
deriving DecidableEq

namespace ConversionParams

/-- The constants of a platform that says nothing else. -/
def standard : ConversionParams where
  ebgpAdmin := Protocol.adminDistance .bgp
  ibgpAdmin := Protocol.adminDistance .ibgp
  aggregateAdmin := Protocol.adminDistance .aggregate
  defaultRouteAdmin := 32767
  ospfReferenceBandwidth := 100000000
  ospfProcess := "default"

/-- One line per group of constants. -/
def text (params : ConversionParams) : String :=
  "Conversion parameters\n" ++
  s!"  BGP distances : ebgp {params.ebgpAdmin} ibgp {params.ibgpAdmin}\n" ++
  s!"  aggregates    : {params.aggregateAdmin}\n" ++
  s!"  default route : {params.defaultRouteAdmin}\n" ++
  s!"  OSPF          : process {params.ospfProcess} ref-bw {params.ospfReferenceBandwidth}\n"

end ConversionParams
end NeutralRouting
