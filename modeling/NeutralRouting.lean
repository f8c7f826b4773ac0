import NeutralRouting.Conversion.Whole
import NeutralRouting.Document.Configuration
import NeutralRouting.Document.Device
import NeutralRouting.Policy.Text
import NeutralRouting.Proofs.Failure
import NeutralRouting.Proofs.PeerPolicy
import NeutralRouting.RouteMap.Decision
import NeutralRouting.Text.Pattern
import NeutralRouting.Proofs.Generated
import NeutralRouting.Proofs.Inventory
import NeutralRouting.Proofs.Contents
import NeutralRouting.Proofs.GeneratedReferences
import NeutralRouting.Proofs.UndefinedRouteMaps
import NeutralRouting.Proofs.Integrity
import NeutralRouting.Proofs.CallDepth
import NeutralRouting.Proofs.CallGraph
import NeutralRouting.Proofs.AttachmentOrder
import NeutralRouting.Proofs.RoutedVrfs
import NeutralRouting.Proofs.NextHops
import NeutralRouting.Proofs.OspfSources
import NeutralRouting.Proofs.VniWarnings
import NeutralRouting.Proofs.VrfIsolation
import NeutralRouting.Proofs.EarlierWarnings
import NeutralRouting.Proofs.FirstCome
import NeutralRouting.Proofs.GroupChain
import NeutralRouting.Proofs.Inheritance
import NeutralRouting.Proofs.GroupKinds
import NeutralRouting.Proofs.LineBounds
import NeutralRouting.Proofs.AggregateSuppression
import NeutralRouting.Proofs.AsnSpaceArithmetic
import NeutralRouting.Proofs.Numerals
import NeutralRouting.Proofs.PrefixCovering
import NeutralRouting.Proofs.PrefixText
import NeutralRouting.Proofs.InterfaceAddressText
import NeutralRouting.Proofs.PolicyTree
import NeutralRouting.Proofs.VrfIndices
import NeutralRouting.Proofs.AsPathLists
import NeutralRouting.Proofs.RouteTargets
import NeutralRouting.Proofs.LocalAddresses
import NeutralRouting.Proofs.SessionAddresses
import NeutralRouting.Proofs.PolicyLayout
import NeutralRouting.Proofs.RouterIds
import NeutralRouting.Proofs.PrefixListNumbers
import NeutralRouting.Proofs.RouteMapNumbers
