import Agtp.Core.FrameRoundTrip
import Agtp.Core.DocumentStability
import Agtp.Core.UriCodec
import Agtp.Core.GenesisIdentity
import Agtp.Audit.HeadIsolation
import Agtp.Operational.CacheTransparency
import Agtp.Operational.SingleUse
import Agtp.Operational.GatewayEquivalence
import Agtp.Server.AuditCompleteness
import Agtp.Server.Servable
import Agtp.Server.EndpointTiers
import Agtp.Server.GenesisTrust
import Agtp.Server.Interleavings
import Agtp.Server.LifecycleLaws
import Agtp.Server.KeyAuthority
import Agtp.Server.RevocationLaws
import Agtp.Server.GatewayCapabilities
import Agtp.Server.Cose
import Agtp.Server.BackendAgreement
import Agtp.Server.ManifestTruth
import Agtp.Server.CompositionCycles
import Agtp.Server.IdempotencyLaws
import Agtp.Server.Addressability
import Agtp.Server.RateLimitLaws
import Agtp.Synthesis.Bookkeeping
import Agtp.Presence.Convergence
import Agtp.Presence.Removal
import Agtp.Presence.HostileGossip
import Agtp.Presence.IndexCorrectness
import Agtp.Presence.Rollback
import Agtp.Presence.PartitionRuns
import Agtp.Presence.CrossScopeFaults
import Agtp.Presence.CertificateAttributes
import Agtp.Presence.Disclosure
import Agtp.Presence.GossipCodec
import Agtp.Ans.Agreement
import Agtp.Ads.OptOut
import Agtp.Dht.DisjointPaths
import Agtp.Dht.HostilePeers
import Agtp.Tools.RepairLaws
import Agtp.Tools.FaultlessWalk
import Agtp.Audit.Malleability
import Agtp.Presence.ScopeHeader
import Agtp.Server.ContractListing
import Agtp.Server.DeprecationAdvice
import Agtp.Server.EndpointRegistration
import Agtp.Server.LifecycleHistory
import Agtp.Server.PlanSemantics
import Agtp.Server.PolicyPublication
import Agtp.Server.ScopeCommitments
import Agtp.Synthesis.PolicyChoice
import Agtp.Tools.CatalogUpgrade
import Agtp.Tools.InspectionBounds
import Agtp.Server.RegistryRuns
import Agtp.Server.ExternalService
import Agtp.Server.OutboundCalls
import Agtp.Server.RegisterFrames
import Agtp.Ans.Federation
import Agtp.Server.BearerTokens
import Agtp.Core.Suggestions
import Agtp.Operational.CacheLaws
import Agtp.Presence.ScopeKeys
import Agtp.Dht.TableInvariant
import Agtp.Server.ProposalOutcomes
import Agtp.Foundation.WholeFloats
import Agtp.Synthesis.Durations
import Agtp.Core.IssuerResolution
import Agtp.Server.ModuleClient
import Agtp.Server.ModuleRegistration
import Agtp.Tools.Registrar
