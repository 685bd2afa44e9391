import LogosRln.Core.Run
import LogosRln.Core.ByteFraming
import LogosRln.Core.TagLog
import LogosRln.Core.LeaseTable
import LogosRln.Core.OrderedMap
import LogosRln.Core.Ascii
import LogosRln.Api
import LogosRln.Json
import LogosRln.ReferenceJson
import LogosRln.RegistryId
import LogosRln.RateLimit
import LogosRln.ClockSpike
import LogosRln.Lifecycle
import LogosRln.Provider
import LogosRln.Selection
import LogosRln.SealedStore.Crypto
import LogosRln.SealedStore.Format
import LogosRln.SealedStore.AttributableTamper
import LogosRln.SealedStore.CanonicalBytes
import LogosRln.SealedStore.Files
import LogosRln.SealedStore.Store
import LogosRln.SealedStore.Specs
import LogosRln.SealedStore.Machine
import LogosRln.SealedStore.Verification
import LogosRln.SealedStore.Progress
import LogosRln.SealedStore.Reference
import LogosRln.SealedStore.Quota
import LogosRln.SealedStore.NoReissue
import LogosRln.SealedStore.Quarantine
import LogosRln.SealedStore.HealthyWrites
import LogosRln.SealedStore.Capacity
import LogosRln.SealedStore.CrashedInsert
import LogosRln.SealedStore.RowCap
import LogosRln.SealedStore.Refusals
import LogosRln.SealedStore.LedgerTamper
import LogosRln.SealedStore.FailedInsert
import LogosRln.SealedStore.Records
import LogosRln.Callers.RowWrites
import LogosRln.Callers.RegistryOptions
import LogosRln.Maintenance.Supervisor
import LogosRln.Maintenance.Poller
import LogosRln.Maintenance.StopBound
import LogosRln.Callers.Threads
import LogosRln.Callers.Register
import LogosRln.Callers.Provision
import LogosRln.Callers.Node
import LogosRln.Callers.Rows
import LogosRln.Callers.Interleaving
import LogosRln.Callers.Confirmed
import LogosRln.Callers.MergedView
import LogosRln.Callers.LeafIndex
import LogosRln.Callers.StateEvents
import LogosRln.Callers.Tickets
import LogosRln.Callers.Claims
import LogosRln.Callers.Scopes
import LogosRln.Callers.Presence
import LogosRln.Core.MerkleFold
import LogosRln.Proofs.DepthBridge
import LogosRln.Proofs.RootWindow
import LogosRln.Proofs.PathCache
import LogosRln.Proofs.Prover
import LogosRln.Proofs.NullifierLog
import LogosRln.Proofs.Handlers
import LogosRln.Proofs.Generation
import LogosRln.Proofs.Sample
import LogosRln.Proofs.PathReplies
import LogosRln.Proofs.WireShapes
import LogosRln.Registry.MerkleProof
import LogosRln.Registry.RegistryPaths
import LogosRln.Registry.HexCodec
import LogosRln.CanonicalIds
import LogosRln.Core.Positional
import LogosRln.Registry.Base58
import LogosRln.Registry.CheckRegister
import LogosRln.Registry.LeafSearch
import LogosRln.Core.Rotation
import LogosRln.Fairness
import LogosRln.Keychain
import LogosRln.Proofs.WindowWriters
import LogosRln.Proofs.DoubleSignals
import LogosRln.Registry.ChainReads
import LogosRln.Registry.MembershipReply
import LogosRln.Registry.ChainSample
import LogosRln.Registry.RegisterMember
import LogosRln.Registry.InFlight
import LogosRln.Registry.NetworkSelection
import LogosRln.Callers.Removals
import LogosRln.Core.Simulation
import LogosRln.Core.Vault
