import Plugboard.Bridge.Basic
import Plugboard.Bridge.Directory
import Plugboard.Console.Args
import Plugboard.Console.Basic
import Plugboard.Console.BridgeSteps
import Plugboard.Console.Build
import Plugboard.Console.BusSteps
import Plugboard.Console.HubSteps
import Plugboard.Console.InstanceSteps
import Plugboard.Console.ManagerSteps
import Plugboard.Console.Pure
import Plugboard.Console.RegistrySteps
import Plugboard.Console.Reply
import Plugboard.Console.Stamp
import Plugboard.Console.StoreSteps
import Plugboard.Console.Turn
import Plugboard.Decimal.Shortest
import Plugboard.Discovery.Basic
import Plugboard.Discovery.Query
import Plugboard.Discovery.Score
import Plugboard.Disk.Basic
import Plugboard.Disk.Path
import Plugboard.Env
import Plugboard.Error
import Plugboard.Hub.Basic
import Plugboard.Hub.Config
import Plugboard.Json.Read
import Plugboard.Json.Shape
import Plugboard.Json.ShapeRead
import Plugboard.Json.Value
import Plugboard.Json.Write
import Plugboard.Loader.Basic
import Plugboard.Loader.Instance
import Plugboard.Loader.Manifest
import Plugboard.Logging
import Plugboard.Proofs.Disk
import Plugboard.Proofs.Exec
import Plugboard.Proofs.ManagerCalls
import Plugboard.Proofs.ManagerRuns
import Plugboard.Proofs.Lifecycle
import Plugboard.Proofs.Broadcast
import Plugboard.Proofs.Sampling
import Plugboard.Proofs.HealthVerdict
import Plugboard.Proofs.Simulation
import Plugboard.Proofs.SandboxMembership
import Plugboard.Proofs.IterationOrder
import Plugboard.Proofs.Pages
import Plugboard.Proofs.Ranking
import Plugboard.Proofs.Similarity
import Plugboard.Proofs.Recommendations
import Plugboard.Proofs.ServiceDirectory
import Plugboard.Proofs.WatchStream
import Plugboard.Proofs.FileStore
import Plugboard.Proofs.MemoryStore
import Plugboard.Proofs.StoreCalls
import Plugboard.Proofs.StoreInterchange
import Plugboard.Proofs.Tier
import Plugboard.Proofs.Cache
import Plugboard.Proofs.StoreFailure
import Plugboard.Proofs.RegistryFailure
import Plugboard.Proofs.RegistryStore
import Plugboard.Proofs.BusDelivery
import Plugboard.Proofs.Announcements
import Plugboard.Proofs.LoadMetadata
import Plugboard.Proofs.SavedRecords
import Plugboard.Proofs.HubSteps
import Plugboard.Proofs.HubAlignment
import Plugboard.Proofs.RegistrationTime
import Plugboard.Proofs.ManifestLifecycle
import Plugboard.Proofs.ManifestGrammar
import Plugboard.Proofs.TextMatch
import Plugboard.Proofs.ListedFiles
import Plugboard.Proofs.StoreMirror
import Plugboard.Proofs.HubStorage
import Plugboard.Proofs.RegistryRaces
import Plugboard.Proofs.ManagerRaces
import Plugboard.Registration.Basic
import Plugboard.Registration.Codec
import Plugboard.Registration.Filter
import Plugboard.Registration.Status
import Plugboard.Registry.Basic
import Plugboard.Registry.Events
import Plugboard.Registry.Interleaved
import Plugboard.Runtime.Interleaved
import Plugboard.Runtime.Manager
import Plugboard.Runtime.Sandbox
import Plugboard.Store.Basic
import Plugboard.Store.File
import Plugboard.Store.Memory
import Plugboard.Text.Blank
import Plugboard.Text.ByteOrder
import Plugboard.Text.Case
import Plugboard.Text.CaseTable
import Plugboard.Time
