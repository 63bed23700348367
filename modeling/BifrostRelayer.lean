import BifrostRelayer.Foundation.Runs
import BifrostRelayer.Foundation.Loops
import BifrostRelayer.Foundation.IndexEdits
import BifrostRelayer.Foundation.Fallible
import BifrostRelayer.Foundation.Interleaving
import BifrostRelayer.Foundation.Barrier
import BifrostRelayer.Foundation.Broadcast
import BifrostRelayer.Foundation.PartitionPoint
import BifrostRelayer.Foundation.Consumers
import BifrostRelayer.Foundation.Ranges
import BifrostRelayer.Foundation.SolidityAbi
import BifrostRelayer.Foundation.Hex
import BifrostRelayer.Foundation.Scale
import BifrostRelayer.Foundation.Keccak
import BifrostRelayer.Foundation.Decimal
import BifrostRelayer.Foundation.Words
import BifrostRelayer.Foundation.Binary64
import BifrostRelayer.Foundation.Tally
import BifrostRelayer.Primitives.Socket
import BifrostRelayer.Primitives.Signatures
import BifrostRelayer.Primitives.Bitcoin
import BifrostRelayer.SocketQueue.Poller
import BifrostRelayer.SocketRelay.PendingEvents
import BifrostRelayer.SocketRelay.Handler
import BifrostRelayer.SocketRelay.Reorg
import BifrostRelayer.Onflight.Handler
import BifrostRelayer.Onflight.Runs
import BifrostRelayer.Rollback.Emitter
import BifrostRelayer.Rollback.Runs
import BifrostRelayer.SocketRelay.Direction
import BifrostRelayer.SocketRelay.Rollbackable
import BifrostRelayer.Bootstrap.Protocol
import BifrostRelayer.Bootstrap.Waiters
import BifrostRelayer.Bootstrap.Phases
import BifrostRelayer.Keystore.Submission
import BifrostRelayer.Keystore.Migration
import BifrostRelayer.Keystore.KeypairStorage
import BifrostRelayer.Keystore.MigrateKeystoreCmd
import BifrostRelayer.Roundup.Emitter
import BifrostRelayer.Roundup.RelayHandler
import BifrostRelayer.Roundup.Runs
import BifrostRelayer.Roundup.BootstrapLoop
import BifrostRelayer.Roundup.Signing
import BifrostRelayer.Roundup.Gate
import BifrostRelayer.Bootstrap.Gated
import BifrostRelayer.Bootstrap.Handover
import BifrostRelayer.Bootstrap.Seam
import BifrostRelayer.Bitcoin.Handlers
import BifrostRelayer.Events.Delivery
import BifrostRelayer.Bitcoin.BlockManager
import BifrostRelayer.Bitcoin.Runs
import BifrostRelayer.Events.Pipeline
import BifrostRelayer.Events.RelayFlow
import BifrostRelayer.Bitcoin.RollbackVerifier
import BifrostRelayer.Bitcoin.PsbtBroadcaster
import BifrostRelayer.Bitcoin.PsbtSigner
import BifrostRelayer.Evm.BootstrapRange
import BifrostRelayer.Evm.ChunkLoops
import BifrostRelayer.Evm.EventManager
import BifrostRelayer.Evm.FlushTransactions
import BifrostRelayer.Evm.Replacement
import BifrostRelayer.Evm.RetryBackoff
import BifrostRelayer.Evm.DefaultAddress
import BifrostRelayer.Payloads.Submissions
import BifrostRelayer.Hooks.Executor
import BifrostRelayer.Hooks.Variants
import BifrostRelayer.Hooks.Fee
import BifrostRelayer.Substrate.UnsignedManager
import BifrostRelayer.Prices.ExchangeRate
import BifrostRelayer.Prices.Vwap
import BifrostRelayer.Prices.Feeder
import BifrostRelayer.Prices.DeviationChecker
import BifrostRelayer.Prices.Chainlink
import BifrostRelayer.Prices.Sources
import BifrostRelayer.Prices.Restarts
import BifrostRelayer.Service.Configuration
import BifrostRelayer.Service.Wiring
