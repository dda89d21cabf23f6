import IdealNetwork.Lib.Arith
import IdealNetwork.Lib.Scale
import IdealNetwork.Lib.ScaleDecode
import IdealNetwork.Lib.ScaleCanonical
import IdealNetwork.Lib.StorageMap
import IdealNetwork.Lib.Action
import IdealNetwork.Lib.Holds
import IdealNetwork.Lib.Payments
import IdealNetwork.Lib.Runs
import IdealNetwork.Lib.Pairing
import IdealNetwork.Lib.Slot
import IdealNetwork.Lib.Tiers
import IdealNetwork.Lib.Fifo
import IdealNetwork.Types
import IdealNetwork.Codec
import IdealNetwork.Manager.Fees
import IdealNetwork.Manager.Tariff
import IdealNetwork.Manager.Pallet
import IdealNetwork.Manager.Effects
import IdealNetwork.Manager.Run
import IdealNetwork.Manager.Accounts
import IdealNetwork.Runtime
import IdealNetwork.Manager.FeeBacking
import IdealNetwork.Manager.Stranded
import IdealNetwork.Manager.Charging
import IdealNetwork.Manager.Deposits
import IdealNetwork.Manager.Pricing
import IdealNetwork.Manager.Records
import IdealNetwork.Manager.Service
import IdealNetwork.Manager.Conservation
import IdealNetwork.Manager.Schedule
import IdealNetwork.Manager.Lifetime
import IdealNetwork.Manager.Lifecycle
import IdealNetwork.Manager.Isolation
import IdealNetwork.Manager.Counting
import IdealNetwork.Manager.Commutation
import IdealNetwork.Manager.Finalizing
import IdealNetwork.Manager.Expiry
import IdealNetwork.Crypto
import IdealNetwork.Beacon.Pallet
import IdealNetwork.Beacon.Ingestion
import IdealNetwork.Chain
import IdealNetwork.Beacon.Authentication
import IdealNetwork.Beacon.Work
import IdealNetwork.Beacon.Pool
import IdealNetwork.Beacon.Randomness
import IdealNetwork.Client.Worker
import IdealNetwork.Client.Interleaving
import IdealNetwork.Client.Retries
import IdealNetwork.Client.Gadget
import IdealNetwork.Client.Receiver
import IdealNetwork.Client.Gossip
import IdealNetwork.Client.Runner
import IdealNetwork.Client.Rounds
import IdealNetwork.Client.Selection
import IdealNetwork.Client.Collation
import IdealNetwork.Client.Progress
import IdealNetwork.Contracts.Client
import IdealNetwork.Contracts.Answers
import IdealNetwork.Contracts.Quotes
import IdealNetwork.Contracts.Example
import IdealNetwork.Bridge
import IdealNetwork.Consumer.Pallet
import IdealNetwork.Consumer.Wire
import IdealNetwork.Consumer.Requests
import IdealNetwork.Canonical
import IdealNetwork.Xcm
import IdealNetwork.Consumer.Remote
import IdealNetwork.Consumer.Readings
import IdealNetwork.Network.System
import IdealNetwork.Network.Authentic
import IdealNetwork.Network.Delivery
