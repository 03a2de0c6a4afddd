import Wnbd.Adapter.AddressAgreement
import Wnbd.Adapter.AddressInvariant
import Wnbd.Adapter.AddressMap
import Wnbd.Adapter.AddressRuns
import Wnbd.Adapter.AddressSteps
import Wnbd.Adapter.Cleanup
import Wnbd.Adapter.Create
import Wnbd.Adapter.Frames
import Wnbd.Adapter.Lifecycle
import Wnbd.Adapter.LifecycleInvariant
import Wnbd.Adapter.LifecycleSteps
import Wnbd.Adapter.Lifetime
import Wnbd.Adapter.PowerCycle
import Wnbd.Adapter.State
import Wnbd.Adapter.StepCases
import Wnbd.Client.Map
import Wnbd.Control.Barrier
import Wnbd.Control.Geometry
import Wnbd.Control.Machine
import Wnbd.Control.Snapshot
import Wnbd.Control.Steps
import Wnbd.Control.UniqueNames
import Wnbd.Device.CallTrace
import Wnbd.Device.Completion
import Wnbd.Device.Frame
import Wnbd.Device.HandOffs
import Wnbd.Device.IdleCheck
import Wnbd.Device.IoGauges
import Wnbd.Device.Machine
import Wnbd.Device.Ownership
import Wnbd.Device.OwnershipSteps
import Wnbd.Device.PageBalance
import Wnbd.Device.QueueMoves
import Wnbd.Device.References
import Wnbd.Device.Reset
import Wnbd.Device.StaleConnection
import Wnbd.Device.StepCases
import Wnbd.Device.SubmittedReqCalls
import Wnbd.Device.SubmittedReqHash
import Wnbd.Device.Teardown
import Wnbd.Device.Wakeup
import Wnbd.Dispatch.BufferBounds
import Wnbd.Dispatch.Element
import Wnbd.Dispatch.Fetch
import Wnbd.Dispatch.FetchAtomic
import Wnbd.Dispatch.Payload
import Wnbd.Dispatch.Response
import Wnbd.EndToEnd.Accounting
import Wnbd.EndToEnd.Acknowledged
import Wnbd.EndToEnd.Addressing
import Wnbd.EndToEnd.Asked
import Wnbd.EndToEnd.Confinement
import Wnbd.EndToEnd.Connection
import Wnbd.EndToEnd.Demux
import Wnbd.EndToEnd.DemuxCases
import Wnbd.EndToEnd.DemuxDriver
import Wnbd.EndToEnd.DemuxSteps
import Wnbd.EndToEnd.DriverQueues
import Wnbd.EndToEnd.InStep
import Wnbd.EndToEnd.LateReply
import Wnbd.EndToEnd.Mapping
import Wnbd.EndToEnd.MappingInvariant
import Wnbd.EndToEnd.MappingSteps
import Wnbd.EndToEnd.Pipeline
import Wnbd.EndToEnd.Progress
import Wnbd.EndToEnd.QuietSteps
import Wnbd.EndToEnd.ReadIntegrity
import Wnbd.EndToEnd.RemainingWork
import Wnbd.EndToEnd.Unmapping
import Wnbd.EndToEnd.WireFrames
import Wnbd.Foundation.Backing
import Wnbd.Foundation.BigEndian
import Wnbd.Foundation.BitMap
import Wnbd.Foundation.ByteReader
import Wnbd.Foundation.CLayout
import Wnbd.Foundation.Counting
import Wnbd.Foundation.Draining
import Wnbd.Foundation.ExactParser
import Wnbd.Foundation.HandOff
import Wnbd.Foundation.HashIndex
import Wnbd.Foundation.LastMatch
import Wnbd.Foundation.LinkedList
import Wnbd.Foundation.ListEntry
import Wnbd.Foundation.Mutex
import Wnbd.Foundation.PageLedger
import Wnbd.Foundation.Placement
import Wnbd.Foundation.Resource
import Wnbd.Foundation.Rundown
import Wnbd.Foundation.StepSystem
import Wnbd.Foundation.SyncEvent
import Wnbd.Foundation.Tally
import Wnbd.Foundation.TracedBuffer
import Wnbd.Ioctl.Accesses
import Wnbd.Ioctl.Bounds
import Wnbd.Ioctl.Commands
import Wnbd.Ioctl.Irp
import Wnbd.Ioctl.Layout
import Wnbd.Ioctl.OptionStore
import Wnbd.Ioctl.OptionUpdates
import Wnbd.Ioctl.OptionValues
import Wnbd.Ioctl.Options
import Wnbd.Ioctl.PersistentOptions
import Wnbd.Ioctl.SystemBuffer
import Wnbd.Ioctl.Transfer
import Wnbd.Libwnbd.DispatcherLoop
import Wnbd.Libwnbd.NameCommands
import Wnbd.Libwnbd.RequestStats
import Wnbd.Nbd.Admission
import Wnbd.Nbd.Daemon
import Wnbd.Nbd.Encoding
import Wnbd.Nbd.ExactTransfer
import Wnbd.Nbd.Exchange
import Wnbd.Nbd.Framing
import Wnbd.Nbd.Grammar
import Wnbd.Nbd.Issued
import Wnbd.Nbd.Negotiate
import Wnbd.Nbd.Reply
import Wnbd.Nbd.ReplyBuffer
import Wnbd.Nbd.Request
import Wnbd.Nbd.ShutdownStuck
import Wnbd.Nbd.Socket
import Wnbd.Nbd.SocketSteps
import Wnbd.Nbd.ThreadSteps
import Wnbd.Nbd.Threads
import Wnbd.Routing.Calls
import Wnbd.Routing.Invariant
import Wnbd.Routing.Queues
import Wnbd.Routing.Registry
import Wnbd.Routing.Responses
import Wnbd.Routing.Steps
import Wnbd.Scsi.Capacity
import Wnbd.Scsi.Cdb
import Wnbd.Scsi.CdbEncoding
import Wnbd.Scsi.Firmware
import Wnbd.Scsi.Inquiry
import Wnbd.Scsi.Operation
import Wnbd.Scsi.Srb
import Wnbd.Scsi.SyncCommands
import Wnbd.Scsi.UnmapList
import Wnbd.Scsi.VpdPages
