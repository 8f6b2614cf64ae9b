import Courier.Config.Json
import Courier.Config.Toml
import Courier.Script.ConnectionBench
import Courier.Script.DatagramBench
import Courier.Script.EndpointDesk
import Courier.Script.Exchange
import Courier.Script.LayerStack
import Courier.Script.QueueDoor
import Courier.Script.SignalBoard
import Courier.Script.TrackerWatch
import Courier.Script.Workshop
import Courier.Proofs.Delivery.Slice
import Courier.Proofs.Delivery.Publication
import Courier.Proofs.Delivery.Transitions
import Courier.Proofs.Delivery.Runs
import Courier.Proofs.Delivery.Outcomes
import Courier.Proofs.Delivery.Resending
import Courier.Proofs.Engine.Deeds
import Courier.Proofs.Engine.Dialogue
import Courier.Proofs.Delivery.Duplicates
import Courier.Proofs.Engine.Service
import Courier.Proofs.Engine.Watching
import Courier.Proofs.Wire.Reassembly
import Courier.Proofs.Wire.Resynchronisation
import Courier.Proofs.Wire.Codec
import Courier.Proofs.Link.Datagrams
import Courier.Proofs.Link.Conservation
import Courier.Proofs.Link.Sessions
import Courier.Proofs.Delivery.Failures
import Courier.Proofs.Engine.Waiting
import Courier.Proofs.Engine.Answers
import Courier.Proofs.Engine.OnceOnly
import Courier.Proofs.Engine.Numbering
import Courier.Proofs.Engine.Reattaching
import Courier.Proofs.Task.Order
import Courier.Proofs.Task.Ledger
import Courier.Proofs.Task.ExitMark
import Courier.Proofs.Task.Incidents
import Courier.Proofs.Task.Closing
import Courier.Proofs.Task.Leaving
import Courier.Proofs.Task.Shutdown
import Courier.Proofs.Task.Oversleeping
import Courier.Proofs.Task.Timing
import Courier.Proofs.Task.Cancelling
import Courier.Proofs.Engine.Errands
import Courier.Proofs.Engine.Lane
import Courier.Proofs.Engine.Joint
import Courier.Proofs.Engine.Ways
import Courier.Proofs.Engine.Headway
import Courier.Proofs.Engine.LosslessCalls
import Courier.Proofs.Delivery.Sending
import Courier.Proofs.Engine.Handling
import Courier.Proofs.Engine.Inbox
import Courier.Proofs.Engine.Inbound
import Courier.Proofs.Delivery.Reentry
import Courier.Proofs.Delivery.Deadlines
import Courier.Proofs.Engine.Soundness
import Courier.Proofs.Engine.Refusals
import Courier.Proofs.Engine.Attempts
import Courier.Proofs.Signal.Snapshot
import Courier.Proofs.Link.Replies
import Courier.Proofs.Config.Budget
import Courier.Proofs.Argument.LeftOver
import Courier.Proofs.Task.Holding
import Courier.Proofs.Task.Switchboard
import Courier.Proofs.Task.Calls
import Courier.Proofs.Task.Crowding
import Courier.Proofs.Task.Doorway
import Courier.Proofs.Wire.Progress
