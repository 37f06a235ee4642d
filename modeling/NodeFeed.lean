import NodeFeed.Main
import NodeFeed.Script.Registry
import NodeFeed.Script.Session
import NodeFeed.Proofs.Run
import NodeFeed.Proofs.Acts
import NodeFeed.Proofs.Delivery
import NodeFeed.Proofs.DropOldest
import NodeFeed.Proofs.FilterAgreement
import NodeFeed.Proofs.Reached
import NodeFeed.Proofs.LittleEndian
import NodeFeed.Proofs.Shutdown
import NodeFeed.Proofs.WireFormat
import NodeFeed.Proofs.CloseOnce
import NodeFeed.Proofs.FilterDrift
import NodeFeed.Proofs.Wakeup
import NodeFeed.Proofs.Isolation
import NodeFeed.Proofs.CloseRule
import NodeFeed.Proofs.Deadlock
import NodeFeed.Proofs.Departures
import NodeFeed.Proofs.Cancelling
import NodeFeed.Proofs.Gaps
import NodeFeed.Proofs.Workshop
import NodeFeed.Proofs.WorkerCalls
import NodeFeed.Proofs.StopRace
import NodeFeed.Proofs.FirstDefect
import NodeFeed.Proofs.Filtering
import NodeFeed.Proofs.CounterGaps
import NodeFeed.Proofs.AllOrNothing
import NodeFeed.Proofs.CommandGrammar
import NodeFeed.Proofs.Fanout
import NodeFeed.Proofs.Emptying
import NodeFeed.Proofs.ConsumingEnd
import NodeFeed.Proofs.LossyText
import NodeFeed.Proofs.UnknownLabels
import NodeFeed.Proofs.QueueScripts
