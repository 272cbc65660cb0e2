import Relay.Fleet
import Relay.Log.Install
import Relay.Proofs.Building
import Relay.Proofs.Cause
import Relay.Proofs.Chain.Composition
import Relay.Proofs.Conservation
import Relay.Proofs.Counters
import Relay.Proofs.Delivery
import Relay.Proofs.Drained
import Relay.Proofs.Fleet.Separate
import Relay.Proofs.Keeping
import Relay.Proofs.Layouts
import Relay.Proofs.Limit
import Relay.Proofs.Logging.Echo
import Relay.Proofs.Observation.Immaterial
import Relay.Proofs.PassThrough.Invisible
import Relay.Proofs.Pauses.Immaterial
import Relay.Proofs.Privacy.Course
import Relay.Proofs.Readiness
import Relay.Proofs.Recording
import Relay.Proofs.Refusal
import Relay.Proofs.Reporting.Events
import Relay.Proofs.Rounds.FanOut
import Relay.Proofs.Rounds.OddStage
import Relay.Proofs.Routing.Strict
import Relay.Proofs.Run.Growth
import Relay.Proofs.Run.Offering
import Relay.Proofs.Schedule
import Relay.Proofs.Sending.Polls
import Relay.Proofs.States
import Relay.Proofs.Success
import Relay.Proofs.Termination
import Relay.Proofs.Waking
import Relay.Run.Expectation
import Relay.Script.Processor
