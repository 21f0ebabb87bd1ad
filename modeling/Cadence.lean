import Cadence.Proofs.AckDelivery
import Cadence.Proofs.AckSizes
import Cadence.Proofs.Answers
import Cadence.Proofs.Arrival
import Cadence.Proofs.Assignments
import Cadence.Proofs.Commands
import Cadence.Proofs.CountPublication
import Cadence.Proofs.Datagrams
import Cadence.Proofs.DiscoveryExchange
import Cadence.Proofs.Exclusion
import Cadence.Proofs.FanOut
import Cadence.Proofs.FirstAnswer
import Cadence.Proofs.ForwardCompatibility
import Cadence.Proofs.FrameReading
import Cadence.Proofs.GracefulStop
import Cadence.Proofs.Layout
import Cadence.Proofs.LetterCase
import Cadence.Proofs.LineFormat
import Cadence.Proofs.LineReading
import Cadence.Proofs.LiveSessions
import Cadence.Proofs.LockStep
import Cadence.Proofs.Membership
import Cadence.Proofs.MembershipEvents
import Cadence.Proofs.MessageRoundTrip
import Cadence.Proofs.MicrosecondCounts
import Cadence.Proofs.ModuleSteps
import Cadence.Proofs.ModuleStream
import Cadence.Proofs.NestedWriting
import Cadence.Proofs.OpenRuns
import Cadence.Proofs.OutboundOrder
import Cadence.Proofs.OutboundQueues
import Cadence.Proofs.Output
import Cadence.Proofs.Ownership
import Cadence.Proofs.Pacing
import Cadence.Proofs.Pulses
import Cadence.Proofs.RecordLists
import Cadence.Proofs.Scoping
import Cadence.Proofs.SectionSpelling
import Cadence.Proofs.SessionRun
import Cadence.Proofs.SessionStream
import Cadence.Proofs.SettingsLookup
import Cadence.Proofs.SettingsReadBack
import Cadence.Proofs.SettingsTransfer
import Cadence.Proofs.ShiftedPulses
import Cadence.Proofs.Shutdown
import Cadence.Proofs.StreamWriting
import Cadence.Proofs.TickDuration
import Cadence.Proofs.Transport
import Cadence.Proofs.WakeUps
import Cadence.Proofs.WordEnds
import Cadence.Simulation.Bench
import Cadence.Simulation.ModuleBench
import Cadence.Simulation.SessionBench
import Cadence.Simulation.SupercomponentBench
import Cadence.Supercomponent.Basic
