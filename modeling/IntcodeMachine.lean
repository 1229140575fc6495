import IntcodeMachine.Main
import IntcodeMachine.Proofs.Decoding
import IntcodeMachine.Script
import IntcodeMachine.Proofs.Fetching
import IntcodeMachine.Proofs.Turn
import IntcodeMachine.Proofs.Ideal
import IntcodeMachine.Proofs.Refinement
import IntcodeMachine.Proofs.Failure
import IntcodeMachine.Proofs.Faults
import IntcodeMachine.Proofs.Suspension
import IntcodeMachine.Proofs.Writes
import IntcodeMachine.Proofs.Numerals
import IntcodeMachine.Proofs.Entries
import IntcodeMachine.Proofs.Listings
import IntcodeMachine.Proofs.Devices
import IntcodeMachine.Proofs.Lines
import IntcodeMachine.Proofs.ConsoleRuns
import IntcodeMachine.Proofs.GuardedDecoding
import IntcodeMachine.Proofs.GuardedSteps
import IntcodeMachine.Proofs.Reads
import IntcodeMachine.Proofs.Halting
import IntcodeMachine.Proofs.Messages
import IntcodeMachine.Proofs.Reports
import IntcodeMachine.Proofs.FaultKinds
import IntcodeMachine.Proofs.Encodings
import IntcodeMachine.Proofs.Destinations
import IntcodeMachine.Proofs.Addressing
import IntcodeMachine.Proofs.Rejections
import IntcodeMachine.Proofs.OffCode
import IntcodeMachine.Proofs.EventLog
import IntcodeMachine.Proofs.Deliveries
import IntcodeMachine.Proofs.FullSink
import IntcodeMachine.Proofs.ModePrefixes
import IntcodeMachine.Proofs.Courses
import IntcodeMachine.Proofs.Triples
import IntcodeMachine.Proofs.SelfChecks
