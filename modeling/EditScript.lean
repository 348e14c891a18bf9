import EditScript.Assist.Dialogue
import EditScript.Assist.Schedule
import EditScript.Assist.Program
import EditScript.Codec.Document
import EditScript.Codec.Queue
import EditScript.CommandLine.Run
import EditScript.Main
import EditScript.Proofs.Command.RoundTrip
import EditScript.Proofs.Session.Agreement
import EditScript.Proofs.Session.Announcements
import EditScript.Proofs.Session.Attempts
import EditScript.Proofs.State.Bounds
import EditScript.Proofs.Session.Log
import EditScript.Proofs.Session.Slots
import EditScript.Session
import EditScript.Proofs.Script
import EditScript.Proofs.CommandLine.Transcript
import EditScript.Proofs.CommandLine.Arguments
import EditScript.Proofs.Json.Document
import EditScript.Proofs.CommandLine.Modes
import EditScript.Proofs.Sequence.Erasure
import EditScript.Proofs.State.Alike
import EditScript.Proofs.Context
import EditScript.Proofs.Assist.Cancellation
import EditScript.Proofs.Assist.Independence
import EditScript.Proofs.Assist.Pairing
import EditScript.Proofs.Assist.Schedule
import EditScript.Proofs.Script.RoundTrip
import EditScript.Proofs.Codec.Formats
import EditScript.Proofs.Bus.Delivery
import EditScript.Proofs.Command.Meaning
import EditScript.Proofs.Command.Run
import EditScript.Proofs.Command.Typing
import EditScript.Proofs.Command.Replacement
import EditScript.Proofs.Command.Refusal
import EditScript.Proofs.Buffer.Position
import EditScript.Proofs.Context.Account
import EditScript.Proofs.Buffer.Calls
import EditScript.Proofs.Outcome.Folding
import EditScript.Proofs.Script.Extraction
import EditScript.Proofs.Sequence.Marking
import EditScript.Proofs.Codec.Outcome
import EditScript.Proofs.CommandLine.Report
import EditScript.Proofs.Codec.Document
