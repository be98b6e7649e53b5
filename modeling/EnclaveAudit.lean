import EnclaveAudit.Audit.Ledger
import EnclaveAudit.Audit.Plan
import EnclaveAudit.Audit.Report
import EnclaveAudit.Audit.Run
import EnclaveAudit.Audit.Scenario
import EnclaveAudit.Bytes
import EnclaveAudit.Calendar.Day
import EnclaveAudit.Calendar.Moment
import EnclaveAudit.Check.Bank
import EnclaveAudit.Check.Basic
import EnclaveAudit.Check.Examination
import EnclaveAudit.Check.Outcome
import EnclaveAudit.Check.Violation
import EnclaveAudit.Clock
import EnclaveAudit.CommandLine.Grammar
import EnclaveAudit.CommandLine.Program
import EnclaveAudit.CommandLine.Reading
import EnclaveAudit.CommandLine.Usage
import EnclaveAudit.Cryptography.Digest
import EnclaveAudit.Cryptography.Ed25519
import EnclaveAudit.Cryptography.Primitives
import EnclaveAudit.Cryptography.Sha2
import EnclaveAudit.Device.Answer
import EnclaveAudit.Device.Contract
import EnclaveAudit.Device.Description
import EnclaveAudit.Device.Operation
import EnclaveAudit.Device.Register
import EnclaveAudit.Device.Session
import EnclaveAudit.Device.Status
import EnclaveAudit.Device.Transport
import EnclaveAudit.DeviceFile.Errno
import EnclaveAudit.DeviceFile.Transport
import EnclaveAudit.Journal.Entry
import EnclaveAudit.Journal.Failure
import EnclaveAudit.Journal.Level
import EnclaveAudit.Journal.Logbook
import EnclaveAudit.Journal.Notice
import EnclaveAudit.Journal.Record
import EnclaveAudit.Journal.Template
import EnclaveAudit.Main
import EnclaveAudit.Number.Binary64
import EnclaveAudit.Number.DecimalFraction
import EnclaveAudit.Number.Layout
import EnclaveAudit.Number.Places
import EnclaveAudit.Number.Shortest
import EnclaveAudit.Proofs.Audit.Account
import EnclaveAudit.Proofs.Audit.Agreement
import EnclaveAudit.Proofs.Audit.Closing
import EnclaveAudit.Proofs.Audit.Conformance
import EnclaveAudit.Proofs.Audit.Consistency
import EnclaveAudit.Proofs.Audit.Course
import EnclaveAudit.Proofs.Audit.Deciding
import EnclaveAudit.Proofs.Audit.Dialogue
import EnclaveAudit.Proofs.Audit.Ending
import EnclaveAudit.Proofs.Audit.Judging
import EnclaveAudit.Proofs.Audit.Keeping
import EnclaveAudit.Proofs.Audit.Messages
import EnclaveAudit.Proofs.Audit.Objections
import EnclaveAudit.Proofs.Audit.Rehearsed
import EnclaveAudit.Proofs.Audit.Release
import EnclaveAudit.Proofs.Audit.Reporting
import EnclaveAudit.Proofs.Audit.Requests
import EnclaveAudit.Proofs.Audit.Script
import EnclaveAudit.Proofs.Audit.Tally
import EnclaveAudit.Proofs.Audit.Trail
import EnclaveAudit.Proofs.Audit.Verdict
import EnclaveAudit.Proofs.Check.Passing
import EnclaveAudit.Proofs.Device.Answer
import EnclaveAudit.Proofs.Device.Session
import EnclaveAudit.Proofs.DeviceFile.Backed
import EnclaveAudit.Proofs.DeviceFile.Boundary
import EnclaveAudit.Proofs.DeviceFile.Exchange
import EnclaveAudit.Proofs.DeviceFile.Refusals
import EnclaveAudit.Proofs.DeviceFile.Release
import EnclaveAudit.Proofs.Simulator.Bank
import EnclaveAudit.Proofs.Simulator.Document
import EnclaveAudit.Proofs.Simulator.Findings
import EnclaveAudit.Proofs.Simulator.Isolation
import EnclaveAudit.Proofs.Simulator.Machine
import EnclaveAudit.Proofs.Simulator.Messages
import EnclaveAudit.Proofs.Simulator.Reading
import EnclaveAudit.Proofs.Simulator.Speaking
import EnclaveAudit.Proofs.Simulator.Transcript
import EnclaveAudit.Proofs.Simulator.Turns
import EnclaveAudit.Proofs.Simulator.Verdict
import EnclaveAudit.Proofs.Wire.RoundTrip
import EnclaveAudit.Proofs.Wire.Size
import EnclaveAudit.Rehearsal.Replay
import EnclaveAudit.Rehearsal.Scripted
import EnclaveAudit.Rehearsal.Tapped
import EnclaveAudit.Simulator.Bank
import EnclaveAudit.Simulator.Document
import EnclaveAudit.Simulator.Firmware
import EnclaveAudit.Simulator.Settings
import EnclaveAudit.Simulator.Transport
import EnclaveAudit.Suite.Complaint
import EnclaveAudit.Suite.Environment
import EnclaveAudit.Suite.Parameters
import EnclaveAudit.Suite.Reading
import EnclaveAudit.Text.Blank
import EnclaveAudit.Text.Digit
import EnclaveAudit.Text.Identifier
import EnclaveAudit.Text.Mail
import EnclaveAudit.Text.Pattern
import EnclaveAudit.Text.Printable
import EnclaveAudit.Text.Quoted
import EnclaveAudit.Text.Uppercase
import EnclaveAudit.Wire.Address
import EnclaveAudit.Wire.Cbor.Decoding
import EnclaveAudit.Wire.Cbor.Encoding
import EnclaveAudit.Wire.Cbor.Malformed
import EnclaveAudit.Wire.Cbor.Tags
import EnclaveAudit.Wire.Denoted
import EnclaveAudit.Wire.Json
import EnclaveAudit.Wire.Literal
import EnclaveAudit.Wire.SlotOrder
import EnclaveAudit.Wire.Value
import EnclaveAudit.Proofs.Device.Outcomes
import EnclaveAudit.Proofs.Check.Complements
import EnclaveAudit.Proofs.Simulator.Places
import EnclaveAudit.Proofs.Simulator.Validation
import EnclaveAudit.Proofs.Simulator.Attestation
import EnclaveAudit.Proofs.Simulator.BulkLocking
import EnclaveAudit.Proofs.Simulator.Counting
import EnclaveAudit.Proofs.DeviceFile.Lifecycle
import EnclaveAudit.Proofs.Audit.Memory
import EnclaveAudit.Proofs.Audit.Attribution
import EnclaveAudit.Proofs.Check.InitialState
import EnclaveAudit.Proofs.Audit.Setup
import EnclaveAudit.Proofs.Audit.Reuse
import EnclaveAudit.Proofs.Audit.LockedStart
import EnclaveAudit.Proofs.Simulator.Observing
import EnclaveAudit.Proofs.Simulator.Consumption
import EnclaveAudit.Proofs.Simulator.Outline
import EnclaveAudit.Proofs.Text.Decimal
import EnclaveAudit.Proofs.Suite.Loading
import EnclaveAudit.Proofs.Wire.Json
import EnclaveAudit.Proofs.Audit.Showing
import EnclaveAudit.Proofs.Audit.Documents
import EnclaveAudit.Proofs.CommandLine.ExitCodes
