import CertConsole.Main
import CertConsole.Proofs.Procedure
import CertConsole.Proofs.Simulation
import CertConsole.Proofs.Recording
import CertConsole.Proofs.Orderly
import CertConsole.Proofs.Certificate
import CertConsole.Proofs.Utf8
import CertConsole.Proofs.Wire
import CertConsole.Proofs.Stable
import CertConsole.Proofs.WireTrace
import CertConsole.Proofs.Closing
import CertConsole.Proofs.ReplyLine
import CertConsole.Proofs.Transcript
import CertConsole.Proofs.Truthfulness
import CertConsole.Proofs.LineConsole
import CertConsole.Proofs.LineRefinement
import CertConsole.Proofs.Receiver
import CertConsole.Proofs.Steps
import CertConsole.Proofs.Fragmentation
import CertConsole.Proofs.Noise
import CertConsole.Proofs.Origins
import CertConsole.Proofs.Provenance
import CertConsole.Proofs.BootOutput
import CertConsole.Proofs.ProgramRun
import CertConsole.Proofs.Validation
import CertConsole.Proofs.Precedence
import CertConsole.Proofs.JsonReading
import CertConsole.Proofs.Outcome
import CertConsole.Proofs.ClosedPort
import CertConsole.Proofs.OutputOptions
import CertConsole.Proofs.Utf8Sequence
import CertConsole.Proofs.Utf8Chunks
import CertConsole.Proofs.Upkeep
import CertConsole.Proofs.Attended
import CertConsole.Proofs.LogTranscript
import CertConsole.Proofs.Utf8Boundary
import CertConsole.Proofs.LineNoise
import CertConsole.Proofs.FirstLine
import CertConsole.Proofs.LineSequence
import CertConsole.Proofs.Polling
import CertConsole.Proofs.CertificateText
import CertConsole.Proofs.Telling
import CertConsole.Proofs.StoredSize
import CertConsole.Proofs.BrokenOff
import CertConsole.Proofs.StreamProgress
import CertConsole.Proofs.Backlog
import CertConsole.Proofs.CutLines
import CertConsole.Proofs.Handover
import CertConsole.Proofs.ZeroTimeout
import CertConsole.Proofs.Metered
import CertConsole.Proofs.MuteDevice
import CertConsole.Proofs.ReadBudget
