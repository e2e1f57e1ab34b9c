import CwebHighlight.CommandLine.Run
import CwebHighlight.FileTree
import CwebHighlight.Flag
import CwebHighlight.Main
import CwebHighlight.Render
import CwebHighlight.Rpc.Framing
import CwebHighlight.Rpc.Program
import CwebHighlight.Server.Step
import CwebHighlight.Settings.Load
import CwebHighlight.Proofs.CommandLine.Flag
import CwebHighlight.Proofs.Render.Recovery
import CwebHighlight.Proofs.Legend.Decoding
import CwebHighlight.Proofs.Scan.Polls
import CwebHighlight.Proofs.Scan.Resynchronisation
import CwebHighlight.Proofs.Server.Agreement
import CwebHighlight.Proofs.Server.Cleanup
import CwebHighlight.Proofs.Server.Endings
import CwebHighlight.Proofs.Server.Freshness
import CwebHighlight.Proofs.Settings.Precedence
import CwebHighlight.Proofs.Text.Lines
import CwebHighlight.Proofs.Wire.Pushes
import CwebHighlight.Proofs.Scan.Events
import CwebHighlight.Proofs.Scan.Breaks
import CwebHighlight.Proofs.Wire.Canonical
import CwebHighlight.Proofs.Wire.Faults
import CwebHighlight.Proofs.CommandLine.Bytes
import CwebHighlight.Proofs.Flag.Families
import CwebHighlight.Proofs.Legend.Equality
import CwebHighlight.Proofs.Legend.Modifiers
import CwebHighlight.Proofs.Render.Entries
