import Gamebook.Machine.Inspect
import Gamebook.Main
import Gamebook.Proofs.Compile.Faults
import Gamebook.Proofs.Compile.Fragments
import Gamebook.Proofs.Compile.Told
import Gamebook.Proofs.Machine.Ending
import Gamebook.Proofs.Machine.Restoring
import Gamebook.Proofs.Machine.Suspension
import Gamebook.Proofs.Program.Braces
import Gamebook.Proofs.Compile.Acceptance
import Gamebook.Proofs.Compile.Stream
import Gamebook.Proofs.Compile.Jumps
import Gamebook.Proofs.Compile.Pace
import Gamebook.Proofs.Program.Scan
import Gamebook.Proofs.Compile.Kept
import Gamebook.Proofs.Machine.Bounds
import Gamebook.Proofs.Machine.Format
import Gamebook.Proofs.Machine.Sessions
import Gamebook.Proofs.Machine.Resolution
import Gamebook.Proofs.Machine.Depth
import Gamebook.Proofs.Trial.Soundness
import Gamebook.Proofs.Compile.Spans
import Gamebook.Proofs.Machine.Refusal
import Gamebook.Proofs.Compile.Offering
import Gamebook.Proofs.Code.Words
import Gamebook.Proofs.Code.Grammar
import Gamebook.Proofs.Code.Printing
import Gamebook.Proofs.Compile.Interchange
import Gamebook.Proofs.Compile.Comments
import Gamebook.Proofs.Story.Flattening
import Gamebook.Proofs.Story.Joining
import Gamebook.Proofs.Story.Options
import Gamebook.Proofs.Story.Merging
import Gamebook.Proofs.Story.Schema
import Gamebook.Proofs.CommandLine.Selection
import Gamebook.Proofs.Trial.FrontMatter
import Gamebook.Proofs.CommandLine.Dialogue
import Gamebook.Proofs.Compile.Warnings
import Gamebook.Proofs.Program.Listing
import Gamebook.Proofs.Compile.Escapes
