import Scopelight.Highlighter
import Scopelight.Main
import Scopelight.Text.Quoted
import Scopelight.Proofs.Highlighter
import Scopelight.Proofs.State
import Scopelight.Proofs.Coverage
import Scopelight.Proofs.Termination
import Scopelight.Proofs.Registration
import Scopelight.Proofs.Shown
import Scopelight.Proofs.Bare
import Scopelight.Proofs.LineEndings
import Scopelight.Proofs.Locality
import Scopelight.Proofs.Failures
import Scopelight.Proofs.Snapshots
import Scopelight.Proofs.RoundTrip
import Scopelight.Proofs.Rearrangement
import Scopelight.Proofs.Course
import Scopelight.Proofs.Splicing
import Scopelight.Proofs.Ties
import Scopelight.Proofs.Conditions
import Scopelight.Proofs.CaptureScopes
import Scopelight.Proofs.Openings
import Scopelight.Proofs.Reuse
import Scopelight.Proofs.Extensions
import Scopelight.Proofs.Literal
import Scopelight.Proofs.References
import Scopelight.Proofs.Lexical
import Scopelight.Proofs.DeadAnchors
import Scopelight.Proofs.Selectors
import Scopelight.Proofs.Dependencies
import Scopelight.Proofs.Refusals
import Scopelight.Proofs.Exclusions
import Scopelight.Proofs.Placeholders
import Scopelight.Proofs.Merging
import Scopelight.Proofs.Respelled
import Scopelight.Proofs.Partition
import Scopelight.Proofs.Escapes
import Scopelight.Proofs.Checks
import Scopelight.Proofs.CaptureTables
