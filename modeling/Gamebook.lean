import Gamebook.Main
import Gamebook.Script.Session
import Gamebook.Proofs.Entry
import Gamebook.Proofs.Places
import Gamebook.Proofs.Pointers
import Gamebook.Proofs.Coherence
import Gamebook.Proofs.Ledger
import Gamebook.Proofs.Growth
import Gamebook.Proofs.Simulation
import Gamebook.Proofs.Moves
import Gamebook.Proofs.Stages
import Gamebook.Proofs.Stops
import Gamebook.Proofs.Recognition
import Gamebook.Proofs.WellFormed
import Gamebook.Proofs.Rendering
import Gamebook.Proofs.Prefixes
import Gamebook.Proofs.Scopes
import Gamebook.Proofs.Lines
import Gamebook.Proofs.Bytes
import Gamebook.Proofs.Cursors
import Gamebook.Proofs.Segments
import Gamebook.Proofs.Partition
import Gamebook.Proofs.Printing
import Gamebook.Proofs.NormalForm
import Gamebook.Proofs.Validation
import Gamebook.Proofs.Concatenation
import Gamebook.Proofs.History
import Gamebook.Proofs.Modes
import Gamebook.Proofs.Homes
import Gamebook.Proofs.Additions
import Gamebook.Proofs.Layout
import Gamebook.Proofs.Links
import Gamebook.Proofs.Census
import Gamebook.Proofs.Lexemes
import Gamebook.Proofs.Reading
import Gamebook.Proofs.Records
import Gamebook.Proofs.Warnings
import Gamebook.Proofs.Commands
import Gamebook.Proofs.Extensions
import Gamebook.Proofs.Alternatives
import Gamebook.Proofs.Positions
import Gamebook.Proofs.SourceLines
import Gamebook.Proofs.BlankLines
import Gamebook.Proofs.Precedence
import Gamebook.Proofs.Sessions
import Gamebook.Proofs.Respelling
import Gamebook.Proofs.LineEnds
import Gamebook.Proofs.Ink
import Gamebook.Proofs.Splitting
import Gamebook.Proofs.Verdicts
import Gamebook.Proofs.Spellings
import Gamebook.Proofs.Printout
import Gamebook.Proofs.Diagnostics
import Gamebook.Proofs.Addresses
import Gamebook.Proofs.Trees
import Gamebook.Proofs.Outlines
