import Mosaic.Main
import Mosaic.Proofs.Numeral
import Mosaic.Proofs.Forms
import Mosaic.Proofs.Pairing
import Mosaic.Proofs.Walk
import Mosaic.Proofs.Course
import Mosaic.Proofs.Precedence
import Mosaic.Proofs.Complaints
import Mosaic.Proofs.Shape
import Mosaic.Proofs.Labelling
import Mosaic.Proofs.Layout
import Mosaic.Proofs.Outline
import Mosaic.Proofs.Clauses
import Mosaic.Proofs.Segment
import Mosaic.Proofs.RoundTrip
import Mosaic.Proofs.Unbounded
import Mosaic.Proofs.Range
import Mosaic.Proofs.Agreement
import Mosaic.Proofs.Overflow
import Mosaic.Proofs.Schedule
import Mosaic.Proofs.Pool
import Mosaic.Proofs.Moments
import Mosaic.Proofs.Typing
import Mosaic.Proofs.TypeSafety
import Mosaic.Proofs.Renaming
import Mosaic.Proofs.Lexing
import Mosaic.Proofs.Spelling
import Mosaic.Proofs.Storage
import Mosaic.Proofs.Lossless
import Mosaic.Proofs.Cells
import Mosaic.Proofs.Coherence
import Mosaic.Proofs.Pointing
import Mosaic.Proofs.History
import Mosaic.Proofs.Searching
import Mosaic.Proofs.Passage
import Mosaic.Proofs.Concatenation
import Mosaic.Proofs.Corners
import Mosaic.Proofs.Assurance
import Mosaic.Proofs.Mirrors
import Mosaic.Proofs.Unread
import Mosaic.Proofs.Comparing
import Mosaic.Proofs.Blanking
import Mosaic.Proofs.Firsts
import Mosaic.Proofs.Inventory
import Mosaic.Proofs.Grouping
import Mosaic.Proofs.Lettering
import Mosaic.Proofs.Tracing
import Mosaic.Proofs.Reading
import Mosaic.Proofs.Members
import Mosaic.Proofs.Rearranging
import Mosaic.Proofs.Namesakes
import Mosaic.Proofs.Dangling
import Mosaic.Proofs.Digits
import Mosaic.Proofs.Termination
import Mosaic.Proofs.Quoting
import Mosaic.Proofs.Drawing
import Mosaic.Proofs.Escapes
