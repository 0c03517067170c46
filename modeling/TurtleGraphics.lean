import TurtleGraphics.Canvas.Basic
import TurtleGraphics.Canvas.Grid
import TurtleGraphics.Canvas.Trail
import TurtleGraphics.Command.Basic
import TurtleGraphics.Command.Run
import TurtleGraphics.CommandLine.Arguments
import TurtleGraphics.CommandLine.Files
import TurtleGraphics.CommandLine.Session
import TurtleGraphics.FailureKind
import TurtleGraphics.Heading
import TurtleGraphics.Main
import TurtleGraphics.Plane
import TurtleGraphics.Program
import TurtleGraphics.Proofs.CommandLine.AllOrNothing
import TurtleGraphics.Proofs.CommandLine.OneLine
import TurtleGraphics.Proofs.Drawing.AnyCanvas
import TurtleGraphics.Proofs.Drawing.Arithmetic
import TurtleGraphics.Proofs.Drawing.Calls
import TurtleGraphics.Proofs.Drawing.Connectedness
import TurtleGraphics.Proofs.Drawing.Course
import TurtleGraphics.Proofs.Drawing.Culprit
import TurtleGraphics.Proofs.Drawing.FirstFailure
import TurtleGraphics.Proofs.Drawing.Lowering
import TurtleGraphics.Proofs.Drawing.Margin
import TurtleGraphics.Proofs.Drawing.Outcome
import TurtleGraphics.Proofs.Drawing.Picture
import TurtleGraphics.Proofs.Drawing.Placement
import TurtleGraphics.Proofs.Drawing.Rendering
import TurtleGraphics.Proofs.Drawing.Retracing
import TurtleGraphics.Proofs.Drawing.StraightWalk
import TurtleGraphics.Proofs.Drawing.Symmetry
import TurtleGraphics.Proofs.Drawing.TurnTotal
import TurtleGraphics.Proofs.Drawing.Unrolling
import TurtleGraphics.Proofs.Drawing.Visits
import TurtleGraphics.Proofs.Script.Acceptance
import TurtleGraphics.Proofs.Script.Activations
import TurtleGraphics.Proofs.Script.Columns
import TurtleGraphics.Proofs.Script.Concatenation
import TurtleGraphics.Proofs.Script.Counterparts
import TurtleGraphics.Proofs.Script.Derivation
import TurtleGraphics.Proofs.Script.Discipline
import TurtleGraphics.Proofs.Script.EarliestError
import TurtleGraphics.Proofs.Script.LastBinding
import TurtleGraphics.Proofs.Script.Layout
import TurtleGraphics.Proofs.Script.Matching
import TurtleGraphics.Proofs.Script.NestingLimit
import TurtleGraphics.Proofs.Script.NewKeyword
import TurtleGraphics.Proofs.Script.Places
import TurtleGraphics.Proofs.Script.Pushdown
import TurtleGraphics.Proofs.Script.PushdownRuns
import TurtleGraphics.Proofs.Script.Respelling
import TurtleGraphics.Proofs.Script.Words
import TurtleGraphics.Proofs.Script.Writing
import TurtleGraphics.Proofs.Text.ByteOrder
import TurtleGraphics.Proofs.Text.Quoting
import TurtleGraphics.Script.Error
import TurtleGraphics.Script.Grammar
import TurtleGraphics.Script.Reading
import TurtleGraphics.Script.Scan
import TurtleGraphics.Script.Stream
import TurtleGraphics.Script.Vocabulary
import TurtleGraphics.Script.Word
import TurtleGraphics.Text.Blank
import TurtleGraphics.Text.Invisible
import TurtleGraphics.Text.Numeral
import TurtleGraphics.Text.Position
import TurtleGraphics.Text.Quoted
import TurtleGraphics.Turtle
