/-!
# Kinds of failure

What can go wrong between a script and its picture, apart from where and with what. Several
causes may be of one kind: a size that is missing and a size that is no size are both invalid.
-/

namespace TurtleGraphics

inductive FailureKind where
  | invalidSize
  | malformedArgument
  | missingArgument
  | unknownCommand
  | missingBlock
  | unterminatedBlock
  | nestedTooDeep
  | unsupportedHeading
  | outOfBounds
  deriving DecidableEq, Repr

end TurtleGraphics
