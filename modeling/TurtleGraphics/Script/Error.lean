import TurtleGraphics.FailureKind
import TurtleGraphics.Script.Word

/-!
# Errors in a script

Each error carries the words it is about. Its place is that of the offending word, or that of the
keyword left wanting when the script has ended.
-/

namespace TurtleGraphics

open Text

def maxDepth : Nat := 128

inductive ScriptError where
  | missingSize
  | invalidSize (found : Word)
  | malformedArgument (command : String) (found : Word)
  | missingArgument (keyword : Word)
  | unknownCommand (found : Word)
  /-- Another word stands where a block has to start. -/
  | missingBlock (command : String) (found : Word)
  /-- The script ends where a block has to start. -/
  | missingBlockAtEnd (keyword : Word)
  | unterminatedBlock (keyword : Word)
  | nestedTooDeep (keyword : Word)
  deriving DecidableEq, Repr

namespace ScriptError

def message : ScriptError → String
  | missingSize => "the script doesn't start with a grid size"
  | invalidSize found => found.text ++ " is not a valid grid size"
  | malformedArgument command found =>
    command ++ " doesn't like " ++ found.text ++ " as input"
  | missingArgument keyword => "not enough inputs to " ++ keyword.text
  | unknownCommand found => "I don't know how to " ++ found.text
  | missingBlock command found => command ++ " wants a [ block, found " ++ found.text
  | missingBlockAtEnd keyword => keyword.text ++ " wants a [ block, found the end of the script"
  | unterminatedBlock keyword => keyword.text ++ " block is never closed with ]"
  | nestedTooDeep keyword =>
    keyword.text ++ " blocks are nested more than " ++ toString maxDepth ++ " deep"

def span? : ScriptError → Option Span
  | missingSize => none
  | invalidSize word | malformedArgument _ word | missingArgument word | unknownCommand word
  | missingBlock _ word | missingBlockAtEnd word | unterminatedBlock word
  | nestedTooDeep word => some word.span

def kind : ScriptError → FailureKind
  | missingSize => .invalidSize
  | invalidSize _ => .invalidSize
  | malformedArgument _ _ => .malformedArgument
  | missingArgument _ => .missingArgument
  | unknownCommand _ => .unknownCommand
  | missingBlock _ _ => .missingBlock
  | missingBlockAtEnd _ => .missingBlock
  | unterminatedBlock _ => .unterminatedBlock
  | nestedTooDeep _ => .nestedTooDeep

end ScriptError

end TurtleGraphics
