import TurtleGraphics.Canvas.Grid
import TurtleGraphics.Command.Run
import TurtleGraphics.Script.Grammar

/-!
# Programs

A script names the size of its grid first and then its commands. A program is what a script
says; running it draws on a fresh grid. A script is read to its end before anything is drawn.
-/

namespace TurtleGraphics

open Text

structure Program where
  size : Int
  commands : List Command
  deriving DecidableEq

inductive Failure where
  | script (error : ScriptError)
  | run (error : RunError)
  deriving DecidableEq, Repr

namespace Failure

def message : Failure → String
  | script error => error.message
  | run error => error.cause.message

def span? : Failure → Option Span
  | script error => error.span?
  | run error => error.span

def kind : Failure → FailureKind
  | script error => error.kind
  | run error => error.cause.kind

end Failure

namespace Program

def readSize : Reader Int := do
  match ← Reader.take? with
  | none => throw .missingSize
  | some word =>
    match word.number?.filter (1 ≤ ·) with
    | none => throw (.invalidSize word)
    | some size => return size

def read (v : Vocabulary) : Reader Program := do
  let size ← readSize
  let commands ← v.commands
  return ⟨size, commands⟩

def parse (script : String) (v : Vocabulary) : Except ScriptError Program :=
  (read v).evaluate (.ofScript script)

/-- The grid drawn by a turtle that starts on `grid`. -/
def draw (grid : Grid) (commands : List Command) : Except RunError Grid :=
  match Turtle.start grid with
  | .error cause _ => .error ⟨cause, none⟩
  | .ok _ turtle =>
    match Command.runAll commands turtle with
    | .error error _ => .error error
    | .ok _ turtle => .ok turtle.canvas

def run (allocator : Allocator) (p : Program) : Except RunError Grid :=
  match Grid.create allocator p.size with
  | .error cause => .error ⟨cause, none⟩
  | .ok grid => draw grid p.commands

theorem run_of_create {allocator : Allocator} {p : Program} {grid : Grid}
    (h : Grid.create allocator p.size = .ok grid) : p.run allocator = draw grid p.commands := by
  rw [run, h]

end Program

def interpret (allocator : Allocator) (script : String) : Except Failure String := do
  let program ← (Program.parse script .standard).mapError .script
  let grid ← (program.run allocator).mapError .run
  return grid.render

end TurtleGraphics
