import TurtleGraphics.CommandLine.Arguments
import TurtleGraphics.CommandLine.Files
import TurtleGraphics.Program

/-!
# A run from the command line

The script is read from a file, and the picture is printed or written to another one. A session
asks these things of its host, one after the other, and ends with a message at the first that goes
wrong. What it has printed or written by then stays so. The message then goes to the standard error,
and the code of the run tells that there was one.
-/

namespace TurtleGraphics.CommandLine

/-- What a session may ask for. A file is read or written as a whole or not at all. -/
class Host (m : Type → Type) where
  readText : String → m (Except FileError String)
  writeFile : String → ByteArray → m (Except FileError Unit)
  print : String → m Unit
  printError : String → m Unit

def failureText (stage : String) (failure : Failure) : String :=
  match failure.span? with
  | some span => stage ++ " error at " ++ span.text ++ ": " ++ failure.message
  | none => stage ++ " error: " ++ failure.message

def openFailureText (path : String) (error : FileError) : String :=
  "Failed to open input file " ++ path ++ ": " ++ error.message

def writeFailureText (path : String) (error : FileError) : String :=
  "Failed to write output file " ++ path ++ ": " ++ error.message

section Session

variable {m : Type → Type} [Monad m] [Host m]

/-- A session in which programs are run by `draw`. -/
def Options.sessionBy (draw : Program → Except RunError Grid) (options : Options) :
    ExceptT String m Unit := do
  let fetched ← (Host.readText options.input : m (Except FileError String))
  let script ← fetched.mapError (openFailureText options.input)
  let program ← (Program.parse script .standard).mapError fun e => failureText "Parse" (.script e)
  if options.check then
    (Host.print (options.input ++ ": ok\n") : m Unit)
  else
    let grid ← (draw program).mapError fun e => failureText "Evaluation" (.run e)
    match options.output with
    | some path =>
      let stored ← (Host.writeFile path grid.render.toUTF8 : m (Except FileError Unit))
      stored.mapError (writeFailureText path)
    | none => (Host.print grid.render : m Unit)

def concluded (session : ExceptT String m Unit) : m Nat := do
  match ← session.run with
  | .ok _ => return 0
  | .error message =>
    Host.printError (message ++ "\n")
    return 1

/-- The whole run. Arguments that make no sense end it with a code of their own. -/
def execute (allocator : Allocator) (arguments : List String) : m Nat := do
  match readArguments arguments with
  | .error e =>
    Host.printError ("error: " ++ e.message ++ "\n")
    return 2
  | .ok .help =>
    Host.print helpText
    return 0
  | .ok .version =>
    Host.print versionText
    return 0
  | .ok (.draw options) => concluded (options.sessionBy (Program.run allocator))

end Session

structure World where
  stdout : String
  stderr : String
  files : FileTree

instance : Host (StateM World) where
  readText path := fun w => (w.files.readText path, w)
  writeFile path content := fun w =>
    match w.files.writeFile path content with
    | .ok files => (.ok (), { w with files })
    | .error e => (.error e, w)
  print text := modify fun w => { w with stdout := w.stdout ++ text }
  printError text := modify fun w => { w with stderr := w.stderr ++ text }

structure Outcome where
  code : Nat
  stdout : String
  stderr : String
  files : FileTree

namespace Outcome

def of (files : FileTree) (run : StateM World Nat) : Outcome :=
  match run ⟨"", "", files⟩ with
  | (code, w) => ⟨code, w.stdout, w.stderr, w.files⟩

def success (stdout : String) (files : FileTree) : Outcome := ⟨0, stdout, "", files⟩

def failure (message : String) (files : FileTree) : Outcome := ⟨1, "", message ++ "\n", files⟩

end Outcome

def Options.runBy (draw : Program → Except RunError Grid) (options : Options) (files : FileTree) :
    Outcome :=
  .of files (concluded (options.sessionBy draw))

def Options.run (allocator : Allocator) (options : Options) (files : FileTree) : Outcome :=
  options.runBy (Program.run allocator) files

def run (allocator : Allocator) (files : FileTree) (arguments : List String) : Outcome :=
  .of files (execute allocator arguments)

end TurtleGraphics.CommandLine
