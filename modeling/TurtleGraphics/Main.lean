import TurtleGraphics.CommandLine.Session

/-!
# The program

Gives sessions the files and the terminal that they ask for.
-/

namespace TurtleGraphics.CommandLine

/-- Some calls report the number of an error negated. -/
def hasNumber (code number : UInt32) : Bool :=
  code == number || code == 0 - number

def fileErrorOf (e : IO.Error) : FileError :=
  match e with
  | .noFileOrDirectory _ _ _ => .notFound
  | .inappropriateType _ code reason =>
    if hasNumber code 20 then .notDirectory
    else if hasNumber code 21 then .isDirectory
    else .refused reason
  | e => .refused (toString e)

def caught {α : Type} (action : IO (Except FileError α)) : IO (Except FileError α) := do
  try action
  catch e => return .error (fileErrorOf e)

instance : Host IO where
  readText path := caught do
    let content ← IO.FS.readBinFile path
    return decodeText content
  writeFile path content := caught do
    IO.FS.writeBinFile path content
    return .ok ()
  print text := do (← IO.getStdout).putStr text
  printError text := do (← IO.getStderr).putStr text

/-- Running out of memory would end the program without a message, so it asks for no more cells than
it can be sure of. -/
def sparing : Allocator := fun count => decide (count ≤ 67108864)

end TurtleGraphics.CommandLine

open TurtleGraphics.CommandLine in
def main (arguments : List String) : IO UInt32 := do
  let code : Nat ← execute sparing arguments
  return code.toUInt32
