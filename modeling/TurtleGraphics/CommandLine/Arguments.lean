/-!
# Command-line arguments

One input file is named, with options before or after it. Arguments are taken from left to right,
and the first that cannot be taken ends it; a request for help or for the version is granted as
soon as it is met. What an argument means hangs on its first characters, except that a value may
be awaited and that everything behind `--` is an input.
-/

namespace TurtleGraphics.CommandLine

structure Options where
  input : String
  /-- The file to write the picture to. -/
  output : Option String
  /-- Only read the script. -/
  check : Bool
  deriving DecidableEq, Repr

inductive Request where
  | draw (options : Options)
  | help
  | version
  deriving DecidableEq, Repr

inductive UsageError where
  | unknownOption (argument : String)
  | unexpectedValue (argument : String)
  | unexpectedInput (argument : String)
  | repeatedOption (option : String)
  | missingValue (option : String)
  | emptyInput
  | missingInput
  deriving DecidableEq, Repr

namespace UsageError

def message : UsageError → String
  | unknownOption argument => "unexpected argument " ++ argument
  | unexpectedValue argument => "unexpected value in " ++ argument
  | unexpectedInput argument => "unexpected argument " ++ argument
  | repeatedOption option => option ++ " cannot be used multiple times"
  | missingValue option => option ++ " needs a value"
  | emptyInput => "the name of the input file is empty"
  | missingInput => "no input file given"

end UsageError

structure Draft where
  input : Option String
  output : Option String
  check : Bool
  /-- The output file is the next argument. -/
  awaiting : Bool
  /-- All further arguments are inputs. -/
  inputsOnly : Bool

namespace Draft

def start : Draft := ⟨none, none, false, false, false⟩

def setInput (d : Draft) (name : String) : Except UsageError Draft :=
  if name = "" then .error .emptyInput
  else if d.input.isSome then .error (.unexpectedInput name)
  else .ok { d with input := some name }

def setOutput (d : Draft) (name : String) : Except UsageError Draft :=
  if name = "" then .error (.missingValue "--output")
  else if d.output.isSome then .error (.repeatedOption "--output")
  else .ok { d with output := some name, awaiting := false }

def setCheck (d : Draft) : Except UsageError Draft :=
  if d.check then .error (.repeatedOption "--check") else .ok { d with check := true }

def awaitOutput (d : Draft) : Draft :=
  { d with awaiting := true }

def finish (d : Draft) : Except UsageError Options :=
  if d.awaiting then .error (.missingValue "--output")
  else
    match d.input with
    | none => .error .missingInput
    | some input => .ok ⟨input, d.output, d.check⟩

end Draft

abbrev Step := Draft ⊕ Request

def go (draft : Except UsageError Draft) : Except UsageError Step :=
  draft.map .inl

/-- An argument of the form `--name` or `--name=value`. -/
def takeLong (d : Draft) (name : String) (value : Option String) (argument : String) :
    Except UsageError Step :=
  match name, value with
  | "output", none => .ok (.inl d.awaitOutput)
  | "output", some value => go (d.setOutput value)
  | "check", none => go d.setCheck
  | "help", none => .ok (.inr .help)
  | "version", none => .ok (.inr .version)
  | "check", some _ => .error (.unexpectedValue argument)
  | "help", some _ => .error (.unexpectedValue argument)
  | "version", some _ => .error (.unexpectedValue argument)
  | _, _ => .error (.unknownOption argument)

/-- An argument that is a dash, a letter and possibly more. A value joined to its letter may be
divided from it by an equals sign. -/
def takeShort (d : Draft) (letter : Char) (more : List Char) (argument : String) :
    Except UsageError Step :=
  match letter, more with
  | 'o', [] => .ok (.inl d.awaitOutput)
  | 'o', '=' :: value => go (d.setOutput (String.ofList value))
  | 'o', value => go (d.setOutput (String.ofList value))
  | 'h', _ => .ok (.inr .help)
  | 'V', _ => .ok (.inr .version)
  | _, _ => .error (.unknownOption argument)

def takeDashed (d : Draft) (argument : String) : List Char → Except UsageError Step
  | ['-'] => .ok (.inl { d with inputsOnly := true })
  | '-' :: text =>
    let name := String.ofList (text.takeWhile (· ≠ '='))
    match text.dropWhile (· ≠ '=') with
    | [] => takeLong d name none argument
    | _ :: value => takeLong d name (some (String.ofList value)) argument
  | letter :: more => takeShort d letter more argument
  | [] => go (d.setInput argument)

def take (d : Draft) (argument : String) : Except UsageError Step :=
  if d.inputsOnly then go (d.setInput argument)
  else
    match d.awaiting, argument.toList with
    | true, ['-'] => go (d.setOutput argument)
    | true, '-' :: _ => .error (.missingValue "--output")
    | true, _ => go (d.setOutput argument)
    | false, '-' :: text => takeDashed d argument text
    | false, _ => go (d.setInput argument)

def takeAll (d : Draft) : List String → Except UsageError Request
  | [] => d.finish.map .draw
  | argument :: rest =>
    match take d argument with
    | .error e => .error e
    | .ok (.inr request) => .ok request
    | .ok (.inl d) => takeAll d rest

def readArguments (arguments : List String) : Except UsageError Request :=
  takeAll .start arguments

def versionText : String := "gridlogo 0.1.0\n"

def helpText : String :=
  String.join
    ["Interpreter for a small LOGO subset that draws onto a square text grid\n",
      "\n",
      "Usage: gridlogo [OPTIONS] <INPUT>\n",
      "\n",
      "Arguments:\n",
      "  <INPUT>  The script to run\n",
      "\n",
      "Options:\n",
      "  -o, --output <OUTPUT>  Write the grid to this file instead of standard output\n",
      "      --check            Only check that the script parses\n",
      "  -h, --help             Print help\n",
      "  -V, --version          Print version\n"]

end TurtleGraphics.CommandLine
