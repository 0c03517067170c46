import TurtleGraphics.Script.Error
import TurtleGraphics.Script.Scan

/-!
# Reading the words of a script

Words are taken from the front, one after the other, and none is ever put back. A reading also
counts the blocks it is inside of, and a block is refused when there are too many. A reader that
fails keeps its state: the words it took stay taken.
-/

namespace TurtleGraphics

structure Reading where
  rest : List Word
  depth : Nat
  deriving DecidableEq, Repr

namespace Reading

def ofScript (script : String) : Reading :=
  ⟨Script.words script, 0⟩

def next? (r : Reading) : Option Word :=
  r.rest.head?

def remaining (r : Reading) : Nat :=
  r.rest.length

def enter (r : Reading) (keyword : Word) : Except ScriptError Reading :=
  if r.depth < maxDepth then .ok { r with depth := r.depth + 1 }
  else .error (.nestedTooDeep keyword)

def leave (r : Reading) : Reading :=
  { r with depth := r.depth - 1 }

end Reading

abbrev Reader := EStateM ScriptError Reading

namespace Reader

variable {α : Type}

def take? : Reader (Option Word) := fun r =>
  match r.rest with
  | [] => .ok none r
  | w :: rest => .ok (some w) { r with rest }

@[simp] theorem take?_nil (depth : Nat) : take? ⟨[], depth⟩ = .ok none ⟨[], depth⟩ := rfl

@[simp] theorem take?_cons (w : Word) (rest : List Word) (depth : Nat) :
    take? ⟨w :: rest, depth⟩ = .ok (some w) ⟨rest, depth⟩ := rfl

def argument (keyword : Word) : Reader Int := do
  match ← take? with
  | none => throw (.missingArgument keyword)
  | some word =>
    match word.number? with
    | none => throw (.malformedArgument keyword.text word)
    | some n => return n

theorem argument_cons (keyword word : Word) (rest : List Word) (depth : Nat) :
    argument keyword ⟨word :: rest, depth⟩ =
      match word.number? with
      | none => .error (.malformedArgument keyword.text word) ⟨rest, depth⟩
      | some n => .ok n ⟨rest, depth⟩ := by
  simp only [argument, bind, EStateM.bind, take?_cons]
  cases word.number? <;> rfl

def openBracket (keyword : Word) : Reader Unit := do
  match ← take? with
  | none => throw (.missingBlockAtEnd keyword)
  | some word =>
    if word.isOpenBracket then return () else throw (.missingBlock keyword.text word)

theorem openBracket_cons (keyword word : Word) (rest : List Word) (depth : Nat) :
    openBracket keyword ⟨word :: rest, depth⟩ =
      if word.isOpenBracket then .ok () ⟨rest, depth⟩
      else .error (.missingBlock keyword.text word) ⟨rest, depth⟩ := by
  simp only [openBracket, bind, EStateM.bind, take?_cons]
  split <;> rfl

/-- Runs `body` inside the block of `keyword`. The block is left again however `body` ends. -/
def block (keyword : Word) (body : Reader α) : Reader α := fun r =>
  match r.enter keyword with
  | .error e => .error e r
  | .ok inside =>
    match body inside with
    | .ok a r => .ok a r.leave
    | .error e r => .error e r.leave

theorem block_of_full (keyword : Word) (body : Reader α) {r : Reading}
    (h : maxDepth ≤ r.depth) : block keyword body r = .error (.nestedTooDeep keyword) r := by
  simp only [block, Reading.enter, if_neg (Nat.not_lt.mpr h)]

theorem block_of_room (keyword : Word) (body : Reader α) {r : Reading}
    (h : r.depth < maxDepth) :
    block keyword body r =
      match body ⟨r.rest, r.depth + 1⟩ with
      | .ok a r => .ok a r.leave
      | .error e r => .error e r.leave := by
  simp only [block, Reading.enter, if_pos h]

def evaluate (reader : Reader α) (r : Reading) : Except ScriptError α :=
  match reader r with
  | .ok a _ => .ok a
  | .error e _ => .error e

end Reader

end TurtleGraphics
