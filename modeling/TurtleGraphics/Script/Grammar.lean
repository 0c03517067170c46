import TurtleGraphics.Script.Vocabulary

/-!
# Reading commands

A command is its keyword and what its rule reads behind it. A block is the commands up to the
closing bracket, and inside a block every command may open another one. Blocks can only be nested
so deep, so reading recurses on the number of blocks that may still be opened. It is the block that
refuses to be opened, not the recursion that ends: where no more blocks may be opened, the body of
a block is never come to.
-/

namespace TurtleGraphics.Vocabulary

def readCommand (v : Vocabulary) (block : Word → Reader (List Command)) (keyword : Word) :
    Reader Command :=
  match v.find? keyword.text with
  | none => throw (.unknownCommand keyword)
  | some rule => rule.read block keyword

/-- Commands up to the bracket that closes the block of `keyword`, added to those in `done`,
which has the last one first. The bound is the words that are left at the start: each command
takes at least its keyword, so when the bound is used up there are no more words. -/
def readBody (command : Word → Reader Command) (keyword : Word) :
    List Word → List Command → Reader (List Command)
  | [], _ => throw (.unterminatedBlock keyword)
  | _ :: bound, done => do
    match ← Reader.take? with
    | none => throw (.unterminatedBlock keyword)
    | some word =>
      if word.isCloseBracket then
        return done.reverse
      else
        let c ← command word
        readBody command keyword bound (c :: done)

theorem readBody_nil (command : Word → Reader Command) (keyword : Word) (bound : List Word)
    (done : List Command) (depth : Nat) :
    readBody command keyword bound done ⟨[], depth⟩ =
      .error (.unterminatedBlock keyword) ⟨[], depth⟩ := by
  cases bound <;> rfl

theorem readBody_cons (command : Word → Reader Command) (keyword b : Word) (bound : List Word)
    (done : List Command) (word : Word) (rest : List Word) (depth : Nat) :
    readBody command keyword (b :: bound) done ⟨word :: rest, depth⟩ =
      if word.isCloseBracket then .ok done.reverse ⟨rest, depth⟩
      else
        match command word ⟨rest, depth⟩ with
        | .ok c r => readBody command keyword bound (c :: done) r
        | .error e r => .error e r := by
  rw [readBody]
  simp only [bind, EStateM.bind, Reader.take?_cons]
  split
  · rfl
  · unfold EStateM.bind
    cases command word ⟨rest, depth⟩ <;> rfl

/-- The body of the block of `keyword`, behind its open bracket, when `room` more blocks may be
opened. -/
def readBlock (v : Vocabulary) : Nat → Word → Reader (List Command)
  | 0, keyword => Reader.block keyword (throw (.unterminatedBlock keyword))
  | room + 1, keyword =>
    Reader.block keyword do
      let r ← get
      readBody (v.readCommand (v.readBlock room)) keyword r.rest []

theorem readBlock_of_full (v : Vocabulary) (room : Nat) (keyword : Word) {r : Reading}
    (h : maxDepth ≤ r.depth) :
    v.readBlock room keyword r = .error (.nestedTooDeep keyword) r := by
  cases room <;> exact Reader.block_of_full keyword _ h

def blockAt (v : Vocabulary) (depth : Nat) : Word → Reader (List Command) :=
  v.readBlock (maxDepth - depth)

def command (v : Vocabulary) (keyword : Word) : Reader Command := do
  let r ← get
  v.readCommand (v.blockAt r.depth) keyword

/-- What `rule` reads behind `keyword`, whatever the vocabulary says of that keyword. -/
def commandBy (v : Vocabulary) (rule : Rule) (keyword : Word) : Reader Command := do
  let r ← get
  rule.read (v.blockAt r.depth) keyword

def readToEnd (v : Vocabulary) : List Word → List Command → Reader (List Command)
  -- The bound is as in `readBody`.
  | [], done => return done.reverse
  | _ :: bound, done => do
    match ← Reader.take? with
    | none => return done.reverse
    | some word =>
      let c ← v.command word
      readToEnd v bound (c :: done)

theorem readToEnd_nil (v : Vocabulary) (bound : List Word) (done : List Command) (depth : Nat) :
    v.readToEnd bound done ⟨[], depth⟩ = .ok done.reverse ⟨[], depth⟩ := by
  cases bound <;> rfl

theorem readToEnd_cons (v : Vocabulary) (b : Word) (bound : List Word) (done : List Command)
    (word : Word) (rest : List Word) (depth : Nat) :
    v.readToEnd (b :: bound) done ⟨word :: rest, depth⟩ =
      match v.command word ⟨rest, depth⟩ with
      | .ok c r => v.readToEnd bound (c :: done) r
      | .error e r => .error e r := by
  rw [readToEnd]
  simp only [bind, EStateM.bind, Reader.take?_cons]
  cases v.command word ⟨rest, depth⟩ <;> rfl

def commands (v : Vocabulary) : Reader (List Command) := do
  let r ← get
  v.readToEnd r.rest []

end TurtleGraphics.Vocabulary
