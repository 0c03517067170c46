import TurtleGraphics.Proofs.Script.Acceptance

/-!
# Reading without recursion

`Pushdown` reads a script word by word, from left to right, and keeps the loops whose blocks are
open on a stack. It never looks ahead and never goes back, so what it does with a script is a run
over its words and a verdict at the end. For a vocabulary of steps and loops it agrees with the
recursive reading on every script, in the program as well as in the error. `FollowsCommand` and
`FollowsBlock` say so of one command and one block, above any stack.
-/

namespace TurtleGraphics.Pushdown

/-- A loop whose block is open, with the commands read in it, last one first. -/
structure Frame where
  keyword : Word
  count : Int
  body : List Command

/-- What the next word has to be. -/
inductive Awaited where
  | command
  | amount (keyword : Word) (motion : Motion)
  | count (keyword : Word)
  | bracket (keyword : Word) (count : Int)

structure State where
  size : Int
  /-- The commands outside of all open blocks, last one first. -/
  done : List Command
  /-- The open loops, innermost first. -/
  frames : List Frame
  awaited : Awaited

namespace State

def start (size : Int) : State := ⟨size, [], [], .command⟩

def add (s : State) (c : Command) : State :=
  match s.frames with
  | [] => ⟨s.size, c :: s.done, [], .command⟩
  | f :: frames => ⟨s.size, s.done, ⟨f.keyword, f.count, c :: f.body⟩ :: frames, .command⟩

def introduce (v : Vocabulary) (s : State) (word : Word) : Except ScriptError State :=
  match v.find? word.text with
  | some (.step motion) => .ok { s with awaited := .amount word motion }
  | some .loop => .ok { s with awaited := .count word }
  | _ => .error (.unknownCommand word)

def step (v : Vocabulary) (s : State) (word : Word) : Except ScriptError State :=
  match s.awaited with
  | .command =>
    match s.frames with
    | [] => s.introduce v word
    | f :: frames =>
      if word.text = "]" then
        .ok (add { s with frames } (.loop f.count f.body.reverse f.keyword.span))
      else s.introduce v word
  | .amount keyword motion =>
    match word.number? with
    | some amount => .ok (s.add (.step motion amount keyword.span))
    | none => .error (.malformedArgument keyword.text word)
  | .count keyword =>
    match word.number? with
    | some count => .ok { s with awaited := .bracket keyword count }
    | none => .error (.malformedArgument keyword.text word)
  | .bracket keyword count =>
    if word.text = "[" then
      if s.frames.length < maxDepth then
        .ok { s with frames := ⟨keyword, count, []⟩ :: s.frames, awaited := .command }
      else .error (.nestedTooDeep keyword)
    else .error (.missingBlock keyword.text word)

def run (v : Vocabulary) (s : State) : List Word → Except ScriptError State
  | [] => .ok s
  | word :: rest =>
    match s.step v word with
    | .ok s => run v s rest
    | .error e => .error e

def finish (s : State) : Except ScriptError Program :=
  match s.awaited, s.frames with
  | .command, [] => .ok ⟨s.size, s.done.reverse⟩
  | .command, f :: _ => .error (.unterminatedBlock f.keyword)
  | .amount keyword _, _ => .error (.missingArgument keyword)
  | .count keyword, _ => .error (.missingArgument keyword)
  | .bracket keyword _, _ => .error (.missingBlockAtEnd keyword)

def outcome (v : Vocabulary) (s : State) (words : List Word) : Except ScriptError Program :=
  match s.run v words with
  | .ok s => s.finish
  | .error e => .error e

end State

def parse (v : Vocabulary) (words : List Word) : Except ScriptError Program :=
  match words with
  | [] => .error .missingSize
  | word :: rest =>
    match word.number?.filter (1 ≤ ·) with
    | none => .error (.invalidSize word)
    | some size => (State.start size).outcome v rest

namespace State

theorem run_append (v : Vocabulary) (s : State) (words more : List Word) :
    s.run v (words ++ more) =
      match s.run v words with
      | .ok s => s.run v more
      | .error e => .error e := by
  induction words generalizing s with
  | nil => rfl
  | cons word rest ih =>
    rw [List.cons_append, run, run]
    cases s.step v word with
    | ok s => exact ih s
    | error e => rfl

theorem outcome_cons (v : Vocabulary) (s : State) (word : Word) (rest : List Word) :
    s.outcome v (word :: rest) =
      match s.step v word with
      | .ok s => s.outcome v rest
      | .error e => .error e := by
  rw [outcome, run]
  cases s.step v word <;> rfl

theorem step_command {v : Vocabulary} {size : Int} {done : List Command} {frames : List Frame}
    {word : Word} (h : frames = [] ∨ word.text ≠ "]") :
    step v ⟨size, done, frames, .command⟩ word =
      introduce v ⟨size, done, frames, .command⟩ word := by
  cases frames with
  | nil => rfl
  | cons f frames =>
    have hne : word.text ≠ "]" := h.resolve_left (List.cons_ne_nil f frames)
    simp only [step, if_neg hne]

/-- `command` reads, inside `depth` blocks, what the run makes of the words from a keyword on. -/
def FollowsCommand (v : Vocabulary) (depth : Nat) (command : Word → Reader Command) : Prop :=
  ∀ size done (frames : List Frame), frames.length = depth →
    ∀ keyword : Word, frames = [] ∨ keyword.text ≠ "]" → ∀ rest,
    outcome v ⟨size, done, frames, .command⟩ (keyword :: rest) =
      match command keyword ⟨rest, depth⟩ with
      | .ok c r => outcome v (add ⟨size, done, frames, .command⟩ c) r.rest
      | .error e _ => .error e

def FollowsBlock (v : Vocabulary) (depth : Nat) (block : Word → Reader (List Command)) : Prop :=
  ∀ size done (frames : List Frame), frames.length = depth →
    ∀ keyword count (opening : Word), opening.text = "[" → ∀ rest,
    outcome v ⟨size, done, frames, .bracket keyword count⟩ (opening :: rest) =
      match block keyword ⟨rest, depth⟩ with
      | .ok body r =>
        outcome v (add ⟨size, done, frames, .command⟩ (.loop count body keyword.span)) r.rest
      | .error e _ => .error e

theorem followsCommand_readCommand {v : Vocabulary} (hv : v.Plain) {depth : Nat}
    {block : Word → Reader (List Command)} (hblock : FollowsBlock v depth block) :
    FollowsCommand v depth (v.readCommand block) := by
  intro size done frames hlen keyword hk rest
  rw [outcome_cons, step_command hk, introduce]
  cases hfind : v.find? keyword.text with
  | none => rw [v.readCommand_of_not_find block hfind]
  | some rule =>
    rw [v.readCommand_of_find block hfind]
    rcases hv _ _ hfind with rfl | ⟨motion, rfl⟩
    · rw [Rule.read_loop]
      cases rest with
      | nil => rfl
      | cons argument rest =>
        dsimp only
        rw [Reader.argument_cons, outcome_cons, step]
        cases argument.number? with
        | none => rfl
        | some count =>
          dsimp only
          cases rest with
          | nil => rfl
          | cons opening rest =>
            rw [Reader.openBracket_cons]
            by_cases ho : opening.text = "["
            · have hopen : opening.isOpenBracket = true := beq_iff_eq.mpr ho
              rw [if_pos hopen, hblock size done frames hlen keyword count opening ho rest]
              dsimp only
              cases block keyword ⟨rest, depth⟩ <;> rfl
            · have hopen : ¬ opening.isOpenBracket = true := fun he => ho (beq_iff_eq.mp he)
              rw [if_neg hopen, outcome_cons]
              simp only [step, if_neg ho]
    · rw [Rule.read_step]
      cases rest with
      | nil => rfl
      | cons argument rest =>
        dsimp only
        rw [Reader.argument_cons, outcome_cons, step]
        cases argument.number? <;> rfl

theorem outcome_body {v : Vocabulary} {l : Lexicon} {room depth : Nat}
    {command : Word → Reader Command}
    (hcommand : FollowsCommand v (depth + 1) command)
    (hsound : Vocabulary.CommandSound l room command) (size : Int) (done : List Command)
    {frames : List Frame} (hlen : frames.length = depth) (keyword : Word) (count : Int)
    (bound : List Word) (body : List Command) (rest : List Word)
    (hbound : rest.length ≤ bound.length) :
    outcome v ⟨size, done, ⟨keyword, count, body⟩ :: frames, .command⟩ rest =
      match Vocabulary.readBody command keyword bound body ⟨rest, depth + 1⟩ with
      | .ok body r =>
        outcome v (add ⟨size, done, frames, .command⟩ (.loop count body keyword.span)) r.rest
      | .error e _ => .error e := by
  induction bound generalizing body rest with
  | nil =>
    cases List.length_eq_zero_iff.mp (Nat.le_zero.mp hbound)
    rfl
  | cons b bound ih =>
    cases rest with
    | nil => rfl
    | cons word rest =>
      rw [Vocabulary.readBody_cons]
      by_cases hw : word.text = "]"
      · have hclose : word.isCloseBracket = true := beq_iff_eq.mpr hw
        rw [if_pos hclose, outcome_cons]
        simp only [step, if_pos hw]
      · have hclose : ¬ word.isCloseBracket = true := fun he => hw (beq_iff_eq.mp he)
        rw [if_neg hclose, hcommand size done _ (congrArg (· + 1) hlen) word (.inr hw) rest]
        cases hc : command word ⟨rest, depth + 1⟩ with
        | error e r => rfl
        | ok c r =>
          obtain ⟨taken, ⟨hr, hd⟩, _, _⟩ := hsound word _ c r hc
          obtain ⟨rest', depth'⟩ := r
          simp only at hr hd
          subst hd
          have hle : rest'.length ≤ bound.length := by
            simp only [hr, List.length_cons, List.length_append] at hbound
            omega
          exact ih (c :: body) rest' hle

theorem followsBlock_readBlock {v : Vocabulary} (hv : v.Plain) {room depth : Nat}
    (h : depth + room = maxDepth) : FollowsBlock v depth (v.readBlock room) := by
  induction room generalizing depth with
  | zero =>
    intro size done frames hlen keyword count opening ho rest
    have hfull : ¬ frames.length < maxDepth := by omega
    rw [outcome_cons, v.readBlock_of_full 0 keyword (Nat.le_of_eq h.symm)]
    simp only [step, if_pos ho, if_neg hfull]
  | succ room ih =>
    intro size done frames hlen keyword count opening ho rest
    have hroom : frames.length < maxDepth := by omega
    have hinner : depth + 1 + room = maxDepth := by omega
    have hcommand := followsCommand_readCommand hv (ih hinner)
    have hbody := outcome_body hcommand (Vocabulary.readCommand_sound hv room) size done hlen
      keyword count rest [] rest (Nat.le_refl _)
    rw [outcome_cons, v.readBlock_succ room keyword _ (hlen ▸ hroom)]
    simp only [step, if_pos ho, if_pos hroom]
    rw [hbody]
    cases Vocabulary.readBody (v.readCommand (v.readBlock room)) keyword rest []
      ⟨rest, depth + 1⟩ <;> rfl

theorem followsCommand_command {v : Vocabulary} (hv : v.Plain) :
    FollowsCommand v 0 v.command :=
  followsCommand_readCommand hv (followsBlock_readBlock hv (Nat.zero_add maxDepth))

theorem outcome_commands {v : Vocabulary} (hv : v.Plain) (size : Int) (bound : List Word)
    (done : List Command) (rest : List Word) (hbound : rest.length ≤ bound.length) :
    outcome v ⟨size, done, [], .command⟩ rest =
      match v.readToEnd bound done ⟨rest, 0⟩ with
      | .ok commands _ => .ok ⟨size, commands⟩
      | .error e _ => .error e := by
  induction bound generalizing done rest with
  | nil =>
    cases List.length_eq_zero_iff.mp (Nat.le_zero.mp hbound)
    rfl
  | cons b bound ih =>
    cases rest with
    | nil => rfl
    | cons word rest =>
      rw [Vocabulary.readToEnd_cons,
        followsCommand_command hv size done [] rfl word (.inl rfl) rest]
      cases hc : v.command word ⟨rest, 0⟩ with
      | error e r => rfl
      | ok c r =>
        obtain ⟨taken, ⟨hr, hd⟩, _, _⟩ := (Vocabulary.command_eq_ok_iff hv).mp hc
        obtain ⟨rest', depth'⟩ := r
        simp only at hr hd
        subst hd
        have hle : rest'.length ≤ bound.length := by
          simp only [hr, List.length_cons, List.length_append] at hbound
          omega
        exact ih (c :: done) rest' hle

end State

end TurtleGraphics.Pushdown

namespace TurtleGraphics

namespace Program

theorem parse_of_not_size {script : String} (v : Vocabulary) {word : Word} {rest : List Word}
    (hw : Script.words script = word :: rest) (hs : word.number?.filter (1 ≤ ·) = none) :
    parse script v = .error (.invalidSize word) := by
  rw [parse_of_cons v hw, hs]

theorem parse_of_size {script : String} {v : Vocabulary} (hv : v.Plain) {word : Word}
    {rest : List Word} {size : Int} (hw : Script.words script = word :: rest)
    (hs : word.number?.filter (1 ≤ ·) = some size) :
    parse script v = (Pushdown.State.start size).outcome v rest := by
  rw [parse_of_cons v hw, hs]
  exact (Pushdown.State.outcome_commands hv size rest [] rest (Nat.le_refl _)).symm

end Program

/-- Recursive reading and the run with a stack agree on every script: on the program they read or
on the error, with its words and its place. -/
theorem parse_eq_pushdown_parse {v : Vocabulary} (hv : v.Plain) (script : String) :
    Program.parse script v = Pushdown.parse v (Script.words script) := by
  cases hw : Script.words script with
  | nil => exact Program.parse_of_nil v hw
  | cons word rest =>
    rw [Pushdown.parse]
    cases hs : word.number?.filter (1 ≤ ·) with
    | none => exact Program.parse_of_not_size v hw hs
    | some size => exact Program.parse_of_size hv hw hs

/-- Brackets may be keywords: outside of blocks they are looked up like any other word. -/
theorem parse_eq_pushdown_parse_brackets :
    let v := Vocabulary.empty.insertMany [("]", .step .left), ("[", .loop)]
    v.Plain ∧ Program.parse "3 ] 9 [ 2 [ [ 1 [ ] ] ] 5" v =
      Pushdown.parse v (Script.words "3 ] 9 [ 2 [ [ 1 [ ] ] ] 5") := by
  intro v
  have hv : v.Plain := Vocabulary.plain_empty.insertMany (by simp [Rule.IsPlain])
  exact ⟨hv, parse_eq_pushdown_parse hv _⟩

end TurtleGraphics
