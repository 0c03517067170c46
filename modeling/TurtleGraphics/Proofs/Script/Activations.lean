import TurtleGraphics.Proofs.Script.NestingLimit

/-!
# How deep reading and running recurse

Reading a command reads the commands of its block, and running a command runs those of its body, so
both recurse. `commandWithin` and `runWithin` do so with a bound on how many of them may be active
inside each other. What happens beyond the bound is left open: there an `overflow` takes over, and
it may do anything. No script leads there if the bound is above `maxDepth`, so that the bounded
readers and runs give what the unbounded ones give, whatever the overflow does.
-/

namespace TurtleGraphics

namespace Vocabulary

def blockBy (command : Word → Reader Command) (keyword : Word) : Reader (List Command) :=
  Reader.block keyword do
    let r ← get
    readBody command keyword r.rest []

/-- The command that `keyword` introduces, read by at most `n` readers of commands inside each
other. -/
def commandWithin (v : Vocabulary) (overflow : Word → Reader Command) :
    Nat → Word → Reader Command
  | 0 => overflow
  | n + 1 => v.readCommand (blockBy (commandWithin v overflow n))

def readToEndBy (command : Word → Reader Command) :
    List Word → List Command → Reader (List Command)
  | [], done => return done.reverse
  | _ :: bound, done => do
    match ← Reader.take? with
    | none => return done.reverse
    | some word =>
      let c ← command word
      readToEndBy command bound (c :: done)

theorem blockBy_of_room (command : Word → Reader Command) (keyword : Word) {r : Reading}
    (h : r.depth < maxDepth) :
    blockBy command keyword r =
      match readBody command keyword r.rest [] ⟨r.rest, r.depth + 1⟩ with
      | .ok body r => .ok body r.leave
      | .error e r => .error e r.leave := by
  rw [blockBy, Reader.block_of_room keyword _ h, Reader.get_bind_apply]
  cases readBody command keyword r.rest [] ⟨r.rest, r.depth + 1⟩ <;> rfl

theorem readToEndBy_cons (command : Word → Reader Command) (b : Word) (bound : List Word)
    (done : List Command) (word : Word) (rest : List Word) (depth : Nat) :
    readToEndBy command (b :: bound) done ⟨word :: rest, depth⟩ =
      match command word ⟨rest, depth⟩ with
      | .ok c r => readToEndBy command bound (c :: done) r
      | .error e r => .error e r := by
  rw [readToEndBy, Reader.bind_apply, Reader.take?_cons]
  dsimp only
  rw [Reader.bind_apply]
  cases command word ⟨rest, depth⟩ <;> rfl

/-- Two readers of commands that cannot be told apart inside `depth` blocks, where the second one
leaves as many blocks open as it finds. -/
structure AgreeAt (depth : Nat) (command command' : Word → Reader Command) : Prop where
  eq : ∀ word r, r.depth = depth → command word r = command' word r
  keeps : ∀ word r c r', command' word r = .ok c r' → r'.depth = r.depth

variable {v : Vocabulary} {depth : Nat} {command command' : Word → Reader Command}

theorem AgreeAt.readBody_eq (h : AgreeAt depth command command') (keyword : Word)
    (bound : List Word) (done : List Command) {r : Reading} (hr : r.depth = depth) :
    readBody command keyword bound done r = readBody command' keyword bound done r := by
  induction bound generalizing done r with
  | nil => rfl
  | cons b bound ih =>
    obtain ⟨rest, d⟩ := r
    cases rest with
    | nil => rfl
    | cons word rest =>
      rw [readBody_cons, readBody_cons, h.eq word ⟨rest, d⟩ hr]
      split
      · rfl
      · cases hc : command' word ⟨rest, d⟩ with
        | ok c r => exact ih (c :: done) ((h.keeps word _ c r hc).trans hr)
        | error e r => rfl

theorem AgreeAt.readToEndBy_eq (h : AgreeAt depth command v.command) (bound : List Word)
    (done : List Command) {r : Reading} (hr : r.depth = depth) :
    readToEndBy command bound done r = v.readToEnd bound done r := by
  induction bound generalizing done r with
  | nil => rfl
  | cons b bound ih =>
    obtain ⟨rest, d⟩ := r
    cases rest with
    | nil => rfl
    | cons word rest =>
      rw [readToEndBy_cons, readToEnd_cons, h.eq word ⟨rest, d⟩ hr]
      cases hc : v.command word ⟨rest, d⟩ with
      | ok c r => exact ih (c :: done) ((h.keeps word _ c r hc).trans hr)
      | error e r => rfl

/-- Only the blocks of loops matter to a reader of commands. -/
theorem readCommand_congr (hv : v.Plain) {block block' : Word → Reader (List Command)}
    (h : ∀ keyword r, r.depth = depth → block keyword r = block' keyword r) (keyword : Word)
    {r : Reading} (hr : r.depth = depth) :
    v.readCommand block keyword r = v.readCommand block' keyword r := by
  cases hfind : v.find? keyword.text with
  | none => rw [v.readCommand_of_not_find block hfind, v.readCommand_of_not_find block' hfind]
  | some rule =>
    rw [v.readCommand_of_find block hfind, v.readCommand_of_find block' hfind]
    rcases hv _ _ hfind with rfl | ⟨motion, rfl⟩
    · rw [Rule.read_loop, Rule.read_loop]
      cases hargument : Reader.argument keyword r with
      | error e r₁ => rfl
      | ok count r₁ =>
        obtain ⟨_, ⟨_, hd₁⟩, _⟩ := Reader.argument_eq_ok hargument
        dsimp only
        cases hopen : Reader.openBracket keyword r₁ with
        | error e r₂ => rfl
        | ok u r₂ =>
          obtain ⟨_, ⟨_, hd₂⟩, _⟩ := Reader.openBracket_eq_ok hopen
          dsimp only
          rw [h keyword r₂ (hd₂.trans (hd₁.trans hr))]
    · rw [Rule.read_step, Rule.read_step]

theorem depth_of_readCommand (hv : v.Plain) (room : Nat) (word : Word) (r : Reading) (c : Command)
    (r' : Reading) (h : v.readCommand (v.readBlock room) word r = .ok c r') :
    r'.depth = r.depth := by
  obtain ⟨_, ⟨_, hdepth⟩, _⟩ := readCommand_sound hv room word r c r' h
  exact hdepth

/-- Inside `depth` blocks, one reader more than blocks can still be opened is enough. -/
theorem agreeAt_commandWithin (hv : v.Plain) (overflow : Word → Reader Command) {room : Nat}
    (hroom : depth + room = maxDepth) {n : Nat} (hn : room < n) :
    AgreeAt depth (v.commandWithin overflow n) (v.readCommand (v.readBlock room)) := by
  refine ⟨?_, depth_of_readCommand hv room⟩
  induction room generalizing depth n with
  | zero =>
    obtain ⟨n, rfl⟩ := Nat.exists_eq_succ_of_ne_zero (Nat.ne_of_gt hn)
    intro word r hr
    refine readCommand_congr hv (fun keyword r hr => ?_) word hr
    have hfull : maxDepth ≤ r.depth := by omega
    rw [blockBy, Reader.block_of_full keyword _ hfull, v.readBlock_of_full 0 keyword hfull]
  | succ room ih =>
    obtain ⟨n, rfl⟩ := Nat.exists_eq_succ_of_ne_zero (Nat.ne_of_gt (Nat.zero_lt_of_lt hn))
    intro word r hr
    refine readCommand_congr hv (fun keyword r hr => ?_) word hr
    have hlt : r.depth < maxDepth := by omega
    have hinner : AgreeAt (depth + 1) (v.commandWithin overflow n)
        (v.readCommand (v.readBlock room)) :=
      ⟨ih (by omega) (by omega), depth_of_readCommand hv room⟩
    rw [blockBy_of_room _ _ hlt, hinner.readBody_eq keyword r.rest [] (congrArg (· + 1) hr)]
    exact (v.readBlock_succ room keyword r hlt).symm

/-- A reader of commands at the start of a script needs no more than `maxDepth + 1` activations. -/
theorem agreeAt_command (hv : v.Plain) (overflow : Word → Reader Command) {n : Nat}
    (hn : maxDepth < n) : AgreeAt 0 (v.commandWithin overflow n) v.command := by
  have h := agreeAt_commandWithin hv overflow (Nat.zero_add maxDepth) hn
  refine ⟨fun word r hr => (h.eq word r hr).trans ?_, fun word r c r' hc => ?_⟩
  · rw [command, Reader.get_bind_apply, blockAt, hr, Nat.sub_zero]
  · obtain ⟨_, ⟨_, hdepth⟩, _⟩ := (command_eq_ok_iff hv).mp hc
    exact hdepth

end Vocabulary

namespace Program

def readWithin (v : Vocabulary) (overflow : Word → Reader Command) (n : Nat) : Reader Program := do
  let size ← readSize
  let r ← get
  let commands ← Vocabulary.readToEndBy (v.commandWithin overflow n) r.rest []
  return ⟨size, commands⟩

/-- Reads a script with at most `n` readers of commands inside each other. -/
def parseWithin (script : String) (v : Vocabulary) (overflow : Word → Reader Command) (n : Nat) :
    Except ScriptError Program :=
  (readWithin v overflow n).evaluate (.ofScript script)

theorem depth_of_readSize {r r' : Reading} {size : Int} (h : readSize r = .ok size r') :
    r'.depth = r.depth := by
  obtain ⟨rest, depth⟩ := r
  cases rest with
  | nil => cases h
  | cons word rest =>
    rw [readSize_cons] at h
    split at h <;> cases h
    rfl

theorem parseWithin_eq_parse {v : Vocabulary} (hv : v.Plain) (overflow : Word → Reader Command)
    {n : Nat} (hn : maxDepth < n) (script : String) :
    parseWithin script v overflow n = parse script v := by
  have hread : readWithin v overflow n (.ofScript script) = read v (.ofScript script) := by
    rw [readWithin, read, Reader.bind_apply, Reader.bind_apply]
    cases hsize : readSize (.ofScript script) with
    | error e r => rfl
    | ok size r =>
      have hr : r.depth = 0 := depth_of_readSize hsize
      dsimp only
      rw [Reader.get_bind_apply, Reader.bind_apply, Reader.bind_apply, Vocabulary.commands,
        Reader.get_bind_apply, (Vocabulary.agreeAt_command hv overflow hn).readToEndBy_eq _ _ hr]
  rw [parseWithin, parse, Reader.evaluate, Reader.evaluate, hread]

end Program

namespace Command

/-- `c.Holds depth d`: in `c` the command `d` stands inside `depth` loops. -/
inductive Holds : Command → Nat → Command → Prop
  | self (c : Command) : Holds c 0 c
  | body {count : Int} {body : List Command} {span : Text.Span} {c d : Command} {depth : Nat}
      (mem : c ∈ body) (holds : Holds c depth d) : Holds (.loop count body span) (depth + 1) d

theorem nesting_le_of_mem {c : Command} {cs : List Command} (h : c ∈ cs) :
    c.nesting ≤ nestingAll cs := by
  induction cs with
  | nil => cases h
  | cons d cs ih =>
    rw [nestingAll_cons]
    rcases List.mem_cons.mp h with rfl | h
    · exact Nat.le_max_left _ _
    · exact Nat.le_trans (ih h) (Nat.le_max_right _ _)

theorem Holds.depth_le {c d : Command} {depth : Nat} (h : c.Holds depth d) :
    depth ≤ c.nesting := by
  induction h with
  | self c => exact Nat.zero_le _
  | body mem holds ih =>
    rw [nesting_loop]
    exact Nat.succ_le_succ (Nat.le_trans ih (nesting_le_of_mem mem))

variable {C : Type} [Canvas C]

def runWithin (overflow : Command → EStateM RunError (Turtle C) Unit) :
    Nat → Command → EStateM RunError (Turtle C) Unit
  | 0, c => overflow c
  | _ + 1, step motion amount span => (step motion amount span).run
  | n + 1, loop count body _ => times (forM body (runWithin overflow n)) count.toNat

theorem forM_eq_runAll {run : Command → EStateM RunError (Turtle C) Unit} {cs : List Command}
    (h : ∀ c ∈ cs, run c = c.run) : forM cs run = runAll cs := by
  induction cs with
  | nil => rw [runAll]; rfl
  | cons c cs ih =>
    rw [List.forM_cons, h c List.mem_cons_self, ih fun d hd => h d (List.mem_cons_of_mem c hd),
      runAll]

theorem runWithin_eq_run (overflow : Command → EStateM RunError (Turtle C) Unit) {c : Command}
    {n : Nat} (h : c.nesting < n) : c.runWithin overflow n = c.run := by
  induction n generalizing c with
  | zero => cases h
  | succ n ih =>
    cases c with
    | step motion amount span => rfl
    | loop count body span =>
      rw [nesting_loop] at h
      have hbody : forM body (runWithin overflow n) = runAll body := by
        apply forM_eq_runAll
        intro c hc
        apply ih
        exact Nat.lt_of_le_of_lt (nesting_le_of_mem hc) (Nat.lt_of_succ_lt_succ h)
      rw [runWithin, hbody, run]

end Command

/-- No script drives the recursion deep. Reading it takes no more than `maxDepth + 1` readers of
commands inside each other, whether or not it can be read: given that many, the overflow is never
met and a larger bound changes nothing. In a program that is read, no command stands inside more
than `maxDepth` loops, so that running its commands takes no more than `maxDepth + 1` of them inside
each other, on every canvas and however often its loops go round. -/
theorem activations_bounded {v : Vocabulary} (hv : v.Plain) (script : String) :
    (∀ overflow n, maxDepth + 1 ≤ n →
      Program.parseWithin script v overflow n = Program.parse script v) ∧
      ∀ p, Program.parse script v = .ok p → ∀ c ∈ p.commands,
        (∀ depth d, c.Holds depth d → depth ≤ maxDepth) ∧
          ∀ (C : Type) [Canvas C] (overflow : Command → EStateM RunError (Turtle C) Unit) n,
            maxDepth + 1 ≤ n → c.runWithin overflow n = c.run := by
  refine ⟨fun overflow n hn => Program.parseWithin_eq_parse hv overflow hn script, ?_⟩
  intro p hp c hc
  obtain ⟨_, _, _, _, _, _, hnesting⟩ := (Program.parse_eq_ok_iff hv).mp hp
  have hle : c.nesting ≤ maxDepth := Nat.le_trans (Command.nesting_le_of_mem hc) hnesting
  refine ⟨fun depth d hd => Nat.le_trans hd.depth_le hle, ?_⟩
  intro C _ overflow n hn
  exact Command.runWithin_eq_run overflow (Nat.lt_of_le_of_lt hle hn)

namespace Script

theorem find?_standard_repeat : Vocabulary.standard.find? "REPEAT" = some .loop :=
  Pushdown.find?_standard_eq_loop.mpr rfl

theorem exists_cons_towerTexts (n : Nat) :
    ∃ keyword texts, towerTexts n = keyword :: texts ∧ keyword ≠ "]" := by
  cases n with
  | zero => exact ⟨_, _, rfl, by decide⟩
  | succ n => exact ⟨_, _, rfl, by decide⟩

/-- A tower of `n` blocks takes more than `n` readers inside each other: each block takes one, and
there is none left for the step in the innermost. -/
theorem commandWithin_tower (e : ScriptError) (n : Nat) {keyword : Word} {rest : List Word}
    {more : List String} {depth : Nat} (hdepth : depth + n ≤ maxDepth)
    (h : (keyword :: rest).map Word.text = towerTexts n ++ more) :
    ∃ r, Vocabulary.standard.commandWithin (fun _ => throw e) n keyword ⟨rest, depth⟩ =
      .error e r := by
  induction n generalizing keyword rest more depth with
  | zero => exact ⟨_, rfl⟩
  | succ n ih =>
    obtain ⟨hkeyword, hrest⟩ := List.cons.inj h
    obtain ⟨argument, rest, rfl, hargument, hrest⟩ := List.map_eq_cons_iff.mp hrest
    obtain ⟨opening, rest, rfl, hopening, hrest⟩ := List.map_eq_cons_iff.mp hrest
    have hinner : rest.map Word.text = towerTexts n ++ (["]"] ++ more) :=
      hrest.trans (List.append_assoc _ _ _)
    obtain ⟨first, texts, htower, hfirst⟩ := exists_cons_towerTexts n
    obtain ⟨word, rest, rfl, hword, -⟩ :=
      List.map_eq_cons_iff.mp (hinner.trans (congrArg (· ++ (["]"] ++ more)) htower))
    have hfind : Vocabulary.standard.find? keyword.text = some .loop := by
      rw [show keyword.text = "REPEAT" from hkeyword]
      exact find?_standard_repeat
    have hcount : argument.number? = some 2 := by
      rw [Word.number?, hargument]
      decide
    have hopen : opening.isOpenBracket = true := beq_iff_eq.mpr hopening
    have hclose : ¬ word.isCloseBracket = true := fun hc => hfirst (hword ▸ beq_iff_eq.mp hc)
    have hinside : depth + 1 + n ≤ maxDepth := by omega
    obtain ⟨r, hr⟩ := ih hinside hinner
    refine ⟨r.leave, ?_⟩
    rw [Vocabulary.commandWithin, Vocabulary.readCommand_of_find _ _ hfind, Rule.read_loop,
      Reader.argument_cons, hcount]
    dsimp only
    rw [Reader.openBracket_cons, if_pos hopen]
    dsimp only
    rw [Vocabulary.blockBy_of_room _ _ (by dsimp only; omega), Vocabulary.readBody_cons,
      if_neg hclose, hr]

theorem parseWithin_tower (e : ScriptError) {n : Nat} (hn : n ≤ maxDepth) :
    Program.parseWithin ("1" ++ String.singleton ' ' ++ tower n) .standard (fun _ => throw e) n =
      .error e := by
  obtain ⟨sizeWord, rest, hwords, hsize, htexts⟩ := words_tower n
  obtain ⟨first, texts, htower, -⟩ := exists_cons_towerTexts n
  obtain ⟨keyword, rest, rfl, -, -⟩ := List.map_eq_cons_iff.mp (htexts.trans htower)
  have hdepth : 0 + n ≤ maxDepth := (Nat.zero_add n).symm ▸ hn
  obtain ⟨r, hr⟩ := commandWithin_tower e n hdepth (htexts.trans (List.append_nil _).symm)
  have hfilter : sizeWord.number?.filter (1 ≤ ·) = some 1 := by
    rw [hsize]
    decide
  rw [Program.parseWithin, Reader.evaluate, Program.readWithin, Reader.bind_apply,
    Reading.ofScript, hwords, Program.readSize_cons, hfilter]
  dsimp only
  rw [Reader.get_bind_apply, Reader.bind_apply, Vocabulary.readToEndBy_cons, hr]

/-- A tower that is not too high is read as one command. -/
theorem parse_tower {n : Nat} (hn : n ≤ maxDepth) :
    ∃ c, Program.parse ("1" ++ String.singleton ' ' ++ tower n) .standard = .ok ⟨1, [c]⟩ := by
  obtain ⟨sizeWord, rest, hwords, hsize, htexts⟩ := words_tower n
  obtain ⟨⟨c, hc, hnesting⟩, -⟩ := derives_tower _ htexts
  rw [← Vocabulary.lexicon_standard] at hc
  have hfits : Command.nestingAll [c] ≤ maxDepth := by
    rw [Command.nestingAll_cons, Command.nestingAll_nil, hnesting, Nat.max_zero]
    exact hn
  exact ⟨c, (Program.parse_eq_ok_iff Vocabulary.plain_standard).mpr
    ⟨sizeWord, rest, hwords, hsize, Int.le_refl 1, hc.singleton, hfits⟩⟩

end Script

/-- As many blocks as may be nested take one reader more than there are blocks. -/
theorem activations_bounded_tower :
    let v := Vocabulary.standard
    let script := "1" ++ String.singleton ' ' ++ Script.tower maxDepth
    let overflow : Word → Reader Command := fun _ => throw .missingSize
    v.Plain ∧ Program.parseWithin script v overflow maxDepth = .error .missingSize ∧
      ∃ c, Program.parse script v = .ok ⟨1, [c]⟩ ∧
        Program.parseWithin script v overflow (maxDepth + 1) = .ok ⟨1, [c]⟩ ∧
          ∀ fails : Command → EStateM RunError (Turtle Grid) Unit,
            c.runWithin fails (maxDepth + 1) = c.run := by
  intro v script overflow
  obtain ⟨c, hparse⟩ := Script.parse_tower (Nat.le_refl maxDepth)
  obtain ⟨hreading, hrunning⟩ := activations_bounded Vocabulary.plain_standard script
  refine ⟨Vocabulary.plain_standard, Script.parseWithin_tower _ (Nat.le_refl _), c, hparse,
    (hreading overflow _ (Nat.le_refl _)).trans hparse, fun fails => ?_⟩
  exact (hrunning _ hparse c List.mem_cons_self).2 Grid fails _ (Nat.le_refl _)

end TurtleGraphics
