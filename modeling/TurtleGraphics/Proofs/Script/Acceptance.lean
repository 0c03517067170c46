import TurtleGraphics.Program
import TurtleGraphics.Proofs.Script.Derivation

/-!
# Reading accepts exactly the grammar

A reader of commands succeeds on exactly the words that the grammar derives, takes no word more
than those, and gives back the tree of the derivation. Both directions are by induction on the
number of blocks that may still be opened: `readCommand_sound` finds the derivation behind a
successful reading, `readCommand_complete` reads what a derivation says, whatever follows it.
-/

namespace TurtleGraphics

instance decidableEqExcept {ε α : Type} [DecidableEq ε] [DecidableEq α] :
    DecidableEq (Except ε α)
  | .ok a, .ok b => decidable_of_iff (a = b) (by simp)
  | .error e, .error f => decidable_of_iff (e = f) (by simp)
  | .ok _, .error _ => isFalse nofun
  | .error _, .ok _ => isFalse nofun

/-- From `r` to `r'` exactly `words` are taken, and as many blocks are open as before. -/
def Reading.Takes (r : Reading) (words : List Word) (r' : Reading) : Prop :=
  r.rest = words ++ r'.rest ∧ r'.depth = r.depth

theorem Reading.Takes.append {r r' r'' : Reading} {words more : List Word}
    (h : r.Takes words r') (h' : r'.Takes more r'') : r.Takes (words ++ more) r'' := by
  refine ⟨?_, h'.2.trans h.2⟩
  rw [h.1, h'.1, List.append_assoc]

namespace Reader

theorem bind_apply {α β : Type} (x : Reader α) (f : α → Reader β) (r : Reading) :
    (x >>= f) r =
      match x r with
      | .ok a r => f a r
      | .error e r => .error e r := by
  change EStateM.bind x f r = _
  unfold EStateM.bind
  cases x r <;> rfl

/-- What a reader in two parts gives back comes from both of them. -/
theorem bind_eq_ok {α β : Type} {x : Reader α} {f : α → Reader β} {r r' : Reading} {b : β}
    (h : (x >>= f) r = .ok b r') : ∃ a r₁, x r = .ok a r₁ ∧ f a r₁ = .ok b r' := by
  rw [bind_apply] at h
  cases hx : x r with
  | error e r₁ =>
    rw [hx] at h
    cases h
  | ok a r₁ =>
    rw [hx] at h
    exact ⟨a, r₁, rfl, h⟩

theorem get_bind_apply {α : Type} (f : Reading → Reader α) (r : Reading) :
    ((get : Reader Reading) >>= f) r = f r r := rfl

theorem argument_eq_ok {keyword : Word} {r r' : Reading} {n : Int}
    (h : argument keyword r = .ok n r') :
    ∃ word, r.Takes [word] r' ∧ word.number? = some n := by
  obtain ⟨rest, depth⟩ := r
  cases rest with
  | nil => cases h
  | cons word rest =>
    rw [argument_cons] at h
    cases hn : word.number? with
    | none =>
      rw [hn] at h
      cases h
    | some m =>
      rw [hn] at h
      cases h
      exact ⟨word, ⟨rfl, rfl⟩, hn⟩

theorem openBracket_eq_ok {keyword : Word} {r r' : Reading} {u : Unit}
    (h : openBracket keyword r = .ok u r') :
    ∃ word, r.Takes [word] r' ∧ word.text = "[" := by
  obtain ⟨rest, depth⟩ := r
  cases rest with
  | nil => cases h
  | cons word rest =>
    rw [openBracket_cons] at h
    by_cases ho : word.isOpenBracket = true
    · rw [if_pos ho] at h
      cases h
      exact ⟨word, ⟨rfl, rfl⟩, beq_iff_eq.mp ho⟩
    · rw [if_neg ho] at h
      cases h

end Reader

namespace Rule

theorem read_step (block : Word → Reader (List Command)) (motion : Motion) (keyword : Word)
    (r : Reading) :
    (step motion).read block keyword r =
      match Reader.argument keyword r with
      | .ok amount r => .ok (.step motion amount keyword.span) r
      | .error e r => .error e r := by
  rw [read, Reader.bind_apply]
  cases Reader.argument keyword r <;> rfl

theorem read_loop (block : Word → Reader (List Command)) (keyword : Word) (r : Reading) :
    loop.read block keyword r =
      match Reader.argument keyword r with
      | .error e r => .error e r
      | .ok count r =>
        match Reader.openBracket keyword r with
        | .error e r => .error e r
        | .ok _ r =>
          match block keyword r with
          | .error e r => .error e r
          | .ok body r => .ok (.loop count body keyword.span) r := by
  simp only [read, Reader.bind_apply]
  cases Reader.argument keyword r with
  | error e r => rfl
  | ok count r =>
    dsimp only
    cases Reader.openBracket keyword r with
    | error e r => rfl
    | ok u r =>
      dsimp only
      cases block keyword r <;> rfl

end Rule

namespace Vocabulary

theorem readCommand_of_find (v : Vocabulary) (block : Word → Reader (List Command))
    {keyword : Word} {rule : Rule} (h : v.find? keyword.text = some rule) :
    v.readCommand block keyword = rule.read block keyword := by
  simp only [readCommand, h]

theorem readCommand_of_not_find (v : Vocabulary) (block : Word → Reader (List Command))
    {keyword : Word} (h : v.find? keyword.text = none) (r : Reading) :
    v.readCommand block keyword r = .error (.unknownCommand keyword) r := by
  simp only [readCommand, h]
  rfl

theorem readBlock_succ (v : Vocabulary) (room : Nat) (keyword : Word) (r : Reading)
    (h : r.depth < maxDepth) :
    v.readBlock (room + 1) keyword r =
      match readBody (v.readCommand (v.readBlock room)) keyword r.rest []
          ⟨r.rest, r.depth + 1⟩ with
      | .ok body r => .ok body r.leave
      | .error e r => .error e r.leave := by
  rw [readBlock, Reader.block_of_room keyword _ h, Reader.get_bind_apply]
  cases readBody (v.readCommand (v.readBlock room)) keyword r.rest [] ⟨r.rest, r.depth + 1⟩ <;> rfl

/-- What a reader of blocks has to find: commands that may stand in a block, and a bracket behind
them. -/
def BlockSound (l : Lexicon) (room : Nat) (block : Word → Reader (List Command)) : Prop :=
  ∀ keyword r body r', block keyword r = .ok body r' →
    ∃ words closing, r.Takes (words ++ [closing]) r' ∧ closing.text = "]" ∧
      DerivesAll l.inside words body ∧ Command.nestingAll body < room

def CommandSound (l : Lexicon) (room : Nat) (command : Word → Reader Command) : Prop :=
  ∀ keyword r c r', command keyword r = .ok c r' →
    ∃ taken, r.Takes taken r' ∧ Derives l (keyword :: taken) c ∧ c.nesting ≤ room

theorem commandSound_readCommand {v : Vocabulary} (hv : v.Plain) {room : Nat}
    {block : Word → Reader (List Command)} (hblock : BlockSound v.lexicon room block) :
    CommandSound v.lexicon room (v.readCommand block) := by
  intro keyword r c r' h
  cases hfind : v.find? keyword.text with
  | none =>
    rw [v.readCommand_of_not_find block hfind] at h
    cases h
  | some rule =>
    rw [v.readCommand_of_find block hfind] at h
    rcases hv _ _ hfind with rfl | ⟨motion, rfl⟩
    · rw [Rule.read] at h
      obtain ⟨count, r₁, ha, h⟩ := Reader.bind_eq_ok h
      obtain ⟨u, r₂, hb, h⟩ := Reader.bind_eq_ok h
      obtain ⟨body, r₃, hc, h⟩ := Reader.bind_eq_ok h
      cases h
      obtain ⟨argument, hta, hn⟩ := Reader.argument_eq_ok ha
      obtain ⟨opening, hto, ho⟩ := Reader.openBracket_eq_ok hb
      obtain ⟨words, closing, htw, hcl, hd, hroom⟩ := hblock keyword r₂ body _ hc
      refine ⟨_, hta.append (hto.append htw), .loop hfind hn ho hd hcl, ?_⟩
      rw [Command.nesting_loop]
      omega
    · rw [Rule.read] at h
      obtain ⟨amount, r₁, ha, h⟩ := Reader.bind_eq_ok h
      cases h
      obtain ⟨argument, hta, hn⟩ := Reader.argument_eq_ok ha
      refine ⟨_, hta, .step hfind hn, ?_⟩
      rw [Command.nesting_step]
      exact Nat.zero_le _

theorem readBody_sound {l : Lexicon} {room : Nat} {command : Word → Reader Command}
    (hcommand : CommandSound l room command) (keyword : Word) (bound : List Word)
    (done : List Command) {r r' : Reading} {body : List Command}
    (h : readBody command keyword bound done r = .ok body r') :
    ∃ words closing cs, r.Takes (words ++ [closing]) r' ∧ closing.text = "]" ∧
      DerivesAll l.inside words cs ∧ Command.nestingAll cs ≤ room ∧
      body = done.reverse ++ cs := by
  induction bound generalizing r done with
  | nil => cases h
  | cons b bound ih =>
    obtain ⟨rest, depth⟩ := r
    cases rest with
    | nil =>
      rw [readBody_nil] at h
      cases h
    | cons word rest =>
      rw [readBody_cons] at h
      by_cases hw : word.isCloseBracket = true
      · rw [if_pos hw] at h
        cases h
        exact ⟨[], word, [], ⟨rfl, rfl⟩, beq_iff_eq.mp hw, .nil, Nat.zero_le _,
          (List.append_nil _).symm⟩
      · rw [if_neg hw] at h
        have hne : word.text ≠ "]" := fun he => hw (beq_iff_eq.mpr he)
        cases hc : command word ⟨rest, depth⟩ with
        | error e r₁ => simp only [hc] at h; cases h
        | ok c r₁ =>
          simp only [hc] at h
          obtain ⟨taken, ht, hd, hn⟩ := hcommand word _ c r₁ hc
          obtain ⟨words, closing, cs, htw, hcl, hds, hns, rfl⟩ := ih (c :: done) h
          refine ⟨(word :: taken) ++ words, closing, c :: cs, ?_, hcl, .cons (hd.inside hne) hds,
            ?_, ?_⟩
          · obtain ⟨htr, htd⟩ := ht.append htw
            refine ⟨?_, htd⟩
            simpa only [List.cons_append, List.append_assoc] using congrArg (word :: ·) htr
          · rw [Command.nestingAll_cons]
            exact Nat.max_le.mpr ⟨hn, hns⟩
          · rw [List.reverse_cons, List.append_assoc]
            rfl

theorem blockSound_readBlock {v : Vocabulary} (hv : v.Plain) (room : Nat) :
    BlockSound v.lexicon room (v.readBlock room) := by
  induction room with
  | zero =>
    intro keyword r body r' h
    by_cases hr : r.depth < maxDepth
    · rw [readBlock, Reader.block_of_room keyword _ hr] at h
      cases h
    · rw [v.readBlock_of_full 0 keyword (Nat.le_of_not_lt hr)] at h
      cases h
  | succ room ih =>
    intro keyword r body r' h
    by_cases hr : r.depth < maxDepth
    · rw [v.readBlock_succ room keyword r hr] at h
      cases hb : readBody (v.readCommand (v.readBlock room)) keyword r.rest []
          ⟨r.rest, r.depth + 1⟩ with
      | error e r₁ => simp only [hb] at h; cases h
      | ok body₁ r₁ =>
        simp only [hb] at h
        cases h
        obtain ⟨words, closing, cs, ⟨htr, htd⟩, hcl, hd, hn, hbody⟩ :=
          readBody_sound (commandSound_readCommand hv ih) keyword _ [] hb
        rw [List.reverse_nil, List.nil_append] at hbody
        subst hbody
        refine ⟨words, closing, ⟨htr, ?_⟩, hcl, hd, Nat.lt_succ_of_le hn⟩
        change r₁.depth - 1 = r.depth
        simp only at htd
        omega
    · rw [v.readBlock_of_full (room + 1) keyword (Nat.le_of_not_lt hr)] at h
      cases h

/-- Behind every command that is read there is a derivation from exactly the words taken. -/
theorem readCommand_sound {v : Vocabulary} (hv : v.Plain) (room : Nat) :
    CommandSound v.lexicon room (v.readCommand (v.readBlock room)) :=
  commandSound_readCommand hv (blockSound_readBlock hv room)

end Vocabulary

theorem Derives.exists_cons {l : Lexicon} {words : List Word} {c : Command}
    (h : Derives l words c) : ∃ keyword taken, words = keyword :: taken := by
  cases h with
  | step introduces number => exact ⟨_, _, rfl⟩
  | loop introduces number opens block closes => exact ⟨_, _, rfl⟩

theorem Derives.keyword_ne_close {l m : Lexicon} {keyword : Word} {taken : List Word}
    {c : Command} (h : Derives l (keyword :: taken) c) (hl : l ≤ m.inside) :
    keyword.text ≠ "]" := by
  cases h with
  | step introduces number => exact (hl.1 _ _ introduces).2
  | loop introduces number opens block closes => exact (hl.2 _ introduces).2

namespace Vocabulary

/-- A reader of blocks that reads what a derivation says, inside `depth` blocks and with room for
`room` more. -/
def BlockComplete (v : Vocabulary) (room depth : Nat) (block : Word → Reader (List Command)) :
    Prop :=
  ∀ l, l ≤ v.lexicon.inside → ∀ keyword words closing body, DerivesAll l words body →
    closing.text = "]" → Command.nestingAll body < room →
    ∀ rest, block keyword ⟨words ++ closing :: rest, depth⟩ = .ok body ⟨rest, depth⟩

def CommandComplete (v : Vocabulary) (room depth : Nat) (command : Word → Reader Command) : Prop :=
  ∀ l, l ≤ v.lexicon → ∀ keyword taken c, Derives l (keyword :: taken) c → c.nesting ≤ room →
    ∀ rest, command keyword ⟨taken ++ rest, depth⟩ = .ok c ⟨rest, depth⟩

theorem commandComplete_readCommand {v : Vocabulary} {room depth : Nat}
    {block : Word → Reader (List Command)} (hblock : BlockComplete v room depth block) :
    CommandComplete v room depth (v.readCommand block) := by
  intro l hl keyword taken c hd hroom rest
  cases hd with
  | step introduces number =>
    rw [v.readCommand_of_find _ (hl.1 _ _ introduces), Rule.read_step, List.singleton_append,
      Reader.argument_cons, number]
  | @loop _ _ argument opening closing words count body introduces number opens inner closes =>
    rw [Command.nesting_loop] at hroom
    have ho : opening.isOpenBracket = true := beq_iff_eq.mpr opens
    have hbody := hblock _ (Lexicon.inside_le_inside hl) keyword words closing body inner closes
      hroom rest
    rw [v.readCommand_of_find _ (hl.2 _ introduces), Rule.read_loop, List.cons_append,
      List.cons_append, Reader.argument_cons, number]
    dsimp only
    rw [Reader.openBracket_cons, if_pos ho, List.append_assoc]
    dsimp only [List.singleton_append]
    rw [hbody]

theorem readBody_complete {v : Vocabulary} {room depth : Nat} {command : Word → Reader Command}
    (hcommand : CommandComplete v room depth command) (keyword : Word) {closing : Word}
    (hclosing : closing.text = "]") (rest : List Word) {l : Lexicon} (hl : l ≤ v.lexicon.inside)
    {cs : List Command} (hroom : Command.nestingAll cs ≤ room) {words : List Word}
    (h : DerivesAll l words cs) (bound : List Word) (hbound : words.length < bound.length)
    (done : List Command) :
    readBody command keyword bound done ⟨words ++ closing :: rest, depth⟩ =
      .ok (done.reverse ++ cs) ⟨rest, depth⟩ := by
  induction cs generalizing words bound done with
  | nil =>
    cases h
    cases bound with
    | nil => cases hbound
    | cons b bound =>
      have hc : closing.isCloseBracket = true := beq_iff_eq.mpr hclosing
      rw [List.nil_append, readBody_cons, if_pos hc, List.append_nil]
  | cons c cs ih =>
    rw [Command.nestingAll_cons] at hroom
    cases h with
    | @cons _ first more _ _ head tail =>
      obtain ⟨word, taken, rfl⟩ := head.exists_cons
      cases bound with
      | nil => cases hbound
      | cons b bound =>
        have hne : ¬ word.isCloseBracket = true := fun he =>
          head.keyword_ne_close hl (beq_iff_eq.mp he)
        have hc := hcommand l (Lexicon.le_trans hl (Lexicon.inside_le _)) word taken c head
          (by omega) (more ++ closing :: rest)
        rw [List.append_assoc, List.cons_append, readBody_cons, if_neg hne, hc]
        have hlen : more.length < bound.length := by
          simp only [List.length_append, List.length_cons] at hbound
          omega
        have hrest := ih (by omega) tail bound hlen (c :: done)
        rw [List.reverse_cons, List.append_assoc] at hrest
        exact hrest

theorem blockComplete_readBlock (v : Vocabulary) {room depth : Nat}
    (h : room ≤ maxDepth - depth) : BlockComplete v room depth (v.readBlock room) := by
  induction room generalizing depth with
  | zero =>
    intro l hl keyword words closing body hd hclosing hroom rest
    cases hroom
  | succ room ih =>
    intro l hl keyword words closing body hd hclosing hroom rest
    have hdepth : depth < maxDepth := by omega
    have hinner : room ≤ maxDepth - (depth + 1) := by omega
    have hcommand := commandComplete_readCommand (ih hinner)
    have hbody := readBody_complete hcommand keyword hclosing rest hl (Nat.le_of_lt_succ hroom) hd
      (words ++ closing :: rest) (by simp only [List.length_append, List.length_cons]; omega) []
    rw [v.readBlock_succ room keyword _ hdepth, hbody]
    rfl

/-- What a derivation says is read, whatever follows, if there is room for its blocks. -/
theorem readCommand_complete (v : Vocabulary) {room depth : Nat} (h : room ≤ maxDepth - depth) :
    CommandComplete v room depth (v.readCommand (v.readBlock room)) :=
  commandComplete_readCommand (v.blockComplete_readBlock h)

theorem command_complete (v : Vocabulary) {keyword : Word} {taken : List Word} {c : Command}
    {depth : Nat} (h : Derives v.lexicon (keyword :: taken) c)
    (hroom : c.nesting ≤ maxDepth - depth) (rest : List Word) :
    v.command keyword ⟨taken ++ rest, depth⟩ = .ok c ⟨rest, depth⟩ :=
  v.readCommand_complete (Nat.le_refl _) v.lexicon ⟨fun _ _ => id, fun _ => id⟩ keyword taken c h
    hroom rest

/-- A command is read exactly where the grammar derives one, from exactly its words. -/
theorem command_eq_ok_iff {v : Vocabulary} (hv : v.Plain) {keyword : Word} {r r' : Reading}
    {c : Command} :
    v.command keyword r = .ok c r' ↔
      ∃ taken, r.Takes taken r' ∧ Derives v.lexicon (keyword :: taken) c ∧
        c.nesting ≤ maxDepth - r.depth := by
  constructor
  · exact readCommand_sound hv _ keyword r c r'
  · rintro ⟨taken, ⟨hrest, hdepth⟩, hd, hroom⟩
    obtain ⟨rest, depth⟩ := r
    obtain ⟨rest', depth'⟩ := r'
    simp only at hrest hdepth hroom
    rw [hrest, hdepth]
    exact v.command_complete hd hroom rest'

theorem readToEnd_sound {v : Vocabulary} (hv : v.Plain) (bound : List Word)
    (done : List Command) {r r' : Reading} (hbound : r.rest.length ≤ bound.length)
    {commands : List Command} (h : v.readToEnd bound done r = .ok commands r') :
    ∃ cs, commands = done.reverse ++ cs ∧ DerivesAll v.lexicon r.rest cs ∧
      Command.nestingAll cs ≤ maxDepth - r.depth := by
  induction bound generalizing done r with
  | nil =>
    obtain ⟨rest, depth⟩ := r
    cases List.length_eq_zero_iff.mp (Nat.le_zero.mp hbound)
    rw [readToEnd_nil] at h
    cases h
    exact ⟨[], (List.append_nil _).symm, .nil, Nat.zero_le _⟩
  | cons b bound ih =>
    obtain ⟨rest, depth⟩ := r
    cases rest with
    | nil =>
      rw [readToEnd_nil] at h
      cases h
      exact ⟨[], (List.append_nil _).symm, .nil, Nat.zero_le _⟩
    | cons word rest =>
      rw [readToEnd_cons] at h
      cases hc : v.command word ⟨rest, depth⟩ with
      | error e r₁ => simp only [hc] at h; cases h
      | ok c r₁ =>
        simp only [hc] at h
        obtain ⟨taken, ⟨htr, htd⟩, hd, hn⟩ := (command_eq_ok_iff hv).mp hc
        simp only at htr htd hn
        have hlen : r₁.rest.length ≤ bound.length := by
          simp only [htr, List.length_cons, List.length_append] at hbound
          omega
        obtain ⟨cs, rfl, hds, hns⟩ := ih (c :: done) hlen h
        refine ⟨c :: cs, ?_, ?_, ?_⟩
        · rw [List.reverse_cons, List.append_assoc]
          rfl
        · have hall := DerivesAll.cons hd hds
          rwa [List.cons_append, ← htr] at hall
        · rw [Command.nestingAll_cons]
          rw [htd] at hns
          exact Nat.max_le.mpr ⟨hn, hns⟩

theorem readToEnd_complete (v : Vocabulary) {cs : List Command} {words : List Word} {depth : Nat}
    (h : DerivesAll v.lexicon words cs) (hroom : Command.nestingAll cs ≤ maxDepth - depth)
    (bound : List Word) (hbound : words.length ≤ bound.length) (done : List Command) :
    v.readToEnd bound done ⟨words, depth⟩ = .ok (done.reverse ++ cs) ⟨[], depth⟩ := by
  induction cs generalizing words bound done with
  | nil =>
    cases h
    rw [readToEnd_nil, List.append_nil]
  | cons c cs ih =>
    rw [Command.nestingAll_cons] at hroom
    cases h with
    | @cons _ first more _ _ head tail =>
      obtain ⟨word, taken, rfl⟩ := head.exists_cons
      cases bound with
      | nil => cases hbound
      | cons b bound =>
        have hc : v.command word ⟨taken ++ more, depth⟩ = .ok c ⟨more, depth⟩ :=
          v.command_complete head (by omega) more
        have hlen : more.length ≤ bound.length := by
          simp only [List.cons_append, List.length_append, List.length_cons] at hbound
          omega
        rw [List.cons_append, readToEnd_cons, hc]
        have hrest := ih tail (by omega) bound hlen (c :: done)
        rw [List.reverse_cons, List.append_assoc] at hrest
        exact hrest

end Vocabulary

/-- The programs that the words of a script derive: a size, and commands that nest at most
`maxDepth` blocks. -/
def Program.Derived (l : Lexicon) (words : List Word) (p : Program) : Prop :=
  ∃ sizeWord rest, words = sizeWord :: rest ∧ sizeWord.number? = some p.size ∧ 1 ≤ p.size ∧
    DerivesAll l rest p.commands ∧ Command.nestingAll p.commands ≤ maxDepth

namespace Program

theorem readSize_cons (word : Word) (rest : List Word) (depth : Nat) :
    readSize ⟨word :: rest, depth⟩ =
      match word.number?.filter (1 ≤ ·) with
      | none => .error (.invalidSize word) ⟨rest, depth⟩
      | some size => .ok size ⟨rest, depth⟩ := by
  rw [readSize, Reader.bind_apply, Reader.take?_cons]
  dsimp only
  cases word.number?.filter (1 ≤ ·) <;> rfl

theorem parse_of_nil {script : String} (v : Vocabulary) (h : Script.words script = []) :
    parse script v = .error .missingSize := by
  rw [parse, Reading.ofScript, h]
  rfl

/-- Once the size is read, the rest of the script is its commands. -/
theorem parse_of_cons {script : String} (v : Vocabulary) {word : Word} {rest : List Word}
    (h : Script.words script = word :: rest) :
    parse script v =
      match word.number?.filter (1 ≤ ·) with
      | none => .error (.invalidSize word)
      | some size =>
        match v.readToEnd rest [] ⟨rest, 0⟩ with
        | .ok commands _ => .ok ⟨size, commands⟩
        | .error e _ => .error e := by
  rw [parse, Reading.ofScript, h, Reader.evaluate, read, Reader.bind_apply, readSize_cons]
  cases word.number?.filter (1 ≤ ·) with
  | none => rfl
  | some size =>
    dsimp only
    rw [Reader.bind_apply, Vocabulary.commands, Reader.get_bind_apply]
    dsimp only
    cases v.readToEnd rest [] ⟨rest, 0⟩ <;> rfl

theorem parse_eq_ok_iff {v : Vocabulary} (hv : v.Plain) {script : String} {p : Program} :
    parse script v = .ok p ↔ Derived v.lexicon (Script.words script) p := by
  constructor
  · intro h
    cases hw : Script.words script with
    | nil =>
      rw [parse_of_nil v hw] at h
      cases h
    | cons word rest =>
      rw [parse_of_cons v hw] at h
      cases hs : word.number?.filter (1 ≤ ·) with
      | none => simp only [hs] at h; cases h
      | some size =>
        cases hr : v.readToEnd rest [] ⟨rest, 0⟩ with
        | error e r => simp only [hs, hr] at h; cases h
        | ok commands r =>
          simp only [hs, hr] at h
          cases h
          obtain ⟨hn, hpos⟩ := Option.filter_eq_some_iff.mp hs
          obtain ⟨cs, rfl, hd, hroom⟩ := Vocabulary.readToEnd_sound hv rest [] (Nat.le_refl _) hr
          exact ⟨word, rest, rfl, hn, of_decide_eq_true hpos, hd, hroom⟩
  · rintro ⟨word, rest, hw, hn, hpos, hd, hroom⟩
    have hs : word.number?.filter (1 ≤ ·) = some p.size :=
      Option.filter_eq_some_iff.mpr ⟨hn, decide_eq_true hpos⟩
    have hdepth : Command.nestingAll p.commands ≤ maxDepth - 0 := hroom
    have hr := v.readToEnd_complete hd hdepth rest (Nat.le_refl _) []
    rw [parse_of_cons v hw, hs]
    dsimp only
    rw [hr]
    rfl

end Program

/-- Reading accepts exactly the grammar, whose rules are the same in blocks and outside, and gives
the tree of the derivation. A script is read as the one program that its words derive. A command
is read, inside any number of blocks, exactly where the words behind its keyword start with a
derivation that opens no more blocks than may still be opened; no word behind that derivation has
a say in it. -/
theorem standard_accepts_exactly_grammar :
    Lexicon.standard.inside = Lexicon.standard ∧
    (∀ script p, Program.parse script .standard = .ok p ↔
      Program.Derived .standard (Script.words script) p) ∧
    (∀ script p q, Program.Derived .standard (Script.words script) p →
      Program.Derived .standard (Script.words script) q → p = q) ∧
    (∀ keyword r c r', Vocabulary.standard.command keyword r = .ok c r' ↔
      ∃ taken, r.Takes taken r' ∧ Derives .standard (keyword :: taken) c ∧
        c.nesting ≤ maxDepth - r.depth) ∧
    ∀ keyword taken c depth rest rest',
      Vocabulary.standard.command keyword ⟨taken ++ rest, depth⟩ = .ok c ⟨rest, depth⟩ ↔
      Vocabulary.standard.command keyword ⟨taken ++ rest', depth⟩ = .ok c ⟨rest', depth⟩ := by
  have hparse (script : String) (p : Program) : Program.parse script .standard = .ok p ↔
      Program.Derived .standard (Script.words script) p := by
    rw [Program.parse_eq_ok_iff Vocabulary.plain_standard, Vocabulary.lexicon_standard]
  have hcommand (keyword : Word) (r r' : Reading) (c : Command) :
      Vocabulary.standard.command keyword r = .ok c r' ↔
        ∃ taken, r.Takes taken r' ∧ Derives .standard (keyword :: taken) c ∧
          c.nesting ≤ maxDepth - r.depth := by
    rw [Vocabulary.command_eq_ok_iff Vocabulary.plain_standard, Vocabulary.lexicon_standard]
  refine ⟨Lexicon.standard_inside, hparse, ?_, fun keyword r c r' => hcommand keyword r r' c, ?_⟩
  · intro script p q hp hq
    have hok := ((hparse script p).mpr hp).symm.trans ((hparse script q).mpr hq)
    exact Except.ok.inj hok
  · intro keyword taken c depth rest rest'
    rw [hcommand, hcommand]
    simp only [Reading.Takes, and_true, List.append_cancel_right_eq]

end TurtleGraphics
