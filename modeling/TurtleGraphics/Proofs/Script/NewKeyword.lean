import TurtleGraphics.Proofs.Script.Acceptance

/-!
# New keywords

A vocabulary is asked about a word only where a command may start. A keyword that it did not have
is therefore met by a reading in one way only: where the old vocabulary fails, on that very word.
`Reader.AgreesUnless` says of two readers that they do the same unless the first fails in this way;
every part of the reader of commands keeps it. Brackets and numbers may become keywords like any
other word, since a bracket that closes a block and a number that follows its keyword are never
looked up.
-/

namespace TurtleGraphics

namespace Reader

variable {α β : Type} {keyword : String}

/-- `extended` does what `reader` does, unless `reader` fails because it does not know `keyword`. -/
def AgreesUnless (keyword : String) (reader extended : Reader α) : Prop :=
  ∀ r, extended r = reader r ∨
    ∃ word r', word.text = keyword ∧ reader r = .error (.unknownCommand word) r'

theorem AgreesUnless.refl (reader : Reader α) : AgreesUnless keyword reader reader :=
  fun _ => .inl rfl

theorem AgreesUnless.bind {reader extended : Reader α} {next next' : α → Reader β}
    (h : AgreesUnless keyword reader extended)
    (hnext : ∀ a, AgreesUnless keyword (next a) (next' a)) :
    AgreesUnless keyword (reader >>= next) (extended >>= next') := by
  intro r
  rw [bind_apply, bind_apply]
  rcases h r with heq | ⟨word, r', hword, hfails⟩
  · rw [heq]
    cases reader r with
    | ok a r₁ => exact hnext a r₁
    | error e r₁ => exact .inl rfl
  · rw [hfails]
    exact .inr ⟨word, r', hword, rfl⟩

theorem AgreesUnless.block {body body' : Reader α} (h : AgreesUnless keyword body body')
    (opener : Word) : AgreesUnless keyword (block opener body) (block opener body') := by
  intro r
  by_cases hroom : r.depth < maxDepth
  · rw [block_of_room opener body hroom, block_of_room opener body' hroom]
    rcases h ⟨r.rest, r.depth + 1⟩ with heq | ⟨word, r', hword, hfails⟩
    · rw [heq]
      exact .inl rfl
    · rw [hfails]
      exact .inr ⟨word, r'.leave, hword, rfl⟩
  · have hfull : maxDepth ≤ r.depth := Nat.le_of_not_lt hroom
    rw [block_of_full opener body hfull, block_of_full opener body' hfull]
    exact .inl rfl

end Reader

namespace Vocabulary

open Reader

variable {v : Vocabulary} {keyword : String}

/-- Every word but the new keyword has the rule it had, and the new one had none. -/
theorem agreesUnless_readCommand (hv : v.Plain) (hnew : v.find? keyword = none) (rule : Rule)
    {block block' : Word → Reader (List Command)}
    (hblock : ∀ opener, AgreesUnless keyword (block opener) (block' opener)) (word : Word) :
    AgreesUnless keyword (v.readCommand block word)
      ((v.insert keyword rule).readCommand block' word) := by
  by_cases hword : word.text = keyword
  · intro r
    exact .inr ⟨word, r, hword, v.readCommand_of_not_find block (hword ▸ hnew) r⟩
  · have hfind : (v.insert keyword rule).find? word.text = v.find? word.text := by
      rw [find?_insert, if_neg hword]
    cases hold : v.find? word.text with
    | none =>
      intro r
      rw [readCommand_of_not_find _ _ (hfind.trans hold), v.readCommand_of_not_find _ hold]
      exact .inl rfl
    | some known =>
      rw [readCommand_of_find _ _ (hfind.trans hold), v.readCommand_of_find _ hold]
      rcases hv _ _ hold with rfl | ⟨motion, rfl⟩
      · rw [Rule.read, Rule.read]
        exact (AgreesUnless.refl _).bind fun count => (AgreesUnless.refl _).bind fun _ =>
          (hblock word).bind fun body => .refl _
      · exact .refl _

theorem agreesUnless_readBody {command command' : Word → Reader Command}
    (h : ∀ word, AgreesUnless keyword (command word) (command' word)) (opener : Word)
    (bound : List Word) (done : List Command) :
    AgreesUnless keyword (readBody command opener bound done)
      (readBody command' opener bound done) := by
  induction bound generalizing done with
  | nil => exact .refl _
  | cons b bound ih =>
    rw [readBody, readBody]
    refine (AgreesUnless.refl _).bind fun word? => ?_
    cases word? with
    | none => exact .refl _
    | some word =>
      dsimp only
      by_cases hclose : word.isCloseBracket = true
      · -- In a block a closing bracket is taken before it could be looked up.
        rw [if_pos hclose, if_pos hclose]
        exact .refl _
      · rw [if_neg hclose, if_neg hclose]
        exact (h word).bind fun c => ih (c :: done)

theorem agreesUnless_readBlock (hv : v.Plain) (hnew : v.find? keyword = none) (rule : Rule)
    (room : Nat) (opener : Word) :
    AgreesUnless keyword (v.readBlock room opener)
      ((v.insert keyword rule).readBlock room opener) := by
  induction room generalizing opener with
  | zero => exact .refl _
  | succ room ih =>
    rw [readBlock, readBlock]
    refine AgreesUnless.block ((AgreesUnless.refl _).bind fun r => ?_) opener
    exact agreesUnless_readBody (agreesUnless_readCommand hv hnew rule ih) opener r.rest []

theorem agreesUnless_command (hv : v.Plain) (hnew : v.find? keyword = none) (rule : Rule)
    (word : Word) :
    AgreesUnless keyword (v.command word) ((v.insert keyword rule).command word) := by
  rw [command, command]
  refine (AgreesUnless.refl _).bind fun r => ?_
  exact agreesUnless_readCommand hv hnew rule (agreesUnless_readBlock hv hnew rule _) word

theorem agreesUnless_readToEnd (hv : v.Plain) (hnew : v.find? keyword = none) (rule : Rule)
    (bound : List Word) (done : List Command) :
    AgreesUnless keyword (v.readToEnd bound done)
      ((v.insert keyword rule).readToEnd bound done) := by
  induction bound generalizing done with
  | nil => exact .refl _
  | cons b bound ih =>
    rw [readToEnd, readToEnd]
    refine (AgreesUnless.refl _).bind fun word? => ?_
    cases word? with
    | none => exact .refl _
    | some word => exact (agreesUnless_command hv hnew rule word).bind fun c => ih (c :: done)

end Vocabulary

theorem Program.agreesUnless_read {v : Vocabulary} {keyword : String} (hv : v.Plain)
    (hnew : v.find? keyword = none) (rule : Rule) :
    Reader.AgreesUnless keyword (read v) (read (v.insert keyword rule)) := by
  rw [read, read]
  refine (Reader.AgreesUnless.refl _).bind fun size => ?_
  have hcommands : Reader.AgreesUnless keyword v.commands (v.insert keyword rule).commands :=
    (Reader.AgreesUnless.refl _).bind fun r =>
      Vocabulary.agreesUnless_readToEnd hv hnew rule r.rest []
  exact hcommands.bind fun commands => .refl _

/-- A new keyword, whatever its rule, changes nothing about a script, unless the script fails
because it is not known. -/
theorem parse_insert_eq_parse {v : Vocabulary} (hv : v.Plain) {keyword : String}
    (hnew : v.find? keyword = none) (rule : Rule) {script : String}
    (hknown : ∀ word, word.text = keyword →
      Program.parse script v ≠ .error (.unknownCommand word)) :
    Program.parse script (v.insert keyword rule) = Program.parse script v := by
  rcases Program.agreesUnless_read hv hnew rule (.ofScript script) with
    heq | ⟨word, r', hword, hfails⟩
  · rw [Program.parse, Program.parse, Reader.evaluate, Reader.evaluate, heq]
  · refine absurd ?_ (hknown word hword)
    rw [Program.parse, Reader.evaluate, hfails]

/-- A closing bracket that has become a keyword still closes blocks, and a number that has become
one is still read as an argument. Where the bracket was not known before, its rule is used. -/
theorem parse_insert_eq_parse_bracket :
    let v := Vocabulary.standard
    let rule : Rule := .custom fun _ keyword => return .loop 0 [] keyword.span
    let script := "5 REPEAT 2 [ RT 90 ] FD 9"
    let p : Program := ⟨5, [.loop 2 [.step .right 90 ⟨13, 15, 1, 14⟩] ⟨2, 8, 1, 3⟩,
      .step .forward 9 ⟨21, 23, 1, 22⟩]⟩
    (v.Plain ∧ v.find? "]" = none ∧ v.find? "90" = none) ∧
      (Program.parse script v = .ok p ∧ Program.parse script (v.insert "]" rule) = .ok p ∧
        Program.parse script (v.insert "90" rule) = .ok p) ∧
        Program.parse "5 ]" v = .error (.unknownCommand ⟨"]", ⟨2, 3, 1, 3⟩⟩) ∧
          Program.parse "5 ]" (v.insert "]" rule) = .ok ⟨5, [.loop 0 [] ⟨2, 3, 1, 3⟩]⟩ := by
  intro v rule script p
  have hv : v.Plain := Vocabulary.plain_standard
  have hbracket : v.find? "]" = none := by decide
  have hnumber : v.find? "90" = none := by decide
  have hp : Program.parse script v = .ok p := by decide +kernel
  have hok (keyword : String) (word : Word) (_ : word.text = keyword) :
      Program.parse script v ≠ .error (.unknownCommand word) := by
    rw [hp]
    exact nofun
  refine ⟨⟨hv, hbracket, hnumber⟩, ⟨hp, ?_, ?_⟩, by decide +kernel, by decide +kernel⟩
  · exact (parse_insert_eq_parse hv hbracket rule (hok "]")).trans hp
  · exact (parse_insert_eq_parse hv hnumber rule (hok "90")).trans hp

end TurtleGraphics
