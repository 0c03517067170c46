import TurtleGraphics.Proofs.Script.Concatenation

/-!
# Messages of one line

Every message of the interpreter is a single line. Its fixed parts and its numbers have no line
break in them, and neither have the words that it quotes: a newline is a blank, and words end at
blanks. An error in a script quotes words of that script only.
-/

namespace TurtleGraphics

open Text

namespace Text

def OneLine (text : String) : Prop :=
  '\n' ∉ text.toList

instance (text : String) : Decidable (OneLine text) :=
  inferInstanceAs (Decidable ('\n' ∉ text.toList))

@[simp] theorem newline_notMem_toDigits (n : Nat) : '\n' ∉ Nat.toDigits 10 n := by
  intro hmem
  have hdigit := Nat.isDigit_of_mem_toDigits (by decide) (by decide) hmem
  exact absurd hdigit (by decide)

@[simp] theorem newline_notMem_repr (i : Int) : '\n' ∉ i.repr.toList := by
  cases i with
  | ofNat n => simp [Int.repr]
  | negSucc n => simp [Int.repr]

end Text

theorem DrawError.oneLine_message (e : DrawError) : OneLine e.message := by
  unfold OneLine message
  cases e with
  | invalidSize size => simp
  | outOfBounds cell size => simp
  | unsupportedHeading heading => simp

theorem Script.oneLine_of_mem_words {script : String} {word : Word} (h : word ∈ words script) :
    OneLine word.text := by
  intro hmem
  have hblank := (isWordText_of_mem_words h).2 '\n' hmem
  exact absurd isBlank_newline (by simp [hblank])

namespace ScriptError

/-- An error that speaks of words without line breaks. It is paired with another one so that all the
words it speaks of are at hand. -/
theorem Counterpart.oneLine_message {R : Word → Word → Prop} {e e' : ScriptError}
    (h : e.Counterpart R e') (hR : ∀ word word', R word word' → OneLine word.text) :
    OneLine e.message := by
  unfold OneLine message
  unfold OneLine at hR
  cases h with
  | invalidSize paired => simp [hR _ _ paired]
  | malformedArgument command paired => simp [hR _ _ command, hR _ _ paired]
  | missingArgument paired => simp [hR _ _ paired]
  | unknownCommand paired => simp [hR _ _ paired]
  | missingBlock command paired => simp [hR _ _ command, hR _ _ paired]
  | missingBlockAtEnd paired => simp [hR _ _ paired]
  | unterminatedBlock paired => simp [hR _ _ paired]
  | nestedTooDeep paired => simp [hR _ _ paired]

/-- A script is read in step with itself, so all that an error quotes are words of the script. -/
theorem oneLine_message_of_parse {script : String} {e : ScriptError}
    (h : Program.parse script .standard = .error e) : OneLine e.message := by
  let R (word word' : Word) : Prop := word' = word ∧ word ∈ Script.words script
  have hpaired : List.Forall₂ R (Script.words script) (Script.words script) :=
    List.forall₂_same.mpr fun word hword => ⟨rfl, hword⟩
  have hinStep := Program.parse_inStep Vocabulary.plain_standard
    (fun word word' paired => Word.readAlike_of_text_eq _ (congrArg Word.text paired.1.symm))
    hpaired
  rw [h] at hinStep
  rcases hinStep with ⟨hnone, -⟩ | hinStep
  · cases hnone
    decide
  · cases hinStep with
    | error paired =>
      exact paired.oneLine_message fun word _ hword => Script.oneLine_of_mem_words hword.2

end ScriptError

end TurtleGraphics
