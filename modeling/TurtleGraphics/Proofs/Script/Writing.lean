import TurtleGraphics.Proofs.Script.Acceptance
import TurtleGraphics.Proofs.Script.Layout

/-!
# Writing programs

A program is written word by word: its size, then its commands in order, each with its keyword and
its number, and the body of a loop in brackets. Keywords may be long or short, numbers may have
zeros in front and, when they are not negative, a plus sign, and any blanks may stand between the
words. Whatever is chosen, what is written is read back, except for the places of its commands.
-/

namespace TurtleGraphics

open Text

namespace Text.Numeral

/-- The decimal spellings of a number. Zero may have any sign. -/
inductive Spells : Int → List Char → Prop
  | plain (n zeros : Nat) : Spells n (List.replicate zeros '0' ++ Nat.toDigits 10 n)
  | plus (n zeros : Nat) : Spells n ('+' :: (List.replicate zeros '0' ++ Nat.toDigits 10 n))
  | minus (n zeros : Nat) : Spells (-n) ('-' :: (List.replicate zeros '0' ++ Nat.toDigits 10 n))

theorem magnitude?_digits (n zeros : Nat) :
    magnitude? (List.replicate zeros '0' ++ Nat.toDigits 10 n) = some n := by
  have hne : List.replicate zeros '0' ++ Nat.toDigits 10 n ≠ [] :=
    List.append_ne_nil_of_right_ne_nil _ Nat.toDigits_ne_nil
  have hdigits : (List.replicate zeros '0' ++ Nat.toDigits 10 n).all Char.isDigit = true := by
    rw [List.all_eq_true]
    intro c hc
    rcases List.mem_append.mp hc with hc | hc
    · rw [List.eq_of_mem_replicate hc]
      rfl
    · exact Nat.isDigit_of_mem_toDigits (by decide) (by decide) hc
  have hvalue : value (List.replicate zeros '0' ++ Nat.toDigits 10 n) = n := by
    have hfold : value (List.replicate zeros '0' ++ Nat.toDigits 10 n) =
        Nat.ofDigitChars 10 (List.replicate zeros '0' ++ Nat.toDigits 10 n) 0 :=
      Nat.ofDigitChars_eq_foldl.symm
    rw [hfold, Nat.ofDigitChars_append, Nat.ofDigitChars_replicate_zero, Nat.mul_zero,
      Nat.ofDigitChars_ten_toDigits]
  rw [magnitude?, if_pos ⟨hne, hdigits⟩, hvalue]

theorem signed?_of_magnitude? {digits : List Char} {n : Nat} (h : magnitude? digits = some n) :
    signed? digits = some (n : Int) := by
  unfold signed?
  -- A sign is no digit, so a text that is a magnitude does not start with one.
  split
  · cases h
  · cases h
  · rw [h]
    rfl

theorem signed?_of_spells {n : Int} {text : List Char} (h : Spells n text) :
    signed? text = some n := by
  cases h with
  | plain n zeros => exact signed?_of_magnitude? (magnitude?_digits n zeros)
  | plus n zeros =>
    rw [signed?, magnitude?_digits]
    rfl
  | minus n zeros =>
    rw [signed?, magnitude?_digits]
    rfl

theorem read?_of_spells {n : Int} {text : List Char} (h : Spells n text) (hn : InRange n) :
    read? text = some n := by
  rw [read?, signed?_of_spells h, Option.filter_some, if_pos (decide_eq_true hn)]

end Text.Numeral

namespace Command

mutual

inductive Writes : List String → Command → Prop
  | step {keyword number : String} {motion : Motion} {amount : Int} {span : Span}
      (introduces : Lexicon.standard.step keyword motion)
      (spells : Numeral.Spells amount number.toList) :
      Writes [keyword, number] (.step motion amount span)
  | loop {number : String} {texts : List String} {count : Int} {body : List Command} {span : Span}
      (spells : Numeral.Spells count number.toList) (block : WritesAll texts body) :
      Writes ("REPEAT" :: number :: "[" :: (texts ++ ["]"])) (.loop count body span)

inductive WritesAll : List String → List Command → Prop
  | nil : WritesAll [] []
  | cons {first rest : List String} {c : Command} {cs : List Command} (head : Writes first c)
      (tail : WritesAll rest cs) : WritesAll (first ++ rest) (c :: cs)

end

mutual

def numbers : Command → List Int
  | step _ amount _ => [amount]
  | loop count body _ => count :: numbersAll body

def numbersAll : List Command → List Int
  | [] => []
  | c :: cs => c.numbers ++ numbersAll cs

end

mutual

def unplaced : Command → Command
  | step motion amount _ => step motion amount default
  | loop count body _ => loop count (unplacedAll body) default

def unplacedAll : List Command → List Command
  | [] => []
  | c :: cs => c.unplaced :: unplacedAll cs

end

mutual

theorem nesting_unplaced (c : Command) : c.unplaced.nesting = c.nesting := by
  cases c with
  | step motion amount span => rw [unplaced, nesting_step, nesting_step]
  | loop count body span => rw [unplaced, nesting_loop, nesting_loop, nestingAll_unplacedAll body]

theorem nestingAll_unplacedAll (cs : List Command) :
    nestingAll (unplacedAll cs) = nestingAll cs := by
  cases cs with
  | nil => rw [unplacedAll]
  | cons c cs =>
    rw [unplacedAll, nestingAll_cons, nestingAll_cons, nesting_unplaced c,
      nestingAll_unplacedAll cs]

end

theorem number?_of_spells {word : Word} {n : Int} (h : Numeral.Spells n word.text.toList)
    (hn : Numeral.InRange n) : word.number? = some n :=
  Numeral.read?_of_spells h hn

mutual

/-- Words that write a command derive it, except for its places. -/
theorem Writes.exists_derives {c : Command} {texts : List String} (h : Writes texts c)
    (hrange : ∀ n ∈ c.numbers, Numeral.InRange n) {words : List Word}
    (hwords : words.map Word.text = texts) :
    ∃ d, Derives .standard words d ∧ d.unplaced = c.unplaced := by
  cases c with
  | step motion amount span =>
    cases h with
    | @step keyword number _ _ _ introduces spells =>
      obtain ⟨kw, args, rfl, rfl, hargs⟩ := List.map_eq_cons_iff.mp hwords
      obtain ⟨arg, rest, rfl, rfl, hrest⟩ := List.map_eq_cons_iff.mp hargs
      obtain rfl := List.map_eq_nil_iff.mp hrest
      have hamount := hrange amount (by rw [numbers]; exact List.mem_singleton_self amount)
      refine ⟨_, .step introduces (number?_of_spells spells hamount), ?_⟩
      rw [unplaced, unplaced]
  | loop count body span =>
    cases h with
    | @loop number texts _ _ _ spells block =>
      obtain ⟨kw, args, rfl, hkw, hargs⟩ := List.map_eq_cons_iff.mp hwords
      obtain ⟨arg, block', rfl, rfl, hblock⟩ := List.map_eq_cons_iff.mp hargs
      obtain ⟨opening, behind, rfl, hopening, hbehind⟩ := List.map_eq_cons_iff.mp hblock
      obtain ⟨inner, last, rfl, hinner, hlast⟩ := List.map_eq_append_iff.mp hbehind
      obtain ⟨closing, rest, rfl, hclosing, hrest⟩ := List.map_eq_cons_iff.mp hlast
      obtain rfl := List.map_eq_nil_iff.mp hrest
      rw [numbers] at hrange
      obtain ⟨hcount, hbody⟩ := List.forall_mem_cons.mp hrange
      obtain ⟨ds, hds, hunplaced⟩ := block.exists_derivesAll hbody hinner
      rw [← Lexicon.standard_inside] at hds
      refine ⟨_, .loop hkw (number?_of_spells spells hcount) hopening hds hclosing, ?_⟩
      rw [unplaced, unplaced, hunplaced]

theorem WritesAll.exists_derivesAll {cs : List Command} {texts : List String}
    (h : WritesAll texts cs) (hrange : ∀ n ∈ numbersAll cs, Numeral.InRange n) {words : List Word}
    (hwords : words.map Word.text = texts) :
    ∃ ds, DerivesAll .standard words ds ∧ unplacedAll ds = unplacedAll cs := by
  cases cs with
  | nil =>
    cases h
    obtain rfl := List.map_eq_nil_iff.mp hwords
    exact ⟨[], .nil, rfl⟩
  | cons c cs =>
    cases h with
    | cons head tail =>
      obtain ⟨first, rest, rfl, hfirst, hrest⟩ := List.map_eq_append_iff.mp hwords
      rw [numbersAll] at hrange
      obtain ⟨hc, hcs⟩ := List.forall_mem_append.mp hrange
      obtain ⟨d, hd, hunplaced⟩ := head.exists_derives hc hfirst
      obtain ⟨ds, hds, hunplacedAll⟩ := tail.exists_derivesAll hcs hrest
      refine ⟨d :: ds, .cons hd hds, ?_⟩
      rw [unplacedAll, unplacedAll, hunplaced, hunplacedAll]

end

end Command

namespace Program

def unplaced (p : Program) : Program :=
  ⟨p.size, Command.unplacedAll p.commands⟩

/-- The scripts that write a program: its size and its commands, laid out in any way. -/
def WrittenAs (p : Program) (script : String) : Prop :=
  ∃ (l : Layout) (number : String) (texts : List String),
    l.script = script ∧ l.texts = number :: texts ∧
      Numeral.Spells p.size number.toList ∧ Command.WritesAll texts p.commands

end Program

/-- A program is read back from every script that writes it, up to the places of its commands. -/
theorem parse_written {p : Program} {script : String} (hsize : 1 ≤ p.size)
    (hrange : ∀ n ∈ p.size :: Command.numbersAll p.commands, Numeral.InRange n)
    (hnesting : Command.nestingAll p.commands ≤ maxDepth) (h : p.WrittenAs script) :
    ∃ q, Program.parse script .standard = .ok q ∧ q.unplaced = p.unplaced := by
  obtain ⟨l, number, texts, rfl, htexts, hnumber, hwrites⟩ := h
  have hwords := l.map_text_words_script.trans htexts
  obtain ⟨word, rest, hscript, rfl, hrest⟩ := List.map_eq_cons_iff.mp hwords
  obtain ⟨hsize', hcommands⟩ := List.forall_mem_cons.mp hrange
  obtain ⟨ds, hds, hunplaced⟩ := hwrites.exists_derivesAll hcommands hrest
  refine ⟨⟨p.size, ds⟩, ?_, ?_⟩
  · rw [Program.parse_eq_ok_iff Vocabulary.plain_standard, Vocabulary.lexicon_standard]
    refine ⟨word, rest, hscript, Command.number?_of_spells hnumber hsize', hsize, hds, ?_⟩
    -- The commands that are read differ from those of `p`, but only in their places.
    rw [← Command.nestingAll_unplacedAll, hunplaced, Command.nestingAll_unplacedAll]
    exact hnesting
  · rw [Program.unplaced, Program.unplaced, hunplaced]

/-- The largest and the smallest number, zeros in front, and blanks beyond the usual ones. -/
theorem parse_written_extremes :
    let script := "\u3000+03\nREPEAT -09223372036854775808 [ BK 9223372036854775807 ]\u2028"
    let p : Program :=
      ⟨3, [.loop (-9223372036854775808) [.step .back 9223372036854775807 default] default]⟩
    (1 ≤ p.size ∧ (∀ n ∈ p.size :: Command.numbersAll p.commands, Numeral.InRange n) ∧
      Command.nestingAll p.commands ≤ maxDepth ∧ p.WrittenAs script) ∧
    ∃ q, Program.parse script .standard = .ok q ∧ q.unplaced = p.unplaced := by
  intro script p
  have hwords : (Script.words script).map Word.text =
      ["+03", "REPEAT", "-09223372036854775808", "[", "BK", "9223372036854775807", "]"] := by
    decide +kernel
  have hstep : Command.Writes ["BK", "9223372036854775807"]
      (.step .back 9223372036854775807 default) :=
    .step (Or.inl rfl) (.plain 9223372036854775807 0)
  have hcount : Numeral.Spells (-9223372036854775808) "-09223372036854775808".toList :=
    .minus 9223372036854775808 1
  have hwritten : p.WrittenAs script := by
    obtain ⟨l, hl⟩ := Layout.exists_script_eq script
    have htexts := l.map_text_words_script.symm.trans (hl ▸ hwords)
    exact ⟨l, "+03", _, hl, htexts, .plus 3 1, .cons (.loop hcount (.cons hstep .nil)) .nil⟩
  have hrange : ∀ n ∈ p.size :: Command.numbersAll p.commands, Numeral.InRange n := by decide
  have hnesting : Command.nestingAll p.commands ≤ maxDepth := by decide
  exact ⟨⟨by decide, hrange, hnesting, hwritten⟩,
    parse_written (by decide) hrange hnesting hwritten⟩

end TurtleGraphics
