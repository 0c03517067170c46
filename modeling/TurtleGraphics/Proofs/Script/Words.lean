import TurtleGraphics.Script.Scan

/-!
# Words and the text around them

The words of a text depend on what stands before it only through their places. `wordsFrom` gives
the words of a text that starts at some position; a blank divides a text into two parts that have
their words on their own (`wordsFrom_append_blank`), so a script that is continued behind a blank
keeps the words it had. Every row of texts that could be words is the row of words of some
script (`exists_script_of_texts`).
-/

namespace TurtleGraphics

open Text

namespace Scan

theorem step_words (p : Position) (fragment : Option Fragment) (words : List Word) (c : Char) :
    step ⟨p, fragment, words⟩ c =
      ⟨(step ⟨p, fragment, []⟩ c).position, (step ⟨p, fragment, []⟩ c).fragment,
        (step ⟨p, fragment, []⟩ c).words ++ words⟩ := by
  unfold step close
  split
  · cases fragment <;> rfl
  · cases fragment <;> rfl

/-- The words that had ended before do not change what a pass finds. -/
theorem close_run (p : Position) (fragment : Option Fragment) (words : List Word)
    (cs : List Char) :
    (run ⟨p, fragment, words⟩ cs).close = (run ⟨p, fragment, []⟩ cs).close ++ words := by
  induction cs generalizing p fragment words with
  | nil => cases fragment <;> rfl
  | cons c cs ih =>
    rw [run_cons, run_cons, step_words, ih, ← List.append_assoc, ← ih]

def Alike (s s' : Scan) : Prop :=
  s.fragment.map Fragment.letters = s'.fragment.map Fragment.letters ∧
    s.words.map Word.text = s'.words.map Word.text

theorem Alike.close {s s' : Scan} (h : s.Alike s') :
    s.close.map Word.text = s'.close.map Word.text := by
  obtain ⟨p, fragment, words⟩ := s
  obtain ⟨p', fragment', words'⟩ := s'
  obtain ⟨hf, hw⟩ := h
  cases fragment with
  | none =>
    cases fragment' with
    | none => exact hw
    | some f' => cases hf
  | some f =>
    cases fragment' with
    | none => cases hf
    | some f' =>
      have hl : f.letters = f'.letters := Option.some.inj hf
      simp only [Scan.close, List.map_cons, Fragment.toWord, hl]
      exact congrArg _ hw

theorem Alike.step {s s' : Scan} (h : s.Alike s') (c : Char) : (s.step c).Alike (s'.step c) := by
  unfold Scan.step
  split
  · exact ⟨rfl, h.close⟩
  · obtain ⟨p, fragment, words⟩ := s
    obtain ⟨p', fragment', words'⟩ := s'
    obtain ⟨hf, hw⟩ := h
    cases fragment with
    | none =>
      cases fragment' with
      | none => exact ⟨rfl, hw⟩
      | some f' => cases hf
    | some f =>
      cases fragment' with
      | none => cases hf
      | some f' =>
        have hl : f.letters = f'.letters := Option.some.inj hf
        exact ⟨congrArg (fun ls => some (c :: ls)) hl, hw⟩

theorem Alike.run {s s' : Scan} (h : s.Alike s') (cs : List Char) :
    (s.run cs).Alike (s'.run cs) := by
  induction cs generalizing s s' with
  | nil => exact h
  | cons c cs ih => exact ih (h.step c)

theorem run_letters (p : Position) (f : Fragment) (words : List Word) {cs : List Char}
    (h : ∀ c ∈ cs, isBlank c = false) :
    run ⟨p, some f, words⟩ cs =
      ⟨p.advanceAll cs, some ⟨f.first, cs.reverse ++ f.letters⟩, words⟩ := by
  induction cs generalizing p f with
  | nil => rfl
  | cons c cs ih =>
    have hc : step ⟨p, some f, words⟩ c = ⟨p.advance c, some ⟨f.first, c :: f.letters⟩, words⟩ := by
      simp only [step, h c List.mem_cons_self, Bool.false_eq_true, if_false]
    rw [run_cons, hc, ih _ _ fun d hd => h d (List.mem_cons_of_mem c hd), List.reverse_cons,
      List.append_assoc]
    rfl

end Scan

namespace Script

def wordsFrom (p : Position) (cs : List Char) : List Word :=
  (Scan.run ⟨p, none, []⟩ cs).close.reverse

theorem words_eq (script : String) : words script = wordsFrom .start script.toList := rfl

/-- A blank divides a text into two parts that have their words on their own. -/
theorem wordsFrom_append_blank (p : Position) (cs ds : List Char) {c : Char}
    (h : isBlank c = true) :
    wordsFrom p (cs ++ c :: ds) = wordsFrom p cs ++ wordsFrom (p.advanceAll (cs ++ [c])) ds := by
  have hpos : ((Scan.run ⟨p, none, []⟩ cs).position.advance c) = p.advanceAll (cs ++ [c]) := by
    rw [Scan.run_position, Position.advanceAll_append]
    rfl
  rw [wordsFrom, Scan.run_append, Scan.run_cons, Scan.step_of_blank _ h, Scan.close_run,
    List.reverse_append, hpos]
  rfl

/-- The texts of words do not depend on where the text stands. -/
theorem texts_wordsFrom (p q : Position) (cs : List Char) :
    (wordsFrom p cs).map Word.text = (wordsFrom q cs).map Word.text := by
  have h : (Scan.mk p none []).Alike (Scan.mk q none []) := ⟨rfl, rfl⟩
  rw [wordsFrom, wordsFrom, List.map_reverse, List.map_reverse, (h.run cs).close]

/-- A text that could be a word: not empty, and without a blank. -/
def IsWordText (text : String) : Prop :=
  text.toList ≠ [] ∧ ∀ c ∈ text.toList, isBlank c = false

theorem isWordText_of_toList {text : String} {c : Char} (htext : text.toList = [c])
    (hc : isBlank c = false) : IsWordText text := by
  rw [IsWordText, htext]
  refine ⟨List.cons_ne_nil c [], ?_⟩
  intro d hd
  rw [List.mem_singleton.mp hd]
  exact hc

theorem isWordText_singleton {c : Char} (hc : isBlank c = false) :
    IsWordText (String.singleton c) :=
  isWordText_of_toList (String.toList_singleton c) hc

theorem isWordText_append {text more : String} (h : IsWordText text)
    (hmore : IsWordText more) : IsWordText (text ++ more) := by
  refine ⟨?_, ?_⟩
  · rw [String.toList_append]
    exact List.append_ne_nil_of_left_ne_nil h.1 _
  · intro c hc
    rw [String.toList_append, List.mem_append] at hc
    exact hc.elim (h.2 c) (hmore.2 c)

/-- A text that could be a word is one. -/
theorem wordsFrom_of_isWordText (p : Position) {text : String} (h : IsWordText text) :
    wordsFrom p text.toList = [⟨text, Span.between p (p.advanceAll text.toList)⟩] := by
  obtain ⟨hne, hblank⟩ := h
  obtain ⟨c, cs, hcs⟩ := List.exists_cons_of_ne_nil hne
  rw [hcs] at hblank
  have hc : Scan.step ⟨p, none, []⟩ c = ⟨p.advance c, some ⟨p, [c]⟩, []⟩ := by
    simp only [Scan.step, hblank c List.mem_cons_self, Bool.false_eq_true, if_false]
  have htext : String.ofList (cs.reverse ++ [c]).reverse = text := by
    rw [List.reverse_append, List.reverse_reverse]
    exact (congrArg String.ofList hcs.symm).trans String.ofList_toList
  rw [wordsFrom, hcs, Scan.run_cons, hc,
    Scan.run_letters _ _ _ fun d hd => hblank d (List.mem_cons_of_mem c hd)]
  simp only [Scan.close, Fragment.toWord, List.reverse_singleton, htext]
  rfl

/-- Blanks at the start of a text only move its words. -/
theorem wordsFrom_blanks (p : Position) {gap : List Char} (h : ∀ c ∈ gap, isBlank c = true)
    (rest : List Char) : wordsFrom p (gap ++ rest) = wordsFrom (p.advanceAll gap) rest := by
  induction gap generalizing p with
  | nil => rfl
  | cons c gap ih =>
    have hc := wordsFrom_append_blank p [] (gap ++ rest) (h c List.mem_cons_self)
    have hrest := ih (p.advance c) fun d hd => h d (List.mem_cons_of_mem c hd)
    exact hc.trans hrest

/-- A word ends at the end of the text or at a blank, and the rest has its words on its own. -/
theorem wordsFrom_word (p : Position) {text : String} (h : IsWordText text) {rest : List Char}
    (hrest : ∀ c ∈ rest.head?, isBlank c = true) :
    wordsFrom p (text.toList ++ rest) =
      ⟨text, Span.between p (p.advanceAll text.toList)⟩ ::
        wordsFrom (p.advanceAll text.toList) rest := by
  cases rest with
  | nil => rw [List.append_nil, wordsFrom_of_isWordText p h]; rfl
  | cons c rest =>
    have hc : isBlank c = true := hrest c rfl
    have hskip := wordsFrom_append_blank (p.advanceAll text.toList) [] rest hc
    rw [wordsFrom_append_blank p _ rest hc, wordsFrom_of_isWordText p h,
      Position.advanceAll_append]
    exact congrArg (List.cons _) hskip.symm

theorem texts_of_isWordText (p : Position) {text : String} (h : IsWordText text) :
    (wordsFrom p text.toList).map Word.text = [text] := by
  rw [wordsFrom_of_isWordText p h, List.map_singleton]

/-- A script that is continued behind a blank keeps its words, and what it is continued with has
its own. -/
theorem words_append_singleton (script text : String) {c : Char} (h : isBlank c = true) :
    words (script ++ String.singleton c ++ text) =
      words script ++ wordsFrom (Position.start.advanceAll (script.toList ++ [c])) text.toList := by
  have hlist : (script ++ String.singleton c ++ text).toList =
      script.toList ++ c :: text.toList := by
    simp
  rw [words_eq, hlist, wordsFrom_append_blank _ _ _ h]
  rfl

theorem words_append_blank (script text : String) {c : Char} (h : isBlank c = true) :
    ∃ more, words (script ++ String.singleton c ++ text) = words script ++ more ∧
      more.map Word.text = (words text).map Word.text :=
  ⟨_, words_append_singleton script text h, texts_wordsFrom _ _ _⟩

/-- Texts that could be words are the words of a script. -/
theorem exists_script_of_texts {texts : List String} (h : ∀ t ∈ texts, IsWordText t) :
    ∃ script, (words script).map Word.text = texts := by
  induction texts with
  | nil => exact ⟨"", by decide⟩
  | cons t texts ih =>
    obtain ⟨script, hs⟩ := ih fun u hu => h u (List.mem_cons_of_mem t hu)
    obtain ⟨more, hmore, htexts⟩ := words_append_blank t script (c := ' ') (by decide)
    refine ⟨t ++ String.singleton ' ' ++ script, ?_⟩
    rw [hmore, List.map_append, htexts, hs, words_eq,
      texts_of_isWordText _ (h t List.mem_cons_self)]
    rfl

end Script

end TurtleGraphics
