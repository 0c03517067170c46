import TurtleGraphics.Proofs.Drawing.Unrolling
import TurtleGraphics.Proofs.Script.Counterparts

/-!
# Layout and spelling

What a script draws depends on its words alone, not on the blanks between them, and not on whether
a keyword is written out. Two scripts with the same words, up to the spelling of keywords, are read
in step, and the programs they make are run in step: unrolled they are the same strides but for
their places. So both draw the same picture, or both fail in the same way, each at its own word with
the same index.
-/

namespace TurtleGraphics

open Text

variable {R : Word → Word → Prop}

namespace InStep

variable {ε ε' α β : Type} {E : ε → ε → Prop} {S : α → α → Prop} {T : β → β → Prop}

theorem bind {result result' : Except ε α} {next next' : α → Except ε β}
    (h : InStep E S result result') (hnext : ∀ a a', S a a' → InStep E T (next a) (next' a')) :
    InStep E T (result >>= next) (result' >>= next') := by
  cases h with
  | ok paired => exact hnext _ _ paired
  | error paired => exact .error paired

theorem mapError {result result' : Except ε α} {E' : ε' → ε' → Prop} {f : ε → ε'}
    (h : InStep E S result result') (hf : ∀ e e', E e e' → E' (f e) (f e')) :
    InStep E' S (result.mapError f) (result'.mapError f) := by
  cases h with
  | ok paired => exact .ok paired
  | error paired => exact .error (hf _ _ paired)

end InStep

inductive Stride.Counterpart (R : Word → Word → Prop) : Stride → Stride → Prop
  | mk {keyword keyword' : Word} (paired : R keyword keyword') (motion : Motion) (amount : Int) :
    Counterpart R ⟨motion, amount, keyword.span⟩ ⟨motion, amount, keyword'.span⟩

/-- The same failure, without a place or at the places of paired words. -/
inductive RunError.Counterpart (R : Word → Word → Prop) : RunError → RunError → Prop
  | unplaced (cause : DrawError) : Counterpart R ⟨cause, none⟩ ⟨cause, none⟩
  | placed {keyword keyword' : Word} (paired : R keyword keyword') (cause : DrawError) :
    Counterpart R ⟨cause, some keyword.span⟩ ⟨cause, some keyword'.span⟩

/-- Runs that end in the same state, and in the same way. -/
inductive EndsInStep {σ : Type} (R : Word → Word → Prop) :
    EStateM.Result RunError σ Unit → EStateM.Result RunError σ Unit → Prop
  | ok (s : σ) : EndsInStep R (.ok () s) (.ok () s)
  | error {e e' : RunError} (paired : e.Counterpart R e') (s : σ) :
    EndsInStep R (.error e s) (.error e' s)

theorem EndsInStep.andThen {σ : Type} {result result' : EStateM.Result RunError σ Unit}
    {next next' : σ → EStateM.Result RunError σ Unit} (h : EndsInStep R result result')
    (hnext : ∀ s, EndsInStep R (next s) (next' s)) :
    EndsInStep R (andThen result next) (andThen result' next') := by
  cases h with
  | ok s => exact hnext s
  | error paired s => exact .error paired s

theorem forall₂_replicate {α : Type} {S : α → α → Prop} {a a' : α} (h : S a a') (n : Nat) :
    List.Forall₂ S (List.replicate n a) (List.replicate n a') := by
  induction n with
  | zero => exact .nil
  | succ n ih => exact .cons h ih

mutual

/-- Paired commands unroll to paired strides. -/
theorem Command.Counterpart.unroll {c c' : Command} (h : c.Counterpart R c') :
    List.Forall₂ (Stride.Counterpart R) c.unroll c'.unroll := by
  cases c with
  | step motion amount span =>
    cases h with
    | step paired =>
      rw [Command.unroll, Command.unroll]
      exact .cons (.mk paired motion amount) .nil
  | loop count body span =>
    cases h with
    | loop paired count block =>
      rw [Command.unroll, Command.unroll]
      exact List.rel_flatten (forall₂_replicate (Command.unrollAll_counterparts block) count.toNat)

theorem Command.unrollAll_counterparts {cs cs' : List Command}
    (h : List.Forall₂ (Command.Counterpart R) cs cs') :
    List.Forall₂ (Stride.Counterpart R) (unrollAll cs) (unrollAll cs') := by
  cases cs with
  | nil =>
    cases h
    rw [unrollAll]
    exact .nil
  | cons c cs =>
    cases h with
    | cons hc hcs =>
      rw [unrollAll, unrollAll]
      exact List.rel_append hc.unroll (Command.unrollAll_counterparts hcs)

end

section

variable {C : Type} [Canvas C]

theorem Stride.Counterpart.take {s s' : Stride} (h : s.Counterpart R s') (t : Turtle C) :
    EndsInStep R (s.take t) (s'.take t) := by
  cases h with
  | mk paired motion amount =>
    rw [Stride.take, Stride.take]
    cases motion.apply amount t with
    | ok u t' => exact .ok t'
    | error cause t' => exact .error (.placed paired cause) t'

theorem Stride.takeAll_counterparts {strides strides' : List Stride}
    (h : List.Forall₂ (Stride.Counterpart R) strides strides') (t : Turtle C) :
    EndsInStep R (takeAll strides t) (takeAll strides' t) := by
  induction h generalizing t with
  | nil => exact .ok t
  | cons hs hstrides ih =>
    rw [takeAll_cons, takeAll_cons]
    exact (hs.take t).andThen ih

end

namespace Program

theorem draw_inStep (grid : Grid) {commands commands' : List Command}
    (h : List.Forall₂ (Command.Counterpart R) commands commands') :
    InStep (RunError.Counterpart R) Eq (draw grid commands) (draw grid commands') := by
  unfold draw
  cases Turtle.start grid with
  | error cause t => exact .error (.unplaced cause)
  | ok u t =>
    have hstrides := Stride.takeAll_counterparts (Command.unrollAll_counterparts h) t
    simp only [Command.runAll_eq_takeAll]
    revert hstrides
    generalize Stride.takeAll _ t = result, Stride.takeAll _ t = result'
    rintro (t' | ⟨paired, t'⟩)
    · exact .ok rfl
    · exact .error paired

/-- Paired programs draw the same grid or fail in the same way. -/
theorem Counterpart.run {p p' : Program} (h : p.Counterpart R p') (allocator : Allocator) :
    InStep (RunError.Counterpart R) Eq (p.run allocator) (p'.run allocator) := by
  unfold Program.run
  rw [← h.size]
  cases Grid.create allocator p.size with
  | error cause => exact .error (.unplaced cause)
  | ok grid => exact draw_inStep grid h.commands

end Program

namespace Script

/-- A keyword that is written out, in its short form. Any other text stays as it is. -/
def shorten (text : String) : String :=
  match text with
  | "FORWARD" => "FD"
  | "BACK" => "BK"
  | "LEFT" => "LT"
  | "RIGHT" => "RT"
  | text => text

theorem find?_shorten (text : String) :
    Vocabulary.standard.find? (shorten text) = Vocabulary.standard.find? text := by
  unfold shorten
  split <;> rfl

theorem read?_shorten (text : String) :
    Numeral.read? (shorten text).toList = Numeral.read? text.toList := by
  unfold shorten
  split <;> rfl

theorem shorten_eq_bracket {text bracket : String} (h : bracket = "[" ∨ bracket = "]") :
    shorten text = bracket ↔ text = bracket := by
  unfold shorten
  rcases h with rfl | rfl <;> split <;> simp

theorem readAlike_of_shorten_eq {word word' : Word} (h : shorten word.text = shorten word'.text) :
    word.ReadAlike .standard word' where
  rule := by rw [← find?_shorten, h, find?_shorten]
  number := by rw [Word.number?, ← read?_shorten, h, read?_shorten, Word.number?]
  opens := by rw [← shorten_eq_bracket (.inl rfl), h, shorten_eq_bracket (.inl rfl)]
  closes := by rw [← shorten_eq_bracket (.inr rfl), h, shorten_eq_bracket (.inr rfl)]

/-- No places, or those of the words with the same index in two scripts. -/
inductive SamePlace (words words' : List Word) : Option Span → Option Span → Prop
  | absent : SamePlace words words' none none
  | word {i : Nat} {word word' : Word} (left : words[i]? = some word)
      (right : words'[i]? = some word') : SamePlace words words' (some word.span) (some word'.span)

/-- Words with the same index that are the same but for their spelling. -/
def Respelled (words words' : List Word) (word word' : Word) : Prop :=
  shorten word.text = shorten word'.text ∧
    ∃ i : Nat, words[i]? = some word ∧ words'[i]? = some word'

theorem Respelled.samePlace {words words' : List Word} {word word' : Word}
    (h : Respelled words words' word word') :
    SamePlace words words' (some word.span) (some word'.span) := by
  obtain ⟨-, i, hi, hi'⟩ := h
  exact .word hi hi'

theorem forall₂_respelled {words words' : List Word}
    (h : words.map (fun word => shorten word.text) = words'.map fun word => shorten word.text) :
    List.Forall₂ (Respelled words words') words words' := by
  have hlength : words.length = words'.length := by
    simpa only [List.length_map] using congrArg List.length h
  refine List.forall₂_iff_get.mpr ⟨hlength, fun i hi hi' => ⟨?_, i, ?_, ?_⟩⟩
  · have hget := congrArg (fun texts => texts[i]?) h
    simpa [hi, hi'] using hget
  · exact List.getElem?_eq_getElem hi
  · exact List.getElem?_eq_getElem hi'

end Script

/-- Failures of two scripts at the same stage and of the same kind, at words with the same index.
What goes wrong in a drawing is the same altogether. -/
inductive Failure.Alike (words words' : List Word) : Failure → Failure → Prop
  | script {e e' : ScriptError} (kind : e.kind = e'.kind)
      (place : Script.SamePlace words words' e.span? e'.span?) :
    Alike words words' (.script e) (.script e')
  | run (cause : DrawError) {span span' : Option Span}
      (place : Script.SamePlace words words' span span') :
    Alike words words' (.run ⟨cause, span⟩) (.run ⟨cause, span'⟩)

namespace Failure

variable {words words' : List Word}

theorem alike_script {e e' : ScriptError}
    (h : e.Counterpart (Script.Respelled words words') e') :
    Alike words words' (.script e) (.script e') := by
  obtain ⟨word, word', paired, hword, hword'⟩ := h.exists_word
  refine .script h.kind_eq ?_
  rw [e.span?_eq_word?, e'.span?_eq_word?, hword, hword']
  exact paired.samePlace

theorem alike_run {e e' : RunError} (h : e.Counterpart (Script.Respelled words words') e') :
    Alike words words' (.run e) (.run e') := by
  cases h with
  | unplaced cause => exact .run cause .absent
  | placed paired cause => exact .run cause paired.samePlace

end Failure

/-- Neither the layout of a script nor the spelling of its keywords matters: scripts with the same
words draw the same picture, or fail in the same way at the same word. Whether there is room for a
grid may hang on its size in any way. -/
theorem respelled_scripts_in_step (allocator : Allocator) {script script' : String}
    (h : (Script.words script).map (fun word => Script.shorten word.text) =
      (Script.words script').map fun word => Script.shorten word.text) :
    InStep (Failure.Alike (Script.words script) (Script.words script')) Eq
      (interpret allocator script) (interpret allocator script') := by
  have hreads := Program.parse_inStep Vocabulary.plain_standard
    (fun word word' paired => Script.readAlike_of_shorten_eq paired.1) (Script.forall₂_respelled h)
  unfold interpret
  rcases hreads with ⟨hnone, hnone'⟩ | hreads
  · rw [hnone, hnone']
    exact .error (.script rfl .absent)
  · refine (hreads.mapError fun e e' => Failure.alike_script).bind fun p p' hp => ?_
    refine ((hp.run allocator).mapError fun e e' => Failure.alike_run).bind
      fun grid grid' hgrid => ?_
    exact .ok (congrArg Grid.render hgrid)

/-- The same words on one line and on three: each script fails at its own fourth word. -/
theorem respelled_scripts_in_step_edge :
    let script := "3 LEFT 45 BACK 2"
    let script' := "\t3\nLT 45\u3000\nBK 2"
    let allocator : Allocator := fun _ => true
    (Script.words script).map (fun word => Script.shorten word.text) =
        (Script.words script').map (fun word => Script.shorten word.text) ∧
      interpret allocator script =
          .error (.run ⟨.outOfBounds ⟨3, 3⟩ 3, some ⟨10, 14, 1, 11⟩⟩) ∧
        interpret allocator script' =
            .error (.run ⟨.outOfBounds ⟨3, 3⟩ 3, some ⟨12, 14, 3, 1⟩⟩) ∧
          InStep (Failure.Alike (Script.words script) (Script.words script')) Eq
            (interpret allocator script) (interpret allocator script') := by
  intro script script' allocator
  have hwords : (Script.words script).map (fun word => Script.shorten word.text) =
      (Script.words script').map fun word => Script.shorten word.text := by decide +kernel
  exact ⟨hwords, by decide +kernel, by decide +kernel, respelled_scripts_in_step allocator hwords⟩

end TurtleGraphics
