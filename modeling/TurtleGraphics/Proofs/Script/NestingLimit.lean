import TurtleGraphics.Proofs.Script.EarliestError

/-!
# The limit on nested blocks

The grammar knows no limit on how deep blocks are nested, reading does. `OpenAfter` counts the
blocks that are open behind the first words of a script, at a point where a command may start. A
script that follows the grammar is refused exactly if more than `maxDepth` blocks are open at some
point of it. The error then names the first loop that has `maxDepth` blocks around it, and it is
settled by the words up to the bracket of that loop. `DeepLoop` is what the run of the stack meets
on its way there.
-/

namespace TurtleGraphics

namespace Lexicon

def within (l : Lexicon) : Nat → Lexicon
  | 0 => l
  | _ + 1 => l.inside

@[simp] theorem within_succ (l : Lexicon) (depth : Nat) : l.within (depth + 1) = l.inside := rfl

theorem inside_within (l : Lexicon) (depth : Nat) : l.inside.within depth = l.inside := by
  cases depth with
  | zero => rfl
  | succ depth => exact l.inside_inside

theorem within_inside (l : Lexicon) (depth : Nat) : (l.within depth).inside = l.inside := by
  cases depth with
  | zero => rfl
  | succ depth => exact l.inside_inside

end Lexicon

/-- Behind `words`, `depth` blocks are open and a command may start. -/
inductive OpenAfter : Lexicon → Nat → List Word → Prop
  | commands {l : Lexicon} {words : List Word} {cs : List Command} (h : DerivesAll l words cs) :
    OpenAfter l 0 words
  | block {l : Lexicon} {first words : List Word} {cs : List Command}
      {keyword argument opening : Word} {count : Int} {depth : Nat} (before : DerivesAll l first cs)
      (introduces : l.loop keyword.text) (number : argument.number? = some count)
      (opens : opening.text = "[") (inner : OpenAfter l.inside depth words) :
    OpenAfter l (depth + 1) (first ++ keyword :: argument :: opening :: words)

namespace OpenAfter

variable {l : Lexicon} {depth : Nat} {words : List Word}

/-- A command in front opens nothing. -/
theorem cons {first : List Word} {c : Command} (head : Derives l first c)
    (h : OpenAfter l depth words) : OpenAfter l depth (first ++ words) := by
  cases h with
  | commands h => exact .commands (.cons head h)
  | block before introduces number opens inner =>
    rw [← List.append_assoc]
    exact .block (.cons head before) introduces number opens inner

/-- The bracket of a loop opens one block more. -/
theorem opening {keyword argument bracket : Word} {count : Int} (h : OpenAfter l depth words)
    (introduces : (l.within depth).loop keyword.text) (number : argument.number? = some count)
    (opens : bracket.text = "[") :
    OpenAfter l (depth + 1) (words ++ [keyword, argument, bracket]) := by
  induction h with
  | commands h => exact .block h introduces number opens (.commands .nil)
  | @block l first words cs _ _ _ _ depth before introduces' number' opens' inner ih =>
    rw [Lexicon.within_succ, ← l.inside_within depth] at introduces
    rw [List.append_assoc]
    exact .block before introduces' number' opens' (ih introduces)

end OpenAfter

/-- No point of `words` is inside more blocks than may be nested. Right behind the bracket of a
block a command may start, so no block is missed. -/
def Shallow (l : Lexicon) (words : List Word) : Prop :=
  ∀ depth before, before <+: words → OpenAfter l depth before → depth ≤ maxDepth

/-- Behind `before`, `keyword` introduces a loop that has `depth` blocks around it. -/
def LoopAt (l : Lexicon) (depth : Nat) (words before : List Word) (keyword : Word) : Prop :=
  before ++ [keyword] <+: words ∧ OpenAfter l depth before ∧ (l.within depth).loop keyword.text

namespace Pushdown.State

variable {v : Vocabulary}

def addAll (s : State) (cs : List Command) : State := cs.foldl add s

theorem addAll_awaited {s : State} (hs : s.awaited = .command) (cs : List Command) :
    (s.addAll cs).awaited = .command := by
  induction cs generalizing s with
  | nil => exact hs
  | cons c cs ih => exact ih (s.add_awaited c)

@[simp] theorem length_frames_addAll (s : State) (cs : List Command) :
    (s.addAll cs).frames.length = s.frames.length := by
  induction cs generalizing s with
  | nil => rfl
  | cons c cs ih => exact (ih (s.add c)).trans (s.length_frames_add c)

theorem addAll_frame (size : Int) (done : List Command) (f : Frame) (frames : List Frame)
    (cs : List Command) :
    addAll ⟨size, done, f :: frames, .command⟩ cs =
      ⟨size, done, ⟨f.keyword, f.count, cs.reverse ++ f.body⟩ :: frames, .command⟩ := by
  induction cs generalizing f with
  | nil => rfl
  | cons c cs ih =>
    change addAll ⟨size, done, ⟨f.keyword, f.count, c :: f.body⟩ :: frames, .command⟩ cs = _
    rw [ih, List.reverse_cons, List.append_assoc]
    rfl

theorem step_loopKeyword {size : Int} {done : List Command} {frames : List Frame} {keyword : Word}
    (h : (v.lexicon.within frames.length).loop keyword.text) :
    step v ⟨size, done, frames, .command⟩ keyword = .ok ⟨size, done, frames, .count keyword⟩ := by
  have hkeyword : (frames = [] ∨ keyword.text ≠ "]") ∧ v.find? keyword.text = some .loop := by
    cases frames with
    | nil => exact ⟨.inl rfl, h⟩
    | cons f frames => exact ⟨.inr h.2, h.1⟩
  rw [step_command hkeyword.1, introduce, hkeyword.2]

theorem step_motionKeyword {size : Int} {done : List Command} {frames : List Frame} {keyword : Word}
    {motion : Motion} (h : (v.lexicon.within frames.length).step keyword.text motion) :
    step v ⟨size, done, frames, .command⟩ keyword =
      .ok ⟨size, done, frames, .amount keyword motion⟩ := by
  have hkeyword : (frames = [] ∨ keyword.text ≠ "]") ∧
      v.find? keyword.text = some (.step motion) := by
    cases frames with
    | nil => exact ⟨.inl rfl, h⟩
    | cons f frames => exact ⟨.inr h.2, h.1⟩
  rw [step_command hkeyword.1, introduce, hkeyword.2]

/-- The words of a loop up to its bracket open a block, if there is room for one. -/
theorem run_opening {size : Int} {done : List Command} {frames : List Frame}
    {keyword argument opening : Word} {count : Int}
    (introduces : (v.lexicon.within frames.length).loop keyword.text)
    (number : argument.number? = some count) (opens : opening.text = "[") (rest : List Word) :
    run v ⟨size, done, frames, .command⟩ (keyword :: argument :: opening :: rest) =
      if frames.length < maxDepth then
        run v ⟨size, done, ⟨keyword, count, []⟩ :: frames, .command⟩ rest
      else .error (.nestedTooDeep keyword) := by
  rw [run, step_loopKeyword introduces]
  dsimp only
  rw [run, step]
  simp only [number]
  rw [run, step]
  simp only [if_pos opens]
  by_cases hroom : frames.length < maxDepth
  · rw [if_pos hroom, if_pos hroom]
  · rw [if_neg hroom, if_neg hroom]

mutual

/-- A command that fits is read by the run as the derivation says. -/
theorem run_derives {s : State} (hs : s.awaited = .command) {c : Command} {words : List Word}
    (h : Derives (v.lexicon.within s.frames.length) words c)
    (hroom : s.frames.length + c.nesting ≤ maxDepth) : s.run v words = .ok (s.add c) := by
  obtain ⟨size, done, frames, awaited⟩ := s
  subst hs
  cases c with
  | step motion amount span =>
    cases h with
    | @step _ keyword argument _ _ introduces number =>
      rw [run, step_motionKeyword introduces]
      dsimp only
      rw [run, step]
      simp only [number]
      rfl
  | loop count body span =>
    cases h with
    | @loop _ keyword argument opening closing inner _ _ introduces number opens block closes =>
      simp only [Command.nesting_loop] at hroom
      have hlt : frames.length < maxDepth := by omega
      rw [Lexicon.within_inside] at block
      have hbody := run_derivesAll
        (s := ⟨size, done, ⟨keyword, count, []⟩ :: frames, .command⟩) rfl block
        (by simp only [List.length_cons]; omega)
      rw [run_opening introduces number opens, if_pos hlt, run_append, hbody, addAll_frame]
      dsimp only
      rw [run, step]
      simp only [if_pos closes, List.append_nil, List.reverse_reverse]
      rfl

theorem run_derivesAll {s : State} (hs : s.awaited = .command) {cs : List Command}
    {words : List Word} (h : DerivesAll (v.lexicon.within s.frames.length) words cs)
    (hroom : s.frames.length + Command.nestingAll cs ≤ maxDepth) :
    s.run v words = .ok (s.addAll cs) := by
  cases cs with
  | nil =>
    cases h
    rfl
  | cons c cs =>
    cases h with
    | cons head tail =>
      rw [Command.nestingAll_cons] at hroom
      rw [← s.length_frames_add c] at tail
      have hrest := run_derivesAll (s.add_awaited c) tail (by rw [length_frames_add]; omega)
      rw [run_append, run_derives hs head (by omega)]
      exact hrest

end

/-- The run from `s` over `before` gets to a loop whose block is one too many. -/
structure DeepLoop (v : Vocabulary) (s : State) (before : List Word)
    (keyword argument opening : Word) : Prop where
  opened : OpenAfter (v.lexicon.within s.frames.length) (maxDepth - s.frames.length) before
  introduces : (v.lexicon.within maxDepth).loop keyword.text
  number : ∃ count, argument.number? = some count
  opens : opening.text = "["
  reaches : ∃ s', s.run v before = .ok s' ∧ s'.awaited = .command ∧ s'.frames.length = maxDepth

/-- Whatever follows the bracket, the block is refused. -/
theorem DeepLoop.run_eq_error {s : State} {before : List Word} {keyword argument opening : Word}
    (h : DeepLoop v s before keyword argument opening) (more : List Word) :
    s.run v (before ++ keyword :: argument :: opening :: more) =
      .error (.nestedTooDeep keyword) := by
  obtain ⟨s', hrun, hawaited, hfull⟩ := h.reaches
  obtain ⟨size, done, frames, awaited⟩ := s'
  subst hawaited
  obtain ⟨count, hnumber⟩ := h.number
  have hintroduces : (v.lexicon.within frames.length).loop keyword.text := by
    rw [show frames.length = maxDepth from hfull]
    exact h.introduces
  have hroom : ¬ frames.length < maxDepth := Nat.not_lt.mpr (Nat.le_of_eq hfull.symm)
  rw [run_append, hrun]
  dsimp only
  rw [run_opening hintroduces hnumber h.opens, if_neg hroom]

/-- A loop that is met where the stack is full. -/
theorem DeepLoop.here {size : Int} {done : List Command} {frames : List Frame}
    {keyword argument opening : Word} {count : Int} (hfull : frames.length = maxDepth)
    (introduces : (v.lexicon.within frames.length).loop keyword.text)
    (number : argument.number? = some count) (opens : opening.text = "[") :
    DeepLoop v ⟨size, done, frames, .command⟩ [] keyword argument opening where
  opened := by
    rw [hfull, Nat.sub_self]
    exact .commands .nil
  introduces := hfull ▸ introduces
  number := ⟨count, number⟩
  opens := opens
  reaches := ⟨_, rfl, rfl, hfull⟩

/-- A loop that is met in the block of another one. -/
theorem DeepLoop.block {size : Int} {done : List Command} {frames : List Frame}
    {outer outerArgument outerOpening keyword argument opening : Word} {count : Int}
    {before : List Word} (hroom : frames.length < maxDepth)
    (introduces : (v.lexicon.within frames.length).loop outer.text)
    (number : outerArgument.number? = some count) (opens : outerOpening.text = "[")
    (h : DeepLoop v ⟨size, done, ⟨outer, count, []⟩ :: frames, .command⟩ before keyword argument
      opening) :
    DeepLoop v ⟨size, done, frames, .command⟩ (outer :: outerArgument :: outerOpening :: before)
      keyword argument opening where
  opened := by
    have hinner := h.opened
    have hdepth : maxDepth - frames.length = maxDepth - (frames.length + 1) + 1 := by omega
    rw [List.length_cons, Lexicon.within_succ, ← v.lexicon.within_inside frames.length] at hinner
    rw [hdepth]
    exact OpenAfter.block DerivesAll.nil introduces number opens hinner
  introduces := h.introduces
  number := h.number
  opens := h.opens
  reaches := by
    rw [run_opening introduces number opens, if_pos hroom]
    exact h.reaches

/-- A loop that is met behind a command that fits. -/
theorem DeepLoop.cons {s : State} (hs : s.awaited = .command) {first before : List Word}
    {c : Command} {keyword argument opening : Word}
    (head : Derives (v.lexicon.within s.frames.length) first c)
    (hfits : s.frames.length + c.nesting ≤ maxDepth)
    (h : DeepLoop v (s.add c) before keyword argument opening) :
    DeepLoop v s (first ++ before) keyword argument opening where
  opened := by
    have htail := h.opened
    rw [length_frames_add] at htail
    exact htail.cons head
  introduces := h.introduces
  number := h.number
  opens := h.opens
  reaches := by
    rw [run_append, run_derives hs head hfits]
    exact h.reaches

mutual

/-- A command that does not fit has a first loop that is too deep. -/
theorem exists_deepLoop {s : State} (hs : s.awaited = .command) {c : Command} {words : List Word}
    (h : Derives (v.lexicon.within s.frames.length) words c) (hle : s.frames.length ≤ maxDepth)
    (hdeep : maxDepth < s.frames.length + c.nesting) :
    ∃ before keyword argument opening after,
      words = before ++ keyword :: argument :: opening :: after ∧
        DeepLoop v s before keyword argument opening := by
  obtain ⟨size, done, frames, awaited⟩ := s
  subst hs
  simp only at hle hdeep
  cases c with
  | step motion amount span =>
    rw [Command.nesting_step] at hdeep
    omega
  | loop count body span =>
    cases h with
    | @loop _ keyword argument opening closing inner _ _ introduces number opens block closes =>
      rw [Command.nesting_loop] at hdeep
      by_cases hfull : frames.length = maxDepth
      · exact ⟨[], _, _, _, _, rfl, .here hfull introduces number opens⟩
      · have hroom : frames.length < maxDepth := by omega
        rw [Lexicon.within_inside] at block
        obtain ⟨before, keyword', argument', opening', after, rfl, hloop⟩ := exists_deepLoopAll
          (s := ⟨size, done, ⟨keyword, count, []⟩ :: frames, .command⟩) rfl block hroom
          (by simp only [List.length_cons]; omega)
        refine ⟨_, _, _, _, after ++ [closing], ?_, hloop.block hroom introduces number opens⟩
        simp only [List.cons_append, List.append_assoc]

theorem exists_deepLoopAll {s : State} (hs : s.awaited = .command) {cs : List Command}
    {words : List Word} (h : DerivesAll (v.lexicon.within s.frames.length) words cs)
    (hle : s.frames.length ≤ maxDepth)
    (hdeep : maxDepth < s.frames.length + Command.nestingAll cs) :
    ∃ before keyword argument opening after,
      words = before ++ keyword :: argument :: opening :: after ∧
        DeepLoop v s before keyword argument opening := by
  cases cs with
  | nil =>
    rw [Command.nestingAll_nil] at hdeep
    omega
  | cons c cs =>
    cases h with
    | @cons _ first rest _ _ head tail =>
      rw [Command.nestingAll_cons] at hdeep
      by_cases hfits : s.frames.length + c.nesting ≤ maxDepth
      · rw [← s.length_frames_add c] at tail
        obtain ⟨before, keyword, argument, opening, after, rfl, hloop⟩ :=
          exists_deepLoopAll (s.add_awaited c) tail (by rwa [length_frames_add])
            (by rw [length_frames_add]; omega)
        refine ⟨_, _, _, _, after, ?_, hloop.cons hs head hfits⟩
        rw [List.append_assoc]
      · obtain ⟨before, keyword, argument, opening, after, rfl, hloop⟩ :=
          exists_deepLoop hs head hle (by omega)
        refine ⟨_, _, _, _, after ++ rest, ?_, hloop⟩
        simp only [List.cons_append, List.append_assoc]

end

/-- What every word keeps is kept by a run. -/
theorem run_keeps {P : State → Prop}
    (hstep : ∀ s word s', P s → Moves v s word s' → P s') {s s' : State} {words : List Word}
    (hs : P s) (h : s.run v words = .ok s') : P s' := by
  induction words generalizing s with
  | nil =>
    cases h
    exact hs
  | cons word words ih =>
    rw [run] at h
    cases hfirst : s.step v word with
    | error e => simp only [hfirst] at h; cases h
    | ok s₁ =>
      simp only [hfirst] at h
      exact ih (hstep s word s₁ hs (moves_of_step hfirst)) h

theorem length_frames_le_of_run {s s' : State} {words : List Word}
    (hs : s.frames.length ≤ maxDepth) (h : s.run v words = .ok s') :
    s'.frames.length ≤ maxDepth := by
  refine run_keeps (P := fun s => s.frames.length ≤ maxDepth) (fun s word s' hs hmove => ?_) hs h
  cases hmove with
  | close closes =>
    rw [length_frames_add]
    exact Nat.le_of_succ_le hs
  | step outside introduces => exact hs
  | loop outside introduces => exact hs
  | amount number =>
    rw [length_frames_add]
    exact hs
  | count number => exact hs
  | opening opens room => exact room

/-- A loop that is due on a full stack stays due. -/
theorem full_of_run {s s' : State} {words : List Word} (hs : s.Full)
    (h : s.run v words = .ok s') : s'.Full := by
  refine run_keeps (P := Full) (fun s word s' hs hmove => ?_) hs h
  obtain ⟨hdepth, hawaited⟩ := hs
  cases hmove with
  | close closes => exact hawaited.elim
  | step outside introduces => exact hawaited.elim
  | loop outside introduces => exact hawaited.elim
  | amount number => exact hawaited.elim
  | count number => exact ⟨hdepth, trivial⟩
  | opening opens room => exact absurd hdepth (Nat.not_le.mpr room)

theorem eq_addAll_of_run {s s' : State} (hs : s.awaited = .command)
    (hle : s.frames.length ≤ maxDepth) {words : List Word} {cs : List Command}
    (h : DerivesAll (v.lexicon.within s.frames.length) words cs) (hrun : s.run v words = .ok s') :
    s' = s.addAll cs := by
  by_cases hfits : s.frames.length + Command.nestingAll cs ≤ maxDepth
  · rw [run_derivesAll hs h hfits] at hrun
    exact (Except.ok.inj hrun).symm
  · obtain ⟨before, keyword, argument, opening, after, rfl, hloop⟩ :=
      exists_deepLoopAll hs h hle (Nat.lt_of_not_le hfits)
    rw [hloop.run_eq_error] at hrun
    cases hrun

/-- The stack of a run is as high as blocks are open. -/
theorem length_frames_of_openAfter {l : Lexicon} {depth : Nat} {words : List Word}
    (h : OpenAfter l depth words) {s s' : State} (hl : l = v.lexicon.within s.frames.length)
    (hs : s.awaited = .command) (hle : s.frames.length ≤ maxDepth)
    (hrun : s.run v words = .ok s') :
    s'.awaited = .command ∧ s'.frames.length = s.frames.length + depth := by
  induction h generalizing s with
  | commands h =>
    subst hl
    rw [eq_addAll_of_run hs hle h hrun]
    exact ⟨addAll_awaited hs _, length_frames_addAll _ _⟩
  | @block l first words cs keyword argument opening count depth before introduces number opens
      inner ih =>
    subst hl
    rw [run_append] at hrun
    cases hfirst : s.run v first with
    | error e => simp only [hfirst] at hrun; cases hrun
    | ok s₁ =>
      simp only [hfirst] at hrun
      have hadd := eq_addAll_of_run hs hle before hfirst
      have hawaited : s₁.awaited = .command := hadd ▸ addAll_awaited hs cs
      have hlength : s₁.frames.length = s.frames.length := hadd ▸ length_frames_addAll s cs
      obtain ⟨size, done, frames, awaited⟩ := s₁
      subst hawaited
      simp only at hlength
      rw [← hlength] at introduces hle
      rw [run_opening introduces number opens] at hrun
      split at hrun
      · next hroom =>
        have hinside : (v.lexicon.within s.frames.length).inside =
            v.lexicon.within (frames.length + 1) := Lexicon.within_inside _ _
        obtain ⟨hend, hdepth⟩ :=
          ih (s := ⟨size, done, ⟨keyword, count, []⟩ :: frames, .command⟩) hinside rfl hroom hrun
        refine ⟨hend, ?_⟩
        rw [hdepth, List.length_cons, hlength]
        omega
      · cases hrun

/-- The loop that the run gets to is the first one that has so many blocks around it: behind any
other one the run would not have gone on. -/
theorem DeepLoop.length_le {size : Int} {words before before' : List Word}
    {keyword argument opening keyword' : Word}
    (h : DeepLoop v (start size) before keyword argument opening) (hbefore : before <+: words)
    (h' : LoopAt v.lexicon maxDepth words before' keyword') :
    before.length ≤ before'.length := by
  obtain ⟨hbegins, hopen, hloop⟩ := h'
  refine Nat.le_of_not_lt fun hlt => ?_
  obtain ⟨s', hrun, hawaited, -⟩ := h.reaches
  obtain ⟨more, rfl⟩ : before' ++ [keyword'] <+: before := by
    refine List.prefix_of_prefix_length_le hbegins hbefore ?_
    rw [List.length_append, List.length_singleton]
    omega
  rw [List.append_assoc, run_append] at hrun
  cases hfirst : (start size).run v before' with
  | error e => simp only [hfirst] at hrun; cases hrun
  | ok s₁ =>
    simp only [hfirst] at hrun
    obtain ⟨hcommand, hdepth⟩ :=
      length_frames_of_openAfter hopen (s := start size) rfl rfl (Nat.zero_le _) hfirst
    have hlength : s₁.frames.length = maxDepth := hdepth.trans (Nat.zero_add _)
    obtain ⟨size', done, frames, awaited⟩ := s₁
    subst hcommand
    simp only at hlength
    rw [List.singleton_append, run, step_loopKeyword (hlength ▸ hloop)] at hrun
    have hfull : Full ⟨size', done, frames, .count keyword'⟩ :=
      ⟨Nat.le_of_eq hlength.symm, trivial⟩
    have hend := (full_of_run hfull hrun).2
    rw [hawaited] at hend
    exact hend

end Pushdown.State

namespace Program

variable {v : Vocabulary} {script : String} {sizeWord : Word} {rest : List Word} {size : Int}

theorem shallow_of_parse (hv : v.Plain) (hwords : Script.words script = sizeWord :: rest)
    (hsize : sizeWord.number?.filter (1 ≤ ·) = some size) {p : Program}
    (h : parse script v = .ok p) : Shallow v.lexicon rest := by
  rintro depth before ⟨after, rfl⟩ hopen
  rw [parse_of_size hv hwords hsize, Pushdown.State.outcome, Pushdown.State.run_append] at h
  cases hrun : (Pushdown.State.start size).run v before with
  | error e => simp only [hrun] at h; cases h
  | ok s =>
    have hle := Pushdown.State.length_frames_le_of_run (Nat.zero_le _) hrun
    have hdepth := (Pushdown.State.length_frames_of_openAfter hopen
      (s := Pushdown.State.start size) rfl rfl (Nat.zero_le _) hrun).2
    rw [hdepth] at hle
    exact Nat.le_trans (Nat.le_add_left _ _) hle

end Program

theorem Pushdown.State.DeepLoop.not_shallow {v : Vocabulary} {size : Int}
    {before after : List Word} {keyword argument opening : Word}
    (h : DeepLoop v (start size) before keyword argument opening) :
    ¬ Shallow v.lexicon (before ++ keyword :: argument :: opening :: after) := by
  intro hshallow
  obtain ⟨count, hnumber⟩ := h.number
  have hopen : OpenAfter v.lexicon maxDepth before := h.opened
  have hblock := hopen.opening h.introduces hnumber h.opens
  have hbegins : before ++ [keyword, argument, opening] <+:
      before ++ keyword :: argument :: opening :: after :=
    ⟨after, by rw [List.append_assoc]; rfl⟩
  exact absurd (hshallow _ _ hbegins hblock) (Nat.not_succ_le_self _)

/-- Reading refuses exactly the scripts that nest too many blocks, among those that follow the
grammar. It names the first loop that has as many blocks around it as may be nested, and it does so
whatever stands behind the bracket of that loop. -/
theorem nesting_limit_exact {v : Vocabulary} (hv : v.Plain) {script : String} {sizeWord : Word}
    {rest : List Word} {size : Int} {commands : List Command}
    (hwords : Script.words script = sizeWord :: rest) (hsize : sizeWord.number? = some size)
    (hpos : 1 ≤ size) (h : DerivesAll v.lexicon rest commands) :
    ((∃ p, Program.parse script v = .ok p) ↔ Shallow v.lexicon rest) ∧
      (¬ Shallow v.lexicon rest → ∃ before keyword argument opening,
        before ++ [keyword, argument, opening] <+: rest ∧ opening.text = "[" ∧
          LoopAt v.lexicon maxDepth rest before keyword ∧
            (∀ before' keyword', LoopAt v.lexicon maxDepth rest before' keyword' →
              before.length ≤ before'.length) ∧
              Program.parse script v = .error (.nestedTooDeep keyword) ∧
                ∀ script' more, Script.words script' =
                    sizeWord :: (before ++ keyword :: argument :: opening :: more) →
                  Program.parse script' v = .error (.nestedTooDeep keyword)) := by
  have hfilter : sizeWord.number?.filter (1 ≤ ·) = some size :=
    Option.filter_eq_some_iff.mpr ⟨hsize, decide_eq_true hpos⟩
  by_cases hfits : Command.nestingAll commands ≤ maxDepth
  · have hok : Program.parse script v = .ok ⟨size, commands⟩ :=
      (Program.parse_eq_ok_iff hv).mpr ⟨sizeWord, rest, hwords, hsize, hpos, h, hfits⟩
    have hshallow := Program.shallow_of_parse hv hwords hfilter hok
    exact ⟨iff_of_true ⟨_, hok⟩ hshallow, fun hnot => absurd hshallow hnot⟩
  · obtain ⟨before, keyword, argument, opening, after, rfl, hloop⟩ :=
      Pushdown.State.exists_deepLoopAll (s := Pushdown.State.start size) rfl h (Nat.zero_le _)
        (by
          have := Nat.lt_of_not_le hfits
          rwa [Pushdown.State.start, List.length_nil, Nat.zero_add])
    have herror (script' : String) (more : List Word) (hwords' : Script.words script' =
        sizeWord :: (before ++ keyword :: argument :: opening :: more)) :
        Program.parse script' v = .error (.nestedTooDeep keyword) := by
      rw [Program.parse_of_size hv hwords' hfilter, Pushdown.State.outcome, hloop.run_eq_error]
    have hnot : ¬ ∃ p, Program.parse script v = .ok p := by
      rintro ⟨p, hp⟩
      rw [herror script after hwords] at hp
      cases hp
    refine ⟨iff_of_false hnot hloop.not_shallow, fun _ => ?_⟩
    refine ⟨before, keyword, argument, opening, ?_, hloop.opens, ?_, ?_, herror script after hwords,
      herror⟩
    · exact ⟨after, by rw [List.append_assoc]; rfl⟩
    · exact ⟨⟨argument :: opening :: after, by rw [List.append_assoc]; rfl⟩, hloop.opened,
        hloop.introduces⟩
    · intro before' keyword' h'
      exact hloop.length_le (List.prefix_append _ _) h'

theorem Derives.singleton {l : Lexicon} {words : List Word} {c : Command} (h : Derives l words c) :
    DerivesAll l words [c] := by
  have hcons := DerivesAll.cons h .nil
  rwa [List.append_nil] at hcons

namespace Script

def tower : Nat → String
  | 0 => "FD 1"
  | n + 1 => "REPEAT 2 [" ++ String.singleton ' ' ++ tower n ++ String.singleton ' ' ++ "]"

def towerTexts : Nat → List String
  | 0 => ["FD", "1"]
  | n + 1 => "REPEAT" :: "2" :: "[" :: (towerTexts n ++ ["]"])

theorem texts_append_blank (script text : String) {c : Char} (h : Text.isBlank c = true) :
    (words (script ++ String.singleton c ++ text)).map Word.text =
      (words script).map Word.text ++ (words text).map Word.text := by
  obtain ⟨more, hmore, htexts⟩ := words_append_blank script text h
  rw [hmore, List.map_append, htexts]

theorem texts_tower (n : Nat) : (words (tower n)).map Word.text = towerTexts n := by
  induction n with
  | zero => decide
  | succ n ih =>
    have hstart : (words "REPEAT 2 [").map Word.text = ["REPEAT", "2", "["] := by decide
    have hend : (words "]").map Word.text = ["]"] := by decide
    rw [tower, texts_append_blank _ _ (by decide), texts_append_blank _ _ (by decide), ih, hstart,
      hend]
    rfl

/-- A tower follows the grammar, and its blocks are all open before its step. -/
theorem derives_tower (n : Nat) {words : List Word} (h : words.map Word.text = towerTexts n) :
    (∃ c, Derives .standard words c ∧ c.nesting = n) ∧
      ∃ before, before <+: words ∧ OpenAfter .standard n before := by
  have hnumber {word : Word} {text : String} {k : Int} (hw : word.text = text)
      (ht : Text.Numeral.read? text.toList = some k) : word.number? = some k := by
    rw [Word.number?, hw, ht]
  induction n generalizing words with
  | zero =>
    obtain ⟨keyword, rest, rfl, hkeyword, hrest⟩ := List.map_eq_cons_iff.mp h
    obtain ⟨argument, rest, rfl, hargument, hnil⟩ := List.map_eq_cons_iff.mp hrest
    obtain rfl := List.map_eq_nil_iff.mp hnil
    have hmotion : Lexicon.standard.step keyword.text .forward := .inl hkeyword
    have hamount := hnumber (k := 1) hargument (by decide)
    exact ⟨⟨_, .step hmotion hamount, Command.nesting_step _ _ _⟩, [], List.nil_prefix,
      .commands .nil⟩
  | succ n ih =>
    obtain ⟨keyword, rest, rfl, hkeyword, hrest⟩ := List.map_eq_cons_iff.mp h
    obtain ⟨argument, rest, rfl, hargument, hrest⟩ := List.map_eq_cons_iff.mp hrest
    obtain ⟨opening, rest, rfl, hopening, hrest⟩ := List.map_eq_cons_iff.mp hrest
    obtain ⟨inner, last, rfl, hinner, hlast⟩ := List.map_eq_append_iff.mp hrest
    obtain ⟨closing, rest, rfl, hclosing, hnil⟩ := List.map_eq_cons_iff.mp hlast
    obtain rfl := List.map_eq_nil_iff.mp hnil
    have hcount := hnumber (k := 2) hargument (by decide)
    obtain ⟨⟨c, hc, hnesting⟩, before, ⟨after, rfl⟩, hopen⟩ := ih hinner
    rw [← Lexicon.standard_inside] at hc hopen
    refine ⟨⟨_, .loop hkeyword hcount hopening hc.singleton hclosing, ?_⟩,
      keyword :: argument :: opening :: before, ⟨after ++ [closing], ?_⟩, ?_⟩
    · rw [Command.nesting_loop, Command.nestingAll_cons, Command.nestingAll_nil, hnesting,
        Nat.max_zero]
    · simp only [List.cons_append, List.append_assoc]
    · exact OpenAfter.block DerivesAll.nil hkeyword hcount hopening hopen

/-- The words of a script that puts a size in front of a tower. -/
theorem words_tower (n : Nat) :
    ∃ sizeWord rest, words ("1" ++ String.singleton ' ' ++ tower n) = sizeWord :: rest ∧
      sizeWord.number? = some 1 ∧ rest.map Word.text = towerTexts n := by
  have hone : (words "1").map Word.text = ["1"] := by decide
  have htexts := texts_append_blank "1" (tower n) (c := ' ') (by decide)
  rw [texts_tower, hone] at htexts
  obtain ⟨sizeWord, rest, hwords, hsizeWord, hrest⟩ := List.map_eq_cons_iff.mp htexts
  refine ⟨sizeWord, rest, hwords, ?_, hrest⟩
  rw [Word.number?, hsizeWord]
  decide

end Script

/-- One loop more than may be nested. -/
theorem nesting_limit_exact_tower :
    let v := Vocabulary.standard
    let script := "1" ++ String.singleton ' ' ++ Script.tower (maxDepth + 1)
    ∃ sizeWord rest size commands,
      (v.Plain ∧ Script.words script = sizeWord :: rest ∧ sizeWord.number? = some size ∧
        1 ≤ size ∧ DerivesAll v.lexicon rest commands) ∧
        ¬ Shallow v.lexicon rest ∧
          ∃ keyword, Program.parse script v = .error (.nestedTooDeep keyword) := by
  intro v script
  obtain ⟨sizeWord, rest, hwords, hsize, htexts⟩ := Script.words_tower (maxDepth + 1)
  obtain ⟨⟨c, hc, -⟩, before, hbefore, hopen⟩ := Script.derives_tower _ htexts
  rw [← Vocabulary.lexicon_standard] at hc hopen
  have hdeep : ¬ Shallow v.lexicon rest := fun hshallow =>
    absurd (hshallow _ _ hbefore hopen) (Nat.not_succ_le_self _)
  obtain ⟨-, hfirst⟩ :=
    nesting_limit_exact Vocabulary.plain_standard hwords hsize (by decide) hc.singleton
  obtain ⟨_, keyword, _, _, _, _, _, _, herror, _⟩ := hfirst hdeep
  exact ⟨sizeWord, rest, 1, [c],
    ⟨Vocabulary.plain_standard, hwords, hsize, by decide, hc.singleton⟩, hdeep, keyword, herror⟩

end TurtleGraphics
