import TurtleGraphics.Script.Vocabulary

/-!
# The grammar of commands

`Derives` says which words make up one command and which tree they stand for; `DerivesAll` says
the same of a row of commands. Both follow the two rules of the language,

    commands ::= empty | command commands
    command  ::= STEP number | LOOP number [ commands ]

where a `Lexicon` says which words count as `STEP` and `LOOP`. The grammar knows no limit on how
deep blocks are nested: that is measured on the tree, by `Command.nesting`.
-/

namespace TurtleGraphics

structure Lexicon where
  step : String → Motion → Prop
  loop : String → Prop

namespace Lexicon

def standard : Lexicon where
  step keyword motion :=
    match motion with
    | .forward => keyword = "FD" ∨ keyword = "FORWARD"
    | .back => keyword = "BK" ∨ keyword = "BACK"
    | .left => keyword = "LT" ∨ keyword = "LEFT"
    | .right => keyword = "RT" ∨ keyword = "RIGHT"
  loop keyword := keyword = "REPEAT"

/-- The lexicon that holds in a block. Whatever it means outside, a closing bracket introduces
nothing there. -/
def inside (l : Lexicon) : Lexicon where
  step keyword motion := l.step keyword motion ∧ keyword ≠ "]"
  loop keyword := l.loop keyword ∧ keyword ≠ "]"

theorem ext_iffs {l m : Lexicon}
    (hstep : ∀ keyword motion, l.step keyword motion ↔ m.step keyword motion)
    (hloop : ∀ keyword, l.loop keyword ↔ m.loop keyword) : l = m := by
  have hs : l.step = m.step := by
    funext keyword motion
    exact propext (hstep keyword motion)
  have hl : l.loop = m.loop := by
    funext keyword
    exact propext (hloop keyword)
  cases l
  cases m
  rw [mk.injEq]
  exact ⟨hs, hl⟩

theorem inside_inside (l : Lexicon) : l.inside.inside = l.inside := by
  simp only [inside, and_assoc, and_self]

/-- The closing bracket is no standard keyword, so the standard lexicon holds in blocks as well. -/
theorem standard_inside : standard.inside = standard := by
  apply ext_iffs
  · intro keyword motion
    refine ⟨And.left, fun h => ⟨h, ?_⟩⟩
    rintro rfl
    cases motion <;> simp [standard] at h
  · intro keyword
    refine ⟨And.left, fun h => ⟨h, ?_⟩⟩
    rintro rfl
    simp [standard] at h

instance : LE Lexicon where
  le l m := (∀ keyword motion, l.step keyword motion → m.step keyword motion) ∧
    ∀ keyword, l.loop keyword → m.loop keyword

theorem inside_le (l : Lexicon) : l.inside ≤ l :=
  ⟨fun _ _ h => h.1, fun _ h => h.1⟩

theorem le_trans {l m k : Lexicon} (hlm : l ≤ m) (hmk : m ≤ k) : l ≤ k :=
  ⟨fun _ _ h => hmk.1 _ _ (hlm.1 _ _ h), fun _ h => hmk.2 _ (hlm.2 _ h)⟩

theorem inside_le_inside {l m : Lexicon} (h : l ≤ m) : l.inside ≤ m.inside :=
  ⟨fun _ _ hk => ⟨h.1 _ _ hk.1, hk.2⟩, fun _ hk => ⟨h.2 _ hk.1, hk.2⟩⟩

end Lexicon

mutual

inductive Derives : Lexicon → List Word → Command → Prop
  | step {l : Lexicon} {keyword argument : Word} {motion : Motion} {amount : Int}
      (introduces : l.step keyword.text motion) (number : argument.number? = some amount) :
      Derives l [keyword, argument] (.step motion amount keyword.span)
  | loop {l : Lexicon} {keyword argument opening closing : Word} {words : List Word}
      {count : Int} {body : List Command}
      (introduces : l.loop keyword.text) (number : argument.number? = some count)
      (opens : opening.text = "[") (block : DerivesAll l.inside words body)
      (closes : closing.text = "]") :
      Derives l (keyword :: argument :: opening :: (words ++ [closing]))
        (.loop count body keyword.span)

inductive DerivesAll : Lexicon → List Word → List Command → Prop
  | nil {l : Lexicon} : DerivesAll l [] []
  | cons {l : Lexicon} {first rest : List Word} {c : Command} {cs : List Command}
      (head : Derives l first c) (tail : DerivesAll l rest cs) :
      DerivesAll l (first ++ rest) (c :: cs)

end

/-- A command that does not start with a closing bracket may stand in a block. -/
theorem Derives.inside {l : Lexicon} {keyword : Word} {taken : List Word} {c : Command}
    (h : Derives l (keyword :: taken) c) (hk : keyword.text ≠ "]") :
    Derives l.inside (keyword :: taken) c := by
  cases h with
  | step introduces number => exact .step ⟨introduces, hk⟩ number
  | loop introduces number opens block closes =>
    refine .loop ⟨introduces, hk⟩ number opens ?_ closes
    rw [l.inside_inside]
    exact block

namespace Command

mutual

def nesting : Command → Nat
  | step _ _ _ => 0
  | loop _ body _ => nestingAll body + 1

def nestingAll : List Command → Nat
  | [] => 0
  | c :: cs => max c.nesting (nestingAll cs)

end

@[simp] theorem nesting_step (motion : Motion) (amount : Int) (span : Text.Span) :
    (step motion amount span).nesting = 0 := by rw [nesting]

@[simp] theorem nesting_loop (count : Int) (body : List Command) (span : Text.Span) :
    (loop count body span).nesting = nestingAll body + 1 := by rw [nesting]

@[simp] theorem nestingAll_nil : nestingAll [] = 0 := by rw [nestingAll]

@[simp] theorem nestingAll_cons (c : Command) (cs : List Command) :
    nestingAll (c :: cs) = max c.nesting (nestingAll cs) := by rw [nestingAll]

end Command

def Rule.IsPlain (rule : Rule) : Prop :=
  rule = .loop ∨ ∃ motion, rule = .step motion

namespace Vocabulary

def lexicon (v : Vocabulary) : Lexicon where
  step keyword motion := v.find? keyword = some (.step motion)
  loop keyword := v.find? keyword = some .loop

/-- Every keyword introduces a step or a loop. -/
def Plain (v : Vocabulary) : Prop :=
  ∀ keyword rule, v.find? keyword = some rule → rule.IsPlain

theorem plain_empty : empty.Plain := by
  intro keyword rule h
  cases h

theorem Plain.insert {v : Vocabulary} (hv : v.Plain) (keyword : String) {rule : Rule}
    (h : rule.IsPlain) : (v.insert keyword rule).Plain := by
  intro k r hr
  rw [find?_insert] at hr
  split at hr
  · cases hr
    exact h
  · exact hv k r hr

theorem Plain.insertMany {v : Vocabulary} (hv : v.Plain) {entries : List (String × Rule)}
    (h : ∀ entry ∈ entries, entry.2.IsPlain) : (v.insertMany entries).Plain := by
  induction entries generalizing v with
  | nil => exact hv
  | cons entry entries ih =>
    obtain ⟨keyword, rule⟩ := entry
    have hrule : rule.IsPlain := h (keyword, rule) List.mem_cons_self
    exact ih (hv.insert keyword hrule) fun e he => h e (List.mem_cons_of_mem _ he)

/-- The last of several entries for a keyword is the one that is found. -/
theorem find?_insertMany (v : Vocabulary) (entries : List (String × Rule)) (keyword : String) :
    (v.insertMany entries).find? keyword =
      (entries.reverse.lookup keyword).or (v.find? keyword) := by
  induction entries generalizing v with
  | nil => rfl
  | cons entry entries ih =>
    obtain ⟨k, rule⟩ := entry
    have happend : (entries.reverse ++ [(k, rule)]).lookup keyword =
        (entries.reverse.lookup keyword).or (if keyword = k then some rule else none) := by
      rw [List.lookup_append, lookup_cons]
      rfl
    rw [List.reverse_cons, happend, insertMany, List.foldl_cons]
    change ((v.insert k rule).insertMany entries).find? keyword = _
    rw [ih, find?_insert, Option.or_assoc]
    split <;> rfl

theorem lookup_eq_some_iff_mem {entries : List (String × Rule)} {keyword : String} {rule : Rule}
    (h : (entries.map Prod.fst).Nodup) :
    entries.lookup keyword = some rule ↔ (keyword, rule) ∈ entries := by
  induction entries with
  | nil => simp
  | cons entry entries ih =>
    obtain ⟨k, r⟩ := entry
    rw [List.map_cons, List.nodup_cons] at h
    rw [lookup_cons, List.mem_cons, Prod.mk.injEq]
    by_cases hk : keyword = k
    · subst hk
      have hnot : (keyword, rule) ∉ entries := by
        intro hmem
        apply h.1
        exact List.mem_map.mpr ⟨(keyword, rule), hmem, rfl⟩
      simp [hnot, eq_comm]
    · simp [hk, ih h.2]

theorem find?_standard_eq_some {keyword : String} {rule : Rule} :
    standard.find? keyword = some rule ↔
      (∃ motion, rule = .step motion ∧ Lexicon.standard.step keyword motion) ∨
        rule = .loop ∧ Lexicon.standard.loop keyword := by
  have hnodup : (standardEntries.reverse.map Prod.fst).Nodup := by decide
  have hfind : standard.find? keyword = standardEntries.reverse.lookup keyword := by
    rw [standard, find?_insertMany]
    exact Option.or_none
  rw [hfind, lookup_eq_some_iff_mem hnodup]
  simp only [standardEntries, List.mem_reverse, List.mem_cons, Prod.mk.injEq, List.not_mem_nil]
  constructor
  · rintro (⟨rfl, rfl⟩ | ⟨rfl, rfl⟩ | ⟨rfl, rfl⟩ | ⟨rfl, rfl⟩ | ⟨rfl, rfl⟩ | ⟨rfl, rfl⟩ |
      ⟨rfl, rfl⟩ | ⟨rfl, rfl⟩ | ⟨rfl, rfl⟩ | h) <;> simp_all [Lexicon.standard]
  · rintro (⟨motion, rfl, h⟩ | ⟨rfl, h⟩)
    · cases motion <;> rcases h with rfl | rfl <;> simp
    · cases h
      simp

theorem plain_standard : standard.Plain :=
  plain_empty.insertMany (by simp [standardEntries, Rule.IsPlain])

theorem lexicon_standard : standard.lexicon = Lexicon.standard := by
  apply Lexicon.ext_iffs
  · intro keyword motion
    exact find?_standard_eq_some.trans (by simp)
  · intro keyword
    exact find?_standard_eq_some.trans (by simp)

end Vocabulary

end TurtleGraphics
