import TurtleGraphics.Command.Basic
import TurtleGraphics.Script.Reading
import TurtleGraphics.Text.Quoted

/-!
# Vocabularies

A vocabulary says for each of its keywords how the command it introduces is read. Keywords are
kept in increasing order and each stands once, so two vocabularies that know the same rules are
the same vocabulary.
-/

namespace TurtleGraphics

open Text

/-- How a command is read once its keyword has been taken. -/
inductive Rule where
  /-- One number, the amount of the step. -/
  | step (motion : Motion)
  /-- A number, and a block of commands. -/
  | loop
  /-- Anything else. The reader is given one that reads the block of a keyword, behind its open
  bracket. -/
  | custom (read : (Word → Reader (List Command)) → Word → Reader Command)

namespace Rule

def read (block : Word → Reader (List Command)) (rule : Rule) (keyword : Word) :
    Reader Command :=
  match rule with
  | .step motion => do
    let amount ← Reader.argument keyword
    return .step motion amount keyword.span
  | .loop => do
    let count ← Reader.argument keyword
    Reader.openBracket keyword
    let body ← block keyword
    return .loop count body keyword.span
  | .custom read => read block keyword

end Rule

structure Vocabulary where
  entries : List (String × Rule)
  sorted : (entries.map Prod.fst).Pairwise (· < ·)

namespace Vocabulary

def empty : Vocabulary := ⟨[], .nil⟩

def insertEntry (keyword : String) (rule : Rule) : List (String × Rule) → List (String × Rule)
  | [] => [(keyword, rule)]
  | (k, r) :: rest =>
    if keyword < k then (keyword, rule) :: (k, r) :: rest
    else if keyword = k then (keyword, rule) :: rest
    else (k, r) :: insertEntry keyword rule rest

theorem mem_keys_insertEntry {keyword k : String} {rule : Rule} {entries : List (String × Rule)} :
    k ∈ (insertEntry keyword rule entries).map Prod.fst ↔
      k = keyword ∨ k ∈ entries.map Prod.fst := by
  induction entries with
  | nil => simp [insertEntry]
  | cons entry rest ih =>
    obtain ⟨k', r⟩ := entry
    unfold insertEntry
    split
    · simp
    · split
      · next h => simp [h]
      · simp only [List.map_cons, List.mem_cons, ih]
        exact ⟨fun h => by rcases h with h | h | h <;> simp [h],
          fun h => by rcases h with h | h | h <;> simp [h]⟩

theorem sorted_insertEntry (keyword : String) (rule : Rule) {entries : List (String × Rule)}
    (h : (entries.map Prod.fst).Pairwise (· < ·)) :
    ((insertEntry keyword rule entries).map Prod.fst).Pairwise (· < ·) := by
  induction entries with
  | nil => simp [insertEntry]
  | cons entry rest ih =>
    obtain ⟨k, r⟩ := entry
    have hk := List.pairwise_cons.mp h
    unfold insertEntry
    split
    · next hlt =>
      refine List.pairwise_cons.mpr ⟨fun k' hk' => ?_, h⟩
      rcases List.mem_cons.mp hk' with rfl | hk'
      · exact hlt
      · exact String.lt_trans hlt (hk.1 k' hk')
    · next hnlt =>
      split
      · next heq => simpa [heq] using h
      · next hne =>
        refine List.pairwise_cons.mpr ⟨fun k' hk' => ?_, ih hk.2⟩
        rcases mem_keys_insertEntry.mp hk' with rfl | hk'
        · refine Decidable.byContradiction fun hlt => hne ?_
          exact String.le_antisymm (String.not_lt.mp hlt) (String.not_lt.mp hnlt)
        · exact hk.1 k' hk'

/-- The last rule given for a keyword is the one that counts. -/
def insert (v : Vocabulary) (keyword : String) (rule : Rule) : Vocabulary :=
  ⟨insertEntry keyword rule v.entries, sorted_insertEntry keyword rule v.sorted⟩

def find? (v : Vocabulary) (keyword : String) : Option Rule :=
  v.entries.lookup keyword

def contains (v : Vocabulary) (keyword : String) : Bool :=
  (v.find? keyword).isSome

def keywords (v : Vocabulary) : List String :=
  v.entries.map Prod.fst

def insertMany (v : Vocabulary) (entries : List (String × Rule)) : Vocabulary :=
  entries.foldl (fun v (keyword, rule) => v.insert keyword rule) v

def standardEntries : List (String × Rule) :=
  [("FD", .step .forward), ("FORWARD", .step .forward), ("BK", .step .back),
    ("BACK", .step .back), ("LT", .step .left), ("LEFT", .step .left), ("RT", .step .right),
    ("RIGHT", .step .right), ("REPEAT", .loop)]

def standard : Vocabulary :=
  empty.insertMany standardEntries

def text (v : Vocabulary) : String :=
  "Registry \x7b keywords: [" ++ ", ".intercalate (v.keywords.map Quoted.quote) ++ "] \x7d"

theorem lookup_cons (k keyword : String) (rule : Rule) (rest : List (String × Rule)) :
    ((keyword, rule) :: rest).lookup k = if k = keyword then some rule else rest.lookup k := by
  rw [List.lookup_cons]
  by_cases h : k = keyword
  · simp [h]
  · simp [h, beq_false_of_ne h]

theorem lookup_insertEntry (keyword k : String) (rule : Rule) (entries : List (String × Rule)) :
    (insertEntry keyword rule entries).lookup k =
      if k = keyword then some rule else entries.lookup k := by
  induction entries with
  | nil => exact lookup_cons k keyword rule []
  | cons entry rest ih =>
    obtain ⟨k', r⟩ := entry
    unfold insertEntry
    split
    · exact lookup_cons k keyword rule _
    · split
      · next h =>
        rw [lookup_cons, lookup_cons, ← h]
        split <;> rfl
      · next h =>
        rw [lookup_cons, lookup_cons, ih]
        by_cases hk : k = k'
        · rw [if_pos hk, if_pos hk, if_neg fun hk' => h (hk'.symm.trans hk)]
        · rw [if_neg hk, if_neg hk]

theorem find?_insert (v : Vocabulary) (keyword k : String) (rule : Rule) :
    (v.insert keyword rule).find? k = if k = keyword then some rule else v.find? k :=
  lookup_insertEntry keyword k rule v.entries

end Vocabulary

end TurtleGraphics
