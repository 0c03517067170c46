import TurtleGraphics.Script.Reading

/-!
# Streams of words

A stream keeps all the words of a script, from the first to the last one, and the number of those
that have been taken. What a reader may still take of it is a reading (`WordStream.reading`), and a
reader that works on that moves the stream on by as many words as it takes.
-/

namespace TurtleGraphics

structure WordStream where
  words : Array Word
  position : Nat
  depth : Nat
  deriving DecidableEq, Repr

namespace WordStream

variable {α : Type}

def ofScript (script : String) : WordStream :=
  ⟨(Script.words script).toArray, 0, 0⟩

def peek? (s : WordStream) : Option Word :=
  s.words[s.position]?

def atEnd (s : WordStream) : Bool :=
  s.words.size ≤ s.position

def remaining (s : WordStream) : Nat :=
  s.words.size - s.position

def reading (s : WordStream) : Reading :=
  ⟨s.words.toList.drop s.position, s.depth⟩

def pop : EStateM ScriptError WordStream (Option Word) := fun s =>
  match s.peek? with
  | none => .ok none s
  | some word => .ok (some word) { s with position := s.position + 1 }

def enter (s : WordStream) (keyword : Word) : Except ScriptError WordStream :=
  if s.depth < maxDepth then .ok { s with depth := s.depth + 1 }
  else .error (.nestedTooDeep keyword)

def leave (s : WordStream) : WordStream :=
  { s with depth := s.depth - 1 }

def block (keyword : Word) (body : EStateM ScriptError WordStream α) :
    EStateM ScriptError WordStream α := fun s =>
  match s.enter keyword with
  | .error e => .error e s
  | .ok inside =>
    match body inside with
    | .ok a s => .ok a s.leave
    | .error e s => .error e s.leave

/-- The stream of which `r` is left. -/
def resume (s : WordStream) (r : Reading) : WordStream :=
  ⟨s.words, s.words.size - r.rest.length, r.depth⟩

/-- Lets a reader work on what is left of the stream. -/
def call (reader : Reader α) : EStateM ScriptError WordStream α := fun s =>
  match reader s.reading with
  | .ok a r => .ok a (s.resume r)
  | .error e r => .error e (s.resume r)

theorem resume_reading {s t : WordStream} (hwords : t.words = s.words)
    (h : t.position ≤ t.words.size) : s.resume t.reading = t := by
  obtain ⟨words, position, depth⟩ := t
  obtain rfl : words = s.words := hwords
  simp only [resume, reading, List.length_drop, Array.length_toList, mk.injEq, true_and, and_true]
  simp only at h
  omega

theorem position_lt_of_peek? {s : WordStream} {word : Word} (h : s.peek? = some word) :
    s.position < s.words.size :=
  (Array.getElem?_eq_some_iff.mp h).1

theorem size_le_of_peek? {s : WordStream} (h : s.peek? = none) : s.words.size ≤ s.position :=
  Array.getElem?_eq_none_iff.mp h

theorem rest_of_peek?_eq_none {s : WordStream} (h : s.peek? = none) : s.reading.rest = [] :=
  List.drop_eq_nil_iff.mpr (size_le_of_peek? h)

theorem rest_of_peek?_eq_some {s : WordStream} {word : Word} (h : s.peek? = some word) :
    s.reading.rest = word :: s.words.toList.drop (s.position + 1) := by
  obtain ⟨hlt, hword⟩ := Array.getElem?_eq_some_iff.mp h
  rw [reading, List.drop_eq_getElem_cons (by rwa [Array.length_toList]), Array.getElem_toList,
    hword]

theorem next?_reading (s : WordStream) : s.reading.next? = s.peek? := by
  cases h : s.peek? with
  | none => rw [Reading.next?, rest_of_peek?_eq_none h, List.head?_nil]
  | some word => rw [Reading.next?, rest_of_peek?_eq_some h, List.head?_cons]

theorem block_of_full (keyword : Word) (body : EStateM ScriptError WordStream α) {s : WordStream}
    (h : maxDepth ≤ s.depth) : block keyword body s = .error (.nestedTooDeep keyword) s := by
  simp only [block, enter, if_neg (Nat.not_lt.mpr h)]

theorem block_of_room (keyword : Word) (body : EStateM ScriptError WordStream α) {s : WordStream}
    (h : s.depth < maxDepth) :
    block keyword body s =
      match body ⟨s.words, s.position, s.depth + 1⟩ with
      | .ok a s => .ok a s.leave
      | .error e s => .error e s.leave := by
  simp only [block, enter, if_pos h]

end WordStream

end TurtleGraphics
