import TurtleGraphics.Proofs.Script.Layout
import TurtleGraphics.Text.Quoted

/-!
# Quoted text can be told apart

Quoting loses nothing. A character is written in one of three ways (`Escapes`), and what is written
for it shows where it ends and which character it stands for (`Escapes.inj`). So a quoted text ends
at its first quote without a backslash before it, and a row of quoted texts can be cut into those
texts in one way only.
-/

namespace TurtleGraphics.Text.Quoted

section Hexadecimal

variable {m n : Nat}

theorem digitChar_inj (hm : m < 16) (hn : n < 16) (h : m.digitChar = n.digitChar) : m = n := by
  have htable : ∀ i < 16, ∀ j < 16, i.digitChar = j.digitChar → i = j := by decide
  exact htable m hm n hn h

theorem toDigits_ne_singleton (hn : 16 ≤ n) (c : Char) : Nat.toDigits 16 n ≠ [c] := by
  intro h
  have hlength := congrArg List.length h
  have hpos := Nat.length_toDigits_pos (b := 16) (n := n / 16)
  rw [Nat.toDigits_of_base_le (by decide) hn, List.length_append, List.length_singleton] at hlength
  simp only [List.length_singleton] at hlength
  omega

theorem toDigits_inj (h : Nat.toDigits 16 m = Nat.toDigits 16 n) : m = n := by
  induction m using Nat.strongRecOn generalizing n with
  | ind m ih =>
    obtain hm | hm := Nat.lt_or_ge m 16 <;> obtain hn | hn := Nat.lt_or_ge n 16
    · rw [Nat.toDigits_of_lt_base hm, Nat.toDigits_of_lt_base hn] at h
      exact digitChar_inj hm hn (List.singleton_inj.mp h)
    · rw [Nat.toDigits_of_lt_base hm] at h
      exact absurd h.symm (toDigits_ne_singleton hn _)
    · rw [Nat.toDigits_of_lt_base hn] at h
      exact absurd h (toDigits_ne_singleton hm _)
    · rw [Nat.toDigits_of_base_le (by decide) hm, Nat.toDigits_of_base_le (by decide) hn] at h
      obtain ⟨hhigh, hlow⟩ := List.append_inj' h rfl
      have hquotient : m / 16 = n / 16 := ih (m / 16) (by omega) hhigh
      have hdigit : m % 16 = n % 16 :=
        digitChar_inj (by omega) (by omega) (List.singleton_inj.mp hlow)
      omega

theorem brace_notMem_toDigits (n : Nat) : '\x7d' ∉ Nat.toDigits 16 n := by
  have hdigit (i : Nat) : '\x7d' ∉ [i.digitChar] := by
    rw [List.mem_singleton]
    exact (Nat.digitChar_ne '\x7d' (by decide)).symm
  induction n using Nat.strongRecOn with
  | ind n ih =>
    obtain hn | hn := Nat.lt_or_ge n 16
    · rw [Nat.toDigits_of_lt_base hn]
      exact hdigit n
    · rw [Nat.toDigits_of_base_le (by decide) hn, List.mem_append, not_or]
      exact ⟨ih (n / 16) (by omega), hdigit (n % 16)⟩

end Hexadecimal

def letters : List (Char × Char) :=
  [('\x00', '0'), ('\t', 't'), ('\r', 'r'), ('\n', 'n'), ('"', '"'), ('\\', '\\')]

/-- What may be written for a character between quotes. -/
inductive Escapes : Char → List Char → Prop
  | letter {c letter : Char} (mem : (c, letter) ∈ letters) : Escapes c ['\\', letter]
  | number (c : Char) :
    Escapes c ('\\' :: 'u' :: '\x7b' :: (Nat.toDigits 16 c.toNat ++ ['\x7d']))
  | plain {c : Char} (ne_quote : c ≠ '"') (ne_backslash : c ≠ '\\') : Escapes c [c]

theorem escapes_escape (c : Char) : Escapes c (escape c).toList := by
  unfold escape
  split
  · exact .letter (by decide)
  · exact .letter (by decide)
  · exact .letter (by decide)
  · exact .letter (by decide)
  · exact .letter (by decide)
  · exact .letter (by decide)
  · next hquote hbackslash =>
    split
    · have hnumber : ("\\u\x7b" ++ hexadecimal c.toNat ++ "\x7d").toList =
          '\\' :: 'u' :: '\x7b' :: (Nat.toDigits 16 c.toNat ++ ['\x7d']) := by
        simp [hexadecimal]
      rw [hnumber]
      exact .number c
    · have hplain : c.toString.toList = [c] := by simp
      rw [hplain]
      exact .plain hquote hbackslash

namespace Escapes

variable {c d : Char} {cs ds rest rest' : List Char}

/-- Nothing that is written for a character starts with a quote. -/
theorem exists_cons (h : Escapes c cs) : ∃ first more, cs = first :: more ∧ first ≠ '"' := by
  cases h with
  | letter mem => exact ⟨_, _, rfl, by decide⟩
  | number => exact ⟨_, _, rfl, by decide⟩
  | plain ne_quote ne_backslash => exact ⟨_, _, rfl, ne_quote⟩

/-- The number of a character ends at the brace. -/
theorem number_inj {m n : Nat}
    (h : Nat.toDigits 16 m ++ '\x7d' :: rest = Nat.toDigits 16 n ++ '\x7d' :: rest') :
    m = n ∧ rest = rest' := by
  have hdigits (i : Nat) : ∀ c ∈ Nat.toDigits 16 i, (c != '\x7d') = true := by
    intro c hc
    simpa using ne_of_mem_of_not_mem hc (brace_notMem_toDigits i)
  obtain ⟨hnumber, hrest⟩ := run_unique (hdigits m) (by simp) (hdigits n) (by simp) h
  exact ⟨toDigits_inj hnumber, (List.cons.inj hrest).2⟩

/-- What is written for a character shows where it ends and which character it stands for. -/
theorem inj (h : Escapes c cs) (h' : Escapes d ds) (heq : cs ++ rest = ds ++ rest') :
    c = d ∧ rest = rest' := by
  have hletters : ∀ p ∈ letters, p.2 ≠ 'u' ∧ ∀ q ∈ letters, p.2 = q.2 → p.1 = q.1 := by decide
  cases h with
  | letter mem =>
    cases h' with
    | letter mem' =>
      obtain ⟨hletter, hrest⟩ := List.cons.inj (List.cons.inj heq).2
      exact ⟨(hletters _ mem).2 _ mem' hletter, hrest⟩
    | number =>
      obtain ⟨hletter, -⟩ := List.cons.inj (List.cons.inj heq).2
      exact absurd hletter (hletters _ mem).1
    | plain ne_quote ne_backslash => exact absurd (List.cons.inj heq).1.symm ne_backslash
  | number =>
    cases h' with
    | letter mem' =>
      obtain ⟨hletter, -⟩ := List.cons.inj (List.cons.inj heq).2
      exact absurd hletter.symm (hletters _ mem').1
    | number =>
      simp only [List.cons_append, List.append_assoc, List.nil_append, List.cons.injEq,
        true_and] at heq
      obtain ⟨hnumber, hrest⟩ := number_inj heq
      exact ⟨Char.toNat_inj.mp hnumber, hrest⟩
    | plain ne_quote ne_backslash => exact absurd (List.cons.inj heq).1.symm ne_backslash
  | plain ne_quote ne_backslash =>
    cases h' with
    | letter mem' => exact absurd (List.cons.inj heq).1 ne_backslash
    | number => exact absurd (List.cons.inj heq).1 ne_backslash
    | plain ne_quote' ne_backslash' => exact List.cons.inj heq

end Escapes

def inside (cs : List Char) : List Char :=
  cs.flatMap fun c => (escape c).toList

theorem toList_quote (text : String) :
    (quote text).toList = '"' :: (inside text.toList ++ ['"']) := by
  have hjoin (cs : List Char) : (String.join (cs.map escape)).toList = inside cs := by
    rw [String.toList_join, List.flatMap_map, inside]
  rw [quote, String.toList_append, String.toList_append, hjoin]
  rfl

/-- The first quote that is not written for a character is the end. -/
theorem inside_inj {cs ds rest rest' : List Char}
    (h : inside cs ++ '"' :: rest = inside ds ++ '"' :: rest') : cs = ds ∧ rest = rest' := by
  -- If only one of the texts is at its end, a quote stands where a character is written.
  induction cs generalizing ds with
  | nil =>
    cases ds with
    | nil => exact ⟨rfl, (List.cons.inj h).2⟩
    | cons d ds =>
      obtain ⟨first, more, hfirst, hne⟩ := (escapes_escape d).exists_cons
      rw [inside, inside, List.flatMap_cons, hfirst] at h
      exact absurd (List.cons.inj h).1.symm hne
  | cons c cs ih =>
    cases ds with
    | nil =>
      obtain ⟨first, more, hfirst, hne⟩ := (escapes_escape c).exists_cons
      rw [inside, inside, List.flatMap_cons, hfirst] at h
      exact absurd (List.cons.inj h).1 hne
    | cons d ds =>
      rw [inside, inside, List.flatMap_cons, List.flatMap_cons, List.append_assoc,
        List.append_assoc] at h
      obtain ⟨rfl, hmore⟩ := (escapes_escape c).inj (escapes_escape d) h
      obtain ⟨rfl, hrest⟩ := ih hmore
      exact ⟨rfl, hrest⟩

theorem quote_append_inj {s t : String} {rest rest' : List Char}
    (h : (quote s).toList ++ rest = (quote t).toList ++ rest') : s = t ∧ rest = rest' := by
  simp only [toList_quote, List.cons_append, List.append_assoc, List.nil_append, List.cons.injEq,
    true_and] at h
  obtain ⟨htext, hrest⟩ := inside_inj h
  exact ⟨String.toList_injective htext, hrest⟩

def row (texts : List String) : String :=
  ", ".intercalate (texts.map quote)

def rowTail (texts : List String) : List Char :=
  texts.flatMap fun text => ',' :: ' ' :: (quote text).toList

theorem toList_row_cons (text : String) (texts : List String) :
    (row (text :: texts)).toList = (quote text).toList ++ rowTail texts := by
  induction texts generalizing text with
  | nil => simp [row, rowTail]
  | cons next texts ih =>
    have hrow : row (text :: next :: texts) = quote text ++ ", " ++ row (next :: texts) :=
      String.intercalate_cons_cons
    rw [hrow, String.toList_append, String.toList_append, ih, List.append_assoc]
    rfl

theorem rowTail_injective : Function.Injective rowTail := by
  intro texts texts' h
  induction texts generalizing texts' with
  | nil =>
    cases texts' with
    | nil => rfl
    | cons text' texts' => cases h
  | cons text texts ih =>
    cases texts' with
    | nil => cases h
    | cons text' texts' =>
      obtain ⟨rfl, htail⟩ := quote_append_inj (List.cons.inj (List.cons.inj h).2).2
      rw [ih htail]

/-- A row can be cut into its texts in one way only. -/
theorem row_injective : Function.Injective row := by
  intro texts texts' h
  have hchars := congrArg String.toList h
  cases texts with
  | nil =>
    cases texts' with
    | nil => rfl
    | cons text' texts' =>
      rw [toList_row_cons, toList_quote] at hchars
      cases hchars
  | cons text texts =>
    cases texts' with
    | nil =>
      rw [toList_row_cons, toList_quote] at hchars
      cases hchars
    | cons text' texts' =>
      rw [toList_row_cons, toList_row_cons] at hchars
      obtain ⟨rfl, htail⟩ := quote_append_inj hchars
      rw [rowTail_injective htail]

end TurtleGraphics.Text.Quoted
