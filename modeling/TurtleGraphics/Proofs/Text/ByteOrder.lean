import Mathlib.Algebra.Group.Nat.Defs
import Mathlib.Tactic.SplitIfs

/-!
# The order of texts by their bytes

Texts are compared character by character, and characters by their code points. Comparing the bytes
of their encodings comes to the same: an encoding starts with a byte that grows with the number of
bytes that follow it and with the highest digit of the code point, and the bytes that follow hold
the other digits, highest first. So two characters are told apart within their own bytes, whatever
stands behind them (`Utf8.utf8EncodeChar_append_lt`).
-/

namespace TurtleGraphics.Text

def bytes (text : String) : List UInt8 :=
  text.toByteArray.data.toList

namespace Utf8

/-- The last `k` digits of a number to base 64, highest first, each in a byte of its own. -/
def trail : Nat → Nat → List UInt8
  | 0, _ => []
  | k + 1, n => trail k (n / 64) ++ [UInt8.ofNat (n % 64 + 0x80)]

def trailing (n : Nat) : Nat :=
  if n ≤ 0x7F then 0 else if n ≤ 0x7FF then 1 else if n ≤ 0xFFFF then 2 else 3

def marker : Nat → Nat
  | 0 => 0
  | 1 => 0xC0
  | 2 => 0xE0
  | _ => 0xF0

def lead (n : Nat) : Nat :=
  n / 64 ^ trailing n + marker (trailing n)

variable {m n : Nat}

theorem ofNat_lt_ofNat (h : m < n) (hn : n < 256) : UInt8.ofNat m < UInt8.ofNat n :=
  (UInt8.ofNat_lt_iff_lt (Nat.lt_trans h hn) hn).mpr h

/-- Numbers with the same number of digits are compared digit by digit. -/
theorem cons_trail_lt (base k : Nat) (h : m < n) (hn : n / 64 ^ k + base < 256)
    (rest rest' : List UInt8) :
    UInt8.ofNat (m / 64 ^ k + base) :: (trail k m ++ rest) <
      UInt8.ofNat (n / 64 ^ k + base) :: (trail k n ++ rest') := by
  -- The last byte goes over to what follows, so that is general here.
  induction k generalizing m n rest rest' with
  | zero =>
    have hfirst : m / 64 ^ 0 + base < n / 64 ^ 0 + base := by omega
    exact List.cons_lt_cons_iff.mpr (.inl (ofNat_lt_ofNat hfirst hn))
  | succ k ih =>
    have hdiv (i : Nat) : i / 64 ^ (k + 1) = i / 64 / 64 ^ k := by
      rw [Nat.div_div_eq_div_mul, Nat.pow_succ']
    have hlast (i : Nat) (bs : List UInt8) :
        trail (k + 1) i ++ bs = trail k (i / 64) ++ (UInt8.ofNat (i % 64 + 0x80) :: bs) := by
      rw [trail, List.append_assoc, List.singleton_append]
    rw [hdiv] at hn
    rw [hdiv, hdiv, hlast, hlast]
    obtain hhigh | ⟨hhigh, hlow⟩ : m / 64 < n / 64 ∨ m / 64 = n / 64 ∧ m % 64 < n % 64 := by omega
    · exact ih hhigh hn _ _
    · have hdigit : m % 64 + 0x80 < n % 64 + 0x80 := by omega
      rw [hhigh]
      refine List.cons_lt_cons_iff.mpr (.inr ⟨rfl, List.append_left_lt ?_⟩)
      exact List.cons_lt_cons_iff.mpr (.inl (ofNat_lt_ofNat hdigit (by omega)))

theorem lead_lt (hn : n < 0x110000) : lead n < 256 := by
  unfold lead trailing
  split_ifs <;> simp only [marker] <;> omega

/-- The first byte tells how many follow. -/
theorem trailing_eq_or_lead_lt (h : m < n) : trailing m = trailing n ∨ lead m < lead n := by
  unfold lead trailing
  split_ifs <;> simp only [marker, eq_self, true_or] <;> omega

theorem toNat_lt (c : Char) : c.toNat < 0x110000 := by
  obtain h | ⟨-, h⟩ := c.valid
  · exact Nat.lt_trans h (by decide)
  · exact h

theorem utf8EncodeChar_eq (c : Char) :
    String.utf8EncodeChar c = UInt8.ofNat (lead c.toNat) :: trail (trailing c.toNat) c.toNat := by
  have hc := toNat_lt c
  have hval : c.val.toNat = c.toNat := rfl
  simp only [String.utf8EncodeChar, hval, lead, trailing]
  generalize c.toNat = n at hc ⊢
  split_ifs
  · simp only [trail, marker, Nat.pow_zero, Nat.div_one, Nat.add_zero]
  · have hfirst : n / 64 % 0x20 = n / 64 := Nat.mod_eq_of_lt (by omega)
    simp only [trail, marker, hfirst, Nat.pow_one, List.nil_append]
  · have hfirst : n / 4096 % 0x10 = n / 4096 := Nat.mod_eq_of_lt (by omega)
    simp only [trail, marker, hfirst, Nat.reducePow, List.nil_append, List.cons_append]
  · have hfirst : n / 262144 % 0x08 = n / 262144 := Nat.mod_eq_of_lt (by omega)
    simp only [trail, marker, hfirst, Nat.div_div_eq_div_mul, Nat.reducePow, Nat.reduceMul,
      List.nil_append, List.cons_append]

/-- Two characters are told apart within their bytes, whatever follows. -/
theorem utf8EncodeChar_append_lt {c d : Char} (h : c < d) (rest rest' : List UInt8) :
    String.utf8EncodeChar c ++ rest < String.utf8EncodeChar d ++ rest' := by
  have hlt : c.toNat < d.toNat := h
  have hfirst := lead_lt (toNat_lt d)
  rw [utf8EncodeChar_eq, utf8EncodeChar_eq, List.cons_append, List.cons_append]
  obtain hsame | hlead := trailing_eq_or_lead_lt hlt
  · unfold lead at hfirst ⊢
    rw [hsame]
    exact cons_trail_lt _ _ hlt hfirst rest rest'
  · exact List.cons_lt_cons_iff.mpr (.inl (ofNat_lt_ofNat hlead hfirst))

theorem flatMap_utf8EncodeChar_lt {cs ds : List Char} (h : cs < ds) :
    cs.flatMap String.utf8EncodeChar < ds.flatMap String.utf8EncodeChar := by
  induction cs generalizing ds with
  | nil =>
    cases ds with
    | nil => cases h
    | cons d ds =>
      rw [List.flatMap_cons, utf8EncodeChar_eq]
      exact List.nil_lt_cons _ _
  | cons c cs ih =>
    cases ds with
    | nil => cases h
    | cons d ds =>
      rw [List.flatMap_cons, List.flatMap_cons]
      obtain hlt | ⟨rfl, hlt⟩ := List.cons_lt_cons_iff.mp h
      · exact utf8EncodeChar_append_lt hlt _ _
      · exact List.append_left_lt (ih hlt)

end Utf8

variable {s t : String}

theorem bytes_eq_flatMap (text : String) :
    bytes text = text.toList.flatMap String.utf8EncodeChar := by
  rw [bytes, ← String.utf8Encode_toList, List.utf8Encode, List.data_toByteArray]

theorem bytes_lt_bytes (h : s < t) : bytes s < bytes t := by
  rw [bytes_eq_flatMap, bytes_eq_flatMap]
  exact Utf8.flatMap_utf8EncodeChar_lt h

/-- The order by code points is the order by bytes. -/
theorem bytes_lt_bytes_iff : bytes s < bytes t ↔ s < t := by
  refine ⟨fun h => Decidable.byContradiction fun hle => ?_, bytes_lt_bytes⟩
  by_cases hlt : t < s
  · exact List.lt_asymm h (bytes_lt_bytes hlt)
  · have heq : s = t := String.le_antisymm (String.not_lt.mp hlt) (String.not_lt.mp hle)
    exact List.lt_irrefl _ (heq ▸ h)

theorem bytes_le_bytes_iff : bytes s ≤ bytes t ↔ s ≤ t :=
  not_congr bytes_lt_bytes_iff

def sortByBytes (texts : List String) : List String :=
  texts.mergeSort fun s t => decide (bytes s ≤ bytes t)

theorem pairwise_sortByBytes (texts : List String) : (sortByBytes texts).Pairwise (· ≤ ·) := by
  have hsorted : (sortByBytes texts).Pairwise fun s t => decide (bytes s ≤ bytes t) = true := by
    apply List.pairwise_mergeSort
    · intro s t u
      simp only [decide_eq_true_eq, bytes_le_bytes_iff]
      exact String.le_trans
    · intro s t
      simp only [Bool.or_eq_true, decide_eq_true_eq, bytes_le_bytes_iff]
      exact String.le_total s t
  exact hsorted.imp fun h => bytes_le_bytes_iff.mp (of_decide_eq_true h)

/-- In whatever order texts are found, sorting leads to the one list of them that increases. -/
theorem sortByBytes_eq {found texts : List String} (hfound : found.Nodup)
    (htexts : texts.Pairwise (· < ·)) (hmem : ∀ text, text ∈ found ↔ text ∈ texts) :
    sortByBytes found = texts := by
  have hperm : found.Perm texts :=
    (List.perm_ext_iff_of_nodup hfound (htexts.imp String.ne_of_lt)).mpr hmem
  have hsorted : texts.Pairwise (· ≤ ·) := htexts.imp fun h => String.not_lt.mp (String.lt_asymm h)
  exact List.Perm.eq_of_pairwise (fun s t _ _ => String.le_antisymm) (pairwise_sortByBytes found)
    hsorted ((List.mergeSort_perm found _).trans hperm)

end TurtleGraphics.Text
