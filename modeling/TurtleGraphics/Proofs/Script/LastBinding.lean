import TurtleGraphics.Program
import TurtleGraphics.Proofs.Script.Derivation
import TurtleGraphics.Proofs.Text.ByteOrder
import TurtleGraphics.Proofs.Text.Quoting

/-!
# The last binding of a keyword

A vocabulary is built by giving rules to keywords, one after the other; all standard keywords may be
given theirs at any time. What was given to a keyword earlier is forgotten, and in which order
different keywords were dealt with does not show: a vocabulary is determined by the rules that it
finds (`Vocabulary.eq_of_find?_eq`). Its text lists the keywords by their bytes, so the text is what
one gets by looking the keywords up in any order and sorting them.
-/

namespace TurtleGraphics

open Text

inductive Registration where
  | register (keyword : String) (rule : Rule)
  | addStandard

namespace Registration

def bindings : Registration → List (String × Rule)
  | register keyword rule => [(keyword, rule)]
  | addStandard => Vocabulary.standardEntries

def apply (v : Vocabulary) : Registration → Vocabulary
  | register keyword rule => v.insert keyword rule
  | addStandard => v.insertMany Vocabulary.standardEntries

def lastRule? (registrations : List Registration) (keyword : String) : Option Rule :=
  (registrations.flatMap bindings).reverse.lookup keyword

def Registers (registrations : List Registration) (keyword : String) : Prop :=
  ∃ registration ∈ registrations, ∃ rule, (keyword, rule) ∈ registration.bindings

end Registration

namespace Vocabulary

open Registration

def build (registrations : List Registration) : Vocabulary :=
  registrations.foldl Registration.apply empty

variable {v v' : Vocabulary}

theorem foldl_apply (v : Vocabulary) (registrations : List Registration) :
    registrations.foldl Registration.apply v = v.insertMany (registrations.flatMap bindings) := by
  induction registrations generalizing v with
  | nil => rfl
  | cons registration registrations ih =>
    have happly : registration.apply v = v.insertMany registration.bindings := by
      cases registration <;> rfl
    rw [List.foldl_cons, ih, List.flatMap_cons, happly, insertMany, insertMany, insertMany,
      List.foldl_append]

theorem find?_build (registrations : List Registration) (keyword : String) :
    (build registrations).find? keyword = lastRule? registrations keyword := by
  rw [build, foldl_apply, find?_insertMany]
  exact Option.or_none

theorem nodup_keywords (v : Vocabulary) : v.keywords.Nodup :=
  v.sorted.imp String.ne_of_lt

/-- Entries in increasing order are determined by what is found in them. -/
theorem eq_of_find?_eq (h : ∀ keyword, v.find? keyword = v'.find? keyword) : v = v' := by
  have hmem (entry : String × Rule) : entry ∈ v.entries ↔ entry ∈ v'.entries := by
    obtain ⟨keyword, rule⟩ := entry
    rw [← lookup_eq_some_iff_mem v.nodup_keywords, ← lookup_eq_some_iff_mem v'.nodup_keywords]
    exact iff_of_eq (congrArg (· = some rule) (h keyword))
  have hsorted : v.entries.Pairwise fun a b => a.1 < b.1 := List.pairwise_map.mp v.sorted
  have hsorted' : v'.entries.Pairwise fun a b => a.1 < b.1 := List.pairwise_map.mp v'.sorted
  have hne {a b : String × Rule} (hlt : a.1 < b.1) : a ≠ b :=
    ne_of_apply_ne Prod.fst (String.ne_of_lt hlt)
  have hperm : v.entries.Perm v'.entries :=
    (List.perm_ext_iff_of_nodup (hsorted.imp hne) (hsorted'.imp hne)).mpr hmem
  have hentries : v.entries = v'.entries :=
    hperm.eq_of_pairwise (fun _ _ _ _ hlt hgt => absurd hgt (String.lt_asymm hlt)) hsorted hsorted'
  obtain ⟨entries, sorted⟩ := v
  obtain ⟨entries', sorted'⟩ := v'
  obtain rfl : entries = entries' := hentries
  rfl

theorem lookup_ne_none_iff {entries : List (String × Rule)} {keyword : String} :
    entries.lookup keyword ≠ none ↔ ∃ rule, (keyword, rule) ∈ entries := by
  rw [← Option.isSome_iff_ne_none, List.lookup_isSome_iff]
  constructor
  · rintro ⟨⟨k, rule⟩, hmem, hk⟩
    obtain rfl : keyword = k := eq_of_beq hk
    exact ⟨rule, hmem⟩
  · rintro ⟨rule, hmem⟩
    exact ⟨(keyword, rule), hmem, beq_self_eq_true keyword⟩

theorem mem_keywords_iff {keyword : String} : keyword ∈ v.keywords ↔ v.find? keyword ≠ none := by
  rw [find?, lookup_ne_none_iff, keywords, List.mem_map]
  constructor
  · rintro ⟨⟨k, rule⟩, hmem, rfl⟩
    exact ⟨rule, hmem⟩
  · rintro ⟨rule, hmem⟩
    exact ⟨(keyword, rule), hmem, rfl⟩

theorem mem_keywords_build (registrations : List Registration) (keyword : String) :
    keyword ∈ (build registrations).keywords ↔ Registers registrations keyword := by
  rw [mem_keywords_iff, find?_build, lastRule?, lookup_ne_none_iff]
  simp only [List.mem_reverse, List.mem_flatMap, Registers]
  constructor
  · rintro ⟨rule, registration, hregistration, hmem⟩
    exact ⟨registration, hregistration, rule, hmem⟩
  · rintro ⟨registration, hregistration, rule, hmem⟩
    exact ⟨rule, registration, hregistration, hmem⟩

def listing (keywords : List String) : String :=
  "Registry \x7b keywords: [" ++ Quoted.row keywords ++ "] \x7d"

theorem text_eq_listing (v : Vocabulary) : v.text = listing v.keywords := rfl

theorem listing_injective : Function.Injective listing := by
  intro keywords keywords' h
  unfold listing at h
  rw [String.append_left_inj, String.append_right_inj] at h
  exact Quoted.row_injective h

/-- The text shows the `keywords` and no other list of them. These are the ones that were
`registered`, each once, in the increasing order of their bytes. -/
structure Shows (registered : String → Prop) (keywords : List String) (text : String) : Prop where
  mem_iff : ∀ keyword, keyword ∈ keywords ↔ registered keyword
  increasing : keywords.Pairwise fun k k' => bytes k < bytes k'
  text_eq_iff : ∀ listed, text = listing listed ↔ listed = keywords
  /-- The keywords may be found in any order, if they are then sorted. -/
  text_eq_sorted : ∀ found : List String, found.Nodup →
    (∀ keyword, keyword ∈ found ↔ registered keyword) → text = listing (sortByBytes found)

theorem shows_build (registrations : List Registration) :
    Shows (Registers registrations) (build registrations).keywords (build registrations).text where
  mem_iff := mem_keywords_build registrations
  increasing := (build registrations).sorted.imp bytes_lt_bytes
  text_eq_iff listed := by
    rw [text_eq_listing]
    exact listing_injective.eq_iff.trans eq_comm
  text_eq_sorted found hfound hmem := by
    have hkeywords (keyword : String) :
        keyword ∈ found ↔ keyword ∈ (build registrations).keywords :=
      (hmem keyword).trans (mem_keywords_build registrations keyword).symm
    have hsorted : (build registrations).keywords.Pairwise (· < ·) := (build registrations).sorted
    rw [text_eq_listing, sortByBytes_eq hfound hsorted hkeywords]

end Vocabulary

/-- However a vocabulary was built, a keyword has the rule that it was given last. Two vocabularies
whose keywords were given the same rules last read every script alike and have the same text, and
the text lists every keyword that was ever given a rule once, in the order of the bytes. -/
theorem last_binding_counts (registrations : List Registration) :
    let v := Vocabulary.build registrations
    (∀ keyword, v.find? keyword = Registration.lastRule? registrations keyword) ∧
      (∀ registrations' : List Registration,
        (∀ keyword, Registration.lastRule? registrations' keyword =
            Registration.lastRule? registrations keyword) →
          let v' := Vocabulary.build registrations'
          (∀ script, Program.parse script v' = Program.parse script v) ∧ v'.text = v.text) ∧
        ∃ keywords, Vocabulary.Shows (Registration.Registers registrations) keywords v.text := by
  intro v
  refine ⟨Vocabulary.find?_build registrations, ?_, _, Vocabulary.shows_build registrations⟩
  intro registrations' hlast v'
  have heq : v' = v := by
    apply Vocabulary.eq_of_find?_eq
    intro keyword
    rw [Vocabulary.find?_build, Vocabulary.find?_build, hlast]
  rw [heq]
  exact ⟨fun _ => rfl, rfl⟩


/-- A rule that a standard one replaces, a rule that another one replaces and the order of the calls
leave no trace. The text has the turtle, a character of four bytes, behind the tilde of three. -/
theorem last_binding_counts_turtle :
    let registrations : List Registration :=
      [.register "FD" .loop, .addStandard, .register "～" (.step .left), .register "🐢" .loop]
    let registrations' : List Registration :=
      [.register "🐢" .loop, .register "～" .loop, .register "～" (.step .left), .addStandard]
    let v := Vocabulary.build registrations
    let v' := Vocabulary.build registrations'
    (∀ keyword, Registration.lastRule? registrations' keyword =
        Registration.lastRule? registrations keyword) ∧
      (∀ script, Program.parse script v' = Program.parse script v) ∧
        Program.parse "9 🐢 2 [ FD 3 ～ 90 ]" v' = .ok ⟨9, [.loop 2
          [.step .forward 3 ⟨11, 13, 1, 9⟩, .step .left 90 ⟨16, 19, 1, 14⟩] ⟨2, 6, 1, 3⟩]⟩ ∧
          v'.text = Vocabulary.listing
            ["BACK", "BK", "FD", "FORWARD", "LEFT", "LT", "REPEAT", "RIGHT", "RT", "～", "🐢"] := by
  intro registrations registrations' v v'
  have hlast (keyword : String) : Registration.lastRule? registrations' keyword =
      Registration.lastRule? registrations keyword := by
    simp only [registrations, registrations', Registration.lastRule?, Registration.bindings,
      Vocabulary.standardEntries, List.flatMap_cons, List.flatMap_nil, List.append_nil,
      List.cons_append, List.nil_append, List.reverse_cons, List.reverse_nil,
      Vocabulary.lookup_cons, List.lookup_nil]
    -- The two lists differ in the places of these three keywords only.
    by_cases hturtle : keyword = "🐢"
    · simp [hturtle]
    by_cases htilde : keyword = "～"
    · simp [htilde]
    by_cases hforward : keyword = "FD"
    · simp [hforward]
    · simp [hturtle, htilde, hforward]
  obtain ⟨-, halike, -⟩ := last_binding_counts registrations
  obtain ⟨hscripts, htext⟩ := halike registrations' hlast
  refine ⟨hlast, hscripts, (hscripts _).trans ?_, htext.trans ?_⟩
  · decide +kernel +zetaReduce
  · rw [Vocabulary.text_eq_listing]
    exact congrArg Vocabulary.listing (by decide +kernel +zetaReduce)

end TurtleGraphics
