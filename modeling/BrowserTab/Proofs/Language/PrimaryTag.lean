import BrowserTab.Proofs.Encoding.Utf8
import BrowserTab.Proofs.Language.Code
import BrowserTab.Proofs.Language.Similarity

/-!
# Primary tags and their first letters

Codes are taken to be of one language without their tags being cut out: the first two bytes decide. For codes
with tags of two letters these bytes are the tag. A tag of three letters is told from none that begins alike.
-/

namespace BrowserTab.Language

open Encoding

variable {t : Tables} {p q : Text}

namespace Code

lemma isAscii_of_isValid {code : Text} (h : isValid code = true) : ∀ c ∈ code, Text.IsAscii c := by
  intro c hc
  rcases isAlpha_or_eq_hyphen h hc with ha | rfl
  · exact Text.isAscii_of_isAlpha ha
  · decide

lemma take_main {code : Text} {n : Nat} (h : n ≤ (main code).length) :
    (main code).take n = code.take n := by
  calc
    (main code).take n = (main code ++ tail code).take n := (List.take_append_of_le_length h).symm
    _ = code.take n := by rw [main_append_tail]

lemma length_main_le (code : Text) : (main code).length ≤ code.length :=
  (List.takeWhile_prefix _).length_le

end Code

namespace Tables

lemma characters_stem (h : ∀ c ∈ p, Text.IsAscii c) : characters (stem p) = p.take 2 := by
  rw [stem, characters, List.map_take, ← characters, characters_encode h]

lemma stem_eq_stem_iff (hp : ∀ c ∈ p, Text.IsAscii c) (hq : ∀ c ∈ q, Text.IsAscii c) :
    stem p = stem q ↔ p.take 2 = q.take 2 := by
  rw [← characters_stem hp, ← characters_stem hq]
  constructor
  · exact congrArg characters
  · intro h
    rw [← map_octet_characters (stem p), h, map_octet_characters]

lemma size_of_isAscii (h : ∀ c ∈ p, Text.IsAscii c) : Utf8.size p = p.length := by
  have hlength := congrArg List.length (characters_encode h)
  rwa [characters, List.length_map] at hlength

lemma compare_eq_sameLanguage_iff_take (hp : Code.isValid p = true) (hq : Code.isValid q = true)
    (hlp : 2 ≤ (Code.main p).length) (hlq : 2 ≤ (Code.main q).length) :
    t.compare p q = .sameLanguage ↔ (Code.main p).take 2 = (Code.main q).take 2 := by
  have hap := Code.isAscii_of_isValid hp
  have haq := Code.isAscii_of_isValid hq
  have hsize : 2 ≤ Utf8.size p := by
    rw [size_of_isAscii hap]
    exact hlp.trans (Code.length_main_le p)
  rw [compare_eq_sameLanguage_iff, sharesPrimary_iff_stem hsize, stem_eq_stem_iff hap haq,
    Code.take_main hlp, Code.take_main hlq]

/-- Codes with primary tags of two letters or more are of one language exactly if the tags agree in their
first two letters. So they are of one language exactly if the tags are equal, unless the tags are different
and differ in the third letter only. -/
theorem sameLanguage_main_iff (t : Tables) (p q : Text) (hp : Code.isValid p = true)
    (hq : Code.isValid q = true) (hlp : 2 ≤ (Code.main p).length) (hlq : 2 ≤ (Code.main q).length) :
    (t.compare p q = .sameLanguage ↔ (Code.main p).take 2 = (Code.main q).take 2) ∧
      ((t.compare p q = .sameLanguage ↔ Code.main p = Code.main q) ↔
        Code.main p = Code.main q ∨ (Code.main p).take 2 ≠ (Code.main q).take 2) := by
  have hcompare : t.compare p q = .sameLanguage ↔ (Code.main p).take 2 = (Code.main q).take 2 :=
    compare_eq_sameLanguage_iff_take hp hq hlp hlq
  refine ⟨hcompare, ?_⟩
  rw [hcompare]
  constructor
  · intro h
    by_cases htake : (Code.main p).take 2 = (Code.main q).take 2
    · exact .inl (h.mp htake)
    · exact .inr htake
  · rintro (heq | hne)
    · exact iff_of_true (congrArg (List.take 2) heq) heq
    · exact iff_of_false hne fun heq => hne (congrArg (List.take 2) heq)

/-- Filipino of the Philippines and plain Filipino have one tag; Filipino and Finnish agree in two letters of
it, but not in the tag. -/
theorem sameLanguage_main_iff_filipino :
    (standard.compare "fil-PH".toList "fil".toList = .sameLanguage ↔
        Code.main "fil-PH".toList = Code.main "fil".toList) ∧
      ¬(standard.compare "fil-PH".toList "fi".toList = .sameLanguage ↔
        Code.main "fil-PH".toList = Code.main "fi".toList) := by
  have hplain := sameLanguage_main_iff standard "fil-PH".toList "fil".toList (by decide) (by decide)
    (by decide) (by decide)
  have hfinnish := sameLanguage_main_iff standard "fil-PH".toList "fi".toList (by decide) (by decide)
    (by decide) (by decide)
  exact ⟨hplain.2.mpr (by decide), fun h => absurd (hfinnish.2.mp h) (by decide)⟩

/-- Hausa and Hawaiian count as one language, for the tag of the one begins that of the other. -/
theorem sameLanguage_of_hausa_hawaiian :
    ¬∀ (t : Tables) (p q : Text), Code.isValid p = true → Code.correct p = p →
      Code.isValid q = true → Code.correct q = q →
      (Code.main p).length = 2 ∨ (Code.main p).length = 3 →
      (Code.main q).length = 2 ∨ (Code.main q).length = 3 →
      (t.compare p q = .sameLanguage ↔ Code.main p = Code.main q) := by
  intro h
  have hsame : standard.compare "ha".toList "haw".toList = .sameLanguage := by decide
  have htags : Code.main "ha".toList = Code.main "haw".toList :=
    (h standard "ha".toList "haw".toList (by decide) (by decide) (by decide) (by decide) (by decide)
      (by decide)).mp hsame
  exact absurd htags (by decide)

/-- A page declared Hausa is found to agree with a classifier that saw Hawaiian. -/
example : (Resolver.reconcile standard "ha".toList "haw".toList).outcome = .agreement := by
  decide

end Tables

end BrowserTab.Language
