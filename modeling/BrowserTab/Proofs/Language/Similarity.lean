import BrowserTab.Proofs.Encoding.RoundTrip
import BrowserTab.Proofs.Language.Reconciliation

/-!
# Similarity as a relation

A declared code and a seen one are not compared alike: the length is asked of the first only, and its first
bytes have to begin the second. Between codes of two bytes or more the comparison is symmetric all the same,
and if no member of a group has a code that reaches beyond two bytes, to match is an equivalence.
-/

namespace BrowserTab.Language.Tables

open Encoding

/-- The first two bytes of a code. -/
def stem (code : Text) : Bytes :=
  (Utf8.encode code).take 2

variable {t : Tables} {p q r : Text}

lemma length_stem (hp : 2 ≤ Utf8.size p) : (stem p).length = 2 := by
  rw [stem, List.length_take]
  exact Nat.min_eq_left hp

lemma sharesPrimary_iff_stem (hp : 2 ≤ Utf8.size p) : sharesPrimary p q = true ↔ stem p = stem q := by
  rw [sharesPrimary_iff, ← stem, and_iff_right hp, List.prefix_iff_eq_take, length_stem hp, ← stem]

lemma prefix_iff_stem {code : Text} (hc : Utf8.size code ≤ 2) :
    code <+: p ↔ Utf8.encode code <+: stem p := by
  have hlength : (Utf8.encode code).length ≤ 2 := hc
  rw [← Utf8.encode_prefix_encode_iff, stem, List.prefix_take_iff, and_iff_left hlength]

lemma groupOf_congr (ht : ∀ m ∈ t.groups, Utf8.size m.code ≤ 2) (h : stem p = stem q) :
    t.groupOf p = t.groupOf q := by
  have hbegins : ∀ m ∈ t.groups, m.code.isPrefixOf p = m.code.isPrefixOf q := by
    intro m hm
    rw [Bool.eq_iff_iff, List.isPrefixOf_iff_prefix, List.isPrefixOf_iff_prefix,
      prefix_iff_stem (ht m hm), prefix_iff_stem (ht m hm), h]
  rw [groupOf, groupOf, List.find?_congr hbegins]

lemma compare_eq_sameLanguage_iff : t.compare p q = .sameLanguage ↔ sharesPrimary p q = true := by
  unfold compare
  split_ifs with h <;> simp [h]

lemma compare_self (hp : 2 ≤ Utf8.size p) : t.compare p p = .sameLanguage :=
  compare_eq_sameLanguage_iff.mpr ((sharesPrimary_iff_stem hp).mpr rfl)

lemma compare_comm (hp : 2 ≤ Utf8.size p) (hq : 2 ≤ Utf8.size q) : t.compare p q = t.compare q p := by
  have hstem : sharesPrimary p q = sharesPrimary q p := by
    rw [Bool.eq_iff_iff, sharesPrimary_iff_stem hp, sharesPrimary_iff_stem hq, eq_comm]
  have hgroup : ∀ {m n : Nat}, m ≠ 0 ∧ m = n → n ≠ 0 ∧ n = m := by
    rintro m n ⟨h, rfl⟩
    exact ⟨h, rfl⟩
  rw [compare, compare, hstem, if_congr ⟨hgroup, hgroup⟩ rfl rfl]

lemma isMatch_compare_iff_stem (hp : 2 ≤ Utf8.size p) : (t.compare p q).isMatch = true ↔
    stem p = stem q ∨ t.groupOf p ≠ 0 ∧ t.groupOf p = t.groupOf q := by
  rw [isMatch_compare_iff, Alike, ← sharesPrimary_iff, sharesPrimary_iff_stem hp, ← sameGroup_iff]

lemma isMatch_compare_trans (ht : ∀ m ∈ t.groups, Utf8.size m.code ≤ 2) (hp : 2 ≤ Utf8.size p)
    (hq : 2 ≤ Utf8.size q) (hpq : (t.compare p q).isMatch = true)
    (hqr : (t.compare q r).isMatch = true) : (t.compare p r).isMatch = true := by
  rw [isMatch_compare_iff_stem hp] at hpq ⊢
  rw [isMatch_compare_iff_stem hq] at hqr
  rcases hpq with hpq | ⟨hp0, hpq⟩
  · rcases hqr with hqr | ⟨hq0, hqr⟩
    · exact .inl (hpq.trans hqr)
    · rw [← groupOf_congr ht hpq] at hq0 hqr
      exact .inr ⟨hq0, hqr⟩
  · rcases hqr with hqr | ⟨-, hqr⟩
    · exact .inr ⟨hp0, hpq.trans (groupOf_congr ht hqr)⟩
    · exact .inr ⟨hp0, hpq.trans hqr⟩

/-- Under any tables, each code of two bytes or more is in its own language, and two such codes are compared
with the same result either way. If no code in the groups is longer than two bytes, to match is an equivalence
on such codes, in whatever order the groups are listed and however they overlap. -/
theorem compare_equivalence (t : Tables) :
    (∀ p, 2 ≤ Utf8.size p → t.compare p p = .sameLanguage) ∧
      (∀ p q, 2 ≤ Utf8.size p → 2 ≤ Utf8.size q → t.compare p q = t.compare q p) ∧
      ((∀ m ∈ t.groups, Utf8.size m.code ≤ 2) →
        Equivalence fun p q : {code : Text // 2 ≤ Utf8.size code} => (t.compare p q).isMatch = true) := by
  refine ⟨fun p => compare_self, fun p q => compare_comm, fun ht => ?_⟩
  constructor
  · intro p
    rw [compare_self p.2]
    rfl
  · intro p q h
    rwa [compare_comm q.2 p.2]
  · intro p q r
    exact isMatch_compare_trans ht p.2 q.2

/-- Bosnian Croatian is Croatian, Croatian is similar to Bosnian, and so Bosnian Croatian matches Bosnian. -/
theorem compare_equivalence_standard :
    (standard.compare "hr-BA".toList "hr".toList).isMatch = true ∧
      (standard.compare "hr".toList "bs".toList).isMatch = true ∧
      (standard.compare "hr-BA".toList "bs".toList).isMatch = true := by
  obtain ⟨-, -, hequivalence⟩ := compare_equivalence standard
  have hsame : (standard.compare "hr-BA".toList "hr".toList).isMatch = true := by decide
  have hsimilar : (standard.compare "hr".toList "bs".toList).isMatch = true := by decide
  have htrans := (hequivalence (by decide)).trans (x := ⟨"hr-BA".toList, by decide⟩)
    (y := ⟨"hr".toList, by decide⟩) (z := ⟨"bs".toList, by decide⟩) hsame hsimilar
  exact ⟨hsame, hsimilar, htrans⟩

/-- A longer code in a group can break the chain: Finnish is taken for Filipino, which is similar to French. -/
example :
    let t : Tables := { standard with groups := [⟨"fil".toList, 1⟩, ⟨"fr".toList, 1⟩] }
    t.compare "fi".toList "fil".toList = .sameLanguage ∧
      t.compare "fil".toList "fr".toList = .similarGroup ∧
      t.compare "fi".toList "fr".toList = .different := by
  decide

end BrowserTab.Language.Tables
