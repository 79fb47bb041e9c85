import Mathlib.Tactic.Lemma
import BrowserTab.Language.Tables.Defect

/-!
# Sound tables

Tables without a defect are sound, entry by entry: `Sound` says so without the order in which the
entries are looked at and without the messages. Facts about accepted tables follow from its fields.
-/

namespace BrowserTab.Language.Tables

/-- Tables all of whose entries are as they must be. -/
structure Sound (t : Tables) : Prop where
  source_ne_nil : ∀ m ∈ t.similitudes ++ t.synonyms, m.source ≠ []
  target_isValid : ∀ m ∈ t.similitudes ++ t.synonyms, Code.isValid m.target = true
  similitude_unmapped : ∀ m ∈ t.similitudes, isSource t.similitudes m.target = false ∧
    isSource t.synonyms (Code.main m.target) = false
  synonym_bare : ∀ m ∈ t.synonyms, '-' ∉ m.target
  synonym_unmapped : ∀ m ∈ t.synonyms, isSource t.synonyms m.target = false ∧
    ∀ s ∈ t.similitudes, Code.main s.source ≠ m.target
  member_ne_nil : ∀ m ∈ t.groups, m.code ≠ []
  group_ne_zero : ∀ m ∈ t.groups, m.group ≠ 0
  misconfigured_isValid : ∀ c ∈ t.misconfigured, Code.isValid c = true

lemma mappingDefect?_eq_none {m : Mapping} :
    mappingDefect? m = none ↔ m.source ≠ [] ∧ Code.isValid m.target = true := by
  unfold mappingDefect?
  split <;> rename_i h
  · simp_all
  · split <;> simp_all

lemma similitudeDefect?_eq_none {t : Tables} {m : Mapping} :
    t.similitudeDefect? m = none ↔ isSource t.similitudes m.target = false ∧
      isSource t.synonyms (Code.main m.target) = false := by
  unfold similitudeDefect?
  split <;> rename_i h
  · simp only [reduceCtorEq, false_iff, not_and]
    intro hs
    simpa [hs] using h
  · simpa using h

lemma synonymDefect?_eq_none {t : Tables} {m : Mapping} :
    t.synonymDefect? m = none ↔ '-' ∉ m.target ∧ isSource t.synonyms m.target = false ∧
      ∀ s ∈ t.similitudes, Code.main s.source ≠ m.target := by
  unfold synonymDefect?
  by_cases hd : '-' ∈ m.target
  · simp [hd]
  · rw [if_neg (by simpa using hd)]
    split <;> rename_i h
    · simp only [Bool.or_eq_true, List.any_eq_true, decide_eq_true_eq] at h
      simp only [reduceCtorEq, false_iff]
      rintro ⟨-, hs, hn⟩
      rcases h with h | ⟨s, hm, h⟩
      · rw [hs] at h
        exact absurd h (by decide)
      · exact hn s hm h
    · simp_all

lemma memberDefect?_eq_none {m : Membership} :
    memberDefect? m = none ↔ m.code ≠ [] ∧ m.group ≠ 0 := by
  unfold memberDefect?
  split <;> rename_i h
  · simp_all
  · split <;> simp_all

lemma misconfiguredDefect?_eq_none {code : Text} :
    misconfiguredDefect? code = none ↔ Code.isValid code = true := by
  unfold misconfiguredDefect?
  split <;> simp_all

/-- The check of the tables finds a defect unless they are sound. -/
lemma defect?_eq_none_iff {t : Tables} : t.defect? = none ↔ t.Sound := by
  unfold defect?
  simp only [Option.or_eq_none_iff, List.findSome?_eq_none_iff, mappingDefect?_eq_none,
    similitudeDefect?_eq_none, synonymDefect?_eq_none, memberDefect?_eq_none,
    misconfiguredDefect?_eq_none]
  constructor
  · rintro ⟨⟨⟨⟨hm, hs⟩, hy⟩, hg⟩, hc⟩
    exact ⟨fun m h => (hm m h).1, fun m h => (hm m h).2, hs, fun m h => (hy m h).1,
      fun m h => (hy m h).2, fun m h => (hg m h).1, fun m h => (hg m h).2, hc⟩
  · intro h
    exact ⟨⟨⟨⟨fun m hm => ⟨h.source_ne_nil m hm, h.target_isValid m hm⟩, h.similitude_unmapped⟩,
      fun m hm => ⟨h.synonym_bare m hm, h.synonym_unmapped m hm⟩⟩,
      fun m hm => ⟨h.member_ne_nil m hm, h.group_ne_zero m hm⟩⟩, h.misconfigured_isValid⟩

end BrowserTab.Language.Tables
