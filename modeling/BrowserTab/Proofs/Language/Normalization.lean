import BrowserTab.Proofs.Language.Renaming

/-!
# Normalization

Normal forms are meant to be fixed points. Sound tables map no code twice, but the check of the
tables accepts targets in any letter case, and normalizing mends the letter case of a target too.
-/

namespace BrowserTab.Language.Tables

lemma normalize_of_isValid {t : Tables} {code : Text} (h : Code.isValid code = true) :
    t.normalize code = t.rename (Code.recase code) := by
  rw [normalize, Code.correct_of_isValid h, Code.isValid_recase, if_pos h]

lemma isValid_of_replacement? {t : Tables} (h : t.Sound) {code target : Text}
    (hv : Code.isValid code = true) (hr : t.replacement? code = some target) :
    Code.isValid target = true := by
  rcases replacement?_cases hr with ⟨m, hm, -, rfl⟩ | ⟨m, hm, -, rfl⟩
  · exact h.target_isValid m (List.mem_append_left _ hm)
  · have hp := (Code.isValid_iff.mp (h.target_isValid m (List.mem_append_right _ hm))).1
    rw [Code.main_of_notMem (h.synonym_bare m hm)] at hp
    exact Code.isValid_append hp (Code.isValid_iff.mp hv).2

lemma isValid_rename {t : Tables} (h : t.Sound) {code : Text} (hv : Code.isValid code = true) :
    Code.isValid (t.rename code) = true := by
  rw [rename_eq]
  cases hr : t.replacement? code with
  | none => exact hv
  | some target => exact isValid_of_replacement? h hv hr

lemma rename_recase_eq_self_iff {t : Tables} (h : t.Sound) {code : Text} (hm : ¬t.IsMapped code) :
    t.rename (Code.recase code) = code ↔
      Code.recase code = code ∨ t.replacement? (Code.recase code) = some code := by
  constructor
  · intro hr
    rw [rename_eq] at hr
    cases hc : t.replacement? (Code.recase code) with
    | none =>
      rw [hc, Option.getD_none] at hr
      exact .inl hr
    | some target =>
      rw [hc, Option.getD_some] at hr
      rw [hr]
      exact .inr rfl
  · rintro (hr | hr)
    · rw [hr, rename_of_not_isMapped h hm]
    · rw [rename_eq, hr, Option.getD_some]

/-- For accepted tables normalizing is idempotent at exactly those declarations whose corrected form
is not replaced, or replaced by a code that correction leaves alone or the tables restore. -/
theorem normalize_normalize_iff (t : Tables) (h : t.defect? = none) (raw : Text) :
    t.normalize (t.normalize raw) = t.normalize raw ↔
      ∀ target, Code.isValid (Code.correct raw) = true →
        t.replacement? (Code.correct raw) = some target →
        Code.recase target = target ∨ t.replacement? (Code.recase target) = some target := by
  have hs := defect?_eq_none_iff.mp h
  by_cases hv : Code.isValid (Code.correct raw) = true
  · have hn : t.normalize raw = t.rename (Code.correct raw) := if_pos hv
    rw [hn, normalize_of_isValid (isValid_rename hs hv)]
    rw [rename_recase_eq_self_iff hs (not_isMapped_rename hs _), rename_eq]
    cases hr : t.replacement? (Code.correct raw) with
    | none => simp [Code.recase_correct]
    | some target => simp [hv]
  · have hn : t.normalize raw = [] := if_neg hv
    rw [hn]
    simp only [hv, Bool.false_eq_true, false_implies, implies_true, iff_true]
    rfl

/-- A target in another letter case, to which the tables also map its own correction. -/
theorem normalize_normalize_iff_restored :
    let t : Tables := ⟨[⟨"zh-HK".toList, "ZH-tw".toList⟩, ⟨"zh-TW".toList, "ZH-tw".toList⟩], [], [], []⟩
    t.defect? = none ∧ t.normalize (t.normalize "zh_hk".toList) = t.normalize "zh_hk".toList := by
  intro t
  have h : t.defect? = none := by decide
  refine ⟨h, (normalize_normalize_iff t h _).mpr ?_⟩
  intro target _ hr
  have ht : t.replacement? (Code.correct "zh_hk".toList) = some "ZH-tw".toList := by decide
  rw [ht] at hr
  cases hr
  exact .inr (by decide)

/-- A target in another letter case that nothing restores: the check of the tables lets it pass. -/
theorem normalize_ne_of_target_case :
    ¬∀ (t : Tables), t.defect? = none → ∀ raw, t.normalize (t.normalize raw) = t.normalize raw := by
  intro h
  have hn := h ⟨[⟨"zh-HK".toList, "ZH-tw".toList⟩], [], [], []⟩ (by decide) "zh-HK".toList
  exact absurd hn (by decide)

end BrowserTab.Language.Tables
