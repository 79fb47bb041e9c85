import BrowserTab.Language.Code
import BrowserTab.Proofs.Text.Scanning

/-!
# Codes and their correction

A code is a part without hyphens followed by a tail, and correction changes letter case only on
codes that are well-formed already. Correcting twice is correcting once.
-/

namespace BrowserTab.Language.Code

/-- A text that may follow a primary tag: it is empty or begins with a hyphen. -/
def IsTail (t : Text) : Prop :=
  ∀ c ∈ t.head?, c = '-'

lemma isTail_tail (code : Text) : IsTail (tail code) := by
  intro c hc
  simpa using Text.head?_dropWhile code c hc

lemma hyphen_notMem_main (code : Text) : '-' ∉ main code := by
  intro h
  simpa using List.mem_takeWhile_imp h

lemma main_append {a b : Text} (ha : '-' ∉ a) (hb : IsTail b) : main (a ++ b) = a := by
  refine Text.takeWhile_append_stop ?_ ?_
  · intro c hc
    simp only [decide_eq_true_eq]
    rintro rfl
    exact ha hc
  · intro c hc
    simp [hb c hc]

lemma tail_append {a b : Text} (ha : '-' ∉ a) (hb : IsTail b) : tail (a ++ b) = b := by
  have h := main_append_tail (a ++ b)
  rw [main_append ha hb] at h
  exact List.append_cancel_left h

lemma main_of_notMem {a : Text} (ha : '-' ∉ a) : main a = a := by
  have h := main_append ha (b := []) (by simp [IsTail])
  rwa [List.append_nil] at h

lemma lower_lower (t : Text) : Text.lower (Text.lower t) = Text.lower t := by
  simp [Text.lower]

lemma upper_upper (t : Text) : Text.upper (Text.upper t) = Text.upper t := by
  simp [Text.upper]

lemma hyphen_mem_lower {t : Text} : '-' ∈ Text.lower t ↔ '-' ∈ t :=
  Text.mem_lower rfl

lemma IsTail.map {f : Char → Char} (hf : f '-' = '-') {t : Text} (h : IsTail t) : IsTail (t.map f) := by
  intro d hd
  rw [List.head?_map] at hd
  obtain ⟨c, hc, rfl⟩ := Option.mem_map.mp hd
  rw [h c hc, hf]

lemma main_recase (code : Text) : main (recase code) = Text.lower (main code) :=
  main_append (fun h => hyphen_notMem_main code (hyphen_mem_lower.mp h)) ((isTail_tail code).map rfl)

lemma tail_recase (code : Text) : tail (recase code) = Text.upper (tail code) :=
  tail_append (fun h => hyphen_notMem_main code (hyphen_mem_lower.mp h)) ((isTail_tail code).map rfl)

lemma recase_recase (code : Text) : recase (recase code) = recase code := by
  rw [recase, main_recase, tail_recase, lower_lower, upper_upper, ← recase]

lemma recase_correct (raw : Text) : recase (correct raw) = correct raw :=
  recase_recase _

lemma isPrimary_iff {t : Text} :
    isPrimary t = true ↔ (1 ≤ t.length ∧ t.length ≤ 3) ∧ ∀ c ∈ t, c.isAlpha = true := by
  simp [isPrimary]

lemma hyphen_notMem_of_isPrimary {t : Text} (h : isPrimary t = true) : '-' ∉ t := by
  exact Text.notMem_of_isAlpha (isPrimary_iff.mp h).2 rfl

lemma isRegion_iff {t : Text} :
    isRegion t = true ↔ t = [] ∨ ∃ a b, t = ['-', a, b] ∧ a.isAlpha = true ∧ b.isAlpha = true := by
  unfold isRegion
  split
  · simp
  · simp
  · rename_i hne h
    constructor
    · simp
    · rintro (rfl | ⟨a, b, rfl, -, -⟩)
      · exact absurd rfl hne
      · exact absurd rfl (h a b)

lemma isTail_of_isRegion {t : Text} (h : isRegion t = true) : IsTail t := by
  rcases isRegion_iff.mp h with rfl | ⟨a, b, rfl, -, -⟩ <;> simp [IsTail]

lemma isValid_iff {code : Text} :
    isValid code = true ↔ isPrimary (main code) = true ∧ isRegion (tail code) = true := by
  rw [isValid, Bool.and_eq_true]

lemma isValid_append {a b : Text} (ha : isPrimary a = true) (hb : isRegion b = true) :
    isValid (a ++ b) = true := by
  have h := hyphen_notMem_of_isPrimary ha
  rw [isValid_iff, main_append h (isTail_of_isRegion hb), tail_append h (isTail_of_isRegion hb)]
  exact ⟨ha, hb⟩

lemma isPrimary_lower (t : Text) : isPrimary (Text.lower t) = isPrimary t := by
  simp [isPrimary, Text.lower, Function.comp_def]

lemma isRegion_upper (t : Text) : isRegion (Text.upper t) = isRegion t := by
  rw [Bool.eq_iff_iff, isRegion_iff, isRegion_iff]
  constructor
  · rintro (ht | ⟨a, b, ht, ha, hb⟩)
    · exact .inl (List.map_eq_nil_iff.mp ht)
    · simp only [Text.upper, List.map_eq_cons_iff, List.map_eq_nil_iff] at ht
      obtain ⟨s, _, rfl, hs, c, _, rfl, rfl, d, _, rfl, rfl, rfl⟩ := ht
      rw [Text.toUpper_eq_iff rfl] at hs
      rw [Char.isAlpha_toUpper_eq_isAlpha] at ha hb
      exact .inr ⟨c, d, by rw [hs], ha, hb⟩
  · rintro (rfl | ⟨a, b, rfl, ha, hb⟩)
    · exact .inl rfl
    · refine .inr ⟨a.toUpper, b.toUpper, rfl, ?_, ?_⟩
      · rwa [Char.isAlpha_toUpper_eq_isAlpha]
      · rwa [Char.isAlpha_toUpper_eq_isAlpha]

lemma isValid_recase (code : Text) : isValid (recase code) = isValid code := by
  rw [isValid, isValid, main_recase, tail_recase, isPrimary_lower, isRegion_upper]

lemma isAlpha_or_eq_hyphen {code : Text} (h : isValid code = true) {c : Char} (hc : c ∈ code) :
    c.isAlpha = true ∨ c = '-' := by
  obtain ⟨hp, hr⟩ := isValid_iff.mp h
  rw [← main_append_tail code, List.mem_append] at hc
  rcases hc with hc | hc
  · exact .inl ((isPrimary_iff.mp hp).2 c hc)
  · rcases isRegion_iff.mp hr with ht | ⟨a, b, ht, ha, hb⟩
    · simp [ht] at hc
    · rw [ht] at hc
      simp only [List.mem_cons, List.not_mem_nil, or_false] at hc
      rcases hc with rfl | rfl | rfl
      · exact .inr rfl
      · exact .inl ha
      · exact .inl hb

lemma hyphenate_eq_self {t : Text} (h : '_' ∉ t) : hyphenate t = t := by
  induction t with
  | nil => rfl
  | cons c r ih =>
    rw [List.mem_cons, not_or] at h
    rw [hyphenate, if_neg (Ne.symm h.1), ih h.2]

lemma correct_of_isValid {code : Text} (h : isValid code = true) : correct code = recase code := by
  have hne : ∀ d, d.isAlpha = false → d ≠ '-' → d ∉ code := by
    intro d hd hh hm
    rcases isAlpha_or_eq_hyphen h hm with ha | rfl
    · rw [ha] at hd
      exact absurd hd (by decide)
    · exact hh rfl
  have hcut : code.takeWhile (· ≠ ',') = code := by
    refine List.takeWhile_eq_self_iff.mpr fun c hc => ?_
    simp only [decide_eq_true_eq]
    rintro rfl
    exact hne ',' (by decide) (by decide) hc
  have hspace : ∀ c ∈ code, Text.isSpace c = false := by
    intro c hc
    by_contra hs
    simp only [Text.isSpace, Bool.not_eq_false, Bool.or_eq_true, decide_eq_true_eq] at hs
    rcases hs with (((rfl | rfl) | rfl) | rfl) | rfl <;>
      exact hne _ (by decide) (by decide) hc
  rw [correct, firstEntry, hcut, Text.trim_eq_self hspace,
    hyphenate_eq_self (hne '_' (by decide) (by decide))]

end BrowserTab.Language.Code
