import BrowserTab.Proofs.Language.Declaration
import BrowserTab.Proofs.Text.LetterCase

/-!
# Corrected declarations

What a declaration is corrected to is settled by three things: its first entry, the first underscore in that and
the letter case on both sides of the first hyphen. The hyphen may be the underscore that was mended. A second
correction finds the commas, the space and the letter case in order, and mends the next underscore.
-/

namespace BrowserTab.Language.Code

variable {e code m t : Text} {p : Char → Bool}

/-- What the first underscore of a text becomes, if it has one. -/
inductive Hyphenated : Text → Text → Prop where
  | clean {e : Text} (h : '_' ∉ e) : Hyphenated e e
  | mended {a b : Text} (h : '_' ∉ a) : Hyphenated (a ++ '_' :: b) (a ++ '-' :: b)

/-- A code that differs from an entry in letter case and the first underscore only, and has its letter
case in order. -/
structure IsCorrection (e code : Text) : Prop where
  main_not_isUpper : ∀ c ∈ main code, c.isUpper = false
  tail_not_isLower : ∀ c ∈ tail code, c.isLower = false
  exists_hyphenated : ∃ m, Hyphenated e m ∧ Text.lower code = Text.lower m

lemma hyphenated_iff : Hyphenated e m ↔ m = hyphenate e := by
  constructor
  · intro h
    cases h with
    | clean h => exact (hyphenate_eq_self h).symm
    | mended h => rw [hyphenate_append h, hyphenate, if_pos rfl]
  · rintro rfl
    by_cases h : '_' ∈ e
    · obtain ⟨a, b, rfl, ha⟩ := List.eq_append_cons_of_mem h
      rw [hyphenate_append ha, hyphenate, if_pos rfl]
      exact .mended ha
    · rw [hyphenate_eq_self h]
      exact .clean h

lemma recase_eq_self_iff : recase code = code ↔
    (∀ c ∈ main code, c.isUpper = false) ∧ ∀ c ∈ tail code, c.isLower = false := by
  rw [← Text.lower_eq_self_iff, ← Text.upper_eq_self_iff]
  constructor
  · intro h
    rw [← main_recase, ← tail_recase, h]
    exact ⟨rfl, rfl⟩
  · rintro ⟨hm, ht⟩
    rw [recase, hm, ht, main_append_tail]

lemma lower_recase (t : Text) : Text.lower (recase t) = Text.lower t := by
  rw [recase, Text.lower_append, lower_lower, Text.lower_upper, ← Text.lower_append, main_append_tail]

lemma recase_lower (t : Text) : recase (Text.lower t) = recase t := by
  have hm : '-' ∉ Text.lower (main t) := fun h => hyphen_notMem_main t (hyphen_mem_lower.mp h)
  have ht : IsTail (Text.lower (tail t)) := (isTail_tail t).map rfl
  calc
    recase (Text.lower t) = recase (Text.lower (main t) ++ Text.lower (tail t)) := by
      rw [← Text.lower_append, main_append_tail]
    _ = Text.lower (Text.lower (main t)) ++ Text.upper (Text.lower (tail t)) := by
      rw [recase, main_append hm ht, tail_append hm ht]
    _ = recase t := by rw [lower_lower, Text.upper_lower, recase]

lemma isCorrection_iff : IsCorrection e code ↔ recase (hyphenate e) = code := by
  constructor
  · intro h
    obtain ⟨m, hm, hcode⟩ := h.exists_hyphenated
    have hcase := recase_eq_self_iff.mpr ⟨h.main_not_isUpper, h.tail_not_isLower⟩
    calc
      recase (hyphenate e) = recase m := by rw [hyphenated_iff.mp hm]
      _ = recase code := by rw [← recase_lower m, ← hcode, recase_lower]
      _ = code := hcase
  · rintro rfl
    obtain ⟨hmain, htail⟩ := recase_eq_self_iff.mp (recase_recase (hyphenate e))
    exact ⟨hmain, htail, hyphenate e, hyphenated_iff.mpr rfl, lower_recase _⟩

lemma map_recase (hp : Text.Unlettered p) (t : Text) : (recase t).map p = t.map p := by
  rw [recase, List.map_append, Text.map_lower hp, Text.map_upper hp, ← List.map_append,
    main_append_tail]

lemma map_hyphenate (hp : p '-' = p '_') (t : Text) : (hyphenate t).map p = t.map p := by
  induction t with
  | nil => rfl
  | cons c t ih =>
    rw [hyphenate]
    split
    · rename_i hc
      rw [hc, List.map_cons, List.map_cons, hp]
    · rw [List.map_cons, List.map_cons, ih]

lemma map_correct (hp : Text.Unlettered p) (hs : p '-' = p '_') (raw : Text) :
    (correct raw).map p = (firstEntry raw).map p := by
  rw [correct, map_recase hp, map_hyphenate hs]

lemma count_hyphenate (t : Text) : (hyphenate t).count '_' = t.count '_' - 1 := by
  induction t with
  | nil => rfl
  | cons c t ih =>
    rw [hyphenate]
    split
    · rename_i hc
      rw [hc, List.count_cons_self, List.count_cons_of_ne (by decide), Nat.add_sub_cancel]
    · rename_i hc
      rw [List.count_cons_of_ne hc, List.count_cons_of_ne hc, ih]

lemma count_correct (raw : Text) : (correct raw).count '_' = (firstEntry raw).count '_' - 1 := by
  rw [correct, Text.count_of_map_eq (map_recase (Text.unlettered_eq rfl) _), count_hyphenate]

lemma firstEntry_eq_self_iff :
    firstEntry t = t ↔ ',' ∉ t ∧ Text.IsTrimmed Text.isSpace t := by
  rw [firstEntry_eq_iff]
  constructor
  · rintro ⟨hcomma, htrim, -⟩
    exact ⟨hcomma, htrim⟩
  · rintro ⟨hcomma, htrim⟩
    exact ⟨hcomma, htrim, [], [], [], by simp, by simp, by simp, by simp⟩

lemma comma_notMem_correct (raw : Text) : ',' ∉ correct raw := by
  have hcount : (correct raw).count ',' = (firstEntry raw).count ',' :=
    Text.count_of_map_eq (map_correct (Text.unlettered_eq rfl) rfl raw)
  rw [← List.count_eq_zero, hcount, List.count_eq_zero]
  exact (firstEntry_eq_iff.mp rfl).1

lemma isTrimmed_correct (raw : Text) : Text.IsTrimmed Text.isSpace (correct raw) := by
  have htrim : Text.IsTrimmed Text.isSpace (firstEntry raw) := (firstEntry_eq_iff.mp rfl).2.1
  exact htrim.of_map_eq (map_correct Text.unlettered_isSpace rfl raw)

lemma firstEntry_correct (raw : Text) : firstEntry (correct raw) = correct raw :=
  firstEntry_eq_self_iff.mpr ⟨comma_notMem_correct raw, isTrimmed_correct raw⟩

lemma correct_eq_self_iff :
    correct t = t ↔ firstEntry t = t ∧ '_' ∉ t ∧ recase t = t := by
  constructor
  · intro h
    have hentry : firstEntry t = t := by
      rw [← h]
      exact firstEntry_correct t
    have hcount := count_correct t
    rw [h, hentry] at hcount
    have hcase := recase_correct t
    rw [h] at hcase
    exact ⟨hentry, List.count_eq_zero.mp (by omega), hcase⟩
  · rintro ⟨hentry, hclean, hcase⟩
    rw [correct, hentry, hyphenate_eq_self hclean, hcase]

/-- A declaration is corrected to the one code that differs from its first entry in letter case and the
first underscore only, and has its letter case in order. There is neither a comma in it nor space around it,
and correcting it again changes nothing exactly if the entry has no second underscore. -/
theorem correct_correct_iff (raw : Text) :
    ',' ∉ correct raw ∧ Text.IsTrimmed Text.isSpace (correct raw) ∧
      ∃ e, IsFirstEntry raw e ∧ (∀ code, correct raw = code ↔ IsCorrection e code) ∧
        (correct (correct raw) = correct raw ↔ e.count '_' ≤ 1) := by
  refine ⟨comma_notMem_correct raw, isTrimmed_correct raw, firstEntry raw, firstEntry_eq_iff.mp rfl, ?_, ?_⟩
  · intro code
    exact isCorrection_iff.symm
  · rw [correct_eq_self_iff, ← List.count_eq_zero, count_correct]
    constructor
    · rintro ⟨-, hcount, -⟩
      omega
    · intro hcount
      exact ⟨firstEntry_correct raw, by omega, recase_correct raw⟩

/-- The first underscore of three is mended, and the second the next time. -/
example : correct " en_us_x_y, de".toList = "en-US_X_Y".toList ∧
    correct "en-US_X_Y".toList = "en-US-X_Y".toList := by
  decide

end BrowserTab.Language.Code
