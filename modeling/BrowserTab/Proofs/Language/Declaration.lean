import BrowserTab.Proofs.Language.Normalization

/-!
# Declared languages

Which declarations denote a language code, and which code, is said here by a grammar that knows
nothing of the steps in which a declaration is corrected. What a declaration is corrected to counts
as a code exactly if the grammar gives it to the first entry of the declaration.
-/

namespace BrowserTab.Language

namespace Code

/-- Whether a text without space at its ends is all that stands before the first comma, space aside. -/
def IsFirstEntry (raw e : Text) : Prop :=
  ',' ∉ e ∧ Text.IsTrimmed Text.isSpace e ∧ ∃ a b rest, raw = a ++ e ++ b ++ rest ∧
    (∀ c ∈ a, Text.isSpace c = true) ∧ (∀ c ∈ b, Text.isSpace c = true) ∧ ∀ c ∈ rest.head?, c = ','

lemma comma_notMem_of_isSpace {a : Text} (h : ∀ c ∈ a, Text.isSpace c = true) : ',' ∉ a := by
  intro hc
  exact absurd (h ',' hc) (by decide)

lemma cut_eq_iff {raw u : Text} :
    raw.takeWhile (· ≠ ',') = u ↔ ',' ∉ u ∧ ∃ rest, raw = u ++ rest ∧ ∀ c ∈ rest.head?, c = ',' := by
  rw [Text.takeWhile_eq_iff]
  apply and_congr
  · constructor
    · intro h hc
      simpa using h ',' hc
    · intro h c hc
      simp only [decide_eq_true_eq]
      rintro rfl
      exact h hc
  · simp

lemma firstEntry_eq_iff {raw e : Text} : firstEntry raw = e ↔ IsFirstEntry raw e := by
  rw [firstEntry, Text.trim_eq_iff]
  constructor
  · rintro ⟨he, a, b, hcut, ha, hb⟩
    obtain ⟨hne, rest, hraw, hrest⟩ := cut_eq_iff.mp hcut
    simp only [List.mem_append, not_or] at hne
    exact ⟨hne.1.2, he, a, b, rest, hraw, ha, hb, hrest⟩
  · rintro ⟨hne, he, a, b, rest, hraw, ha, hb, hrest⟩
    refine ⟨he, a, b, cut_eq_iff.mpr ⟨?_, rest, hraw, hrest⟩, ha, hb⟩
    simp only [List.mem_append, not_or]
    exact ⟨⟨comma_notMem_of_isSpace ha, hne⟩, comma_notMem_of_isSpace hb⟩

/-! ### What an entry denotes -/

/-- What may follow a primary tag: nothing, or a hyphen or an underscore and a region. -/
inductive DenotesRegion : Text → Text → Prop where
  | none : DenotesRegion [] []
  | letters {s a b : Char} (hs : s = '-' ∨ s = '_') (ha : a.isAlpha = true) (hb : b.isAlpha = true) :
      DenotesRegion [s, a, b] ['-', a.toUpper, b.toUpper]

/-- The entries that denote a code, and the code: a primary tag of one to three letters with or
without a region. -/
inductive Denotes : Text → Text → Prop where
  | code {p r s : Text} (hlen : 1 ≤ p.length ∧ p.length ≤ 3) (hp : ∀ c ∈ p, c.isAlpha = true)
      (hr : DenotesRegion r s) : Denotes (p ++ r) (Text.lower p ++ s)

lemma hyphenate_append {p : Text} (hp : '_' ∉ p) (r : Text) :
    hyphenate (p ++ r) = p ++ hyphenate r := by
  induction p with
  | nil => rfl
  | cons c p ih =>
    rw [List.mem_cons, not_or] at hp
    rw [List.cons_append, hyphenate, if_neg (Ne.symm hp.1), ih hp.2, List.cons_append]

lemma hyphenate_of_hyphen_notMem {t : Text} (h : '-' ∉ hyphenate t) : hyphenate t = t := by
  apply hyphenate_eq_self
  intro hu
  obtain ⟨p, r, rfl, hp⟩ := List.eq_append_cons_of_mem hu
  apply h
  rw [hyphenate_append hp]
  exact List.mem_append_right _ (List.mem_cons_self ..)

/-- Only the tail is touched when the first underscore is mended, for the tail begins there unless
it begins before. -/
lemma exists_tail_hyphenate (e : Text) :
    ∃ t, main (hyphenate e) ++ t = e ∧ hyphenate t = tail (hyphenate e) := by
  induction e with
  | nil => exact ⟨[], rfl, rfl⟩
  | cons c e ih =>
    by_cases hu : c = '_'
    · subst hu
      exact ⟨'_' :: e, rfl, rfl⟩
    · rw [hyphenate, if_neg hu]
      by_cases hd : c = '-'
      · subst hd
        exact ⟨'-' :: e, rfl, rfl⟩
      · obtain ⟨t, ht, hh⟩ := ih
        have hm : main (c :: hyphenate e) = c :: main (hyphenate e) :=
          List.takeWhile_cons_of_pos (by simpa using hd)
        have hr : tail (c :: hyphenate e) = tail (hyphenate e) :=
          List.dropWhile_cons_of_pos (by simpa using hd)
        rw [hm, hr]
        exact ⟨t, by rw [List.cons_append, ht], hh⟩

lemma denotesRegion_iff {r s : Text} :
    DenotesRegion r s ↔ s = Text.upper (hyphenate r) ∧ isRegion (hyphenate r) = true := by
  constructor
  · intro h
    cases h with
    | none => exact ⟨rfl, rfl⟩
    | @letters x a b hx ha hb =>
      have hab : ∀ c ∈ [a, b], c.isAlpha = true := by simp [ha, hb]
      have hh : hyphenate [x, a, b] = ['-', a, b] := by
        rcases hx with rfl | rfl
        · rw [hyphenate, hyphenate_eq_self (Text.notMem_of_isAlpha hab rfl)]
          rfl
        · rfl
      rw [hh]
      exact ⟨rfl, isRegion_iff.mpr (.inr ⟨a, b, rfl, ha, hb⟩)⟩
  · rintro ⟨rfl, hr⟩
    rcases isRegion_iff.mp hr with ht | ⟨a, b, ht, ha, hb⟩
    · have he : hyphenate r = r := hyphenate_of_hyphen_notMem (by simp [ht])
      rw [ht, ← he, ht]
      exact .none
    · rw [ht]
      cases r with
      | nil => cases ht
      | cons x r =>
        have hab : ∀ c ∈ [a, b], c.isAlpha = true := by simp [ha, hb]
        rw [hyphenate] at ht
        split at ht
        · rename_i hx
          -- The first underscore is the separator, so what is behind it was left alone.
          cases ht
          exact .letters (.inr hx) ha hb
        · obtain ⟨hx, hr⟩ := List.cons_eq_cons.mp ht
          have he : hyphenate r = r := by
            apply hyphenate_of_hyphen_notMem
            rw [hr]
            exact Text.notMem_of_isAlpha hab rfl
          rw [← he, hr]
          exact .letters (.inl hx) ha hb

/-- The grammar gives an entry the code that mending its letter case and its first underscore makes
of it, provided that this is a code. -/
lemma denotes_iff {e c : Text} :
    Denotes e c ↔ c = recase (hyphenate e) ∧ isValid (hyphenate e) = true := by
  constructor
  · intro h
    cases h with
    | @code p r s hlen hp hr =>
      obtain ⟨rfl, hv⟩ := denotesRegion_iff.mp hr
      have hm := isPrimary_iff.mpr ⟨hlen, hp⟩
      have hd := hyphen_notMem_of_isPrimary hm
      rw [hyphenate_append (Text.notMem_of_isAlpha hp rfl), recase,
        main_append hd (isTail_of_isRegion hv), tail_append hd (isTail_of_isRegion hv)]
      exact ⟨rfl, isValid_append hm hv⟩
  · rintro ⟨rfl, hv⟩
    obtain ⟨hm, hr⟩ := isValid_iff.mp hv
    obtain ⟨hlen, hp⟩ := isPrimary_iff.mp hm
    obtain ⟨t, ht, hh⟩ := exists_tail_hyphenate e
    rw [← hh] at hr
    have h := Denotes.code hlen hp (denotesRegion_iff.mpr ⟨rfl, hr⟩)
    rw [ht, hh] at h
    exact h

/-- What of a character matters: neither its letter case nor whether it is a hyphen or an
underscore. -/
def fold (c : Char) : Char :=
  if c = '_' then '-' else c.toLower

lemma isAlpha_fold (c : Char) : (fold c).isAlpha = c.isAlpha := by
  unfold fold
  split <;> rename_i h
  · rw [h]
    rfl
  · exact Char.isAlpha_toLower_eq_isAlpha c

lemma fold_of_isAlpha {c : Char} (h : c.isAlpha = true) : fold c = c.toLower := by
  refine if_neg ?_
  rintro rfl
  exact absurd h (by decide)

lemma toUpper_fold {c : Char} (h : c.isAlpha = true) : (fold c).toUpper = c.toUpper := by
  rw [fold_of_isAlpha h, Char.toUpper_toLower_eq_toUpper]

lemma isAlpha_of_fold_eq {c d : Char} (h : fold d = fold c) (hc : c.isAlpha = true) :
    d.isAlpha = true := by
  rw [← isAlpha_fold, h, isAlpha_fold, hc]

lemma fold_eq_hyphen_iff {c : Char} : fold c = '-' ↔ c = '-' ∨ c = '_' := by
  unfold fold
  split <;> rename_i h
  · simp [h]
  · simp [h, Text.toLower_eq_iff]

lemma isAlpha_of_map_fold {p q : Text} (h : q.map fold = p.map fold)
    (hp : ∀ c ∈ p, c.isAlpha = true) : ∀ c ∈ q, c.isAlpha = true := by
  intro c hc
  have hf : fold c ∈ p.map fold := h ▸ List.mem_map_of_mem hc
  obtain ⟨d, hd, he⟩ := List.mem_map.mp hf
  exact isAlpha_of_fold_eq he.symm (hp d hd)

lemma map_fold_of_isAlpha {p : Text} (hp : ∀ c ∈ p, c.isAlpha = true) :
    p.map fold = Text.lower p :=
  List.map_congr_left fun c hc => fold_of_isAlpha (hp c hc)

lemma DenotesRegion.congr {r r' s : Text} (h : DenotesRegion r s)
    (he : r'.map fold = r.map fold) : DenotesRegion r' s := by
  cases h with
  | none =>
    rw [List.map_eq_nil_iff.mp he]
    exact .none
  | @letters x a b hx ha hb =>
    simp only [List.map_cons, List.map_nil, List.map_eq_cons_iff, List.map_eq_nil_iff] at he
    obtain ⟨x', _, rfl, hx', a', _, rfl, ha', b', _, rfl, hb', rfl⟩ := he
    rw [fold_eq_hyphen_iff.mpr hx, fold_eq_hyphen_iff] at hx'
    have hac := isAlpha_of_fold_eq ha' ha
    have hbc := isAlpha_of_fold_eq hb' hb
    rw [← toUpper_fold ha, ← ha', toUpper_fold hac, ← toUpper_fold hb, ← hb', toUpper_fold hbc]
    exact .letters hx' hac hbc

lemma Denotes.congr {e e' c : Text} (h : Denotes e c) (he : e'.map fold = e.map fold) :
    Denotes e' c := by
  cases h with
  | @code p r s hlen hp hr =>
    rw [List.map_append, List.map_eq_append_iff] at he
    obtain ⟨q, t, rfl, hq, ht⟩ := he
    have ha := isAlpha_of_map_fold hq hp
    have hl : q.length = p.length := by simpa using congrArg List.length hq
    rw [map_fold_of_isAlpha ha, map_fold_of_isAlpha hp] at hq
    rw [← hq]
    exact .code (by rwa [hl]) ha (hr.congr ht)

end Code

namespace Tables

variable {t : Tables} {raw c : Text}

lemma normalize_of_denotes (hd : Code.Denotes (Code.firstEntry raw) c) :
    t.normalize raw = t.rename c := by
  obtain ⟨rfl, hv⟩ := Code.denotes_iff.mp hd
  rw [normalize, Code.correct, Code.isValid_recase, if_pos hv]

lemma normalize_of_not_denotes (h : ¬∃ c, Code.Denotes (Code.firstEntry raw) c) :
    t.normalize raw = [] := by
  rw [normalize, Code.correct, Code.isValid_recase]
  refine if_neg ?_
  intro hv
  exact h ⟨_, Code.denotes_iff.mpr ⟨rfl, hv⟩⟩

lemma isValid_normalize (h : t.Sound) (hd : Code.Denotes (Code.firstEntry raw) c) :
    Code.isValid (t.normalize raw) = true := by
  rw [normalize_of_denotes hd]
  obtain ⟨rfl, hv⟩ := Code.denotes_iff.mp hd
  exact isValid_rename h (by rwa [Code.isValid_recase])

lemma normalize_ne_nil_iff (h : t.Sound) :
    t.normalize raw ≠ [] ↔ ∃ c, Code.Denotes (Code.firstEntry raw) c := by
  constructor
  · intro hn
    by_contra hd
    exact hn (normalize_of_not_denotes hd)
  · rintro ⟨c, hd⟩ hn
    have hv := isValid_normalize h hd
    rw [hn] at hv
    exact absurd hv (by decide)

lemma normalize_congr {raw' : Text}
    (hf : (Code.firstEntry raw').map Code.fold = (Code.firstEntry raw).map Code.fold) :
    t.normalize raw' = t.normalize raw := by
  by_cases hd : ∃ c, Code.Denotes (Code.firstEntry raw) c
  · obtain ⟨c, hd⟩ := hd
    rw [normalize_of_denotes hd, normalize_of_denotes (hd.congr hf)]
  · have hd' : ¬∃ c, Code.Denotes (Code.firstEntry raw') c := by
      rintro ⟨c, hc⟩
      exact hd ⟨c, hc.congr hf.symm⟩
    rw [normalize_of_not_denotes hd, normalize_of_not_denotes hd']

/-- Accepted tables normalize a declaration to something exactly if its first entry denotes a code,
and then to the well-formed code under which they know that one. So neither the letter case nor the
separator of the entry matters, nor the space around it, nor the entries behind it. -/
theorem normalize_ne_nil_iff_denotes (t : Tables) (h : t.defect? = none) (raw : Text) :
    ∃ e, Code.IsFirstEntry raw e ∧
      (t.normalize raw ≠ [] ↔ ∃ c, Code.Denotes e c) ∧
      (∀ c, Code.Denotes e c →
        t.normalize raw = t.rename c ∧ Code.isValid (t.normalize raw) = true) ∧
      ∀ raw' e', Code.IsFirstEntry raw' e' → e'.map Code.fold = e.map Code.fold →
        t.normalize raw' = t.normalize raw := by
  have hs := defect?_eq_none_iff.mp h
  refine ⟨Code.firstEntry raw, Code.firstEntry_eq_iff.mp rfl, normalize_ne_nil_iff hs, ?_, ?_⟩
  · intro c hd
    exact ⟨normalize_of_denotes hd, isValid_normalize hs hd⟩
  · intro raw' e' he' hf
    apply normalize_congr
    rwa [Code.firstEntry_eq_iff.mpr he']

/-- A declaration with space, an underscore, odd letter case and a second entry, whose primary tag
is known under another name. -/
theorem normalize_ne_nil_iff_denotes_synonym :
    standard.defect? = none ∧ standard.normalize "\t NB_no , en".toList = "no-NO".toList ∧
      standard.normalize "nb-NO".toList = "no-NO".toList := by
  obtain ⟨e, he, -, hv, hf⟩ :=
    normalize_ne_nil_iff_denotes standard defect?_standard "\t NB_no , en".toList
  have hfirst : e = ['N', 'B', '_', 'n', 'o'] := by
    rw [← Code.firstEntry_eq_iff.mpr he]
    decide
  subst hfirst
  have hn : standard.normalize "\t NB_no , en".toList = "no-NO".toList := by
    rw [(hv ['n', 'b', '-', 'N', 'O'] ?_).1]
    · decide
    · exact .code (p := ['N', 'B']) (by decide) (by simp) (.letters (.inr rfl) rfl rfl)
  refine ⟨defect?_standard, hn, ?_⟩
  rw [← hn]
  exact hf _ _ (Code.firstEntry_eq_iff.mp rfl) (by decide)

end Tables

end BrowserTab.Language
