import BrowserTab.Proofs.Text.Scanning

/-!
# Letter case

Which texts a change of letter case leaves alone, and what it leaves in place in all of them: the characters of
every class without letters.
-/

namespace BrowserTab.Text

variable {t u : Text} {p : Char → Bool}

lemma toLower_eq_self_iff {c : Char} : c.toLower = c ↔ c.isUpper = false := by
  constructor
  · intro h
    rw [← h]
    exact Char.isUpper_toLower_eq_false c
  · intro h
    exact Char.toLower_eq_of_not_isUpper (Bool.eq_false_iff.mp h)

lemma toUpper_eq_self_iff {c : Char} : c.toUpper = c ↔ c.isLower = false := by
  constructor
  · intro h
    rw [← h]
    exact Char.isLower_toUpper_eq_false c
  · intro h
    exact Char.toUpper_eq_of_not_isLower (Bool.eq_false_iff.mp h)

lemma lower_eq_self_iff : lower t = t ↔ ∀ c ∈ t, c.isUpper = false := by
  calc
    lower t = t ↔ t.map Char.toLower = t.map id := by rw [lower, List.map_id]
    _ ↔ ∀ c ∈ t, c.toLower = c := List.map_inj_left
    _ ↔ ∀ c ∈ t, c.isUpper = false := forall₂_congr fun _ _ => toLower_eq_self_iff

lemma upper_eq_self_iff : upper t = t ↔ ∀ c ∈ t, c.isLower = false := by
  calc
    upper t = t ↔ t.map Char.toUpper = t.map id := by rw [upper, List.map_id]
    _ ↔ ∀ c ∈ t, c.toUpper = c := List.map_inj_left
    _ ↔ ∀ c ∈ t, c.isLower = false := forall₂_congr fun _ _ => toUpper_eq_self_iff

lemma lower_upper (t : Text) : lower (upper t) = lower t := by
  simp [lower, upper]

lemma upper_lower (t : Text) : upper (lower t) = upper t := by
  simp [lower, upper]

/-- Whether a class of characters holds no letter, so that letter case does not matter for it. -/
def Unlettered (p : Char → Bool) : Prop :=
  ∀ c, c.isAlpha = true → p c = false

lemma unlettered_isSpace : Unlettered isSpace := by
  intro c hc
  by_contra hs
  have hb := isBlank_of_isSpace (Bool.eq_true_of_not_eq_false hs)
  rw [isBlank_eq_false_of_isAlpha hc] at hb
  exact absurd hb (by decide)

lemma unlettered_eq {d : Char} (hd : d.isAlpha = false) : Unlettered (· == d) := by
  intro c hc
  apply beq_false_of_ne
  rintro rfl
  rw [hd] at hc
  exact absurd hc (by decide)

lemma map_lower (hp : Unlettered p) (t : Text) : (lower t).map p = t.map p := by
  rw [lower, List.map_map]
  apply List.map_congr_left
  intro c _
  rw [Function.comp_apply]
  by_cases hc : c.isAlpha = true
  · rw [hp c hc, hp c.toLower (by rwa [Char.isAlpha_toLower_eq_isAlpha])]
  · rw [(toLower_eq_iff (Bool.eq_false_iff.mpr hc)).mpr rfl]

lemma map_upper (hp : Unlettered p) (t : Text) : (upper t).map p = t.map p := by
  rw [← map_lower hp (upper t), lower_upper, map_lower hp]

lemma IsTrimmed.of_map_eq (ht : IsTrimmed p t) (h : u.map p = t.map p) : IsTrimmed p u := by
  have hends (v : Text) : IsTrimmed p v ↔
      (∀ b ∈ (v.map p).head?, b = false) ∧ ∀ b ∈ (v.map p).getLast?, b = false := by
    simp [IsTrimmed, List.head?_map, List.getLast?_map]
  rw [hends] at ht ⊢
  rwa [h]

lemma count_of_map_eq {c : Char} (h : u.map (· == c) = t.map (· == c)) : u.count c = t.count c := by
  have hcount (v : Text) : v.count c = (v.map (· == c)).count true := by
    rw [List.count, List.count, List.countP_map]
    congr 1
    funext d
    exact (beq_true _).symm
  rw [hcount, h, ← hcount]

end BrowserTab.Text
