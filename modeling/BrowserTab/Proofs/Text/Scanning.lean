import Mathlib
import BrowserTab.Text.Basic

/-!
# Scanning a text

How far a scan goes when the text is put together from two parts, what is left of a text that is
trimmed, and what a word that was matched without regard to letter case looks like.
-/

namespace BrowserTab.Text

section Scan

variable {p : Char → Bool} {a u : Text}

lemma takeWhile_append_stop (ha : ∀ c ∈ a, p c = true) (hu : ∀ c ∈ u.head?, p c = false) :
    (a ++ u).takeWhile p = a := by
  rw [List.takeWhile_append_of_pos ha]
  cases u with
  | nil => simp
  | cons c r => rw [List.takeWhile_cons_of_neg (by simp [hu c rfl]), List.append_nil]

lemma head?_dropWhile (t : Text) : ∀ c ∈ (t.dropWhile p).head?, p c = false := by
  intro c hc
  have h := List.head?_dropWhile_not p t
  rw [Option.mem_def.mp hc] at h
  exact h

lemma dropWhile_append_stop (ha : ∀ c ∈ a, p c = true) (hu : ∀ c ∈ u.head?, p c = false) :
    (a ++ u).dropWhile p = u := by
  have h := List.takeWhile_append_dropWhile (p := p) (l := a ++ u)
  rw [takeWhile_append_stop ha hu] at h
  exact List.append_cancel_left h

lemma takeWhile_eq_iff {t : Text} : t.takeWhile p = a ↔
    (∀ c ∈ a, p c = true) ∧ ∃ u, t = a ++ u ∧ ∀ c ∈ u.head?, p c = false := by
  constructor
  · rintro rfl
    refine ⟨fun c hc => List.mem_takeWhile_imp hc, t.dropWhile p, ?_, head?_dropWhile t⟩
    exact List.takeWhile_append_dropWhile.symm
  · rintro ⟨ha, u, rfl, hu⟩
    exact takeWhile_append_stop ha hu

lemma dropWhile_dropWhile {q : Char → Bool} (hpq : ∀ c, p c = true → q c = true) (t : Text) :
    (t.dropWhile p).dropWhile q = t.dropWhile q := by
  have ht := List.takeWhile_append_dropWhile (p := p) (l := t)
  have hq : ∀ c ∈ t.takeWhile p, q c = true := fun c hc => hpq c (List.mem_takeWhile_imp hc)
  calc
    (t.dropWhile p).dropWhile q = (t.takeWhile p ++ t.dropWhile p).dropWhile q := by
      rw [List.dropWhile_append_of_pos hq]
    _ = t.dropWhile q := by rw [ht]

end Scan

section Trim

variable {p : Char → Bool} {t u : Text}

/-- Whether a text neither begins nor ends with a character of the class `p`. -/
def IsTrimmed (p : Char → Bool) (t : Text) : Prop :=
  (∀ c ∈ t.head?, p c = false) ∧ ∀ c ∈ t.getLast?, p c = false

lemma trimEnd_eq_iff : trimEnd p t = u ↔
    (∀ c ∈ u.getLast?, p c = false) ∧ ∃ b, t = u ++ b ∧ ∀ c ∈ b, p c = true := by
  constructor
  · rintro rfl
    refine ⟨?_, t.rtakeWhile p, List.rdropWhile_append_rtakeWhile.symm, ?_⟩
    · rw [trimEnd, List.getLast?_reverse]
      exact head?_dropWhile _
    · exact fun c hc => List.mem_rtakeWhile_imp hc
  · rintro ⟨hu, b, rfl, hb⟩
    rw [trimEnd, List.reverse_append, dropWhile_append_stop, List.reverse_reverse]
    · exact fun c hc => hb c (List.mem_reverse.mp hc)
    · rwa [List.head?_reverse]

lemma trim_eq_iff : trim p t = u ↔ IsTrimmed p u ∧
    ∃ a b, t = a ++ u ++ b ∧ (∀ c ∈ a, p c = true) ∧ ∀ c ∈ b, p c = true := by
  rw [trim, trimEnd_eq_iff]
  constructor
  · rintro ⟨hl, b, hd, hb⟩
    refine ⟨⟨?_, hl⟩, t.takeWhile p, b, ?_, fun c hc => List.mem_takeWhile_imp hc, hb⟩
    · intro c hc
      apply head?_dropWhile t c
      rw [hd, Option.mem_def, List.head?_append, Option.mem_def.mp hc, Option.some_or]
    · rw [List.append_assoc, ← hd, List.takeWhile_append_dropWhile]
  · rintro ⟨⟨hh, hl⟩, a, b, rfl, ha, hb⟩
    refine ⟨hl, ?_⟩
    cases u with
    | nil =>
      -- Nothing is left, so the run in front reaches through the run behind.
      refine ⟨[], ?_, by simp⟩
      rw [List.append_nil, List.nil_append, List.dropWhile_eq_nil_iff]
      intro c hc
      rcases List.mem_append.mp hc with hc | hc
      · exact ha c hc
      · exact hb c hc
    | cons d u =>
      refine ⟨b, ?_, hb⟩
      rw [List.append_assoc, dropWhile_append_stop ha]
      exact hh

lemma trim_eq_self (h : ∀ c ∈ t, p c = false) : trim p t = t := by
  refine trim_eq_iff.mpr ⟨⟨?_, ?_⟩, [], [], by simp, by simp, by simp⟩
  · exact fun c hc => h c (List.mem_of_mem_head? hc)
  · exact fun c hc => h c (List.mem_of_mem_getLast? hc)

lemma trim_trim : trim p (trim p t) = trim p t :=
  trim_eq_iff.mpr ⟨(trim_eq_iff.mp rfl).1, [], [], by simp, by simp, by simp⟩

end Trim

lemma toLower_eq_iff {c d : Char} (hd : d.isAlpha = false) : c.toLower = d ↔ c = d := by
  constructor
  · intro h
    have ha : c.isAlpha = false := by
      rw [← Char.isAlpha_toLower_eq_isAlpha, h]
      exact hd
    have hu : ¬c.isUpper := by
      intro hu
      simp [Char.isAlpha, hu] at ha
    rwa [Char.toLower_eq_of_not_isUpper hu] at h
  · rintro rfl
    refine Char.toLower_eq_of_not_isUpper fun hu => ?_
    simp [Char.isAlpha, hu] at hd

lemma toUpper_eq_iff {c d : Char} (hd : d.isAlpha = false) : c.toUpper = d ↔ c = d := by
  have hu : d.toUpper = d := by
    refine Char.toUpper_eq_of_not_isLower fun hl => ?_
    simp [Char.isAlpha, hl] at hd
  constructor
  · intro h
    rw [← toLower_eq_iff hd, ← Char.toLower_toUpper_eq_toLower, h, toLower_eq_iff hd]
  · rintro rfl
    exact hu

lemma notMem_of_isAlpha {t : Text} (ht : ∀ c ∈ t, c.isAlpha = true) {d : Char}
    (hd : d.isAlpha = false) : d ∉ t := by
  intro h
  rw [ht d h] at hd
  exact absurd hd (by decide)

lemma lower_append (t u : Text) : lower (t ++ u) = lower t ++ lower u :=
  List.map_append

lemma mem_lower {c : Char} (hc : c.isAlpha = false) {t : Text} : c ∈ lower t ↔ c ∈ t := by
  simp [lower, toLower_eq_iff hc]

lemma after?_eq_some_iff {w t v : Text} :
    after? w t = some v ↔ ∃ x, t = x ++ v ∧ lower x = lower w := by
  fun_induction after? w t with
  | case1 t =>
    constructor
    · rintro ⟨⟩
      exact ⟨[], rfl, rfl⟩
    · rintro ⟨x, rfl, hx⟩
      rw [List.map_eq_nil_iff.mp hx, List.nil_append]
  | case2 a w =>
    constructor
    · rintro ⟨⟩
    · rintro ⟨x, ht, hx⟩
      obtain ⟨rfl, -⟩ := List.append_eq_nil_iff.mp ht.symm
      cases hx
  | case3 a w c t ha ih =>
    rw [ih]
    constructor
    · rintro ⟨x, rfl, hx⟩
      refine ⟨c :: x, rfl, ?_⟩
      simpa [lower, ha] using hx
    · rintro ⟨x, ht, hx⟩
      obtain ⟨d, y, rfl, -, hy⟩ := List.map_eq_cons_iff.mp hx
      exact ⟨y, List.tail_eq_of_cons_eq ht, hy⟩
  | case4 a w c t ha =>
    constructor
    · rintro ⟨⟩
    · rintro ⟨x, ht, hx⟩
      obtain ⟨d, y, rfl, hd, -⟩ := List.map_eq_cons_iff.mp hx
      rw [← List.head_eq_of_cons_eq ht] at hd
      exact absurd hd.symm ha

lemma isAlpha_iff {c : Char} : c.isAlpha = true ↔
    65 ≤ c.toNat ∧ c.toNat ≤ 90 ∨ 97 ≤ c.toNat ∧ c.toNat ≤ 122 := by
  simp [Char.isAlpha, Char.isUpper, Char.isLower, UInt32.le_iff_toNat_le]

lemma isBlank_eq_false_of_isAlpha {c : Char} (h : c.isAlpha = true) : isBlank c = false := by
  have hr := isAlpha_iff.mp h
  simp [isBlank, blankRanges]
  omega

lemma isAlpha_eq_false_of_isBlank {c : Char} (h : isBlank c = true) : c.isAlpha = false :=
  Bool.eq_false_iff.mpr fun ha => absurd h (Bool.eq_false_iff.mp (isBlank_eq_false_of_isAlpha ha))

lemma isBlank_eq_false_of_toLower {c : Char} (h : c.toLower.isAlpha = true) : isBlank c = false := by
  rw [Char.isAlpha_toLower_eq_isAlpha] at h
  exact isBlank_eq_false_of_isAlpha h

/-- Whether a text is a word, letter case and the blanks around it aside. -/
def Spells (w t : Text) : Prop :=
  ∃ a n b, t = a ++ n ++ b ∧ (∀ c ∈ a, isBlank c = true) ∧ (∀ c ∈ b, isBlank c = true) ∧ lower n = w

lemma lower_trim_eq_iff {w t : Text} (hh : ∀ c ∈ w.head?, c.isAlpha = true)
    (hl : ∀ c ∈ w.getLast?, c.isAlpha = true) : lower (trim isBlank t) = w ↔ Spells w t := by
  constructor
  · intro h
    obtain ⟨-, a, b, ht, ha, hb⟩ := trim_eq_iff.mp (rfl : trim isBlank t = trim isBlank t)
    exact ⟨a, trim isBlank t, b, ht, ha, hb, h⟩
  · rintro ⟨a, n, b, ht, ha, hb, rfl⟩
    have hn : IsTrimmed isBlank n := by
      constructor
      · intro c hc
        apply isBlank_eq_false_of_toLower
        apply hh
        rw [lower, List.head?_map]
        exact Option.mem_map_of_mem _ hc
      · intro c hc
        apply isBlank_eq_false_of_toLower
        apply hl
        rw [lower, List.getLast?_map]
        exact Option.mem_map_of_mem _ hc
    rw [trim_eq_iff.mpr ⟨hn, a, b, ht, ha, hb⟩]

end BrowserTab.Text
