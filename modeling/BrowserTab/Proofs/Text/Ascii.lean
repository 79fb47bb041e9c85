import BrowserTab.Proofs.Text.Scanning

/-!
# Readings that keep ASCII in place

Markup is looked for in bytes whose encoding is not known yet. That works because markup is ASCII: a
reading may make anything of the other characters, as long as it keeps each ASCII character between what
it makes of the text before and what it makes of the text behind.
-/

namespace BrowserTab.Text

/-- Whether a character is one of the 128 of ASCII. -/
def IsAscii (c : Char) : Prop :=
  c.toNat < 0x80

instance : DecidablePred IsAscii := fun c => inferInstanceAs (Decidable (c.toNat < 0x80))

lemma exists_append_of_notMem {w t u v : Text} {c : Char} (hc : c ∉ w) (h : w ++ t = u ++ c :: v) :
    ∃ x, u = w ++ x ∧ t = x ++ c :: v := by
  obtain ⟨x, hu, ht⟩ | ⟨x, rfl, hv⟩ := List.append_eq_append_iff.mp h
  · exact ⟨x, hu, ht⟩
  · cases x with
    | nil => exact ⟨[], (List.append_nil _).symm.trans (List.append_nil _).symm, hv.symm⟩
    | cons d x =>
      obtain ⟨rfl, -⟩ := List.cons.inj hv
      exact absurd (List.mem_append_right u List.mem_cons_self) hc

/-- A reading that keeps ASCII characters in place and makes none, and of something never makes
nothing. -/
structure KeepsAscii (f : Text → Text) : Prop where
  append_cons : ∀ (a b : Text) {c : Char}, IsAscii c → f (a ++ c :: b) = f a ++ c :: f b
  exists_split : ∀ {t u v : Text} {c : Char}, IsAscii c → f t = u ++ c :: v →
    ∃ a b, t = a ++ c :: b ∧ f a = u ∧ f b = v
  eq_nil_iff : ∀ {t : Text}, f t = [] ↔ t = []

namespace KeepsAscii

variable {f : Text → Text} {a b t u v : Text} {c : Char}

lemma nil (hf : KeepsAscii f) : f [] = [] :=
  hf.eq_nil_iff.mpr rfl

lemma cons (hf : KeepsAscii f) (hc : IsAscii c) (t : Text) : f (c :: t) = c :: f t := by
  have h := hf.append_cons [] t hc
  rwa [hf.nil, List.nil_append, List.nil_append] at h

lemma append (hf : KeepsAscii f) (a : Text) (hb : ∀ c ∈ b.head?, IsAscii c) :
    f (a ++ b) = f a ++ f b := by
  cases b with
  | nil => rw [hf.nil, List.append_nil, List.append_nil]
  | cons c b => rw [hf.append_cons a b (hb c rfl), hf.cons (hb c rfl)]

lemma append_of_getLast? (hf : KeepsAscii f) (ha : ∀ c ∈ a.getLast?, IsAscii c) (b : Text) :
    f (a ++ b) = f a ++ f b := by
  cases a using List.reverseRecOn with
  | nil => rw [hf.nil, List.nil_append, List.nil_append]
  | append_singleton a c =>
    have hc : IsAscii c := ha c List.getLast?_concat
    rw [List.append_assoc, List.singleton_append, hf.append_cons a b hc, hf.append_cons a [] hc,
      hf.nil]
    simp

lemma ascii_append (hf : KeepsAscii f) (ha : ∀ c ∈ a, IsAscii c) (b : Text) :
    f (a ++ b) = a ++ f b := by
  induction a with
  | nil => rfl
  | cons c a ih =>
    rw [List.forall_mem_cons] at ha
    rw [List.cons_append, hf.cons ha.1, ih ha.2, List.cons_append]

lemma eq_self (hf : KeepsAscii f) (h : ∀ c ∈ t, IsAscii c) : f t = t := by
  rw [← List.append_nil t, hf.ascii_append h, hf.nil]

lemma head?_eq (hf : KeepsAscii f) (h : ∀ c ∈ t.head?, IsAscii c) : (f t).head? = t.head? := by
  cases t with
  | nil => rw [hf.nil]
  | cons c t => rw [hf.cons (h c rfl), List.head?_cons, List.head?_cons]

lemma mem_of_mem (hf : KeepsAscii f) (hc : IsAscii c) (h : c ∈ f t) : c ∈ t := by
  obtain ⟨u, v, hu⟩ := List.append_of_mem h
  obtain ⟨a, b, rfl, -, -⟩ := hf.exists_split hc hu
  exact List.mem_append_right a List.mem_cons_self

lemma forall_mem (hf : KeepsAscii f) {P : Char → Prop} (hP : ∀ c, ¬IsAscii c → P c)
    (h : ∀ c ∈ t, P c) : ∀ c ∈ f t, P c := by
  intro c hc
  by_cases ha : IsAscii c
  · exact h c (hf.mem_of_mem ha hc)
  · exact hP c ha

lemma mem_head? (hf : KeepsAscii f) (hc : IsAscii c) (h : c ∈ (f t).head?) : c ∈ t.head? := by
  obtain ⟨v, hv⟩ := List.head?_eq_some_iff.mp h
  obtain ⟨a, b, rfl, ha, -⟩ := hf.exists_split hc (hv.trans (List.nil_append _).symm)
  rw [hf.eq_nil_iff.mp ha]
  rfl

lemma forall_mem_head? (hf : KeepsAscii f) {P : Char → Prop} (hP : ∀ c, ¬IsAscii c → P c)
    (h : ∀ c ∈ t.head?, P c) : ∀ c ∈ (f t).head?, P c := by
  intro c hc
  by_cases ha : IsAscii c
  · exact h c (hf.mem_head? ha hc)
  · exact hP c ha

lemma exists_split_word (hf : KeepsAscii f) {w : Text} (hne : w ≠ []) (hw : ∀ c ∈ w, IsAscii c)
    (h : f t = u ++ w ++ v) : ∃ a b, t = a ++ w ++ b ∧ f a = u ∧ f b = v := by
  induction w generalizing t u with
  | nil => exact absurd rfl hne
  | cons c w ih =>
    rw [List.forall_mem_cons] at hw
    rw [List.append_assoc, List.cons_append] at h
    obtain ⟨a, b, rfl, ha, hb⟩ := hf.exists_split hw.1 h
    by_cases hnil : w = []
    · subst hnil
      exact ⟨a, b, by simp, ha, hb⟩
    · obtain ⟨d, e, rfl, hd, he⟩ := ih hnil hw.2 (u := []) hb
      rw [hf.eq_nil_iff.mp hd]
      exact ⟨a, e, by simp, ha, he⟩

end KeepsAscii

lemma isAscii_of_isSpace {c : Char} (h : isSpace c = true) : IsAscii c := by
  simp only [isSpace, Bool.or_eq_true, decide_eq_true_eq] at h
  rcases h with (((rfl | rfl) | rfl) | rfl) | rfl <;> decide

lemma isSpace_eq_false_of_not_isAscii {c : Char} (h : ¬IsAscii c) : isSpace c = false :=
  Bool.eq_false_iff.mpr fun hs => h (isAscii_of_isSpace hs)

lemma ne_of_not_isAscii {c d : Char} (hc : ¬IsAscii c) (hd : IsAscii d) : c ≠ d := by
  rintro rfl
  exact hc hd

lemma isAscii_of_isAlpha {c : Char} (h : c.isAlpha = true) : IsAscii c := by
  have hr := isAlpha_iff.mp h
  rw [IsAscii]
  omega

lemma isAscii_toLower {c : Char} : IsAscii c.toLower ↔ IsAscii c := by
  by_cases ha : c.isAlpha = true
  · exact iff_of_true (isAscii_of_isAlpha (by rwa [Char.isAlpha_toLower_eq_isAlpha]))
      (isAscii_of_isAlpha ha)
  · rw [(toLower_eq_iff (Bool.eq_false_iff.mpr ha)).mpr rfl]

lemma forall_isAscii_of_lower {t w : Text} (h : lower t = w) (hw : ∀ c ∈ w, IsAscii c) :
    ∀ c ∈ t, IsAscii c := by
  subst h
  intro c hc
  exact isAscii_toLower.mp (hw _ (List.mem_map_of_mem hc))

lemma forall_isAscii_lower {t : Text} (h : ∀ c ∈ t, IsAscii c) : ∀ c ∈ lower t, IsAscii c := by
  intro d hd
  obtain ⟨c, hc, rfl⟩ := List.mem_map.mp hd
  exact isAscii_toLower.mpr (h c hc)

end BrowserTab.Text
