import BrowserTab.Page.Sniffing
import BrowserTab.Proofs.Markup.Written

/-!
# Declared character sets

What it takes for a content type, and for the attributes of a `meta` tag, to declare the label of a
character set. In a content type the first `charset` counts that is assigned a value which is not blank,
wherever the word stands; among attributes the first one that gives a label does.
-/

namespace BrowserTab.Page

open Text
open Markup.Written (isQuote_iff)

/-- What the value at the start of a text is: it stands between quotes, behind a quote that is never closed,
or up to a semicolon or space. -/
inductive HoldsValue : Text → Text → Prop where
  | closed {q : Char} {v : Text} (u : Text) (quote : q = '"' ∨ q = '\'') (inside : q ∉ v) :
    HoldsValue (q :: (v ++ q :: u)) v
  | unclosed {q : Char} {v : Text} (quote : q = '"' ∨ q = '\'') (inside : q ∉ v) :
    HoldsValue (q :: v) v
  | bare {v u : Text} (plain : ∀ c ∈ v, c ≠ ';' ∧ isSpace c = false)
    (unquoted : ∀ c ∈ (v ++ u).head?, c ≠ '"' ∧ c ≠ '\'')
    (ends : ∀ c ∈ u.head?, c = ';' ∨ isSpace c = true) : HoldsValue (v ++ u) v

lemma endsValue_iff {c : Char} : ContentType.endsValue c = true ↔ c = ';' ∨ isSpace c = true := by
  simp [ContentType.endsValue]

lemma endsValue_eq_false_iff {c : Char} :
    ContentType.endsValue c = false ↔ c ≠ ';' ∧ isSpace c = false := by
  simp [ContentType.endsValue]

lemma readValue_cons_of_quote {stop : Char → Bool} {q : Char} (hq : q = '"' ∨ q = '\'') {t v : Text} :
    (readValue stop (q :: t)).1 = v ↔ q ∉ v ∧ ∃ u, t = v ++ u ∧ ∀ c ∈ u.head?, c = q := by
  rw [readValue, if_pos (isQuote_iff.mpr hq), takeWhile_eq_iff]
  simp [List.forall_mem_ne']

lemma readValue_of_unquoted {stop : Char → Bool} {t v : Text}
    (ht : ∀ c ∈ t.head?, c ≠ '"' ∧ c ≠ '\'') : (readValue stop t).1 = v ↔
      (∀ c ∈ v, stop c = false) ∧ ∃ u, t = v ++ u ∧ ∀ c ∈ u.head?, stop c = true := by
  have hread : (readValue stop t).1 = t.takeWhile (!stop ·) := by
    cases t with
    | nil => rfl
    | cons c t =>
      have hc : ¬isQuote c = true := by simpa [isQuote_iff] using ht c rfl
      rw [readValue, if_neg hc]
  rw [hread, takeWhile_eq_iff]
  simp

lemma readValue_eq_iff {t v : Text} :
    (readValue ContentType.endsValue t).1 = v ↔ HoldsValue t v := by
  constructor
  · intro h
    by_cases ht : ∀ c ∈ t.head?, c ≠ '"' ∧ c ≠ '\''
    · obtain ⟨hv, u, rfl, hu⟩ := (readValue_of_unquoted ht).mp h
      exact .bare (fun c hc => endsValue_eq_false_iff.mp (hv c hc)) ht
        fun c hc => endsValue_iff.mp (hu c hc)
    · cases t with
      | nil => exact absurd (by simp) ht
      | cons q t =>
        have hq : q = '"' ∨ q = '\'' := by
          by_contra hq
          exact ht (by simpa [not_or] using hq)
        obtain ⟨hv, u, rfl, hu⟩ := (readValue_cons_of_quote hq).mp h
        cases u with
        | nil =>
          rw [List.append_nil]
          exact .unclosed hq hv
        | cons c u =>
          obtain rfl := hu c rfl
          exact .closed u hq hv
  · rintro (⟨u, hq, hv⟩ | ⟨hq, hv⟩ | ⟨hv, ht, hu⟩)
    · exact (readValue_cons_of_quote hq).mpr ⟨hv, _, rfl, by simp⟩
    · exact (readValue_cons_of_quote hq).mpr ⟨hv, [], by simp, by simp⟩
    · exact (readValue_of_unquoted ht).mpr ⟨fun c hc => endsValue_eq_false_iff.mpr (hv c hc), _, rfl,
        fun c hc => endsValue_iff.mpr (hu c hc)⟩

/-- A text begins with an equals sign and a value, perhaps behind blanks, and the value is the label but
for blanks around it. -/
def Assigns (t label : Text) : Prop :=
  ∃ a b s v, t = a ++ '=' :: (b ++ s) ∧ (∀ c ∈ a, isBlank c = true) ∧ (∀ c ∈ b, isBlank c = true) ∧
    (∀ c ∈ s.head?, isBlank c = false) ∧ HoldsValue s v ∧ trim isBlank v = label ∧ label ≠ []

/-- A text begins with the word `charset`, in any letter case, and a label that is assigned to it. -/
def NamesCharset (t label : Text) : Prop :=
  ∃ w u, t = w ++ u ∧ lower w = "charset".toList ∧ Assigns u label

/-- The first `charset` in a text that is assigned a label is assigned this one. -/
def HasCharset (t label : Text) : Prop :=
  ∃ i, NamesCharset (t.drop i) label ∧ ∀ j < i, ∀ l, ¬NamesCharset (t.drop j) l

lemma assigned?_eq_some_iff {t label : Text} :
    ContentType.assigned? t = some label ↔ Assigns t label := by
  constructor
  · intro h
    rw [ContentType.assigned?] at h
    split at h
    · rename_i u hu
      have ht : t = t.takeWhile isBlank ++ '=' :: (u.takeWhile isBlank ++ u.dropWhile isBlank) := by
        rw [List.takeWhile_append_dropWhile, ← hu, List.takeWhile_append_dropWhile]
      dsimp only at h
      split at h
      · cases h
      · rename_i hne
        cases h
        exact ⟨_, _, _, _, ht, fun c hc => List.mem_takeWhile_imp hc,
          fun c hc => List.mem_takeWhile_imp hc, head?_dropWhile u, readValue_eq_iff.mp rfl, rfl,
          by simpa using hne⟩
    · cases h
  · rintro ⟨a, b, s, v, rfl, ha, hb, hs, hv, rfl, hne⟩
    have hequals : (a ++ '=' :: (b ++ s)).dropWhile isBlank = '=' :: (b ++ s) :=
      dropWhile_append_stop ha (by rintro _ ⟨⟩; decide)
    simp only [ContentType.assigned?, hequals, dropWhile_append_stop hb hs, readValue_eq_iff.mpr hv]
    rw [if_neg (by simpa using hne)]

lemma assigned?_of_equals {t u v : Text} (ht : t.dropWhile isBlank = '=' :: u)
    (hv : (readValue ContentType.endsValue (u.dropWhile isBlank)).1 = v) :
    ContentType.assigned? t = if trim isBlank v = [] then none else some (trim isBlank v) := by
  simp only [ContentType.assigned?, ht, hv, List.isEmpty_iff]

lemma assigned?_congr {t u : Text} (h : t.dropWhile isBlank = u.dropWhile isBlank) :
    ContentType.assigned? t = ContentType.assigned? u := by
  simp only [ContentType.assigned?, h]

lemma assigned?_of_head {t : Text} (h : ∀ c ∈ t.head?, isBlank c = false ∧ c ≠ '=') :
    ContentType.assigned? t = none := by
  cases t with
  | nil => rfl
  | cons c t =>
    obtain ⟨hblank, hequals⟩ := h c rfl
    rw [ContentType.assigned?, List.dropWhile_cons_of_neg (by simp [hblank])]
    split
    · rename_i hc
      exact absurd (List.head_eq_of_cons_eq hc) hequals
    · rfl

lemma lower_parameter : lower ContentType.parameter = "charset".toList := by
  decide

lemma isAlpha_of_lower {w : Text} (hw : lower w = "charset".toList) : ∀ c ∈ w, c.isAlpha = true := by
  intro c hc
  have hl : c.toLower ∈ "charset".toList := hw ▸ List.mem_map_of_mem hc
  have hletters : ∀ d ∈ "charset".toList, d.isAlpha = true := by simp
  rw [← Char.isAlpha_toLower_eq_isAlpha]
  exact hletters _ hl

lemma namesCharset_iff {t label : Text} :
    (after? ContentType.parameter t).bind ContentType.assigned? = some label ↔
      NamesCharset t label := by
  simp only [Option.bind_eq_some_iff, after?_eq_some_iff, lower_parameter, assigned?_eq_some_iff,
    NamesCharset]
  constructor
  · rintro ⟨u, ⟨w, rfl, hw⟩, hu⟩
    exact ⟨w, u, rfl, hw, hu⟩
  · rintro ⟨w, u, rfl, hw, hu⟩
    exact ⟨u, ⟨w, rfl, hw⟩, hu⟩

lemma not_namesCharset_nil (label : Text) : ¬NamesCharset [] label := by
  rintro ⟨w, u, ht, hw, -⟩
  obtain ⟨rfl, -⟩ := List.append_eq_nil_iff.mp ht.symm
  exact absurd hw (by decide)

lemma charset?_cons (c : Char) (t : Text) : ContentType.charset? (c :: t) =
    ((after? ContentType.parameter (c :: t)).bind ContentType.assigned?).or
      (ContentType.charset? t) := by
  rw [ContentType.charset?]
  cases (after? ContentType.parameter (c :: t)).bind ContentType.assigned? with
  | none => rfl
  | some label => rfl

theorem charset?_eq_some_iff {t label : Text} :
    ContentType.charset? t = some label ↔ HasCharset t label := by
  induction t with
  | nil => simp [ContentType.charset?, HasCharset, not_namesCharset_nil]
  | cons c t ih =>
    rw [ContentType.charset?]
    split
    · rename_i l hl
      have hfirst := namesCharset_iff.mp hl
      constructor
      · rintro ⟨⟩
        exact ⟨0, hfirst, by simp⟩
      · rintro ⟨i, hi, hj⟩
        cases i with
        | zero => exact hl.symm.trans (namesCharset_iff.mpr hi)
        | succ i => exact absurd hfirst (hj 0 (by omega) l)
    · rename_i hnone
      have hfirst (l : Text) : ¬NamesCharset (c :: t) l := by
        rw [← namesCharset_iff, hnone]
        simp
      rw [ih]
      constructor
      · rintro ⟨i, hi, hj⟩
        refine ⟨i + 1, hi, fun j hlt l => ?_⟩
        cases j with
        | zero => exact hfirst l
        | succ j => exact hj j (by omega) l
      · rintro ⟨i, hi, hj⟩
        cases i with
        | zero => exact absurd hi (hfirst label)
        | succ i => exact ⟨i, hi, fun j hlt => hj (j + 1) (by omega)⟩

/-- Whether a content type says HTML or nothing at all, letter case and blanks aside. -/
def SaysHtml (contentType : Text) : Prop :=
  ∃ w ∈ ["", "text/html", "application/xhtml+xml"],
    Spells w.toList (contentType.takeWhile (· ≠ ';'))

theorem isHtml_iff {contentType : Text} :
    ContentType.isHtml contentType = true ↔ SaysHtml contentType := by
  have hspells : ∀ w ∈ ["", "text/html", "application/xhtml+xml"],
      w = String.ofList (ContentType.essence contentType) ↔
        Spells w.toList (contentType.takeWhile (· ≠ ';')) := by
    intro w hw
    rw [← String.toList_inj, String.toList_ofList, eq_comm, ContentType.essence]
    simp only [List.mem_cons, List.not_mem_nil, or_false] at hw
    apply lower_trim_eq_iff <;> rcases hw with rfl | rfl | rfl <;> rintro _ ⟨⟩ <;> rfl
  rw [ContentType.isHtml, List.contains_iff_mem, SaysHtml]
  constructor
  · intro h
    exact ⟨_, h, (hspells _ h).mp rfl⟩
  · rintro ⟨w, hw, h⟩
    rwa [← (hspells w hw).mpr h]

/-! ### Labels in attributes -/

/-- An attribute gives a label: it is `charset`, or it is `content` and its value has a charset. -/
def GivesLabel (a : Markup.Attribute) (label : Text) : Prop :=
  a.name = "charset".toList ∧ trim isBlank a.value = label ∨
    a.name = "content".toList ∧ HasCharset a.value label

/-- The first of the attributes that gives a label gives this one. -/
def Declares (attributes : List Markup.Attribute) (label : Text) : Prop :=
  ∃ before a behind, attributes = before ++ a :: behind ∧ GivesLabel a label ∧
    ∀ b ∈ before, ∀ l, ¬GivesLabel b l

def labelOf? (a : Markup.Attribute) : Option Text :=
  if a.name = "charset".toList then some (trim isBlank a.value)
  else if a.name = "content".toList then ContentType.charset? a.value
  else none

lemma labelOf?_eq_some_iff {a : Markup.Attribute} {label : Text} :
    labelOf? a = some label ↔ GivesLabel a label := by
  have hne : "charset".toList ≠ "content".toList := by decide
  rw [labelOf?, GivesLabel]
  split_ifs with hcharset hcontent
  · simp only [hcharset, hne, true_and, false_and, or_false, Option.some.injEq]
  · simp only [hcontent, hne.symm, true_and, false_and, false_or, charset?_eq_some_iff]
  · simp only [hcharset, hcontent, false_and, or_self]

lemma labelOf?_eq_none_iff {a : Markup.Attribute} :
    labelOf? a = none ↔ ∀ label, ¬GivesLabel a label := by
  rw [Option.eq_none_iff_forall_ne_some]
  exact forall_congr' fun label => not_congr labelOf?_eq_some_iff

lemma declaredLabel?_eq (attributes : List Markup.Attribute) :
    declaredLabel? attributes = attributes.findSome? labelOf? :=
  rfl

theorem declaredLabel?_eq_some_iff {attributes : List Markup.Attribute} {label : Text} :
    declaredLabel? attributes = some label ↔ Declares attributes label := by
  rw [declaredLabel?_eq, List.findSome?_eq_some_iff, Declares]
  simp only [labelOf?_eq_some_iff, labelOf?_eq_none_iff]

end BrowserTab.Page
