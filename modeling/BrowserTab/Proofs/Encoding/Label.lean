import BrowserTab.Encoding.Label
import BrowserTab.Proofs.Text.Scanning

/-!
# The signs of encoding labels

Every label that is looked up with success is, between the spaces around it, a word of letters, digits and
four other signs. No sign of markup and no separator of a content type is among these, so a label is never
mistaken for more than itself.
-/

namespace BrowserTab.Encoding

open Text

/-- Whether labels are made of this character. -/
def isLabelSign (c : Char) : Bool :=
  c.isAlphanum || c = '-' || c = '_' || c = ':' || c = '.'

lemma all_labels : ∀ e ∈ all, ∀ l ∈ e.labels, l.toList ≠ [] ∧ l.toList.all isLabelSign = true := by
  decide +kernel

lemma isLabelSign_toLower {c : Char} : isLabelSign c.toLower = isLabelSign c := by
  by_cases ha : c.isAlpha = true
  · have hl : c.toLower.isAlpha = true := by rwa [Char.isAlpha_toLower_eq_isAlpha]
    simp [isLabelSign, Char.isAlphanum, ha, hl]
  · rw [(toLower_eq_iff (Bool.eq_false_iff.mpr ha)).mpr rfl]

lemma isBlank_eq_false_of_isLabelSign {c : Char} (h : isLabelSign c = true) : isBlank c = false := by
  simp only [isLabelSign, Char.isAlphanum, Bool.or_eq_true, decide_eq_true_eq] at h
  obtain ((((ha | hd) | rfl) | rfl) | rfl) | rfl := h
  · exact isBlank_eq_false_of_isAlpha ha
  · have hr : 48 ≤ c.toNat ∧ c.toNat ≤ 57 := by
      simpa [Char.isDigit, UInt32.le_iff_toNat_le] using hd
    simp [isBlank, blankRanges]
    omega
  all_goals decide

lemma isLabelSign_of_ofLabel? {label : Text} {e : Encoding} (h : ofLabel? label = some e) :
    trim isSpace label ≠ [] ∧ ∀ c ∈ trim isSpace label, isLabelSign c = true := by
  have hmem := List.mem_of_find?_eq_some h
  have hlabel := List.find?_some h
  rw [List.contains_iff_mem] at hlabel
  obtain ⟨hne, hall⟩ := all_labels e hmem _ hlabel
  rw [String.toList_ofList] at hne hall
  refine ⟨mt List.map_eq_nil_iff.mpr hne, fun c hc => ?_⟩
  rw [← isLabelSign_toLower]
  exact List.all_eq_true.mp hall _ (List.mem_map_of_mem hc)

lemma ofLabel?_trim (label : Text) : ofLabel? (trim isSpace label) = ofLabel? label := by
  rw [ofLabel?, ofLabel?, trim_trim]

end BrowserTab.Encoding
