import BrowserTab.Proofs.Language.Renaming

/-!
# Accepted tables

Tables are refused if something that they put out would be mapped again. The check compares their entries
with each other, while a synonym puts out infinitely many codes, one for each tail; nevertheless it refuses
all tables with such an output, and apart from those with ill-formed entries no others.
-/

namespace BrowserTab.Language.Tables

variable {t : Tables}

lemma sound_of_outputs
    (hm : ∀ m ∈ t.similitudes ++ t.synonyms, m.source ≠ [] ∧ Code.isValid m.target = true)
    (hb : ∀ m ∈ t.synonyms, '-' ∉ m.target) (ho : ∀ code, t.Output code → ¬t.IsMapped code)
    (hg : ∀ m ∈ t.groups, m.code ≠ [] ∧ m.group ≠ 0)
    (hc : ∀ code ∈ t.misconfigured, Code.isValid code = true) : t.Sound where
  source_ne_nil m h := (hm m h).1
  target_isValid m h := (hm m h).2
  similitude_unmapped _ h := not_isMapped_iff.mp (ho _ (.similitude h))
  synonym_bare := hb
  synonym_unmapped m h :=
    (forall_tail_not_isMapped_iff (hb m h)).mp fun _ ht => ho _ (.synonym h ht)
  member_ne_nil m h := (hg m h).1
  group_ne_zero m h := (hg m h).2
  misconfigured_isValid := hc

/-- Tables are accepted if and only if no source is empty, every target is a code, the targets of synonyms are
bare tags, no output is mapped again, every member of a group has a code and a group, and the languages
listed as misdeclared are codes. Whatever is wrong with other tables, it is reported under one identifier. -/
theorem defect?_eq_none_iff_not_isMapped_output (t : Tables) :
    (t.defect? = none ↔
      (∀ m ∈ t.similitudes ++ t.synonyms, m.source ≠ [] ∧ Code.isValid m.target = true) ∧
        (∀ m ∈ t.synonyms, '-' ∉ m.target) ∧
        (∀ code, t.Output code → ¬t.IsMapped code) ∧
        (∀ m ∈ t.groups, m.code ≠ [] ∧ m.group ≠ 0) ∧
        ∀ code ∈ t.misconfigured, Code.isValid code = true) ∧
      ∀ d, t.defect? = some d → d.fault.code = "language.tables_invalid" := by
  refine ⟨?_, fun d _ => rfl⟩
  rw [defect?_eq_none_iff]
  constructor
  · intro h
    have hmappings : ∀ m ∈ t.similitudes ++ t.synonyms, m.source ≠ [] ∧ Code.isValid m.target = true :=
      fun m hm => ⟨h.source_ne_nil m hm, h.target_isValid m hm⟩
    have hmembers : ∀ m ∈ t.groups, m.code ≠ [] ∧ m.group ≠ 0 :=
      fun m hm => ⟨h.member_ne_nil m hm, h.group_ne_zero m hm⟩
    exact ⟨hmappings, h.synonym_bare, fun _ => not_isMapped_of_output h, hmembers,
      h.misconfigured_isValid⟩
  · rintro ⟨hm, hb, ho, hg, hc⟩
    exact sound_of_outputs hm hb ho hg hc

/-- A synonym for plain Chinese puts out the Chinese of Hong Kong, which the standard tables replace. -/
theorem defect?_of_replaced_output :
    let t : Tables :=
      { standard with synonyms := standard.synonyms ++ [⟨"cmn".toList, "zh".toList⟩] }
    t.rename "cmn-HK".toList = "zh-HK".toList ∧ t.rename "zh-HK".toList = "zh-TW".toList ∧
      ∃ d, t.defect? = some d ∧ d.fault.code = "language.tables_invalid" := by
  intro t
  obtain ⟨hnone, hcode⟩ := defect?_eq_none_iff_not_isMapped_output t
  have hreplaced : t.replacement? "cmn-HK".toList = some "zh-HK".toList := by decide
  have hmapped : t.IsMapped "zh-HK".toList := .inl (by decide)
  have hd : t.defect? ≠ none := by
    intro h
    obtain ⟨-, -, hunmapped, -, -⟩ := hnone.mp h
    exact hunmapped _ (output_of_replacement? hreplaced) hmapped
  obtain ⟨d, hd⟩ := Option.ne_none_iff_exists'.mp hd
  exact ⟨by decide, by decide, d, hd, hcode d hd⟩

end BrowserTab.Language.Tables
