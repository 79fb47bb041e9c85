import BrowserTab.Proofs.Language.Code
import BrowserTab.Proofs.Language.Soundness

/-!
# Renaming by sound tables

A code is replaced as a whole or by its primary tag. The entries of sound tables are checked one by
one, and that is enough for every code and every tail: what comes out is never replaced again.
-/

namespace BrowserTab.Language.Tables

/-- The code that the tables put in place of another, if they replace it. -/
def replacement? (t : Tables) (code : Text) : Option Text :=
  (target? t.similitudes code).or
    (if (Code.main code).isEmpty then none
      else (target? t.synonyms (Code.main code)).map (· ++ Code.tail code))

/-- Whether a code is the source of a whole-code mapping or its primary tag that of a synonym. -/
def IsMapped (t : Tables) (code : Text) : Prop :=
  isSource t.similitudes code = true ∨ isSource t.synonyms (Code.main code) = true

/-- The codes that the entries of the tables put in the place of others: the target of a whole-code
mapping, and that of a synonym with any tail. -/
inductive Output (t : Tables) : Text → Prop
  | similitude {m : Mapping} (hm : m ∈ t.similitudes) : Output t m.target
  | synonym {m : Mapping} (hm : m ∈ t.synonyms) {tail : Text} (ht : Code.IsTail tail) :
    Output t (m.target ++ tail)

lemma rename_eq (t : Tables) (code : Text) : t.rename code = (t.replacement? code).getD code := by
  unfold rename replacement?
  cases target? t.similitudes code with
  | some target => rfl
  | none =>
    simp only [Option.none_or]
    split
    · rfl
    · cases target? t.synonyms (Code.main code) with
      | some target => rfl
      | none => exact Code.main_append_tail code

lemma target?_eq_some {ms : List Mapping} {code target : Text} (h : target? ms code = some target) :
    ∃ m ∈ ms, m.source = code ∧ m.target = target := by
  obtain ⟨m, hm, rfl⟩ := Option.map_eq_some_iff.mp h
  exact ⟨m, List.mem_of_find?_eq_some hm, by simpa using List.find?_some hm, rfl⟩

lemma target?_eq_none {ms : List Mapping} {code : Text} :
    target? ms code = none ↔ isSource ms code = false := by
  simp [target?, isSource]

lemma isSource_eq_false_iff {ms : List Mapping} {code : Text} :
    isSource ms code = false ↔ ∀ m ∈ ms, m.source ≠ code := by
  simp [isSource]

lemma replacement?_cases {t : Tables} {code target : Text} (h : t.replacement? code = some target) :
    (∃ m ∈ t.similitudes, m.source = code ∧ m.target = target) ∨
      ∃ m ∈ t.synonyms, m.source = Code.main code ∧ m.target ++ Code.tail code = target := by
  rcases Option.or_eq_some_iff.mp h with h | ⟨-, h⟩
  · exact .inl (target?_eq_some h)
  · split at h
    · cases h
    · obtain ⟨s, hs, rfl⟩ := Option.map_eq_some_iff.mp h
      obtain ⟨m, hm, hsource, rfl⟩ := target?_eq_some hs
      exact .inr ⟨m, hm, hsource, rfl⟩

lemma not_isMapped_iff {t : Tables} {code : Text} : ¬t.IsMapped code ↔
    isSource t.similitudes code = false ∧ isSource t.synonyms (Code.main code) = false := by
  rw [IsMapped, not_or, Bool.not_eq_true, Bool.not_eq_true]

lemma replacement?_eq_none {t : Tables} (h : t.Sound) {code : Text} :
    t.replacement? code = none ↔ ¬t.IsMapped code := by
  rw [not_isMapped_iff, replacement?, Option.or_eq_none_iff, target?_eq_none]
  refine and_congr_right fun _ => ?_
  split <;> rename_i hm
  · simp only [true_iff]
    rw [List.isEmpty_iff.mp hm, isSource_eq_false_iff]
    exact fun m hs => h.source_ne_nil m (List.mem_append_right _ hs)
  · rw [Option.map_eq_none_iff, target?_eq_none]

/-- No tail makes a bare tag into a mapped code if and only if the tag is not the source of a synonym and
begins no source of a similitude. -/
lemma forall_tail_not_isMapped_iff {t : Tables} {tag : Text} (hb : '-' ∉ tag) :
    (∀ tail, Code.IsTail tail → ¬t.IsMapped (tag ++ tail)) ↔
      isSource t.synonyms tag = false ∧ ∀ s ∈ t.similitudes, Code.main s.source ≠ tag := by
  constructor
  · intro h
    constructor
    · have hbare := (not_isMapped_iff.mp (h [] (Code.isTail_tail []))).2
      rwa [List.append_nil, Code.main_of_notMem hb] at hbare
    · rintro s hs rfl
      -- The source itself is the tag with a tail behind it.
      have hsource := (not_isMapped_iff.mp (h (Code.tail s.source) (Code.isTail_tail _))).1
      rw [Code.main_append_tail] at hsource
      exact isSource_eq_false_iff.mp hsource s hs rfl
  · rintro ⟨hsyn, hsim⟩ tail ht
    have hmain := Code.main_append hb ht
    rw [not_isMapped_iff, hmain]
    refine ⟨isSource_eq_false_iff.mpr ?_, hsyn⟩
    intro s hs he
    exact hsim s hs (by rw [he, hmain])

lemma output_of_replacement? {t : Tables} {code target : Text} (h : t.replacement? code = some target) :
    t.Output target := by
  rcases replacement?_cases h with ⟨m, hm, -, rfl⟩ | ⟨m, hm, -, rfl⟩
  · exact .similitude hm
  · exact .synonym hm (Code.isTail_tail code)

lemma not_isMapped_of_output {t : Tables} (h : t.Sound) {code : Text} (ho : t.Output code) :
    ¬t.IsMapped code := by
  cases ho with
  | similitude hm => exact not_isMapped_iff.mpr (h.similitude_unmapped _ hm)
  | synonym hm ht =>
    have htails := (forall_tail_not_isMapped_iff (h.synonym_bare _ hm)).mpr (h.synonym_unmapped _ hm)
    exact htails _ ht

lemma not_isMapped_of_replacement? {t : Tables} (h : t.Sound) {code target : Text}
    (hr : t.replacement? code = some target) : ¬t.IsMapped target :=
  not_isMapped_of_output h (output_of_replacement? hr)

lemma rename_of_not_isMapped {t : Tables} (h : t.Sound) {code : Text} (hm : ¬t.IsMapped code) :
    t.rename code = code := by
  rw [rename_eq, (replacement?_eq_none h).mpr hm, Option.getD_none]

lemma not_isMapped_rename {t : Tables} (h : t.Sound) (code : Text) : ¬t.IsMapped (t.rename code) := by
  rw [rename_eq]
  cases hr : t.replacement? code with
  | none => exact (replacement?_eq_none h).mp hr
  | some target => exact not_isMapped_of_replacement? h hr

lemma rename_eq_self_iff {t : Tables} (h : t.Sound) {code : Text} :
    t.rename code = code ↔ ¬t.IsMapped code := by
  constructor
  · intro hr
    have hm := not_isMapped_rename h code
    rwa [hr] at hm
  · exact rename_of_not_isMapped h

lemma not_isMapped_of_notMem {t : Tables} {code : Text} (h : '-' ∉ code) :
    ¬t.IsMapped code ↔ ∀ m ∈ t.similitudes ++ t.synonyms, m.source ≠ code := by
  rw [not_isMapped_iff, Code.main_of_notMem h, isSource_eq_false_iff, isSource_eq_false_iff,
    List.forall_mem_append]

/-- Accepted tables leave no renamed code that either list of mappings would map again, so renaming
twice is renaming once. The code need not be well-formed. -/
theorem rename_rename (t : Tables) (h : t.defect? = none) (code : Text) :
    ¬t.IsMapped (t.rename code) ∧ t.rename (t.rename code) = t.rename code := by
  have hs := defect?_eq_none_iff.mp h
  have hm := not_isMapped_rename hs code
  exact ⟨hm, rename_of_not_isMapped hs hm⟩

/-- The tail of a renamed primary tag may be anything. -/
theorem rename_rename_standard :
    standard.defect? = none ∧ standard.rename "nb--é".toList = "no--é".toList ∧
      ¬standard.IsMapped (standard.rename "nb--é".toList) ∧
      standard.rename (standard.rename "nb--é".toList) = standard.rename "nb--é".toList :=
  ⟨defect?_standard, by decide, rename_rename standard defect?_standard _⟩

end BrowserTab.Language.Tables
