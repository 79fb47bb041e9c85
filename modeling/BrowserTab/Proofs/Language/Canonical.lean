import BrowserTab.Proofs.Language.Normalization
import BrowserTab.Proofs.Language.Reconciliation

/-!
# Canonical verdicts

A service is handed the language of a verdict, so it must not be a code that the tables know under
another name. It comes from a declaration that was corrected and checked, or from a classifier that
may see anything; either way the tables have renamed it, and sound tables rename nothing twice.
-/

namespace BrowserTab.Language

lemma Code.ne_nil_of_isValid {code : Text} (h : isValid code = true) : code ≠ [] := by
  rintro rfl
  exact absurd h (by decide)

namespace Tables

variable {t : Tables}

lemma rename_ne_nil (h : t.Sound) {code : Text} (hc : code ≠ []) : t.rename code ≠ [] := by
  rw [rename_eq]
  cases hr : t.replacement? code with
  | none => exact hc
  | some target =>
    rw [Option.getD_some]
    rcases replacement?_cases hr with ⟨m, hm, -, rfl⟩ | ⟨m, hm, -, rfl⟩
    · exact Code.ne_nil_of_isValid (h.target_isValid m (List.mem_append_left _ hm))
    · have hv := Code.ne_nil_of_isValid (h.target_isValid m (List.mem_append_right _ hm))
      exact List.append_ne_nil_of_left_ne_nil hv _

lemma not_isMapped_nil (h : t.Sound) : ¬t.IsMapped [] := by
  rw [not_isMapped_of_notMem (by simp)]
  exact h.source_ne_nil

lemma normalize_cases (h : t.Sound) (raw : Text) : t.normalize raw = [] ∨
    Code.isValid (t.normalize raw) = true ∧ ¬t.IsMapped (t.normalize raw) := by
  unfold normalize
  split <;> rename_i hv
  · exact .inr ⟨isValid_rename h hv, not_isMapped_rename h _⟩
  · exact .inl rfl

end Tables

namespace Resolver

variable {t : Tables} {declared seen : Text} {o : Outcome}

lemma declared_cases (r : Resolver) (header markup : Text) : r.declared header markup = [] ∨
    Code.isValid (r.declared header markup) = true ∧
      ¬r.tables.IsMapped (r.declared header markup) := by
  rw [declared_eq]
  split
  · exact Tables.normalize_cases r.sound markup
  · exact Tables.normalize_cases r.sound header

lemma not_isMapped_declared (r : Resolver) (header markup : Text) :
    ¬r.tables.IsMapped (r.declared header markup) := by
  rcases declared_cases r header markup with hd | ⟨-, hm⟩
  · rw [hd]
    exact Tables.not_isMapped_nil r.sound
  · exact hm

lemma not_isMapped_seen (r : Resolver) (d : Detection) : ¬r.tables.IsMapped (r.seen d) :=
  Tables.not_isMapped_rename r.sound _

lemma seen_ne_nil (r : Resolver) (d : Detection) : r.seen d ≠ [] := by
  rw [seen_eq]
  apply Tables.rename_ne_nil r.sound
  split <;> rename_i ht
  · exact ht.2.2.1
  · decide

lemma not_isMapped_standing (hd : ¬t.IsMapped declared) (hs : ¬t.IsMapped seen)
    (ho : o ≠ .disagreement) : ¬t.IsMapped (standing declared seen o) := by
  cases o with
  | classifierDisabled | unknownClassifier | agreement => exact hd
  | classifierOnly | classifierComplementsRegion | suspectedMisconfiguration => exact hs
  | disagreement => exact absurd rfl ho

lemma standing_eq_declared
    (ho : o = .classifierDisabled ∨ o = .unknownClassifier ∨ o = .agreement) :
    standing declared seen o = declared := by
  rcases ho with rfl | rfl | rfl <;> rfl

lemma standing_ne_nil (h : Warrants t declared seen o) (hs : seen ≠ []) :
    standing declared seen o ≠ [] := by
  cases o with
  | classifierDisabled => exact h.elim
  | unknownClassifier => exact h.1
  | agreement => exact h.1.1
  | classifierOnly | classifierComplementsRegion | suspectedMisconfiguration => exact hs
  | disagreement => exact show Code.undetermined ≠ [] by decide

lemma exists_standing (r : Resolver) (header markup text : Text) :
    ∃ d, (r.resolve header markup text).verdict.language =
      standing (r.declared header markup) (r.seen d)
        (r.resolve header markup text).verdict.outcome := by
  cases h : r.classifier with
  | none =>
    rw [verdict_resolve_of_none h]
    exact ⟨.unknown, rfl⟩
  | some c =>
    rw [verdict_resolve_of_some h]
    exact ⟨c.classify text, language_reconcile _ _ _⟩

lemma language_resolve_ne_nil {r : Resolver} (h : r.classifier ≠ none) (header markup text : Text) :
    (r.resolve header markup text).verdict.language ≠ [] := by
  obtain ⟨c, hc⟩ := Option.ne_none_iff_exists'.mp h
  rw [verdict_resolve_of_some hc, language_reconcile]
  exact standing_ne_nil (outcome_reconcile_eq_iff.mp rfl) (seen_ne_nil r _)

/-- The language of a verdict is undetermined for want of agreement, or else a code that the tables
map no more; it is empty only without a classifier, and well-formed where the declaration stands. -/
theorem resolve_canonical (tables : Tables) (settings : Settings) (classifier : Option Classifier)
    (sink : Sink) (r : Resolver) (hr : build tables settings classifier sink = .ok r)
    (header markup text : Text) :
    let verdict := (r.resolve header markup text).verdict
    (verdict.outcome = .disagreement → verdict.language = Code.undetermined) ∧
      (verdict.outcome ≠ .disagreement → ¬tables.IsMapped verdict.language ∧
        tables.rename verdict.language = verdict.language) ∧
      (classifier ≠ none → verdict.language ≠ []) ∧
      (verdict.outcome = .classifierDisabled ∨ verdict.outcome = .unknownClassifier ∨
          verdict.outcome = .agreement →
        verdict.language = [] ∨ Code.isValid verdict.language = true) := by
  intro verdict
  obtain ⟨rfl, -, rfl⟩ := tables_of_build hr
  obtain ⟨d, hl⟩ := exists_standing r header markup text
  change verdict.language = standing _ _ verdict.outcome at hl
  refine ⟨?_, ?_, fun h => language_resolve_ne_nil h header markup text, ?_⟩
  · intro ho
    rw [hl, ho]
    rfl
  · intro ho
    have hm : ¬r.tables.IsMapped verdict.language := by
      rw [hl]
      exact not_isMapped_standing (not_isMapped_declared r header markup) (not_isMapped_seen r d) ho
    exact ⟨hm, Tables.rename_of_not_isMapped r.sound hm⟩
  · intro ho
    rw [hl, standing_eq_declared ho]
    exact (declared_cases r header markup).imp_right And.left

/-- A classifier may see what is no code at all, and still not under a name that is mapped. -/
theorem resolve_canonical_malformed :
    let c := Classifier.constant "nb--é".toList true (some 4096) []
    let r : Resolver := ⟨.standard, .standard, some c, .silent, Tables.defect?_standard, rfl⟩
    build .standard .standard (some c) .silent = .ok r ∧
      (r.resolve "?".toList [] []).verdict.language = "no--é".toList ∧
      Tables.standard.rename "no--é".toList = "no--é".toList := by
  intro c r
  have hr : build .standard .standard (some c) .silent = .ok r := rfl
  have hl : (r.resolve "?".toList [] []).verdict.language = "no--é".toList := by decide
  obtain ⟨-, h, -⟩ := resolve_canonical .standard .standard (some c) .silent r hr "?".toList [] []
  obtain ⟨-, hf⟩ := h (by decide)
  exact ⟨hr, hl, by rwa [hl] at hf⟩

end Resolver

end BrowserTab.Language
