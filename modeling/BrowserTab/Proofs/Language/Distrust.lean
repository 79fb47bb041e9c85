import BrowserTab.Proofs.Language.Reconciliation
import BrowserTab.Proofs.Language.Renaming

/-!
# Distrusted detections

A detection that is not trusted is meant to count for nothing: what a page declares stands, and without
a declaration nothing is determined. The resolver puts the code for that in the detection's place and
renames it like any other, so the tables can turn it into a language.
-/

namespace BrowserTab.Language

/-- Whether a detection is not to be trusted: it is unreliable, rests on too few bytes, or names no
language. -/
def Settings.Distrusts (s : Settings) (d : Detection) : Prop :=
  d.reliable = false ∨ d.bytes < s.minReliableBytes ∨ d.language = [] ∨
    d.language = Code.undetermined

lemma Settings.distrusts_iff {s : Settings} {d : Detection} : s.Distrusts d ↔ ¬s.Trusts d := by
  simp only [Distrusts, Trusts, not_and_or, Bool.not_eq_true, not_le, not_not]

namespace Resolver

/-- The language and the outcome if nothing but the declaration counts. -/
def undetected (declared : Text) : Text × Outcome :=
  if declared = [] then (Code.undetermined, .classifierOnly) else (declared, .unknownClassifier)

lemma reconcile_eq_undetected_iff {t : Tables} {declared seen : Text} :
    ((reconcile t declared seen).language, (reconcile t declared seen).outcome) =
      undetected declared ↔ seen = Code.undetermined := by
  by_cases hd : declared = []
  · simp [reconcile, undetected, hd]
  · constructor
    · intro h
      have ho : (reconcile t declared seen).outcome = .unknownClassifier := by
        rw [undetected, if_neg hd] at h
        exact congrArg Prod.snd h
      exact (outcome_reconcile_eq_iff.mp ho).2
    · intro hs
      simp [reconcile, undetected, hd, hs]

/-- A detection that is not trusted counts for nothing, whatever a page declares, if and only if the
tables do not replace the code for that. -/
theorem resolve_undetected_iff (tables : Tables) (settings : Settings) (c : Classifier) (sink : Sink)
    (r : Resolver) (hr : build tables settings (some c) sink = .ok r) (header markup text : Text)
    (hd : settings.Distrusts (c.classify text)) :
    ((r.resolve header markup text).verdict.language,
        (r.resolve header markup text).verdict.outcome) =
        undetected (if tables.normalize markup ≠ [] then tables.normalize markup
          else tables.normalize header) ↔
      ∀ m ∈ tables.similitudes ++ tables.synonyms, m.source ≠ Code.undetermined := by
  obtain ⟨rfl, rfl, hc⟩ := tables_of_build hr
  have hseen : r.seen (c.classify text) = r.tables.rename Code.undetermined := by
    rw [seen_eq, if_neg (Settings.distrusts_iff.mp hd)]
  rw [verdict_resolve_of_some hc, ← declared_eq, reconcile_eq_undetected_iff, hseen,
    Tables.rename_eq_self_iff r.sound, Tables.not_isMapped_of_notMem (by decide)]

/-- A detection that rests on one byte too few. -/
theorem resolve_undetected_iff_short :
    let c := Classifier.constant "es".toList true (some 99) []
    let r : Resolver := ⟨.standard, .standard, some c, .silent, Tables.defect?_standard, rfl⟩
    build .standard .standard (some c) .silent = .ok r ∧ Settings.standard.Distrusts (c.classify []) ∧
      ((r.resolve "en_gb".toList [] []).verdict.language,
        (r.resolve "en_gb".toList [] []).verdict.outcome) = ("en-GB".toList, .unknownClassifier) := by
  intro c r
  have hr : build .standard .standard (some c) .silent = .ok r := rfl
  have hd : Settings.standard.Distrusts (c.classify []) := .inr (.inl (by decide))
  refine ⟨hr, hd, ?_⟩
  exact (resolve_undetected_iff .standard .standard c .silent r hr "en_gb".toList [] [] hd).mpr
    (by decide)

/-- The tables may make Spanish of what an unreliable classifier saw, and so overrule English. -/
theorem resolve_ne_undetected_of_replaced :
    ¬∀ (tables : Tables) (settings : Settings) (c : Classifier) (sink : Sink) (r : Resolver),
      build tables settings (some c) sink = .ok r → ∀ header markup text,
        settings.Distrusts (c.classify text) →
        ((r.resolve header markup text).verdict.language,
          (r.resolve header markup text).verdict.outcome) =
          undetected (if tables.normalize markup ≠ [] then tables.normalize markup
            else tables.normalize header) := by
  intro h
  let tables : Tables :=
    { Tables.standard with
      synonyms := Tables.standard.synonyms ++ [⟨"und".toList, "es".toList⟩] }
  let c := Classifier.constant "fr".toList false (some 4096) []
  let r : Resolver := ⟨tables, .standard, some c, .silent, by decide, rfl⟩
  have he := h tables .standard c .silent r rfl "en".toList [] [] (.inl rfl)
  exact absurd he (by decide)

end Resolver

end BrowserTab.Language
