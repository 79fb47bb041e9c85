import BrowserTab.Proofs.Language.Reconciliation

/-!
# What telemetry is told

Signals are given off at several places on the way to a verdict, some of them on some ways only. Here
they are read off the verdict and what it rests on, so that the events of every resolution, and its notes
in the journal, tell the story that the verdict tells.
-/

namespace BrowserTab.Language

lemma Sink.filter_records (sink : Sink) (signals : List Signal) :
    (sink.records signals).filter (·.component = .resolver) =
      (signals.filterMap Signal.note?).map Note.record := by
  rw [records, List.filter_filterMap, List.map_filterMap]
  congr 1
  funext s
  cases s with
  | event e => cases sink <;> rfl
  | note n => cases sink <;> rfl

/-- The strict test: the first two bytes of the declared code begin the other code. -/
def Tables.SharesTag (declared seen : Text) : Prop :=
  2 ≤ Encoding.Utf8.size declared ∧
    (Encoding.Utf8.encode declared).take 2 <+: Encoding.Utf8.encode seen

instance (declared seen : Text) : Decidable (Tables.SharesTag declared seen) :=
  inferInstanceAs (Decidable (_ ∧ _))

/-- Whether an outcome rests on a comparison of the two codes. -/
def Outcome.IsComparison (o : Outcome) : Prop :=
  o = .agreement ∨ o = .suspectedMisconfiguration ∨ o = .disagreement

instance (o : Outcome) : Decidable o.IsComparison :=
  inferInstanceAs (Decidable (_ ∨ _ ∨ _))

variable {t : Tables} {declared seen : Text}

lemma Tables.compare_eq_similarGroup_iff :
    t.compare declared seen = .similarGroup ↔
      t.Alike declared seen ∧ ¬SharesTag declared seen := by
  rw [Alike, ← sharesPrimary_iff, ← sameGroup_iff, SharesTag, ← sharesPrimary_iff, compare]
  split <;> rename_i hp
  · simp [hp]
  · split <;> rename_i hg
    · exact iff_of_true rfl ⟨.inr hg, hp⟩
    · simp only [reduceCtorEq, false_iff]
      rintro ⟨ha, -⟩
      exact ha.elim hp hg

namespace Resolver

lemma isComparison_reconcile_iff :
    (reconcile t declared seen).outcome.IsComparison ↔ Compares declared seen := by
  rw [Outcome.IsComparison, outcome_reconcile_eq_iff, outcome_reconcile_eq_iff,
    outcome_reconcile_eq_iff]
  simp only [Warrants]
  tauto

lemma compared_reconcile (t : Tables) (declared seen : Text) :
    (reconcile t declared seen).compared =
      if (reconcile t declared seen).outcome.IsComparison then some (t.compare declared seen)
      else none := by
  by_cases hc : Compares declared seen
  · rw [if_pos (isComparison_reconcile_iff.mpr hc), reconcile_of_compares hc]
    split
    · rfl
    · split <;> rfl
  · rw [if_neg (mt isComparison_reconcile_iff.mp hc)]
    rw [compares_iff, not_and_or, not_and_or] at hc
    unfold reconcile
    by_cases hd : declared = []
    · simp [hd]
    · by_cases hs : seen = Code.undetermined
      · simp [hd, hs]
      · have hz : Tables.completesRegion declared seen = true := by simpa [hd, hs] using hc
        simp [hd, hs, hz]

lemma grouped_iff (h : (reconcile t declared seen).outcome.IsComparison) :
    t.compare declared seen = .similarGroup ↔
      (reconcile t declared seen).outcome = .agreement ∧ ¬Tables.SharesTag declared seen := by
  rw [outcome_reconcile_eq_iff, Tables.compare_eq_similarGroup_iff]
  simp [Warrants, isComparison_reconcile_iff.mp h]

lemma events_detectionSignals (d : Detection) :
    (detectionSignals d).filterMap Signal.event? = [.detectionTime] :=
  rfl

lemma notes_detectionSignals (d : Detection) :
    (detectionSignals d).filterMap Signal.note? = [.detected d] :=
  rfl

lemma events_closingSignals (language : Text) (o : Outcome) :
    (closingSignals language o).filterMap Signal.event? = [.verification o] :=
  rfl

lemma notes_closingSignals (language : Text) (o : Outcome) :
    (closingSignals language o).filterMap Signal.note? = [.resolved language o] :=
  rfl

lemma events_declarationSignals (r : Resolver) (header markup : Text) :
    (r.declarationSignals header markup).filterMap Signal.event? =
      (if markup = [] then [] else [Event.markupLanguage markup (r.tables.normalize markup)]) ++
        (if header = [] then [] else [Event.headerLanguage header (r.tables.normalize header)]) := by
  rw [declarationSignals, List.filterMap_append]
  cases markup <;> cases header <;> rfl

lemma notes_declarationSignals (r : Resolver) (header markup : Text) :
    (r.declarationSignals header markup).filterMap Signal.note? =
      (if markup = [] then [] else [Note.markupLanguage markup (r.tables.normalize markup)]) ++
        (if header = [] then [] else [Note.headerLanguage header (r.tables.normalize header)]) := by
  rw [declarationSignals, List.filterMap_append]
  cases markup <;> cases header <;> rfl

lemma notes_comparisonSignals (compared : Option Similarity) :
    (comparisonSignals compared).filterMap Signal.note? = [] := by
  cases compared <;> rfl

lemma signals_resolve_of_none {r : Resolver} (h : r.classifier = none) (header markup text : Text) :
    (r.resolve header markup text).signals =
      r.declarationSignals header markup ++
        closingSignals (r.declared header markup) .classifierDisabled := by
  simp [resolve, h]

lemma signals_resolve_of_some {r : Resolver} {c : Classifier} (h : r.classifier = some c)
    (header markup text : Text) :
    let found := reconcile r.tables (r.declared header markup) (r.seen (c.classify text))
    (r.resolve header markup text).signals =
      detectionSignals (c.classify text) ++ r.declarationSignals header markup ++
        comparisonSignals found.compared ++ closingSignals found.language found.outcome := by
  simp [resolve, h]

lemma events_comparisonSignals (t : Tables) (declared seen : Text) :
    (comparisonSignals (reconcile t declared seen).compared).filterMap Signal.event? =
      if (reconcile t declared seen).outcome.IsComparison then
        [.similarMatch (t.compare declared seen = .similarGroup)]
      else [] := by
  rw [compared_reconcile]
  split <;> rfl

/-- The events that go with an outcome: the classifier's run if there is one, each declaration that is
not empty, a comparison where the outcome rests on one, and at last the outcome. -/
def eventsOf (r : Resolver) (header markup : Text) (o : Outcome) (grouped : Bool) : List Event :=
  (if r.classifier.isSome then [Event.detectionTime] else []) ++
    (if markup = [] then [] else [Event.markupLanguage markup (r.tables.normalize markup)]) ++
    (if header = [] then [] else [Event.headerLanguage header (r.tables.normalize header)]) ++
    (if o.IsComparison then [Event.similarMatch grouped] else []) ++ [Event.verification o]

/-- The notes that go with a verdict. -/
def notesOf (r : Resolver) (header markup text : Text) (v : Verdict) : List Note :=
  (r.classifier.toList.map fun c => Note.detected (c.classify text)) ++
    (if markup = [] then [] else [Note.markupLanguage markup (r.tables.normalize markup)]) ++
    (if header = [] then [] else [Note.headerLanguage header (r.tables.normalize header)]) ++
    [Note.resolved v.language v.outcome]

lemma events_resolve_of_none {r : Resolver} (h : r.classifier = none) (header markup text : Text)
    (grouped : Bool) :
    (r.resolve header markup text).signals.filterMap Signal.event? =
      r.eventsOf header markup (r.resolve header markup text).verdict.outcome grouped := by
  rw [signals_resolve_of_none h, verdict_resolve_of_none h, List.filterMap_append,
    events_declarationSignals, events_closingSignals, eventsOf, h]
  simp [Outcome.IsComparison]

lemma events_resolve_of_some {r : Resolver} {c : Classifier} (h : r.classifier = some c)
    (header markup text : Text) :
    (r.resolve header markup text).signals.filterMap Signal.event? =
      r.eventsOf header markup (r.resolve header markup text).verdict.outcome
        (r.tables.compare (r.declared header markup) (r.seen (c.classify text)) =
          .similarGroup) := by
  rw [signals_resolve_of_some h, verdict_resolve_of_some h, List.filterMap_append,
    List.filterMap_append, List.filterMap_append, events_detectionSignals,
    events_declarationSignals, events_comparisonSignals, events_closingSignals, eventsOf, h]
  simp

lemma notes_resolve (r : Resolver) (header markup text : Text) :
    (r.resolve header markup text).signals.filterMap Signal.note? =
      r.notesOf header markup text (r.resolve header markup text).verdict := by
  cases h : r.classifier with
  | none =>
    rw [signals_resolve_of_none h, verdict_resolve_of_none h, List.filterMap_append,
      notes_declarationSignals, notes_closingSignals, notesOf, h]
    rfl
  | some c =>
    rw [signals_resolve_of_some h, verdict_resolve_of_some h, List.filterMap_append,
      List.filterMap_append, List.filterMap_append, notes_detectionSignals,
      notes_declarationSignals, notes_comparisonSignals, notes_closingSignals, notesOf, h]
    simp

end Resolver

end BrowserTab.Language
