import BrowserTab.Proofs.Language.Performance

/-!
# Exchanging the sink

Where telemetry events go is none of the resolver's business: whatever sink it is given, or none, its verdicts
and its own notes in the journal are the same. The sink in the journal writes one record for each event that a
recorder would hear, in the same order and with all that the event says.
-/

namespace BrowserTab.Language

/-- How the journal tells of an event: on the debug level, with all that the event says. -/
inductive Event.Told : Event → Journal.Record → Prop where
  | markupLanguage (raw normalized : Text) : Told (.markupLanguage raw normalized)
      ⟨.debug, .telemetry, "html lang `" ++ String.ofList raw ++ "` normalized to `" ++
        String.ofList normalized ++ "`"⟩
  | headerLanguage (raw normalized : Text) : Told (.headerLanguage raw normalized)
      ⟨.debug, .telemetry, "Content-Language `" ++ String.ofList raw ++ "` normalized to `" ++
        String.ofList normalized ++ "`"⟩
  | verification (outcome : Outcome) : Told (.verification outcome)
      ⟨.debug, .telemetry, "language verification: " ++ outcome.name⟩
  | similarMatch (grouped : Bool) : Told (.similarMatch grouped)
      ⟨.debug, .telemetry, "similar language match: " ++ if grouped then "true" else "false"⟩
  | detectionTime : Told .detectionTime
      ⟨.debug, .telemetry, "language detection took <elapsed>"⟩

lemma Event.told_record (e : Event) : e.Told e.record := by
  cases e with
  | markupLanguage raw normalized => exact .markupLanguage raw normalized
  | headerLanguage raw normalized => exact .headerLanguage raw normalized
  | verification outcome => exact .verification outcome
  | similarMatch grouped => cases grouped <;> exact .similarMatch _
  | detectionTime => exact .detectionTime

/-- What has come of signals so far: the journal, and what a recorder has heard. -/
structure Traces where
  journal : List Journal.Record
  heard : List Event

namespace Sink

/-- What a sink does with a signal. Notes are none of its business, and go to the journal anyway. -/
def hear (sink : Sink) (w : Traces) : Signal → Traces
  | .note n => { w with journal := w.journal ++ [n.record] }
  | .event e =>
    match sink with
    | .silent => w
    | .journal => { w with journal := w.journal ++ [e.record] }
    | .recorder => { w with heard := w.heard ++ [e] }

lemma foldl_hear (sink : Sink) (signals : List Signal) (w : Traces) : signals.foldl sink.hear w =
    ⟨w.journal ++ sink.records signals, w.heard ++ sink.recorded signals⟩ := by
  induction signals generalizing w with
  | nil => cases sink <;> simp [records, recorded]
  | cons s signals ih =>
    rw [List.foldl_cons, ih]
    cases s with
    | event e => cases sink <;> simp only [hear, List.append_assoc] <;> rfl
    | note n => cases sink <;> simp only [hear, List.append_assoc] <;> rfl

lemma filter_records_of_ne {sink : Sink} (h : sink ≠ .journal) (signals : List Signal) :
    (sink.records signals).filter (·.component = .telemetry) = [] := by
  induction signals with
  | nil => rfl
  | cons s signals ih =>
    cases s with
    | event e =>
      cases sink with
      | journal => exact absurd rfl h
      | silent | recorder => exact ih
    | note n => cases sink <;> exact ih

lemma forall₂_told (signals : List Signal) : List.Forall₂ Event.Told (Sink.recorder.recorded signals)
    ((Sink.journal.records signals).filter (·.component = .telemetry)) := by
  induction signals with
  | nil => exact .nil
  | cons s signals ih =>
    cases s with
    | event e => exact .cons e.told_record ih
    | note n => exact ih

end Sink

namespace Resolver

def withSink (r : Resolver) (sink : Sink) : Resolver :=
  { r with sink }

lemma build_eq_withSink (r : Resolver) (sink : Sink) :
    build r.tables r.settings r.classifier sink = .ok (r.withSink sink) := by
  unfold build
  split
  · rename_i d hd
    rw [r.tables_sound] at hd
    cases hd
  · split
    · rename_i d hd
      rw [r.settings_sound] at hd
      cases hd
    · rfl

lemma run_perform_hear (r : Resolver) (header markup text : Text) (w : Traces) :
    let resolution := r.resolve header markup text
    (r.perform r.sink.hear header markup text).run w =
      (resolution.verdict, ⟨w.journal ++ r.records resolution, w.heard ++ r.recorded resolution⟩) := by
  intro resolution
  rw [r.tells_perform, Sink.foldl_hear]
  rfl

/-- Resolvers that differ in their sink only are built alike, and come to one verdict with one sequence of
notes. With the journal for a sink there is one record for each event that a recorder hears, and with all
others there is none. A resolver without a sink is silent. -/
theorem sinks_interchangeable (r : Resolver) (header markup text : Text) :
    let given (sink : Option Sink) := r.withSink (sink.getD .silent)
    let resolution sink := (given sink).resolve header markup text
    let records sink := (given sink).records (resolution sink)
    let heard sink := (given sink).recorded (resolution sink)
    (∀ sink, build r.tables r.settings r.classifier (sink.getD .silent) = .ok (given sink)) ∧
      (∀ sink w, ((given sink).perform (given sink).sink.hear header markup text).run w =
        ((resolution sink).verdict, ⟨w.journal ++ records sink, w.heard ++ heard sink⟩)) ∧
      (∀ a b, (resolution a).verdict = (resolution b).verdict ∧
        (records a).filter (·.component = .resolver) = (records b).filter (·.component = .resolver)) ∧
      List.Forall₂ Event.Told (heard (some .recorder))
        ((records (some .journal)).filter (·.component = .telemetry)) ∧
      ∀ sink, sink ≠ some .journal → (records sink).filter (·.component = .telemetry) = [] := by
  intro given resolution records heard
  have hnotes (sink : Option Sink) : (records sink).filter (·.component = .resolver) =
      ((r.resolve header markup text).signals.filterMap Signal.note?).map Note.record :=
    Sink.filter_records _ _
  refine ⟨fun sink => r.build_eq_withSink _, fun sink => run_perform_hear _ header markup text, ?_,
    Sink.forall₂_told _, ?_⟩
  · intro a b
    exact ⟨rfl, (hnotes a).trans (hnotes b).symm⟩
  · intro sink hs
    apply Sink.filter_records_of_ne
    cases sink with
    | none =>
      intro hj
      cases hj
    | some sink =>
      intro hj
      exact hs (congrArg some hj)

/-- A page that is declared English twice and seen to be Spanish, with the journal for a sink. -/
example :
    let c := Classifier.constant "es".toList true (some 512) []
    let r : Resolver := ⟨.standard, .standard, some c, .journal, Tables.defect?_standard, rfl⟩
    (r.records (r.resolve "en".toList "en-GB".toList "hola".toList)).map (·.message) =
      ["language detection took <elapsed>", "classifier saw `es` (reliable: true, 512 bytes)",
        "html lang `en-GB` normalized to `en-GB`", "html lang `en-GB` normalized to `en-GB`",
        "Content-Language `en` normalized to `en`", "Content-Language `en` normalized to `en`",
        "similar language match: false", "language verification: suspected_misconfiguration",
        "resolved page language `es` (suspected_misconfiguration)"] := by
  decide

end Resolver

end BrowserTab.Language
