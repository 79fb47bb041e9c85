import BrowserTab.Language.Signal
import BrowserTab.Language.Tables.Defect

/-!
# The resolver

A page declares its language in a header and in its markup, and a classifier guesses it from the
text. The resolver reconciles the three: the markup is heard before the header, a classifier counts
only if it can be trusted, and where declaration and classifier differ one of them must have a
known excuse or neither stands.
-/

namespace BrowserTab.Language

/-- How the resolver is tuned. -/
structure Settings where
  /-- A classifier that examined fewer bytes is not trusted. -/
  minReliableBytes : Nat
  deriving DecidableEq, Repr

namespace Settings

/-- The settings a browser starts with. -/
def standard : Settings :=
  ⟨100⟩

/-- What can be wrong with settings. -/
inductive Defect where
  | zeroMinimum
  deriving DecidableEq, Repr

def Defect.fault : Defect → Fault
  | .zeroMinimum =>
    ⟨"language.min_text_bytes_invalid", "min_reliable_text_bytes must be greater than zero"⟩

/-- The defect of settings, if they have one. -/
def defect? (s : Settings) : Option Defect :=
  if s.minReliableBytes = 0 then some .zeroMinimum else none

end Settings

/-- A resolver works on sound tables and settings only. -/
structure Resolver where
  tables : Tables
  settings : Settings
  classifier : Option Classifier
  sink : Sink
  tables_sound : tables.defect? = none
  settings_sound : settings.defect? = none

/-- The verdict on a page and the signals given off on the way to it. -/
structure Resolution where
  verdict : Verdict
  signals : List Signal
  deriving DecidableEq, Repr

namespace Resolver

/-- Why no resolver was built. -/
inductive Refusal where
  | tables (d : Tables.Defect)
  | settings (d : Settings.Defect)
  deriving DecidableEq, Repr

def Refusal.fault : Refusal → Fault
  | .tables d => d.fault
  | .settings d => d.fault

/-- Builds a resolver, or says what is wrong with the tables or else with the settings. -/
def build (tables : Tables) (settings : Settings) (classifier : Option Classifier) (sink : Sink) :
    Except Refusal Resolver :=
  match ht : tables.defect? with
  | some d => .error (.tables d)
  | none =>
    match hs : settings.defect? with
    | some d => .error (.settings d)
    | none => .ok ⟨tables, settings, classifier, sink, ht, hs⟩

/-- The version of the classifier, empty without one. -/
def classifierVersion (r : Resolver) : Text :=
  (r.classifier.map (·.version)).getD []

/-- Whether a detection is reliable, rests on enough bytes and names a language. -/
def trusts (r : Resolver) (d : Detection) : Bool :=
  d.reliable && r.settings.minReliableBytes ≤ d.bytes && !d.language.isEmpty
    && d.language ≠ Code.undetermined

/-- The code for which the classifier stands: what it saw if that is trusted. -/
def seen (r : Resolver) (d : Detection) : Text :=
  r.tables.rename (if r.trusts d then d.language else Code.undetermined)

/-- The code that a page declares: that of its markup if it has one, else that of its header. -/
def declared (r : Resolver) (header markup : Text) : Text :=
  if (r.tables.normalize markup).isEmpty then r.tables.normalize header
  else r.tables.normalize markup

/-- The signals given off while the declarations are heard; an empty one passes unheard. -/
def declarationSignals (r : Resolver) (header markup : Text) : List Signal :=
  (if markup.isEmpty then []
    else
      [.event (.markupLanguage markup (r.tables.normalize markup)),
        .note (.markupLanguage markup (r.tables.normalize markup))])
  ++ if header.isEmpty then []
    else
      [.event (.headerLanguage header (r.tables.normalize header)),
        .note (.headerLanguage header (r.tables.normalize header))]

/-- The signals given off when the classifier has run. -/
def detectionSignals (d : Detection) : List Signal :=
  [.event .detectionTime, .note (.detected d)]

/-- The signals given off when the language is settled. -/
def closingSignals (language : Text) (outcome : Outcome) : List Signal :=
  [.event (.verification outcome), .note (.resolved language outcome)]

/-- What becomes of a declared and a seen code. -/
structure Reconciled where
  language : Text
  outcome : Outcome
  /-- How the two codes compare, where it came to a comparison. -/
  compared : Option Similarity
  deriving DecidableEq, Repr

/-- Reconciles the code a page declares with the code for which the classifier stands. -/
def reconcile (t : Tables) (declared seen : Text) : Reconciled :=
  if declared.isEmpty then ⟨seen, .classifierOnly, none⟩
  else if seen = Code.undetermined then ⟨declared, .unknownClassifier, none⟩
  else if Tables.completesRegion declared seen then ⟨seen, .classifierComplementsRegion, none⟩
  else
    let similarity := t.compare declared seen
    if similarity.isMatch then ⟨declared, .agreement, some similarity⟩
    else if t.suspectsServer declared seen then
      ⟨seen, .suspectedMisconfiguration, some similarity⟩
    else ⟨Code.undetermined, .disagreement, some similarity⟩

/-- The signal given off by a comparison. -/
def comparisonSignals (compared : Option Similarity) : List Signal :=
  compared.toList.map fun s => .event (.similarMatch (s = .similarGroup))

/-- Resolves the language of a page from its header, the `lang` attribute of its markup and its
text; an empty header or attribute stands for none. -/
def resolve (r : Resolver) (header markup text : Text) : Resolution :=
  let declared := r.declared header markup
  match r.classifier with
  | none =>
    { verdict := ⟨declared, .classifierDisabled, none, false⟩
      signals := r.declarationSignals header markup ++ closingSignals declared .classifierDisabled }
  | some c =>
    let d := c.classify text
    let found := reconcile r.tables declared (r.seen d)
    { verdict := ⟨found.language, found.outcome, some d.language, d.reliable⟩
      signals :=
        detectionSignals d ++ r.declarationSignals header markup
          ++ comparisonSignals found.compared ++ closingSignals found.language found.outcome }

def records (r : Resolver) (resolution : Resolution) : List Journal.Record :=
  r.sink.records resolution.signals

/-- The events that a resolution leaves in the recorder, if the resolver has one. -/
def recorded (r : Resolver) (resolution : Resolution) : List Event :=
  r.sink.recorded resolution.signals

end Resolver

end BrowserTab.Language
