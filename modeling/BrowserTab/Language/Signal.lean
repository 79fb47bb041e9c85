import BrowserTab.Journal
import BrowserTab.Language.Classifier
import BrowserTab.Language.Outcome

/-!
# Signals of a resolution

While the language of a page is resolved, two kinds of signals are given off: telemetry events,
which go to a sink of the browser's choice, and notes, which always go to the journal. One list
holds both, so their common order is part of the result.
-/

namespace BrowserTab.Language

/-- What telemetry is told. -/
inductive Event where
  /-- The `lang` attribute of a page, as written and normalized. -/
  | markupLanguage (raw normalized : Text)
  /-- The `Content-Language` header of a page, as written and normalized. -/
  | headerLanguage (raw normalized : Text)
  | verification (outcome : Outcome)
  /-- Two codes were compared; tells whether it took a group of similar languages to match them. -/
  | similarMatch (grouped : Bool)
  /-- The classifier has run; the time it took is measured elsewhere. -/
  | detectionTime
  deriving DecidableEq, Repr

/-- What the resolver notes. -/
inductive Note where
  | detected (d : Detection)
  | markupLanguage (raw normalized : Text)
  | headerLanguage (raw normalized : Text)
  | resolved (language : Text) (outcome : Outcome)
  deriving DecidableEq, Repr

/-- A telemetry event or a note. -/
inductive Signal where
  | event (e : Event)
  | note (n : Note)
  deriving DecidableEq, Repr

/-- Where telemetry events go. -/
inductive Sink where
  | silent
  | journal
  | recorder
  deriving DecidableEq, Repr

/-- Says how a declared language was normalized. -/
def normalizationMessage (witness : String) (raw normalized : Text) : String :=
  witness ++ " `" ++ String.ofList raw ++ "` normalized to `" ++ String.ofList normalized ++ "`"

/-- The line in which the journal keeps a telemetry event. -/
def Event.message : Event → String
  | .markupLanguage raw normalized => normalizationMessage "html lang" raw normalized
  | .headerLanguage raw normalized => normalizationMessage "Content-Language" raw normalized
  | .verification outcome => "language verification: " ++ outcome.name
  | .similarMatch grouped => "similar language match: " ++ toString grouped
  | .detectionTime => "language detection took <elapsed>"

/-- The line in which the journal keeps a note. -/
def Note.message : Note → String
  | .detected d =>
    "classifier saw `" ++ String.ofList d.language ++ "` (reliable: " ++ toString d.reliable ++ ", "
      ++ toString d.bytes ++ " bytes)"
  | .markupLanguage raw normalized => normalizationMessage "html lang" raw normalized
  | .headerLanguage raw normalized => normalizationMessage "Content-Language" raw normalized
  | .resolved language outcome =>
    "resolved page language `" ++ String.ofList language ++ "` (" ++ outcome.name ++ ")"

def Event.record (e : Event) : Journal.Record :=
  ⟨.debug, .telemetry, e.message⟩

def Note.record (n : Note) : Journal.Record :=
  ⟨.trace, .resolver, n.message⟩

def Signal.event? : Signal → Option Event
  | .event e => some e
  | .note _ => none

def Signal.note? : Signal → Option Note
  | .event _ => none
  | .note n => some n

namespace Sink

/-- What the journal keeps of a signal. -/
def record? : Sink → Signal → Option Journal.Record
  | .journal, .event e => some e.record
  | _, .event _ => none
  | _, .note n => some n.record

def records (sink : Sink) (signals : List Signal) : List Journal.Record :=
  signals.filterMap sink.record?

/-- The events that signals leave in a recorder. -/
def recorded : Sink → List Signal → List Event
  | .recorder, signals => signals.filterMap Signal.event?
  | _, _ => []

end Sink

end BrowserTab.Language
