import BrowserTab.Language.Code

/-!
# Verdicts on the language of a page

A verdict is a language code together with the way it was reached.
-/

namespace BrowserTab.Language

/-- How the language of a page was reached. -/
inductive Outcome where
  /-- Nothing was declared; what the classifier saw stands. -/
  | classifierOnly
  /-- The classifier saw nothing it can be trusted in; the declaration stands. -/
  | unknownClassifier
  /-- The page declared plain Chinese and the classifier saw which one. -/
  | classifierComplementsRegion
  /-- Declaration and classifier agree. -/
  | agreement
  /-- The page was declared English, probably by mistake; what the classifier saw stands. -/
  | suspectedMisconfiguration
  /-- Declaration and classifier differ; neither stands. -/
  | disagreement
  /-- There is no classifier; the declaration stands. -/
  | classifierDisabled
  deriving DecidableEq, Repr

def Outcome.name : Outcome → String
  | .classifierOnly => "classifier_only"
  | .unknownClassifier => "unknown_classifier"
  | .classifierComplementsRegion => "classifier_complements_region"
  | .agreement => "agreement"
  | .suspectedMisconfiguration => "suspected_misconfiguration"
  | .disagreement => "disagreement"
  | .classifierDisabled => "classifier_disabled"

/-- The language of a page, and what it rests on. -/
structure Verdict where
  language : Text
  outcome : Outcome
  /-- What the classifier saw, trusted or not; `none` without a classifier. -/
  classifierLanguage : Option Text
  classifierReliable : Bool
  deriving DecidableEq, Repr

end BrowserTab.Language
