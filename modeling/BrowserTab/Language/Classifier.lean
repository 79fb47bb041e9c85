import BrowserTab.Encoding.Utf8
import BrowserTab.Language.Code

/-!
# Classifiers

A classifier guesses the language of a text. It may be any function from texts to detections; two
simple ones are given here, one that always sees the same language and one that looks for phrases.
-/

namespace BrowserTab.Language

/-- What a classifier saw in a text. -/
structure Detection where
  /-- The language, possibly with a region; empty or undetermined if there was none to see. -/
  language : Text
  reliable : Bool
  /-- How many bytes of the text were examined. -/
  bytes : Nat
  deriving DecidableEq, Repr

/-- The detection of a classifier that saw no language. -/
def Detection.unknown : Detection :=
  ⟨Code.undetermined, false, 0⟩

/-- A guess at the language of any text. -/
structure Classifier where
  classify : Text → Detection
  /-- The version of the model behind the guess, empty if it has none. -/
  version : Text

namespace Classifier

/-- The classifier that sees the same language in every text. Unless a number of examined bytes is
given, it claims to have examined the whole text. -/
def constant (language : Text) (reliable : Bool) (bytes : Option Nat) (version : Text) :
    Classifier where
  classify text := ⟨language, reliable, bytes.getD (Encoding.Utf8.size text)⟩
  version := version

/-- The classifier that reliably sees the language of the first phrase that occurs in a text. -/
def phrases (known : List (Text × Text)) : Classifier where
  classify text :=
    match known.find? fun k => Text.occursIn k.1 text with
    | some k => ⟨k.2, true, Encoding.Utf8.size text⟩
    | none => .unknown
  version := []

end Classifier

end BrowserTab.Language
