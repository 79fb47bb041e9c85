import BrowserTab.Encoding.Utf8
import BrowserTab.Language.Code

/-!
# Language tables

The services that a browser offers for a language know some languages under other codes than pages
and classifiers use, and some languages are easily taken for each other. The tables hold what is
known about both: codes that are replaced as a whole, primary tags that are replaced whatever the
region, groups of similar languages, and languages whose servers often announce English by mistake.
-/

namespace BrowserTab.Language

/-- A code and the code that replaces it. -/
structure Mapping where
  /-- The code as pages and classifiers write it. -/
  source : Text
  /-- The code as services know it. -/
  target : Text
  deriving DecidableEq, Repr

/-- A language code and the group of similar languages it belongs to. -/
structure Membership where
  code : Text
  group : Nat
  deriving DecidableEq, Repr

/-- How the declared code of a page relates to the code a classifier saw. -/
inductive Similarity where
  /-- The primary tags agree. -/
  | sameLanguage
  /-- The tags differ and belong to one group of similar languages. -/
  | similarGroup
  | different
  deriving DecidableEq, Repr

/-- Whether two codes count as one language. -/
def Similarity.isMatch : Similarity → Bool
  | .different => false
  | _ => true

/-- What is known about language codes. -/
structure Tables where
  /-- Codes that are replaced as a whole. -/
  similitudes : List Mapping
  /-- Primary tags that are replaced whatever the region. -/
  synonyms : List Mapping
  /-- Groups of similar languages. -/
  groups : List Membership
  /-- Languages whose pages are often declared English by mistake. -/
  misconfigured : List Text
  deriving DecidableEq, Repr

namespace Tables

/-- The tables a browser starts with. -/
def standard : Tables where
  similitudes := [
    ⟨"zh-HK".toList, "zh-TW".toList⟩,
    ⟨"zh-MO".toList, "zh-TW".toList⟩,
    ⟨"zh-SG".toList, "zh-CN".toList⟩]
  synonyms := [
    ⟨"nb".toList, "no".toList⟩,
    ⟨"he".toList, "iw".toList⟩,
    ⟨"jv".toList, "jw".toList⟩,
    ⟨"fil".toList, "tl".toList⟩]
  groups := [⟨"bs".toList, 1⟩, ⟨"hr".toList, 1⟩, ⟨"hi".toList, 2⟩, ⟨"ne".toList, 2⟩]
  misconfigured :=
    ["es", "pt", "ja", "ru", "de", "zh-CN", "zh-TW", "ar", "id", "fr", "it", "th"].map String.toList

/-- The entry of a list of mappings that replaces a code. -/
def target? (mappings : List Mapping) (code : Text) : Option Text :=
  (mappings.find? (·.source = code)).map (·.target)

/-- The code under which services know a language: the whole code is looked up first, then its
primary tag, whose replacement keeps the region. -/
def rename (t : Tables) (code : Text) : Text :=
  match target? t.similitudes code with
  | some target => target
  | none =>
    if (Code.main code).isEmpty then code
    else (target? t.synonyms (Code.main code)).getD (Code.main code) ++ Code.tail code

/-- The canonical form of a declared code, and the empty text if it cannot be mended into a code. -/
def normalize (t : Tables) (raw : Text) : Text :=
  if Code.isValid (Code.correct raw) then t.rename (Code.correct raw) else []

/-- The group of the first member whose code begins the given one; 0 stands for no group. -/
def groupOf (t : Tables) (code : Text) : Nat :=
  ((t.groups.find? (·.code.isPrefixOf code)).map (·.group)).getD 0

/-- Whether the code of a page has at least two bytes and its first two begin the other code. -/
def sharesPrimary (page seen : Text) : Bool :=
  let bytes := Encoding.Utf8.encode page
  2 ≤ bytes.length && (bytes.take 2).isPrefixOf (Encoding.Utf8.encode seen)

/-- Compares the code of a page with the code a classifier saw. -/
def compare (t : Tables) (page seen : Text) : Similarity :=
  if sharesPrimary page seen then .sameLanguage
  else if t.groupOf page ≠ 0 ∧ t.groupOf page = t.groupOf seen then .similarGroup
  else .different

/-- Whether a page declared English is likely to be misdeclared by its server, given the language
a classifier saw. -/
def suspectsServer (t : Tables) (page seen : Text) : Bool :=
  (Text.after? "en".toList page).isSome && t.misconfigured.contains seen

/-- Whether a classifier's code adds the region that a page declared as plain Chinese lacks. -/
def completesRegion (page seen : Text) : Bool :=
  page = "zh".toList && (Text.after? "zh-".toList seen).isSome

end Tables

end BrowserTab.Language
