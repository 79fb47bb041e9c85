import BrowserTab.Fault
import BrowserTab.Language.Tables.Basic

/-!
# Defects of language tables

Tables are sound if every mapping yields a code, no mapping yields a code that is mapped again, and
every other entry has the form it needs. Tables with a defect are refused. One defect is reported:
mappings are looked at one by one first, then against each other, and then the other lists.
-/

namespace BrowserTab.Language

/-- A mapping as a message quotes it. -/
def Mapping.quote (m : Mapping) : String :=
  "target `" ++ String.ofList m.target ++ "` for `" ++ String.ofList m.source ++ "`"

namespace Tables

/-- What can be wrong with an entry of the tables. -/
inductive Defect where
  | emptySource
  | invalidTarget (m : Mapping)
  | similitudeMappedAgain (m : Mapping)
  | regionInSynonym (m : Mapping)
  | synonymMappedAgain (m : Mapping)
  | emptyMember
  | zeroGroup (code : Text)
  | invalidMisconfigured (code : Text)
  deriving DecidableEq, Repr

/-- What a defect says to people. -/
def Defect.message : Defect → String
  | .emptySource => "synonym source code must not be empty"
  | .invalidTarget m => "synonym " ++ m.quote ++ " is not a valid language code"
  | .similitudeMappedAgain m => "similitude " ++ m.quote ++ " is itself mapped again"
  | .regionInSynonym m => "synonym " ++ m.quote ++ " must be a bare primary tag"
  | .synonymMappedAgain m => "synonym " ++ m.quote ++ " is itself mapped again"
  | .emptyMember => "similar-language entry has an empty code"
  | .zeroGroup code => "similar-language group for `" ++ String.ofList code ++ "` must be nonzero"
  | .invalidMisconfigured code =>
    "misconfiguration entry `" ++ String.ofList code ++ "` is not a valid language code"

def Defect.fault (d : Defect) : Fault :=
  ⟨"language.tables_invalid", d.message⟩

/-- Whether a code is the source of a mapping. -/
def isSource (mappings : List Mapping) (code : Text) : Bool :=
  mappings.any (·.source = code)

/-- The defect of a mapping by itself. -/
def mappingDefect? (m : Mapping) : Option Defect :=
  if m.source.isEmpty then some .emptySource
  else if Code.isValid m.target then none
  else some (.invalidTarget m)

/-- The defect of a whole-code mapping whose target is replaced in its turn. -/
def similitudeDefect? (t : Tables) (m : Mapping) : Option Defect :=
  if isSource t.similitudes m.target || isSource t.synonyms (Code.main m.target) then
    some (.similitudeMappedAgain m)
  else none

/-- The defect of a primary-tag mapping whose target has a region or is replaced in its turn, be it
as a primary tag or together with some region. -/
def synonymDefect? (t : Tables) (m : Mapping) : Option Defect :=
  if m.target.contains '-' then some (.regionInSynonym m)
  else if isSource t.synonyms m.target || t.similitudes.any (Code.main ·.source = m.target) then
    some (.synonymMappedAgain m)
  else none

/-- The defect of a member of a group. -/
def memberDefect? (m : Membership) : Option Defect :=
  if m.code.isEmpty then some .emptyMember
  else if m.group = 0 then some (.zeroGroup m.code)
  else none

/-- The defect of a language in the list of misdeclared ones. -/
def misconfiguredDefect? (code : Text) : Option Defect :=
  if Code.isValid code then none else some (.invalidMisconfigured code)

/-- The first defect of the tables, if they have one. -/
def defect? (t : Tables) : Option Defect :=
  ((t.similitudes ++ t.synonyms).findSome? mappingDefect?)
    |>.or (t.similitudes.findSome? t.similitudeDefect?)
    |>.or (t.synonyms.findSome? t.synonymDefect?)
    |>.or (t.groups.findSome? memberDefect?)
    |>.or (t.misconfigured.findSome? misconfiguredDefect?)

/-- The tables a browser starts with are sound. -/
theorem defect?_standard : standard.defect? = none := by
  decide

end Tables

end BrowserTab.Language
