import BrowserTab.Page.Declared
import BrowserTab.Proofs.Markup.Search

/-!
# The language declared in markup

Whatever an author writes into the `html` tag of a page, and wherever the tag stands, the language read
from the page is the trimmed value of the first `lang` attribute. An attribute with nothing but blanks in
it declares no language.
-/

namespace BrowserTab.Page

open Markup

/-- The language read from a page whose first `html` tag is `tag`. -/
theorem markupLanguage?_render {before : Text} (hbefore : LacksTag "html".toList before)
    {tag : Written.Tag} (hname : Text.lower tag.name = "html".toList) (rest : Text) :
    markupLanguage? (before ++ tag.render ++ rest) =
      ((tag.valueOf? "lang".toList).map (Text.trim Text.isBlank)).filter (!·.isEmpty) := by
  have hlt : '<' ∉ "html".toList := by decide
  rw [markupLanguage?, Written.nextTag?_append_render hlt hbefore hname, Option.bind_some,
    Written.valueOf?_meaning]

/-- The tag of a page in Portuguese, with lookalikes of its `lang` attribute around it. -/
def portugueseTag : Written.Tag where
  name := "HTML".toList
  attributes :=
    [{ gap := " ".toList, name := "data-lang".toList
       assignment := some
         { value := .bare "fr".toList (by decide) (by simp [Text.isSpace]) (by simp) } },
     { gap := "\n".toList, name := "title".toList
       assignment := some { value := .quoted '"' "a>b lang=en".toList (by simp) (by simp) } },
     { gap := "/".toList, name := "Lang".toList
       assignment := some
         { before := " ".toList, after := " ".toList
           value := .quoted '\'' " pt-BR ".toList (by simp) (by simp) } },
     { gap := " ".toList, name := "lang".toList }]
  close := " /".toList
  separated := by
    refine ⟨?_, ?_, ?_, ?_, trivial⟩ <;>
      simp [Written.Attribute.isBare, Written.Value.isBare, Written.inside, Written.Attribute.render,
        Text.isSpace]

theorem markupLanguage?_render_portuguese :
    LacksTag "html".toList "<!doctype html><htmlx lang=de>".toList ∧
      Text.lower portugueseTag.name = "html".toList ∧
      portugueseTag.render =
        "<HTML data-lang=fr\ntitle=\"a>b lang=en\"/Lang = ' pt-BR ' lang />".toList ∧
      markupLanguage? ("<!doctype html><htmlx lang=de>".toList ++ portugueseTag.render ++
        "<html lang=it>".toList) = some "pt-BR".toList := by
  have hbefore : LacksTag "html".toList "<!doctype html><htmlx lang=de>".toList := by decide
  have hname : Text.lower portugueseTag.name = "html".toList := by decide
  refine ⟨hbefore, hname, by decide, ?_⟩
  rw [markupLanguage?_render hbefore hname]
  decide

/-- The tag `<html lang="">`. -/
def blankTag : Written.Tag where
  name := "html".toList
  attributes :=
    [{ gap := " ".toList, name := "lang".toList
       assignment := some { value := .quoted '"' [] (by simp) (by simp) } }]
  separated := ⟨by simp [Written.Attribute.isBare, Written.Value.isBare], trivial⟩

/-- The value of the attribute is not always what is read: an empty one is left out. -/
theorem markupLanguage?_ne_value_of_blank :
    ¬∀ (before : Text) (tag : Written.Tag) (rest : Text),
      LacksTag "html".toList before → Text.lower tag.name = "html".toList →
        markupLanguage? (before ++ tag.render ++ rest) =
          (tag.valueOf? "lang".toList).map (Text.trim Text.isBlank) := by
  intro h
  have hbefore : LacksTag "html".toList [] := by decide
  have hname : Text.lower blankTag.name = "html".toList := by decide
  have he := h [] blankTag [] hbefore hname
  rw [markupLanguage?, Written.nextTag?_append_render (by decide) hbefore hname] at he
  exact absurd he (by decide)

end BrowserTab.Page
