import BrowserTab.Markup.Tag

/-!
# Declared languages

A page declares its language in two places, a header of the response and the `html` tag of its
markup. This file finds the two declarations as they are written; mending and comparing them is the
resolver's work.
-/

namespace BrowserTab.Page

/-- A header field of a response: its name and its value. -/
abbrev Header := Text × Text

/-- The value of the first `Content-Language` header, whose name is compared without the blanks
around it and without letter case. -/
def headerLanguage? (headers : List Header) : Option Text :=
  (headers.find? fun h =>
    Text.sameIgnoringCase (Text.trim Text.isBlank h.1) "content-language".toList).map (·.2)

/-- The language in the `lang` attribute of the first `html` tag, without the blanks around it; a
blank attribute declares nothing. -/
def markupLanguage? (t : Text) : Option Text :=
  (Markup.nextTag? "html".toList t).bind fun tag =>
    ((Markup.valueOf? "lang".toList tag.1).map (Text.trim Text.isBlank)).filter (!·.isEmpty)

end BrowserTab.Page
