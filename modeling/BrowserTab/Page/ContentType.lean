import BrowserTab.Text.Value

/-!
# Content types

What a server says a page is: a media type, then parameters behind semicolons. Two facts are read
from it, the character set it names and whether the page may be HTML.
-/

namespace BrowserTab.Page.ContentType

/-- Whether a character ends a bare parameter value. -/
def endsValue (c : Char) : Bool :=
  c = ';' || Text.isSpace c

/-- The label assigned at the start of a text: an equals sign and a value that is not blank. -/
def assigned? (t : Text) : Option Text :=
  match t.dropWhile Text.isBlank with
  | '=' :: u =>
    let label := Text.trim Text.isBlank (Text.readValue endsValue (u.dropWhile Text.isBlank)).1
    if label.isEmpty then none else some label
  | _ => none

/-- The word behind which a label is assigned. -/
def parameter : Text :=
  "charset".toList

/-- The label of the first `charset` in a text that is assigned one. The word counts wherever it
stands, also at the end of a longer name. -/
def charset? : Text → Option Text
  | [] => none
  | c :: t =>
    match (Text.after? parameter (c :: t)).bind assigned? with
    | some label => some label
    | none => charset? t

/-- The media type alone, in lower case. -/
def essence (contentType : Text) : Text :=
  Text.lower (Text.trim Text.isBlank (contentType.takeWhile (· ≠ ';')))

/-- Whether the page may be HTML: the media type says so or says nothing. -/
def isHtml (contentType : Text) : Bool :=
  ["", "text/html", "application/xhtml+xml"].contains (String.ofList (essence contentType))

end BrowserTab.Page.ContentType
