import BrowserTab.Language.Resolver.Basic
import BrowserTab.Page.Declared
import BrowserTab.Page.Sniffing

/-!
# Responses

A response is a page as it arrives: bytes, a content type and headers. Its language is resolved from
the header, from the `html` tag of the decoded text, and from that text itself.
-/

namespace BrowserTab.Page

/-- A page as it arrives. -/
structure Response where
  body : Bytes
  contentType : Text
  headers : List Header

namespace Response

variable (p : Response) (decoders : Encoding.MultiByte.Decoders)

def sniffed : Sniffed :=
  sniff p.body p.contentType

def text : Text :=
  Page.text decoders p.body p.contentType

def markupLanguage? : Option Text :=
  Page.markupLanguage? (p.text decoders)

def headerLanguage? : Option Text :=
  Page.headerLanguage? p.headers

/-- Resolves the language of the page; a declaration that is missing counts as empty. -/
def resolve (r : Language.Resolver) : Language.Resolution :=
  r.resolve (p.headerLanguage?.getD []) ((p.markupLanguage? decoders).getD []) (p.text decoders)

end Response

end BrowserTab.Page
