import BrowserTab.Encoding.Decode
import BrowserTab.Encoding.Label
import BrowserTab.Journal
import BrowserTab.Markup.Tag
import BrowserTab.Page.ContentType

/-!
# Sniffing the encoding of a page

The encoding of a page is settled by the first of four witnesses that has an answer: a byte order
mark, the server's content type, a `meta` tag near the start of an HTML page, and UTF-8 by default.
The page's text is what its bytes decode to in that encoding, without the mark.
-/

namespace BrowserTab.Page

/-- The witness that settled the encoding of a page. -/
inductive Source where
  | byteOrderMark
  | contentType
  | metaPrescan
  | fallback
  deriving DecidableEq, Repr

def Source.name : Source → String
  | .byteOrderMark => "ByteOrderMark"
  | .contentType => "ContentType"
  | .metaPrescan => "MetaPrescan"
  | .fallback => "Default"

/-- The encoding of a page and the witness that settled it. -/
structure Sniffed where
  encoding : Encoding
  source : Source
  deriving DecidableEq, Repr

/-- How many bytes at the start of a page are searched for a `meta` tag. -/
def prescanLength : Nat :=
  1024

/-- The label that a `meta` tag declares: the first of its attributes that declares one decides,
be it `charset` itself or a `content` that holds a content type. -/
def declaredLabel? (attributes : List Markup.Attribute) : Option Text :=
  attributes.findSome? fun a =>
    if a.name = "charset".toList then some (Text.trim Text.isBlank a.value)
    else if a.name = "content".toList then ContentType.charset? a.value
    else none

/-- The encoding named by the first `meta` tag whose declared label is known. -/
def metaEncoding? (t : Text) : Option Encoding :=
  (Markup.startTags "meta".toList t).findSome? fun attributes =>
    (declaredLabel? attributes).bind Encoding.ofLabel?

/-- The encoding named near the start of a page, whose bytes are read as UTF-8 for the search. -/
def prescan? (body : Bytes) : Option Encoding :=
  metaEncoding? (Encoding.Utf8.decoder.run (body.take prescanLength)).text

/-- Settles the encoding of a page. -/
def sniff (body : Bytes) (contentType : Text) : Sniffed :=
  match Encoding.ofMark? body with
  | some (e, _) => ⟨e, .byteOrderMark⟩
  | none =>
    match (ContentType.charset? contentType).bind Encoding.ofLabel? with
    | some e => ⟨e, .contentType⟩
    | none =>
      match if ContentType.isHtml contentType then prescan? body else none with
      | some e => ⟨e.asMarkup, .metaPrescan⟩
      | none => ⟨.utf8, .fallback⟩

/-- The bytes of a page behind its byte order mark, if it has one. -/
def payload (body : Bytes) : Bytes :=
  match Encoding.ofMark? body with
  | some (_, rest) => rest
  | none => body

/-- The record of a page that does not decode cleanly. -/
def Sniffed.malformed (s : Sniffed) : Journal.Record :=
  ⟨.debug, .page,
    "page body had malformed " ++ s.encoding.name ++ " sequences (" ++ s.source.name ++ ")"⟩

section Decoding

variable (decoders : Encoding.MultiByte.Decoders) (body : Bytes) (contentType : Text)

/-- What the bytes of a page are read as. -/
def decode : Decoded :=
  (sniff body contentType).encoding.decode decoders (payload body)

def text : Text :=
  (decode decoders body contentType).text

def records : List Journal.Record :=
  if (decode decoders body contentType).malformed then [(sniff body contentType).malformed] else []

end Decoding

end BrowserTab.Page
