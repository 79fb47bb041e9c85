import BrowserTab.Page.Response
import BrowserTab.Proofs.Encoding.RoundTrip

/-!
# Pages behind a byte order mark

A text sent behind a byte order mark arrives as it was sent. The mark overrules the content type and every
declaration in the text, and nothing but that one mark is taken away. So it makes no difference to the
language of a page which of the three marked encodings it came in.
-/

namespace BrowserTab.Page

open Encoding

/-- An encoding that has a byte order mark. -/
inductive MarkedEncoding where
  | utf8
  | utf16 (order : ByteOrder)

namespace MarkedEncoding

def encoding : MarkedEncoding → Encoding
  | utf8 => .utf8
  | utf16 order => .utf16 order

def mark : MarkedEncoding → Bytes
  | utf8 => [0xEF, 0xBB, 0xBF]
  | utf16 .little => [0xFF, 0xFE]
  | utf16 .big => [0xFE, 0xFF]

def encode : MarkedEncoding → Text → Bytes
  | utf8 => Utf8.encode
  | utf16 order => Utf16.encode order

/-- A text as it is sent, behind the mark. -/
def deliver (m : MarkedEncoding) (t : Text) : Bytes :=
  m.mark ++ m.encode t

variable (decoders : MultiByte.Decoders) (m : MarkedEncoding)

lemma decode_encode (t : Text) : m.encoding.decode decoders (m.encode t) = t.map some := by
  cases m with
  | utf8 => exact Utf8.run_encode t
  | utf16 order => exact Utf16.run_encode order t

lemma ofMark?_append (bs : Bytes) : ofMark? (m.mark ++ bs) = some (m.encoding, bs) := by
  rcases m with _ | _ | _ <;> rfl

lemma decode_deliver (t contentType : Text) :
    decode decoders (m.deliver t) contentType = t.map some := by
  have hmark : ofMark? (m.deliver t) = some (m.encoding, m.encode t) := m.ofMark?_append _
  rw [decode, sniff, payload, hmark]
  exact m.decode_encode decoders t

end MarkedEncoding

lemma text_map_some (t : Text) : Decoded.text (t.map some) = t := by
  simp [Decoded.text]

lemma malformed_map_some (t : Text) : Decoded.malformed (t.map some) = false := by
  simp [Decoded.malformed]

/-- A text behind a byte order mark arrives as it was, cleanly, whatever the content type says; and its
language is resolved in the same way from each of the marked encodings. -/
theorem text_deliver (decoders : MultiByte.Decoders) (m n : MarkedEncoding)
    (t contentType contentType' : Text) (r : Language.Resolver) (headers : List Header) :
    text decoders (m.deliver t) contentType = t ∧ records decoders (m.deliver t) contentType = [] ∧
      (Response.mk (m.deliver t) contentType headers).resolve decoders r =
        (Response.mk (n.deliver t) contentType' headers).resolve decoders r := by
  have htext (m : MarkedEncoding) (contentType : Text) :
      text decoders (m.deliver t) contentType = t := by
    rw [text, m.decode_deliver, text_map_some]
  refine ⟨htext m contentType, ?_, ?_⟩
  · rw [records, m.decode_deliver, malformed_map_some]
    rfl
  · have hm : (Response.mk (m.deliver t) contentType headers).text decoders = t :=
      htext m contentType
    have hn : (Response.mk (n.deliver t) contentType' headers).text decoders = t :=
      htext n contentType'
    simp only [Response.resolve, Response.markupLanguage?, hm, hn]
    rfl

end BrowserTab.Page
