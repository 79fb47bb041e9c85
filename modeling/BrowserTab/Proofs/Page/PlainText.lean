import BrowserTab.Proofs.Encoding.Plain
import BrowserTab.Proofs.Page.Mark
import BrowserTab.Proofs.Page.Prescan

/-!
# Plain pages

A page in ASCII arrives as it was sent. Nearly every encoding keeps ASCII, and the few that do not are never
named by a page itself: a page that could be searched for `meta` tags is not in UTF-16, so what its tags say
of UTF-16 is taken for UTF-8. Only a server can have such a page misread.
-/

namespace BrowserTab.Page

open Encoding

lemma ofMark?_of_isPlain {body : Bytes} (hbody : ∀ b ∈ body, IsPlain b) : ofMark? body = none := by
  apply ofMark?_eq_none
  intro mark hmark hstart
  have hfirst : ∀ mark ∈ byteOrderMarks, ∃ b ∈ mark, ¬IsPlain b := by decide
  obtain ⟨b, hb, hnot⟩ := hfirst mark hmark
  exact hnot (hbody b (hstart.subset hb))

lemma encoding_sniff_notMem {body : Bytes} {contentType : Text} (hmark : ofMark? body = none)
    (hcharset : ∀ label e, HasCharset contentType label → ofLabel? label = some e → e ∉ obscuring) :
    (sniff body contentType).encoding ∉ obscuring := by
  rw [sniff, hmark]
  cases hc : (ContentType.charset? contentType).bind ofLabel? with
  | some e =>
    obtain ⟨label, hlabel, he⟩ := Option.bind_eq_some_iff.mp hc
    exact hcharset label e (charset?_eq_some_iff.mp hlabel) he
  | none =>
    simp only
    split
    · exact asMarkup_notMem _
    · simp [obscuring]

/-- A page of plain bytes arrives as it is and cleanly, whatever its `meta` tags declare, unless its content
type names an encoding that obscures ASCII. -/
theorem text_of_isPlain {decoders : MultiByte.Decoders} (hdecoders : MultiByte.KeepsPlain decoders)
    (body : Bytes) (contentType : Text) (hbody : ∀ b ∈ body, IsPlain b)
    (hcharset : ∀ label e, HasCharset contentType label → ofLabel? label = some e → e ∉ obscuring) :
    text decoders body contentType = characters body ∧ records decoders body contentType = [] := by
  have hmark := ofMark?_of_isPlain hbody
  have hdecode : decode decoders body contentType = (characters body).map some := by
    rw [decode, payload, hmark]
    exact decode_plain hdecoders (encoding_sniff_notMem hmark hcharset) hbody
  constructor
  · rw [text, hdecode, text_map_some]
  · rw [records, hdecode, malformed_map_some]
    rfl

/-- A page whose tags name UTF-16 and the replacement encoding and are cut off, from a server that names an
encoding which switches between character sets. -/
theorem text_of_isPlain_cut :
    let body := Utf8.encode
      "<meta charset=utf-16be><p>hola~<meta content='x; charset=iso-2022-kr'><meta".toList
    let type := "text/html; charset=iso-2022-jp".toList
    MultiByte.KeepsPlain MultiByte.plainDecoders ∧ (∀ b ∈ body, IsPlain b) ∧
      HasCharset type "iso-2022-jp".toList ∧ text MultiByte.plainDecoders body type = characters body ∧
      records MultiByte.plainDecoders body type = [] := by
  intro body type
  have hbody : ∀ b ∈ body, IsPlain b := by
    have hall : body.all (fun b => decide (IsPlain b)) = true := by decide +kernel
    simpa using hall
  have hname : ContentType.charset? type = some "iso-2022-jp".toList := by decide
  have hcharset : ∀ label e, HasCharset type label → ofLabel? label = some e → e ∉ obscuring := by
    intro label e hlabel he
    rw [← charset?_eq_some_iff, hname] at hlabel
    cases hlabel
    have hknown : ofLabel? "iso-2022-jp".toList = some (.multiByte .iso2022Jp) := by decide
    rw [hknown] at he
    cases he
    simp [obscuring]
  exact ⟨MultiByte.keepsPlain_plainDecoders, hbody, charset?_eq_some_iff.mp hname,
    text_of_isPlain MultiByte.keepsPlain_plainDecoders body type hbody hcharset⟩

end BrowserTab.Page
