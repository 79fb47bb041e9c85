import BrowserTab.Proofs.Encoding.Utf8
import BrowserTab.Proofs.Markup.Reread
import BrowserTab.Proofs.Page.Charset

/-!
# Finding the declared encoding

The search for a `meta` tag reads the start of a page as UTF-8, whatever the bytes really are. It passes
over bytes in which no `meta` tag begins and over `meta` tags that declare nothing known, and finds the
declaration behind them. What stands behind the tag, and where the search would have ended, does not matter.
-/

namespace BrowserTab.Page

open Text Markup Encoding

lemma metaEncoding?_of_nextTag? {t u : Text} {as : List Markup.Attribute}
    (h : nextTag? "meta".toList t = some (as, u)) :
    metaEncoding? t = ((declaredLabel? as).bind ofLabel?).or (metaEncoding? u) := by
  rw [metaEncoding?, startTags_of_nextTag? h, List.findSome?_cons]
  cases (declaredLabel? as).bind ofLabel? with
  | none => rfl
  | some e => rfl

lemma metaEncoding?_eq_none {t : Text} (h : nextTag? "meta".toList t = none) : metaEncoding? t = none := by
  rw [metaEncoding?, startTags_of_nextTag?_eq_none h]
  rfl

lemma metaEncoding?_append_render {gap : Text} (hgap : LacksTag "meta".toList gap) {tag : Written.Tag}
    (hname : lower tag.name = "meta".toList) (rest : Text) :
    metaEncoding? (gap ++ tag.render ++ rest) =
      ((declaredLabel? (tag.attributes.map Written.Attribute.meaning)).bind ofLabel?).or
        (metaEncoding? rest) := by
  have hlower : lower tag.name = lower "meta".toList := hname
  exact metaEncoding?_of_nextTag? (Written.nextTag?_append_render (by decide) hgap hlower rest)

/-- The attributes of a tag whose characters stand for bytes that are read as UTF-8. -/
def rereadAttributes (tag : Written.Tag) : List Markup.Attribute :=
  tag.attributes.map fun a => ⟨lower (reread a.name), reread a.value⟩

/-- Bytes that declare no known encoding: no `meta` tag begins among them but written ones, and none of
these declares a label that is known. -/
inductive Undeclaring : Bytes → Prop where
  | gap {bs : Bytes} (lacks : LacksTag "meta".toList (characters bs)) : Undeclaring bs
  | tag {gap bs rest : Bytes} {tag : Written.Tag} (lacks : LacksTag "meta".toList (characters gap))
    (spelled : characters bs = tag.render) (name : lower tag.name = "meta".toList)
    (unknown : ∀ label, Declares (rereadAttributes tag) label → ofLabel? label = none)
    (behind : Undeclaring rest) : Undeclaring (gap ++ bs ++ rest)

lemma reread_append_render (gap : Text) (tag : Written.Tag) (rest : Text) :
    reread (gap ++ tag.render ++ rest) =
      reread gap ++ (tag.map keepsAscii_reread).render ++ reread rest := by
  have hf := keepsAscii_reread
  have hbegin : ∀ c ∈ tag.render.head?, IsAscii c := by
    rintro _ ⟨⟩
    decide
  have hend : ∀ c ∈ tag.render.getLast?, IsAscii c := by
    have hlast : tag.render = '<' :: (tag.name ++ (tag.attributes.flatMap Written.Attribute.render ++
        tag.close)) ++ ['>'] := by
      simp [Written.Tag.render, Written.inside]
    rw [hlast, List.getLast?_concat]
    rintro _ ⟨⟩
    decide
  have hne : tag.render ≠ [] := by simp [Written.Tag.render]
  rw [hf.append_of_getLast? (by rwa [List.getLast?_append_of_ne_nil _ hne]), hf.append gap hbegin,
    tag.render_map hf]

lemma metaEncoding?_decode {gap bs : Bytes} (hgap : LacksTag "meta".toList (characters gap))
    {tag : Written.Tag} (hspelled : characters bs = tag.render)
    (hname : lower tag.name = "meta".toList) (rest : Bytes) :
    metaEncoding? (Encoding.Utf8.decoder.run (gap ++ bs ++ rest)).text =
      ((declaredLabel? (rereadAttributes tag)).bind ofLabel?).or
        (metaEncoding? (Encoding.Utf8.decoder.run rest).text) := by
  have hmeta : ∀ c ∈ "meta".toList, IsAscii c := by simp [IsAscii]
  have hmap : lower (tag.map keepsAscii_reread).name = "meta".toList := by
    rw [Written.Tag.map, keepsAscii_reread.eq_self (forall_isAscii_of_lower hname hmeta), hname]
  have hattributes : (tag.map keepsAscii_reread).attributes.map Written.Attribute.meaning =
      rereadAttributes tag := by
    rw [Written.Tag.map, List.map_map]
    exact List.map_congr_left fun a _ => a.meaning_map keepsAscii_reread
  rw [← reread_characters, characters_append, characters_append, hspelled, reread_append_render,
    metaEncoding?_append_render (hgap.map keepsAscii_reread hmeta) hmap, hattributes,
    reread_characters]

lemma metaEncoding?_of_undeclaring {before bs : Bytes} (hbefore : Undeclaring before)
    {tag : Written.Tag} (hspelled : characters bs = tag.render)
    (hname : lower tag.name = "meta".toList) {label : Text}
    (hlabel : Declares (rereadAttributes tag) label) {e : Encoding} (he : ofLabel? label = some e)
    (rest : Bytes) :
    metaEncoding? (Encoding.Utf8.decoder.run (before ++ bs ++ rest)).text = some e := by
  induction hbefore with
  | gap hlacks =>
    rw [metaEncoding?_decode hlacks hspelled hname, declaredLabel?_eq_some_iff.mpr hlabel,
      Option.bind_some, he, Option.some_or]
  | tag hlacks hother hothername hunknown hbehind ih =>
    have hnone := Option.bind_eq_none_iff.mpr fun l hl =>
      hunknown l (declaredLabel?_eq_some_iff.mp hl)
    rw [List.append_assoc, List.append_assoc _ _ (bs ++ rest), ← List.append_assoc _ bs rest,
      metaEncoding?_decode hlacks hother hothername, ih, hnone, Option.none_or]

/-- The byte order marks: of UTF-8, and of UTF-16 in its two orders. -/
def byteOrderMarks : List Bytes :=
  [[0xEF, 0xBB, 0xBF], [0xFF, 0xFE], [0xFE, 0xFF]]

lemma ofMark?_eq_none {body : Bytes} (h : ∀ mark ∈ byteOrderMarks, ¬mark <+: body) :
    ofMark? body = none := by
  unfold ofMark?
  split
  · exact absurd (List.prefix_append _ _) (h [0xEF, 0xBB, 0xBF] (by simp [byteOrderMarks]))
  · exact absurd (List.prefix_append _ _) (h [0xFF, 0xFE] (by simp [byteOrderMarks]))
  · exact absurd (List.prefix_append _ _) (h [0xFE, 0xFF] (by simp [byteOrderMarks]))
  · rfl

lemma rereadAttributes_of_isAscii {tag : Written.Tag} (h : ∀ c ∈ tag.render, IsAscii c) :
    rereadAttributes tag = tag.attributes.map Written.Attribute.meaning := by
  refine List.map_congr_left fun a ha => ?_
  have hrender : ∀ c ∈ a.render, IsAscii c := fun c hc => h c (tag.render_subset_render ha hc)
  rw [keepsAscii_reread.eq_self fun c hc => hrender c (a.name_subset_render hc),
    keepsAscii_reread.eq_self fun c hc => hrender c (a.value_subset_render hc)]
  rfl

/-- The encoding that a `meta` tag declares near the start of a page is the encoding of the page. -/
theorem sniff_of_meta {before rest : Bytes} {tag : Written.Tag} {contentType label : Text}
    {e : Encoding}
    (hmark : ∀ mark ∈ byteOrderMarks, ¬mark <+: before ++ Utf8.encode tag.render ++ rest)
    (hlength : before.length + (Utf8.encode tag.render).length ≤ 1024)
    (hbefore : Undeclaring before) (hascii : ∀ c ∈ tag.render, IsAscii c)
    (hname : lower tag.name = "meta".toList)
    (hlabel : Declares (tag.attributes.map Written.Attribute.meaning) label)
    (he : ofLabel? label = some e) (hhtml : SaysHtml contentType)
    (hcharset : ∀ l, HasCharset contentType l → ofLabel? l = none) :
    sniff (before ++ Utf8.encode tag.render ++ rest) contentType = ⟨e.asMarkup, .metaPrescan⟩ := by
  have hnone : (ContentType.charset? contentType).bind ofLabel? = none :=
    Option.bind_eq_none_iff.mpr fun l hl => hcharset l (charset?_eq_some_iff.mp hl)
  -- The search may end anywhere behind the tag.
  have htake : (before ++ Utf8.encode tag.render ++ rest).take prescanLength =
      before ++ Utf8.encode tag.render ++
        rest.take (prescanLength - (before ++ Utf8.encode tag.render).length) := by
    rw [List.take_append, List.take_of_length_le]
    rwa [List.length_append]
  have hscan : prescan? (before ++ Utf8.encode tag.render ++ rest) = some e := by
    rw [prescan?, htake]
    refine metaEncoding?_of_undeclaring hbefore (characters_encode hascii) hname ?_ he _
    rwa [rereadAttributes_of_isAscii hascii]
  rw [sniff, ofMark?_eq_none hmark]
  simp only [hnone, isHtml_iff.mpr hhtml, if_true, hscan]

/-- The tag `<META title='?' charset=klingon>` between bytes that are no UTF-8; so is the one byte of its
title. -/
def klingonBytes : Bytes :=
  [0xE9, 0x20] ++ (Utf8.encode "<META title='".toList ++ [0xC3] ++ Utf8.encode "' charset=klingon>".toList)
    ++ [0xF0, 0x9F, 0x3C]

lemma undeclaring_klingonBytes : Undeclaring klingonBytes := by
  let tag : Written.Tag :=
    { name := "META".toList
      attributes :=
        [{ gap := " ".toList, name := "title".toList
           assignment := some { value := .quoted '\'' [Char.ofNat 0xC3] (by simp) (by decide) } },
         { gap := " ".toList, name := "charset".toList
           assignment := some
             { value := .bare "klingon".toList (by decide) (by simp [isSpace]) (by simp) } }]
      separated := by
        refine ⟨?_, ?_, trivial⟩ <;>
          simp [Written.Attribute.isBare, Written.Value.isBare, Written.inside,
            Written.Attribute.render, isSpace] }
  have hspelled : characters (Utf8.encode "<META title='".toList ++ [0xC3] ++
      Utf8.encode "' charset=klingon>".toList) = tag.render := by decide
  have hlabel : declaredLabel? (rereadAttributes tag) = some "klingon".toList := by decide
  refine .tag (by decide) hspelled (by decide) ?_ (.gap (by decide))
  intro label h
  rw [← declaredLabel?_eq_some_iff, hlabel] at h
  cases h
  decide

/-- Behind a tag that declares nothing known stands one with two labels, of which the first one is in a
content type. -/
theorem sniff_of_meta_russian :
    let tag : Written.Tag :=
      { name := "meta".toList
        attributes :=
          [{ gap := " ".toList, name := "Content".toList
             assignment := some
               { before := " ".toList
                 value := .quoted '"' "text/html; charset = 'koi8-r'".toList (by simp) (by simp) } },
           { gap := "\n".toList, name := "charset".toList
             assignment := some
               { value := .bare "utf-8".toList (by decide) (by simp [isSpace]) (by simp) } }]
        close := " /".toList
        separated := by
          refine ⟨?_, ?_, trivial⟩ <;>
            simp [Written.Attribute.isBare, Written.Value.isBare, Written.inside,
              Written.Attribute.render, isSpace] }
    let body := klingonBytes ++ Utf8.encode tag.render ++
      (Utf8.encode "<meta charset=big5>".toList ++ [0xFF])
    let type := " Text/HTML; charset=x".toList
    tag.render =
        "<meta Content =\"text/html; charset = 'koi8-r'\"\ncharset=utf-8 />".toList ∧
      (∀ mark ∈ byteOrderMarks, ¬mark <+: body) ∧
      klingonBytes.length + (Utf8.encode tag.render).length ≤ 1024 ∧
      Undeclaring klingonBytes ∧
      Declares (tag.attributes.map Written.Attribute.meaning) "koi8-r".toList ∧
      SaysHtml type ∧ HasCharset type "x".toList ∧ ofLabel? "x".toList = none ∧
      sniff body type = ⟨.codePage .koi8R, .metaPrescan⟩ := by
  intro tag body type
  have hrender : tag.render =
    "<meta Content =\"text/html; charset = 'koi8-r'\"\ncharset=utf-8 />".toList := by decide
  have hmark : ∀ mark ∈ byteOrderMarks, ¬mark <+: body := by decide
  have hlength : klingonBytes.length + (Utf8.encode tag.render).length ≤ 1024 := by decide
  have hascii : ∀ c ∈ tag.render, IsAscii c := by
    have hall : tag.render.all (fun c => decide (IsAscii c)) = true := by decide
    simpa using hall
  have hname : lower tag.name = "meta".toList := by decide
  have hlabel := declaredLabel?_eq_some_iff.mp
    (show declaredLabel? (tag.attributes.map Written.Attribute.meaning) =
      some "koi8-r".toList by decide)
  have he : ofLabel? "koi8-r".toList = some (.codePage .koi8R) := by decide
  have hhtml : SaysHtml type := isHtml_iff.mp (by decide)
  have hx : ContentType.charset? type = some "x".toList := by decide
  have hunknown : ofLabel? "x".toList = none := by decide
  have hcharset : ∀ l, HasCharset type l → ofLabel? l = none := by
    intro l hl
    rw [← charset?_eq_some_iff, hx] at hl
    cases hl
    exact hunknown
  exact ⟨hrender, hmark, hlength, undeclaring_klingonBytes, hlabel, hhtml,
    charset?_eq_some_iff.mp hx, hunknown,
    sniff_of_meta hmark hlength undeclaring_klingonBytes hascii hname hlabel he hhtml hcharset⟩

end BrowserTab.Page
