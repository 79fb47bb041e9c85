import BrowserTab.Proofs.Page.LabelEnd
import BrowserTab.Proofs.Page.Prescan

/-!
# Declarations that are cut

The search for a `meta` tag sees only the start of a page, and where that ends, a label may end too early
and so be another one. Every other declaration that the search finds is one of the whole page. Whether the
end of the search makes the label can be told from the start of the page alone: with one more sign behind
it, which is in no label, the search finds nothing.
-/

namespace BrowserTab.Page

open Text Markup Encoding

/-- How a text ends in which an encoding is declared: the encoding is found however the text goes on, or its
label stands at the end of the text and a stray sign behind it lets nothing be found. -/
inductive DeclarationEnds (t : Text) : Prop where
  | within {e : Encoding} (settled : ∀ r, metaEncoding? (t ++ r) = some e)
  | atEnd (suffix : ∀ e ∈ metaEncoding? t, ∃ v, v <:+ t ∧ ofLabel? (trim isBlank v) = some e)
    (concat : ∀ {c}, Stray c → metaEncoding? (t ++ [c]) = none)

lemma metaEncoding?_nil : metaEncoding? [] = none :=
  metaEncoding?_eq_none rfl

lemma DeclarationEnds.of_suffix {t u : Text} (hu : u <:+ t)
    (h : ∀ r, metaEncoding? (t ++ r) = metaEncoding? (u ++ r)) (hends : DeclarationEnds u) :
    DeclarationEnds t := by
  have hnil := h []
  rw [List.append_nil, List.append_nil] at hnil
  cases hends with
  | within settled => exact .within fun r => (h r).trans (settled r)
  | atEnd suffix concat =>
    refine .atEnd (fun e he => ?_) fun hc => (h _).trans (concat hc)
    obtain ⟨v, hv, hlabel⟩ := suffix e (hnil ▸ he)
    exact ⟨v, hv.trans hu, hlabel⟩

lemma declarationEnds_of_labelEnds {t inside : Text} (hinside : inside <:+ t)
    (hfound : ∀ r, nextTag? "meta".toList (t ++ r) = some (readAttributes (inside ++ r)))
    (hlabel : LabelEnds (fun t => declaredLabel? (readAttributes t).1) inside)
    (hrest : (readAttributes inside).2 = [])
    (hconcat : ∀ {c}, Inert c → (readAttributes (inside ++ [c])).2 = []) : DeclarationEnds t := by
  have hgo (r : Text) : metaEncoding? (t ++ r) =
      ((declaredLabel? (readAttributes (inside ++ r)).1).bind ofLabel?).or
        (metaEncoding? (readAttributes (inside ++ r)).2) := metaEncoding?_of_nextTag? (hfound r)
  have hread : metaEncoding? t = (declaredLabel? (readAttributes inside).1).bind ofLabel? := by
    have h := hgo []
    rwa [List.append_nil, List.append_nil, hrest, metaEncoding?_nil, Option.or_none] at h
  have hread_concat {c : Char} (hc : Inert c) : metaEncoding? (t ++ [c]) =
      (declaredLabel? (readAttributes (inside ++ [c])).1).bind ofLabel? := by
    rw [hgo, hconcat hc, metaEncoding?_nil, Option.or_none]
  -- Behind the last tag nothing is left, so its label decides alone.
  cases hlabel with
  | @within label settled =>
    have hnil := settled []
    rw [List.append_nil] at hnil
    cases he : ofLabel? label with
    | some e => exact .within (e := e) fun r => by rw [hgo, settled, Option.bind_some, he, Option.some_or]
    | none =>
      refine .atEnd ?_ fun {c} hc => ?_
      · rw [hread, hnil, Option.bind_some, he]
        simp
      · rw [hread_concat hc.toInert, settled, Option.bind_some, he]
  | atEnd suffix concat =>
    refine .atEnd (fun e he => ?_) fun {c} hc => ?_
    · obtain ⟨label, hl, hlabel⟩ := Option.bind_eq_some_iff.mp (hread ▸ he)
      obtain ⟨v, hv, rfl⟩ := suffix label hl
      exact ⟨v, hv.trans hinside, hlabel⟩
    · rw [hread_concat hc.toInert]
      exact Option.bind_eq_none_iff.mpr fun label hl => concat hc label hl

lemma declarationEnds (t : Text) : DeclarationEnds t := by
  induction hn : t.length using Nat.strong_induction_on generalizing t with
  | h n ih =>
    subst hn
    have hmeta : ∀ c ∈ "meta".toList, c.isAlpha = true := by simp
    cases searchEnds hmeta t with
    | lacks blank concat =>
      refine .atEnd ?_ fun hc => metaEncoding?_eq_none (concat hc.toInert)
      have hnone : metaEncoding? t = none := by
        cases htag : nextTag? "meta".toList t with
        | none => exact metaEncoding?_eq_none htag
        | some tag =>
          obtain rfl := blank tag htag
          rw [metaEncoding?_of_nextTag? htag, metaEncoding?_nil]
          rfl
      simp [hnone]
    | @opens inside suffix found =>
      obtain ⟨as, has⟩ := tagEnds inside
      obtain ⟨u, hstops⟩ | ⟨hlabel, hrest, hconcat⟩ := declaredLabel?_labelEnds has
      · have hnext (r : Text) : nextTag? "meta".toList (t ++ r) = some (as, u ++ r) := by
          rw [found, hstops r]
        have hnil := hnext []
        rw [List.append_nil, List.append_nil] at hnil
        cases he : (declaredLabel? as).bind ofLabel? with
        | some e =>
          refine .within (e := e) fun r => ?_
          rw [metaEncoding?_of_nextTag? (hnext r), he, Option.some_or]
        | none =>
          -- The tag declares nothing known, so what stands behind it decides.
          have hu : u <:+ inside := by
            have h := readAttributes_suffix inside
            rwa [hstops.read_eq] at h
          refine (ih u.length (length_lt_of_nextTag? hnil) u rfl).of_suffix (hu.trans suffix) fun r => ?_
          rw [metaEncoding?_of_nextTag? (hnext r), he, Option.none_or]
      · exact declarationEnds_of_labelEnds suffix found hlabel hrest hconcat

/-! ### The start of a page -/

/-- The encoding that is found in these bytes is found only because they end where they do: with one more
byte behind them, a `!`, nothing is found. -/
def FoundByCut (window : Bytes) : Prop :=
  metaEncoding? (Encoding.Utf8.decoder.run (window ++ [0x21])).text = none

instance (window : Bytes) : Decidable (FoundByCut window) :=
  inferInstanceAs (Decidable (metaEncoding? (Encoding.Utf8.decoder.run (window ++ [0x21])).text = none))

lemma stray_exclamation : Stray '!' where
  isAlpha := by decide
  isBlank := by decide
  sign := by decide
  isLabelSign := by decide

lemma stray_replacement : Stray '\ufffd' where
  isAlpha := by decide
  isBlank := by decide
  sign := by decide
  isLabelSign := by decide

lemma foundByCut_iff {window : Bytes} :
    FoundByCut window ↔ metaEncoding? ((Encoding.Utf8.decoder.run window).text ++ ['!']) = none := by
  have hdecode : (Encoding.Utf8.decoder.run (window ++ [0x21])).text =
      (Encoding.Utf8.decoder.run window).text ++ ['!'] := by
    have h := Utf8.resume_append_cons (s := none) (by simp) window (b := 0x21) (by decide) []
    exact (congrArg Decoded.text h).trans (Utf8.text_append _ _)
  rw [FoundByCut, hdecode]

/-- The text of the first bytes of a page begins the text of the page, but for a character that is cut. -/
lemma exists_text_decode_append (window : Bytes) : ∃ o x, (x = [] ∨ x = ['\ufffd']) ∧
    (Encoding.Utf8.decoder.run window).text = o ++ x ∧
      ∀ rest, ∃ r, (Encoding.Utf8.decoder.run (window ++ rest)).text = o ++ r := by
  obtain ⟨out, next, h⟩ := Utf8.exists_resume_append none window
  have hnil := h []
  rw [List.append_nil] at hnil
  refine ⟨Decoded.text out, Decoded.text (Utf8.finish next), ?_, ?_,
    fun rest => ⟨Decoded.text (Utf8.decoder.resume next rest), ?_⟩⟩
  · cases next with
    | none => exact .inl rfl
    | some u => exact .inr rfl
  · exact (congrArg Decoded.text hnil).trans (Utf8.text_append _ _)
  · exact (congrArg Decoded.text (h rest)).trans (Utf8.text_append _ _)

section Window

variable {window : Bytes} {e : Encoding}
  (he : metaEncoding? (Encoding.Utf8.decoder.run window).text = some e)
include he

lemma metaEncoding?_decode_append (hcut : ¬FoundByCut window) (rest : Bytes) :
    metaEncoding? (Encoding.Utf8.decoder.run (window ++ rest)).text = some e := by
  obtain ⟨o, x, hx, htext, hgo⟩ := exists_text_decode_append window
  rw [foundByCut_iff, htext] at hcut
  rw [htext] at he
  obtain ⟨r, hr⟩ := hgo rest
  cases declarationEnds o with
  | within settled => rw [hr, settled r, ← settled x, he]
  | atEnd suffix concat =>
    exfalso
    rcases hx with rfl | rfl
    · rw [List.append_nil] at hcut
      exact hcut (concat stray_exclamation)
    · -- The replacement character of the cut one is a stray sign itself.
      rw [concat stray_replacement] at he
      cases he

lemma FoundByCut.exists_label (hcut : FoundByCut window) :
    ∃ label, label <:+ (Encoding.Utf8.decoder.run window).text ∧ ofLabel? (trim isBlank label) = some e := by
  rw [foundByCut_iff] at hcut
  cases declarationEnds (Encoding.Utf8.decoder.run window).text with
  | within settled =>
    rw [settled] at hcut
    cases hcut
  | atEnd suffix concat => exact suffix e he

end Window

/-- Some `meta` tag of the page declares a label of the encoding. -/
def DeclaresEncoding (body : Bytes) (e : Encoding) : Prop :=
  ∃ attributes ∈ startTags "meta".toList (Encoding.Utf8.decoder.run body).text,
    ∃ label f, Declares attributes label ∧ ofLabel? label = some f ∧ f.asMarkup = e

lemma declaresEncoding_iff {body : Bytes} {e : Encoding} : DeclaresEncoding body e ↔
    ∃ attributes ∈ startTags "meta".toList (Encoding.Utf8.decoder.run body).text,
      ((declaredLabel? attributes).bind ofLabel?).map Encoding.asMarkup = some e := by
  have hlabel (attributes : List Markup.Attribute) :
      ((declaredLabel? attributes).bind ofLabel?).map Encoding.asMarkup = some e ↔
        ∃ label f, Declares attributes label ∧ ofLabel? label = some f ∧ f.asMarkup = e := by
    simp only [Option.map_eq_some_iff, Option.bind_eq_some_iff, declaredLabel?_eq_some_iff]
    constructor
    · rintro ⟨f, ⟨label, hl, hf⟩, he⟩
      exact ⟨label, f, hl, hf, he⟩
    · rintro ⟨label, f, hl, hf, he⟩
      exact ⟨f, ⟨label, hl, hf⟩, he⟩
  simp only [hlabel, DeclaresEncoding]

instance (body : Bytes) (e : Encoding) : Decidable (DeclaresEncoding body e) :=
  decidable_of_iff _ declaresEncoding_iff.symm

lemma declaresEncoding_of_metaEncoding? {body : Bytes} {f : Encoding}
    (h : metaEncoding? (Encoding.Utf8.decoder.run body).text = some f) : DeclaresEncoding body f.asMarkup := by
  obtain ⟨attributes, hmem, hf⟩ := List.exists_of_findSome?_eq_some h
  exact declaresEncoding_iff.mpr ⟨attributes, hmem, by rw [hf, Option.map_some]⟩

lemma not_declaresEncoding {body : Bytes} (h : metaEncoding? (Encoding.Utf8.decoder.run body).text = none)
    (e : Encoding) : ¬DeclaresEncoding body e := by
  intro hdeclares
  obtain ⟨attributes, hmem, hf⟩ := declaresEncoding_iff.mp hdeclares
  rw [List.findSome?_eq_none_iff.mp h attributes hmem] at hf
  cases hf

lemma prescan?_of_sniff {body : Bytes} {contentType : Text} {e : Encoding}
    (h : sniff body contentType = ⟨e, .metaPrescan⟩) : ∃ f, prescan? body = some f ∧ f.asMarkup = e := by
  rw [sniff] at h
  split at h
  · cases h
  · split at h
    · cases h
    · split at h
      · rename_i f hf
        split_ifs at hf
        cases h
        exact ⟨f, hf, rfl⟩
      · cases h

/-- The encoding that the search settles is declared in the page if the search has seen all of it. It is
declared in all pages that begin in the same way exactly if the search has not found it by a cut; and what is
found by a cut is a label at the very end of what was searched. -/
theorem metaPrescan_declared_iff {body : Bytes} {contentType : Text} {e : Encoding}
    (h : sniff body contentType = ⟨e, .metaPrescan⟩) :
    (body.length ≤ prescanLength → DeclaresEncoding body e) ∧
      ((∀ page, page.take prescanLength = body.take prescanLength → DeclaresEncoding page e) ↔
        body.length < prescanLength ∨ ¬FoundByCut (body.take prescanLength)) ∧
      (FoundByCut (body.take prescanLength) →
        ∃ label f, label <:+ (Encoding.Utf8.decoder.run (body.take prescanLength)).text ∧
          ofLabel? (trim isBlank label) = some f ∧ f.asMarkup = e) := by
  obtain ⟨f, hf, rfl⟩ := prescan?_of_sniff h
  rw [prescan?] at hf
  have hwindow := declaresEncoding_of_metaEncoding? hf
  refine ⟨fun hle => ?_, ⟨fun hpages => ?_, ?_⟩, fun hcut => ?_⟩
  · rwa [List.take_of_length_le hle] at hwindow
  · by_contra! hnot
    obtain ⟨hle, hcut⟩ := hnot
    have htake : (body.take prescanLength ++ [0x21]).take prescanLength = body.take prescanLength := by
      have hlength : (body.take prescanLength).length = prescanLength := List.length_take_of_le hle
      nth_rewrite 1 [← hlength]
      exact List.take_left
    exact not_declaresEncoding hcut _ (hpages _ htake)
  · rintro hcut page hpage
    have hsplit := List.take_append_drop prescanLength page
    rcases hcut with hlt | hcut
    · have hall : page.length ≤ prescanLength := by
        have hlength := congrArg List.length hpage
        simp only [List.length_take] at hlength
        omega
      rwa [← hpage, List.take_of_length_le hall] at hwindow
    · rw [← hsplit, hpage]
      exact declaresEncoding_of_metaEncoding? (metaEncoding?_decode_append hf hcut _)
  · obtain ⟨label, hsuffix, hlabel⟩ := hcut.exists_label hf
    exact ⟨label, f, hsuffix, hlabel, rfl⟩

/-- A page in which the search ends inside a tag, but behind the label. -/
def unclosedPage : Bytes :=
  Utf8.encode (List.replicate 1003 ' ' ++ "<meta charset=koi8-r lang=uk>".toList)

theorem metaPrescan_declared_iff_unclosed :
    sniff unclosedPage "text/html".toList = ⟨.codePage .koi8R, .metaPrescan⟩ ∧
      prescanLength < unclosedPage.length ∧ ¬FoundByCut (unclosedPage.take prescanLength) ∧
      ∀ page, page.take prescanLength = unclosedPage.take prescanLength →
        DeclaresEncoding page (.codePage .koi8R) := by
  have hsniff : sniff unclosedPage "text/html".toList = ⟨.codePage .koi8R, .metaPrescan⟩ := by
    decide +kernel
  have hcut : ¬FoundByCut (unclosedPage.take prescanLength) := by decide +kernel
  exact ⟨hsniff, by decide +kernel, hcut, (metaPrescan_declared_iff hsniff).2.1.mpr (.inr hcut)⟩

/-- The search can end inside the label of one encoding and settle another, which no tag declares. -/
theorem not_declared_of_cut_label :
    ¬∀ (body : Bytes) (contentType : Text) (e : Encoding),
      sniff body contentType = ⟨e, .metaPrescan⟩ → DeclaresEncoding body e := by
  intro h
  have hsniff : sniff (Utf8.encode (List.replicate 1004 ' ' ++ "<meta charset=koi8-ru>".toList))
      "text/html".toList = ⟨.codePage .koi8R, .metaPrescan⟩ := by decide +kernel
  exact absurd (h _ _ _ hsniff) (by decide +kernel)

end BrowserTab.Page
