import BrowserTab.Page.Response
import BrowserTab.Proofs.Markup.Sliced
import BrowserTab.Proofs.Page.LabelEnd
import BrowserTab.Proofs.Page.Prescan

/-!
# Reading a page by offsets

The encoding, the text and the declared language of a page, read by byte offsets, where each reader may ask for
bytes or places that are not there and then fails. None ever does, whatever the bytes, the content type and the
markup are; and what is read is what the readers by characters give.
-/

namespace BrowserTab.Page

open Text Markup Encoding.Utf8

namespace Sliced

def assigned (t : Text) : Option (Option Text) :=
  match t.dropWhile isBlank with
  | '=' :: u =>
    (Text.Sliced.readValue ContentType.endsValue (u.dropWhile isBlank)).map fun (value, _) =>
      let label := trim isBlank value
      if label.isEmpty then none else some label
  | _ => some none

/-- The label of the first `charset` that is assigned one, with the offsets at which the word was found. -/
def charset (t : Text) : Option (List Nat × Option Text) :=
  search ContentType.parameter (by decide) (fun u => (assigned u).map fun label => (label, 0)) t 0

lemma assigned_eq (t : Text) : assigned t = some (ContentType.assigned? t) := by
  unfold assigned ContentType.assigned?
  cases t.dropWhile isBlank with
  | nil => rfl
  | cons c u =>
    by_cases hc : c = '='
    · subst hc
      exact congrArg (Option.map _) (Text.Sliced.readValue_eq ContentType.endsValue (u.dropWhile isBlank))
    · simp [hc]

/-- No `charset` begins within the word, so it makes no difference that a search by characters goes on in the
midst of it. -/
lemma finds_charset? : Finds ContentType.parameter (fun u => (ContentType.assigned? u, u)) ContentType.charset? := by
  have hskip {c : Char} {t : Text} (h : ¬ContentType.parameter <+: lower (c :: t)) :
      ContentType.charset? (c :: t) = ContentType.charset? t := by
    rw [charset?_cons, (after?_eq_none_iff lower_parameter).mpr h, Option.bind_none, Option.none_or]
  refine ⟨rfl, hskip, ?_⟩
  intro x u hx
  obtain ⟨c, y, rfl, -, hy⟩ := List.map_eq_cons_iff.mp (hx.trans parameter_eq)
  have hafter : after? ContentType.parameter (c :: (y ++ u)) = some u :=
    after?_eq_some_iff.mpr ⟨c :: y, rfl, hx.trans lower_parameter.symm⟩
  have hlacks : 'c' ∉ lower y := by
    rw [lower, hy]
    decide
  have hbehind : ContentType.charset? (y ++ u) = ContentType.charset? u :=
    eq_of_lacksWord hskip (parameter_eq ▸ lacksWord_of_notMem hlacks u)
  rw [List.cons_append, charset?_cons, hafter, Option.bind_some, hbehind]

lemma charset_spec (t : Text) : ∃ found, charset t = some (found, ContentType.charset? t) ∧
    Places ContentType.parameter t 0 found := by
  have hread (u : Text) : ∃ v, u = v ++ (ContentType.assigned? u, u).2 ∧
      (assigned u).map (fun label => (label, 0)) = some ((ContentType.assigned? u, u).1, size v) :=
    ⟨[], rfl, by rw [assigned_eq]; rfl⟩
  obtain ⟨found, result, hsearch, hplaces, hF⟩ := search_spec (List.cons_ne_nil _ _) hread [] t
  obtain rfl := hF _ finds_charset?
  exact ⟨found, hsearch, hplaces⟩

def label (a : Attribute) : Option (Option Text) :=
  if a.name = "charset".toList then some (some (trim isBlank a.value))
  else if a.name = "content".toList then (charset a.value).map (·.2)
  else some none

def declaredLabel : List Attribute → Option (Option Text)
  | [] => some none
  | a :: as => (label a).bind fun
    | some l => some (some l)
    | none => declaredLabel as

lemma label_eq (a : Attribute) : label a = some (labelOf? a) := by
  unfold label labelOf?
  split_ifs
  · rfl
  · obtain ⟨found, h, -⟩ := charset_spec a.value
    rw [h, Option.map_some]
  · rfl

lemma declaredLabel_eq (as : List Attribute) : declaredLabel as = some (declaredLabel? as) := by
  rw [declaredLabel?_eq]
  induction as with
  | nil => rfl
  | cons a as ih =>
    rw [declaredLabel, label_eq, Option.bind_some, List.findSome?_cons]
    cases labelOf? a with
    | none => exact ih
    | some l => rfl

def metaEncoding (t : Text) : Option (Option Encoding) :=
  (Markup.Sliced.searchTags "meta".toList (fun as => (declaredLabel as).map (·.bind Encoding.ofLabel?)) t).map (·.2)

/-- The bytes of a page in front of an offset and behind it. -/
def cutBytes? (body : Bytes) (n : Nat) : Option (Bytes × Bytes) :=
  if n ≤ body.length then some (body.splitAt n) else none

def prescan (body : Bytes) : Option (Option Encoding) :=
  (cutBytes? body (min body.length prescanLength)).bind fun (head, _) =>
    metaEncoding (Encoding.Utf8.decoder.run head).text

/-- The length of the byte order mark of an encoding. -/
def markLength : Encoding → Nat
  | .utf8 => 3
  | .utf16 _ => 2
  | _ => 0

/-- The encoding that a byte order mark names, and the length of the mark. -/
def mark? (body : Bytes) : Option (Encoding × Nat) :=
  (Encoding.ofMark? body).map fun (e, _) => (e, markLength e)

def sniff (body : Bytes) (contentType : Text) : Option Sniffed :=
  match mark? body with
  | some (e, _) => some ⟨e, .byteOrderMark⟩
  | none =>
    (charset contentType).bind fun (_, label) =>
      match label.bind Encoding.ofLabel? with
      | some e => some ⟨e, .contentType⟩
      | none =>
        (if ContentType.isHtml contentType then prescan body else some none).map fun
          | some e => ⟨e.asMarkup, .metaPrescan⟩
          | none => ⟨.utf8, .fallback⟩

def text (decoders : Encoding.MultiByte.Decoders) (body : Bytes) (contentType : Text) : Option Text :=
  (sniff body contentType).bind fun s =>
    let start := if s.source = .byteOrderMark then ((mark? body).map (·.2)).getD 0 else 0
    (cutBytes? body start).map fun (_, payload) => (s.encoding.decode decoders payload).text

def markupLanguage (t : Text) : Option (Option Text) :=
  (Markup.Sliced.searchTags "html".toList (fun as => some (some as)) t).map fun (_, tag) =>
    tag.bind fun as => ((valueOf? "lang".toList as).map (trim isBlank)).filter (!·.isEmpty)

lemma metaEncoding_eq (t : Text) : metaEncoding t = some (metaEncoding? t) := by
  have huse (as : List Attribute) : (declaredLabel as).map (·.bind Encoding.ofLabel?) =
      some ((declaredLabel? as).bind Encoding.ofLabel?) := by
    rw [declaredLabel_eq, Option.map_some]
  obtain ⟨found, result, hsearch, -, hresult⟩ := Markup.Sliced.searchTags_spec huse "meta".toList t
  rw [metaEncoding, hsearch, hresult (by decide) (by decide)]
  rfl

lemma cutBytes?_of_le {body : Bytes} {n : Nat} (h : n ≤ body.length) :
    cutBytes? body n = some (body.take n, body.drop n) := by
  rw [cutBytes?, if_pos h, List.splitAt_eq]

lemma prescan_eq (body : Bytes) : prescan body = some (prescan? body) := by
  have htake : body.take (min body.length prescanLength) = body.take prescanLength := by
    rw [List.take_eq_take_iff]
    omega
  rw [prescan, cutBytes?_of_le (Nat.min_le_left _ _), Option.bind_some]
  exact (metaEncoding_eq _).trans (by rw [htake, prescan?])

lemma drop_markLength {body rest : Bytes} {e : Encoding} (h : Encoding.ofMark? body = some (e, rest)) :
    markLength e ≤ body.length ∧ body.drop (markLength e) = rest := by
  unfold Encoding.ofMark? at h
  split at h <;> cases h
  all_goals exact ⟨by simp [markLength], rfl⟩

lemma sniff_eq (body : Bytes) (contentType : Text) :
    sniff body contentType = some (Page.sniff body contentType) := by
  obtain ⟨found, hcharset, -⟩ := charset_spec contentType
  unfold sniff Page.sniff mark?
  cases Encoding.ofMark? body with
  | some m => rfl
  | none =>
    rw [Option.map_none, hcharset]
    dsimp only
    rw [Option.bind_some]
    cases (ContentType.charset? contentType).bind Encoding.ofLabel? with
    | some e => rfl
    | none =>
      have hprescan : (if ContentType.isHtml contentType then prescan body else some none) =
          some (if ContentType.isHtml contentType then prescan? body else none) := by
        split
        · exact prescan_eq body
        · rfl
      dsimp only
      rw [hprescan]
      cases if ContentType.isHtml contentType then prescan? body else none <;> rfl

lemma source_sniff_eq_byteOrderMark_iff {body : Bytes} {contentType : Text} :
    (Page.sniff body contentType).source = .byteOrderMark ↔ (Encoding.ofMark? body).isSome := by
  unfold Page.sniff
  cases Encoding.ofMark? body with
  | some m => simp
  | none =>
    cases (ContentType.charset? contentType).bind Encoding.ofLabel? with
    | some e => simp
    | none =>
      dsimp only
      split <;> simp

lemma text_eq (decoders : Encoding.MultiByte.Decoders) (body : Bytes) (contentType : Text) :
    text decoders body contentType = some (Page.text decoders body contentType) := by
  rw [text, sniff_eq, Option.bind_some]
  dsimp only
  rw [Page.text, decode, payload, mark?]
  simp only [source_sniff_eq_byteOrderMark_iff]
  cases hmark : Encoding.ofMark? body with
  | none => simp [cutBytes?]
  | some m =>
    obtain ⟨e, rest⟩ := m
    obtain ⟨hle, hdrop⟩ := drop_markLength hmark
    simp [cutBytes?_of_le hle, hdrop]

lemma markupLanguage_eq (t : Text) : markupLanguage t = some (markupLanguage? t) := by
  obtain ⟨found, result, hsearch, -, hresult⟩ := Markup.Sliced.searchTags_spec (fun _ => rfl) "html".toList t
  have hfirst : (startTags "html".toList t).findSome? some = (nextTag? "html".toList t).map (·.1) := by
    cases htag : nextTag? "html".toList t with
    | none =>
      rw [startTags_of_nextTag?_eq_none htag]
      rfl
    | some tag =>
      rw [startTags_of_nextTag? htag]
      rfl
  rw [markupLanguage, hsearch, Option.map_some, hresult (by decide) (by decide), hfirst, markupLanguage?]
  dsimp only
  rw [Option.bind_map]
  rfl

end Sliced

/-- No page and no content type can make the readers ask for what is not there, or keep them from coming to an
end. A text can be cut at its end and in front of a byte that begins a character; the encoding of a page, its
text and the language of its markup are read without a cut elsewhere, and are what reading by characters gives.
The offsets found in the lower-case copy of a content type or of markup are places of the original and increase,
at most one for each byte. Each attribute takes at least a byte, and all those of a tag take the text up to a
place of it, its end or one behind a `>`. -/
theorem sliced_eq_some (decoders : Encoding.MultiByte.Decoders) (body : Bytes) (contentType html : Text) :
    (∀ t n, (cut? t n).isSome ↔ n = size t ∨ ∃ b ∈ (encode t)[n]?, ¬Continues b) ∧
    Sliced.sniff body contentType = some (sniff body contentType) ∧
    Sliced.text decoders body contentType = some (text decoders body contentType) ∧
    Sliced.markupLanguage html = some (markupLanguage? html) ∧
    (∀ t, ∃ found, Sliced.charset t = some (found, ContentType.charset? t) ∧
      Places ContentType.parameter t 0 found ∧ found.length ≤ size t) ∧
    (∀ (name : Text) (use : List Attribute → Option Text) (t : Text), ∃ found result,
      Markup.Sliced.searchTags name (fun as => some (use as)) t = some (found, result) ∧
      Places ('<' :: name) t 0 found ∧ found.length ≤ size t) ∧
    (∀ t, ∀ read ∈ Markup.Sliced.readAttribute t, size read.2 < size t) ∧
    (∀ t, ∃ consumed, Markup.Sliced.readAttributes t = some ((readAttributes t).1, consumed) ∧
      Markup.Sliced.Takes t (readAttributes t).1 consumed) := by
  refine ⟨fun t n => ?_, Sliced.sniff_eq body contentType, Sliced.text_eq decoders body contentType,
    Sliced.markupLanguage_eq html, fun t => ?_, fun name use t => ?_, fun t read hread => ?_, fun t => ?_⟩
  · rw [isSome_cut?_iff, isBoundary_iff]
  · obtain ⟨found, hfound, hplaces⟩ := Sliced.charset_spec t
    exact ⟨found, hfound, hplaces, hplaces.length_le (by decide)⟩
  · obtain ⟨found, result, hsearch, hplaces, -⟩ :=
      Markup.Sliced.searchTags_spec (fun as => (rfl : some (use as) = some (use as))) name t
    exact ⟨found, result, hsearch, hplaces, hplaces.length_le (List.cons_ne_nil '<' name)⟩
  · exact Markup.Sliced.size_readAttribute_lt hread
  · obtain ⟨a, -, hread, htakes⟩ := Markup.Sliced.readAttributes_spec t
    exact ⟨size a, hread, htakes⟩

end BrowserTab.Page
