import BrowserTab.Proofs.Encoding.Label
import BrowserTab.Proofs.Page.Prescan

/-!
# Character sets in headers

A server names the character set of a page behind the word `charset` in its content type. However the word
and the label are spelled, with quotes and spaces or without, the encoding of the label is that of the page.
Nothing in the page counts against it but a byte order mark.
-/

namespace BrowserTab.Page

open Text Encoding

/-- A text without the word `charset` puts none in front of one that follows: the two would overlap, and
the first letter of the word is in no other place in it. -/
lemma not_namesCharset_drop {before word u : Text} (hbefore : ¬"charset".toList <:+: lower before)
    (hword : lower word = "charset".toList) {j : Nat} (hj : j < before.length) (label : Text) :
    ¬NamesCharset ((before ++ (word ++ u)).drop j) label := by
  rintro ⟨w, v, ht, hw, -⟩
  rw [List.drop_append_of_le_length (Nat.le_of_lt hj)] at ht
  -- Of the text in front, `w` takes all that there is or ends within it.
  have hwithin (x : Text) (hx : before.drop j = w ++ x) : False := by
    have hinfix : w <:+: before :=
      (List.prefix_append w x).isInfix.trans (hx ▸ (List.drop_suffix j before).isInfix)
    exact hbefore (hw ▸ hinfix.map Char.toLower)
  obtain ⟨x, rfl, hx⟩ | ⟨x, hx, -⟩ := List.append_eq_append_iff.mp ht
  · have hletters : "charset".toList = 'c' :: "harset".toList := by decide
    obtain ⟨d, y, hy⟩ := List.exists_cons_of_ne_nil (mt List.drop_eq_nil_iff.mp (Nat.not_le_of_lt hj))
    obtain ⟨c, word, rfl, hc, -⟩ := List.map_eq_cons_iff.mp (hword.trans hletters)
    cases x with
    | nil => exact hwithin [] (by simp)
    | cons a x =>
      obtain ⟨rfl, -⟩ := List.cons.inj hx
      rw [hy, hletters, List.cons_append, lower, List.map_cons, List.map_append, List.map_cons, hc] at hw
      have hmem : 'c' ∈ "harset".toList := by
        rw [← List.tail_eq_of_cons_eq hw]
        simp
      exact absurd hmem (by decide)
  · exact hwithin x hx

lemma hasCharset_append {before word u label : Text} (hbefore : ¬"charset".toList <:+: lower before)
    (hword : lower word = "charset".toList) (hu : Assigns u label) :
    HasCharset (before ++ (word ++ u)) label := by
  refine ⟨before.length, ?_, fun j hj => not_namesCharset_drop hbefore hword hj⟩
  rw [List.drop_left]
  exact ⟨word, u, rfl, hword, hu⟩

/-! ### Spelled labels -/

/-- A label as it is spelled in front of the rest of a content type: bare, if what follows ends it, or
between quotes and perhaps spaces. -/
inductive Spelling (label : Text) : Text → Text → Prop where
  | bare {behind : Text} (ends : ∀ c ∈ behind.head?, c = ';' ∨ isSpace c = true) :
    Spelling label label behind
  | quoted {q : Char} {a b : Text} (behind : Text) (quote : q = '"' ∨ q = '\'')
    (left : ∀ c ∈ a, isSpace c = true) (right : ∀ c ∈ b, isSpace c = true) :
    Spelling label (q :: (a ++ label ++ b ++ [q])) behind

lemma holdsValue_of_isLabelSign {word u : Text} (hne : word ≠ [])
    (hsigns : ∀ c ∈ word, isLabelSign c = true) (hu : ∀ c ∈ u.head?, c = ';' ∨ isSpace c = true) :
    HoldsValue (word ++ u) word := by
  have hsign {c d : Char} (hc : isLabelSign c = true) (hd : isLabelSign d = false) : c ≠ d := by
    rintro rfl
    exact absurd (hc.symm.trans hd) (by decide)
  refine .bare (fun c hc => ⟨hsign (hsigns c hc) rfl, ?_⟩) (fun c hc => ?_) hu
  · exact Bool.eq_false_iff.mpr fun hs => absurd (isBlank_of_isSpace hs)
      (Bool.eq_false_iff.mp (isBlank_eq_false_of_isLabelSign (hsigns c hc)))
  · rw [List.head?_append_of_ne_nil _ hne] at hc
    have hc' := hsigns c (List.mem_of_head? hc)
    exact ⟨hsign hc' rfl, hsign hc' rfl⟩

lemma trim_padded {a word b : Text} (ha : ∀ c ∈ a, isBlank c = true)
    (hsigns : ∀ c ∈ word, isLabelSign c = true) (hb : ∀ c ∈ b, isBlank c = true) :
    trim isBlank (a ++ word ++ b) = word := by
  refine trim_eq_iff.mpr ⟨⟨fun c hc => ?_, fun c hc => ?_⟩, a, b, rfl, ha, hb⟩
  · exact isBlank_eq_false_of_isLabelSign (hsigns c (List.mem_of_head? hc))
  · exact isBlank_eq_false_of_isLabelSign (hsigns c (List.mem_of_getLast? hc))

lemma Spelling.assigns {label gap gap' value behind : Text} {e : Encoding}
    (he : ofLabel? label = some e) (hgap : ∀ c ∈ gap, isSpace c = true)
    (hgap' : ∀ c ∈ gap', isSpace c = true) (hvalue : Spelling label value behind) :
    Assigns (gap ++ '=' :: (gap' ++ (value ++ behind))) (trim isSpace label) := by
  obtain ⟨hne, hsigns⟩ := isLabelSign_of_ofLabel? he
  obtain ⟨-, a, b, hlabel, ha, hb⟩ := trim_eq_iff.mp (rfl : trim isSpace label = trim isSpace label)
  have hblank {t : Text} (ht : ∀ c ∈ t, isSpace c = true) : ∀ c ∈ t, isBlank c = true :=
    fun c hc => isBlank_of_isSpace (ht c hc)
  generalize trim isSpace label = word at hlabel hne hsigns ⊢
  cases hvalue with
  | bare ends =>
    -- Spaces in front of the word are skipped with those behind the equals sign; one behind it ends it.
    have hends : ∀ c ∈ (b ++ behind).head?, c = ';' ∨ isSpace c = true := by
      cases b with
      | nil => exact ends
      | cons d b =>
        rintro _ ⟨⟩
        exact .inr (hb d List.mem_cons_self)
    refine ⟨gap, gap' ++ a, word ++ (b ++ behind), word, ?_, hblank hgap, ?_, ?_,
      holdsValue_of_isLabelSign hne hsigns hends, ?_, hne⟩
    · rw [hlabel]
      simp
    · exact List.forall_mem_append.mpr ⟨hblank hgap', hblank ha⟩
    · intro c hc
      rw [List.head?_append_of_ne_nil _ hne] at hc
      exact isBlank_eq_false_of_isLabelSign (hsigns c (List.mem_of_head? hc))
    · simpa using trim_padded (a := []) (b := []) (by simp) hsigns (by simp)
  | @quoted q x y behind quote left right =>
    have hpad : x ++ label ++ y = (x ++ a) ++ word ++ (b ++ y) := by
      rw [hlabel]
      simp
    have hinside : q ∉ x ++ label ++ y := by
      have hplain : ∀ c ∈ x ++ label ++ y, isSpace c = true ∨ isLabelSign c = true := by
        rw [hpad]
        simp only [List.forall_mem_append]
        exact ⟨⟨⟨fun c hc => .inl (left c hc), fun c hc => .inl (ha c hc)⟩,
          fun c hc => .inr (hsigns c hc)⟩, fun c hc => .inl (hb c hc), fun c hc => .inl (right c hc)⟩
      intro hq
      have hmark := hplain q hq
      rcases quote with rfl | rfl <;> exact absurd hmark (by decide)
    refine ⟨gap, gap', q :: (x ++ label ++ y ++ q :: behind), x ++ label ++ y, ?_, hblank hgap,
      hblank hgap', ?_, .closed behind quote hinside, ?_, hne⟩
    · simp
    · rintro _ ⟨⟩
      rcases quote with rfl | rfl <;> decide
    · rw [hpad]
      exact trim_padded (List.forall_mem_append.mpr ⟨hblank left, hblank ha⟩) hsigns
        (List.forall_mem_append.mpr ⟨hblank hb, hblank right⟩)

/-- The label that a content type gives to `charset` settles the encoding of every page without a byte
order mark. -/
theorem sniff_of_charset {before word gap gap' value behind label : Text} {e : Encoding} {body : Bytes}
    (hmark : ∀ mark ∈ byteOrderMarks, ¬mark <+: body)
    (hbefore : ¬"charset".toList <:+: lower before) (hword : lower word = "charset".toList)
    (hgap : ∀ c ∈ gap, isSpace c = true) (hgap' : ∀ c ∈ gap', isSpace c = true)
    (hvalue : Spelling label value behind) (hlabel : ofLabel? label = some e) :
    sniff body (before ++ word ++ gap ++ '=' :: (gap' ++ value ++ behind)) = ⟨e, .contentType⟩ := by
  have hassigns := hvalue.assigns hlabel hgap hgap'
  have hcharset : ContentType.charset? (before ++ word ++ gap ++ '=' :: (gap' ++ value ++ behind)) =
      some (trim isSpace label) := by
    have h := charset?_eq_some_iff.mpr (hasCharset_append hbefore hword hassigns)
    simpa only [List.append_assoc] using h
  rw [sniff, ofMark?_eq_none hmark]
  simp only [hcharset, Option.bind_some, ofLabel?_trim, hlabel]

/-- A header in UTF-16 that goes on with another character set, over a page that says a third one. -/
theorem sniff_of_charset_big :
    let body := Utf8.encode "<meta charset=koi8-r>".toList
    let before := "text/html; a=\"x\";".toList
    let value := "'\nUTF-16be '".toList
    let behind := ";charset=utf-8".toList
    let type := before ++ "CharSet".toList ++ ['\t'] ++ '=' :: ([' '] ++ value ++ behind)
    type = "text/html; a=\"x\";CharSet\t= '\nUTF-16be ';charset=utf-8".toList ∧
      (∀ mark ∈ byteOrderMarks, ¬mark <+: body) ∧ ¬"charset".toList <:+: lower before ∧
      Spelling "UTF-16be".toList value behind ∧ sniff body type = ⟨.utf16 .big, .contentType⟩ := by
  intro body before value behind type
  have hmark : ∀ mark ∈ byteOrderMarks, ¬mark <+: body := by decide
  have hbefore : ¬"charset".toList <:+: lower before := by decide
  have hword : lower "CharSet".toList = "charset".toList := by decide
  have hspelling : Spelling "UTF-16be".toList value behind :=
    .quoted (a := ['\n']) (b := [' ']) _ (.inr rfl) (by simp [isSpace]) (by simp [isSpace])
  have hlabel : ofLabel? "UTF-16be".toList = some (.utf16 .big) := by decide
  have hgap : ∀ c ∈ ['\t'], isSpace c = true := by simp [isSpace]
  have hgap' : ∀ c ∈ [' '], isSpace c = true := by simp [isSpace]
  exact ⟨by decide, hmark, hbefore, hspelling,
    sniff_of_charset hmark hbefore hword hgap hgap' hspelling hlabel⟩

end BrowserTab.Page
