import BrowserTab.Proofs.Encoding.Label
import BrowserTab.Proofs.Markup.Extension
import BrowserTab.Proofs.Page.Charset

/-!
# Labels at the end of a text

A text that ends may leave the label of a character set unfinished. In front of the end, labels are found
however the text goes on. The one at the end is told apart from them by letting the text go on with a stray
sign: such a sign becomes part of the last value, and no known label has it.
-/

namespace BrowserTab.Page

open Text Markup Encoding

/-- A sign that neither ends a label nor is part of one. -/
structure Stray (c : Char) : Prop extends Inert c where
  isLabelSign : isLabelSign c = false

lemma Stray.ofLabel?_concat {c : Char} (hc : Stray c) (t : Text) : ofLabel? (t ++ [c]) = none := by
  refine Option.eq_none_iff_forall_ne_some.mpr fun e he => ?_
  obtain ⟨-, hsigns⟩ := isLabelSign_of_ofLabel? he
  rw [trim_concat hc.isSpace] at hsigns
  have hsign := hsigns c (by simp)
  exact absurd (hsign.symm.trans hc.isLabelSign) (by decide)

/-- How a text ends for a search that finds a label in it: the label is found however the text goes on, or it
stands at the end of the text and no longer is a label when a stray sign follows. -/
inductive LabelEnds (f : Text → Option Text) (t : Text) : Prop where
  | within {l : Text} (settled : ∀ r, f (t ++ r) = some l)
  | atEnd (suffix : ∀ label ∈ f t, ∃ v, v <:+ t ∧ trim isBlank v = label)
    (concat : ∀ {c}, Stray c → ∀ label ∈ f (t ++ [c]), ofLabel? label = none)

/-- How a text ends behind the word `charset`: the assignment is read in the same way however the text goes
on, only blanks follow, or the text ends in the value. -/
inductive AssignmentEnds (t : Text) : Prop where
  | within {o : Option Text} (settled : ∀ r, ContentType.assigned? (t ++ r) = o)
  | blank (letters : ∀ d ∈ t, d.isAlpha = false) (read_eq : ContentType.assigned? t = none)
    (concat : ∀ {c}, Inert c → ContentType.assigned? (t ++ [c]) = none)
  | inValue {v : Text} (suffix : v <:+ t) (letters : ∀ d ∈ t, d ∈ v ∨ d.isAlpha = false)
    (read_eq : ContentType.assigned? t = if trim isBlank v = [] then none else some (trim isBlank v))
    (concat : ∀ {c}, Inert c → ContentType.assigned? (t ++ [c]) = some (trim isBlank (v ++ [c])))

lemma endsValue_of_inert {c : Char} (hc : Inert c) : ContentType.endsValue c = false := by
  simp [ContentType.endsValue, hc.isSpace, hc.ne]

lemma assignmentEnds (t : Text) : AssignmentEnds t := by
  cases hd : t.dropWhile isBlank with
  | nil =>
    have hblanks := List.dropWhile_eq_nil_iff.mp hd
    refine .blank (fun d h => isAlpha_eq_false_of_isBlank (hblanks d h)) (assigned?_congr (u := []) hd) ?_
    intro c hc
    rw [assigned?_congr (List.dropWhile_append_of_pos hblanks), assigned?_of_head]
    rintro _ ⟨⟩
    exact ⟨hc.isBlank, hc.ne (by simp)⟩
  | cons d u =>
    have hdrop (r : Text) : (t ++ r).dropWhile isBlank = d :: (u ++ r) := by
      rw [dropWhile_append_of_ne_nil (by simp [hd]), hd, List.cons_append]
    by_cases hequals : d = '='
    · subst hequals
      obtain ⟨v, w, hne, hstops⟩ | ⟨v, hruns⟩ :=
        readValue_stops_or_runs endsValue_of_inert (u.dropWhile isBlank)
      · refine .within fun r => assigned?_of_equals (hdrop r) (v := v) ?_
        rw [dropWhile_append_of_ne_nil hne, hstops r]
      · have hu := List.takeWhile_append_dropWhile (p := isBlank) (l := u)
        have ht := List.takeWhile_append_dropWhile (p := isBlank) (l := t)
        rw [hd, ← hu] at ht
        refine .inValue (v := v) ?_ (fun e he => ?_) ?_ fun {c} hc => ?_
        · refine hruns.suffix.trans ⟨t.takeWhile isBlank ++ '=' :: u.takeWhile isBlank, ?_⟩
          rw [List.append_assoc]
          exact ht
        · have hblank {s : Text} (h : e ∈ s.takeWhile isBlank) : e.isAlpha = false :=
            isAlpha_eq_false_of_isBlank (List.mem_takeWhile_imp h)
          rw [← ht, List.mem_append, List.mem_cons, List.mem_append] at he
          rcases he with he | rfl | he | he
          · exact .inr (hblank he)
          · exact .inr rfl
          · exact .inr (hblank he)
          · refine (mem_or_isQuote_of_readValue hruns.read he).imp_right fun hq => ?_
            rcases Markup.Written.isQuote_iff.mp hq with rfl | rfl <;> rfl
        · refine assigned?_of_equals hd ?_
          rw [hruns.read]
        · have hread : (readValue ContentType.endsValue ((u ++ [c]).dropWhile isBlank)).1 = v ++ [c] := by
            rw [dropWhile_concat hc.isBlank, hruns.concat hc]
          rw [assigned?_of_equals (hdrop [c]) hread, if_neg]
          simp [trim_concat hc.isBlank]
    · have hblank : isBlank d = false := head?_dropWhile t d (by simp [hd])
      refine .within (o := none) fun r => ?_
      have hcongr : (t ++ r).dropWhile isBlank = (d :: (u ++ r)).dropWhile isBlank := by
        rw [hdrop, List.dropWhile_cons_of_neg (by simp [hblank])]
      rw [assigned?_congr hcongr, assigned?_of_head]
      rintro _ ⟨⟩
      exact ⟨hblank, hequals⟩

/-! ### The word `charset` -/

lemma parameter_eq : ContentType.parameter = 'c' :: "harset".toList := by
  decide

lemma charset?_eq_none {t : Text} (h : 'c' ∉ lower t) : ContentType.charset? t = none := by
  induction t with
  | nil => rfl
  | cons d t ih =>
    rw [lower, List.map_cons, List.mem_cons, not_or] at h
    have hnone : after? ContentType.parameter (d :: t) = none := by
      rw [parameter_eq, after?, if_neg]
      exact h.1
    rw [charset?_cons, hnone, Option.bind_none, Option.none_or, ih h.2]

lemma notMem_lower {t : Text} (h : ∀ d ∈ t, d.isAlpha = false) : 'c' ∉ lower t := by
  intro hc
  obtain ⟨d, hd, hlower⟩ := List.mem_map.mp hc
  have halpha := h d hd
  rw [← Char.isAlpha_toLower_eq_isAlpha, hlower] at halpha
  exact absurd halpha (by decide)

lemma notMem_lower_of_isPrefix {a : Char} {t : Text} (h : lower (a :: t) <+: lower ContentType.parameter) :
    'c' ∉ lower t := by
  rw [parameter_eq, lower, lower, List.map_cons, List.map_cons, List.cons_prefix_cons] at h
  intro hc
  exact absurd (h.2.subset hc) (by decide)

lemma notMem_lower_of_after? {a : Char} {t u : Text} (h : after? ContentType.parameter (a :: t) = some u)
    (hu : ∀ d ∈ u, d.isAlpha = false) : 'c' ∉ lower t := by
  obtain ⟨x, hx, hlower⟩ := after?_eq_some_iff.mp h
  cases x with
  | nil => exact absurd hlower (by decide)
  | cons b y =>
    obtain ⟨rfl, ht⟩ := List.cons.inj hx
    rw [ht]
    refine mt (fun hc => List.mem_append.mp (lower_append y u ▸ hc)) (not_or.mpr ?_)
    exact ⟨notMem_lower_of_isPrefix (a := a) (by rw [hlower]), notMem_lower hu⟩

lemma after?_parameter_concat {t : Text} {c : Char} (hc : Inert c)
    (h : after? ContentType.parameter t = none) : after? ContentType.parameter (t ++ [c]) = none := by
  refine after?_concat_eq_none h fun b hb heq => ?_
  have halpha := isAlpha_of_lower (w := ContentType.parameter) lower_parameter b hb
  rw [← Char.isAlpha_toLower_eq_isAlpha, heq, Char.isAlpha_toLower_eq_isAlpha, hc.isAlpha] at halpha
  exact absurd halpha (by decide)

lemma charset?_labelEnds_cons {a : Char} {t : Text}
    (h : ∀ r, (after? ContentType.parameter (a :: (t ++ r))).bind ContentType.assigned? = none)
    (ht : LabelEnds ContentType.charset? t) : LabelEnds ContentType.charset? (a :: t) := by
  have hrest (r : Text) : ContentType.charset? (a :: t ++ r) = ContentType.charset? (t ++ r) := by
    rw [List.cons_append, charset?_cons, h r, Option.none_or]
  have hnil := hrest []
  rw [List.append_nil, List.append_nil] at hnil
  cases ht with
  | within settled => exact .within fun r => (hrest r).trans (settled r)
  | atEnd suffix concat =>
    refine .atEnd (fun label hl => ?_) fun hc label hl => concat hc label (hrest _ ▸ hl)
    obtain ⟨v, hv, hlabel⟩ := suffix label (hnil ▸ hl)
    exact ⟨v, hv.trans (List.suffix_cons a t), hlabel⟩

lemma charset?_labelEnds_of_notMem {a : Char} {t : Text} (ht : 'c' ∉ lower t)
    (hread : (after? ContentType.parameter (a :: t)).bind ContentType.assigned? = none)
    (hconcat : ∀ {c}, Inert c →
      (after? ContentType.parameter (a :: (t ++ [c]))).bind ContentType.assigned? = none) :
    LabelEnds ContentType.charset? (a :: t) := by
  refine .atEnd ?_ fun {c} hc => ?_
  · rw [charset?_cons, hread, charset?_eq_none ht]
    simp
  · have hlast : 'c' ∉ lower (t ++ [c]) := by
      rw [lower_append, List.mem_append, not_or]
      exact ⟨ht, notMem_lower (by simpa using hc.isAlpha)⟩
    rw [List.cons_append, charset?_cons, hconcat hc.toInert, charset?_eq_none hlast]
    simp

lemma charset?_labelEnds (t : Text) : LabelEnds ContentType.charset? t := by
  induction t with
  | nil =>
    refine .atEnd (by simp [ContentType.charset?]) fun {c} hc => ?_
    rw [List.nil_append, charset?_eq_none (notMem_lower (by simpa using hc.isAlpha))]
    simp
  | cons a t ih =>
    cases ha : after? ContentType.parameter (a :: t) with
    | none =>
      obtain hnone | hword := after?_append_of_eq_none ha
      · refine charset?_labelEnds_cons (fun r => ?_) ih
        rw [← List.cons_append, hnone r, Option.bind_none]
      · refine charset?_labelEnds_of_notMem (notMem_lower_of_isPrefix hword) ?_ fun hc => ?_
        · rw [ha, Option.bind_none]
        · rw [← List.cons_append, after?_parameter_concat hc ha, Option.bind_none]
    | some u =>
      have hafter (r : Text) : after? ContentType.parameter (a :: (t ++ r)) = some (u ++ r) :=
        after?_append_of_eq_some ha r
      cases assignmentEnds u with
      | @within o settled =>
        cases o with
        | none =>
          refine charset?_labelEnds_cons (fun r => ?_) ih
          rw [hafter, Option.bind_some, settled]
        | some label =>
          refine .within (l := label) fun r => ?_
          rw [List.cons_append, charset?_cons, hafter, Option.bind_some, settled, Option.some_or]
      | blank letters read_eq concat =>
        refine charset?_labelEnds_of_notMem (notMem_lower_of_after? ha letters) ?_ fun hc => ?_
        · rw [ha, Option.bind_some, read_eq]
        · rw [hafter, Option.bind_some, concat hc]
      | @inValue v suffix letters read_eq concat =>
        refine .atEnd (fun label hl => ?_) fun {c} hc label hl => ?_
        · rw [charset?_cons, ha, Option.bind_some, read_eq] at hl
          split_ifs at hl with hv
          · -- A blank value has no letters, so the word does not begin again.
            have hblank : ∀ d ∈ v, isBlank d = true := by
              obtain ⟨-, x, y, rfl, hx, hy⟩ := trim_eq_iff.mp hv
              rw [List.append_nil]
              exact List.forall_mem_append.mpr ⟨hx, hy⟩
            have ht := notMem_lower_of_after? ha fun d hd =>
              (letters d hd).elim (fun h => isAlpha_eq_false_of_isBlank (hblank d h)) id
            rw [charset?_eq_none ht] at hl
            cases hl
          · cases hl
            obtain ⟨x, hx, -⟩ := after?_eq_some_iff.mp ha
            exact ⟨v, suffix.trans ⟨x, hx.symm⟩, rfl⟩
        · rw [List.cons_append, charset?_cons, hafter, Option.bind_some, concat hc.toInert,
            trim_concat hc.isBlank] at hl
          cases hl
          exact hc.ofLabel?_concat _

lemma labelOf?_labelEnds (n v : Text) : LabelEnds (fun v => labelOf? ⟨n, v⟩) v := by
  by_cases hcharset : n = "charset".toList
  · have hlabel (v : Text) : labelOf? ⟨n, v⟩ = some (trim isBlank v) := by
      rw [labelOf?, if_pos hcharset]
    refine .atEnd (fun label hl => ⟨v, List.suffix_refl v, ?_⟩) fun {c} hc label hl => ?_
    · exact Option.some.inj ((hlabel v).symm.trans hl)
    · obtain rfl := Option.some.inj ((hlabel _).symm.trans hl)
      rw [trim_concat hc.isBlank]
      exact hc.ofLabel?_concat _
  · by_cases hcontent : n = "content".toList
    · have hlabel (v : Text) : labelOf? ⟨n, v⟩ = ContentType.charset? v := by
        rw [labelOf?, if_neg hcharset, if_pos hcontent]
      simp only [hlabel]
      exact charset?_labelEnds v
    · have hlabel (v : Text) : labelOf? ⟨n, v⟩ = none := by
        rw [labelOf?, if_neg hcharset, if_neg hcontent]
      simp only [hlabel]
      exact .atEnd (by simp) (by simp)

lemma declaredLabel?_append {as : List Markup.Attribute} (more : List Markup.Attribute) :
    declaredLabel? (as ++ more) = (declaredLabel? as).or (declaredLabel? more) := by
  rw [declaredLabel?_eq, declaredLabel?_eq, declaredLabel?_eq, List.findSome?_append]

lemma eq_nil_of_declaredLabel? {as : List Markup.Attribute} (has : ∀ a ∈ as, a.value = []) {label : Text}
    (h : declaredLabel? as = some label) : label = [] := by
  obtain ⟨before, a, behind, rfl, hlabel, -⟩ := declaredLabel?_eq_some_iff.mp h
  have hvalue : a.value = [] := has a (by simp)
  obtain ⟨-, rfl⟩ | ⟨-, hcharset⟩ := hlabel
  · rw [hvalue]
    rfl
  · rw [hvalue, ← charset?_eq_some_iff] at hcharset
    cases hcharset

lemma declaredLabel?_singleton (a : Markup.Attribute) : declaredLabel? [a] = labelOf? a := by
  rw [declaredLabel?_eq, List.findSome?_cons]
  cases labelOf? a with
  | none => rfl
  | some label => rfl

/-- In a tag that the text does not leave, the label ends as the last value does. -/
lemma declaredLabel?_labelEnds {t : Text} {as : List Markup.Attribute} (h : TagEnds t as) :
    (∃ u, StopsIn readAttributes t as u) ∨
      LabelEnds (fun t => declaredLabel? (readAttributes t).1) t ∧ (readAttributes t).2 = [] ∧
        ∀ {c}, Inert c → (readAttributes (t ++ [c])).2 = [] := by
  -- A label in front of the unfinished attribute is settled.
  have hsettled {label : Text} (has : declaredLabel? as = some label)
      (happend : ∀ r, ∃ more u, readAttributes (t ++ r) = (as ++ more, u)) :
      LabelEnds (fun t => declaredLabel? (readAttributes t).1) t := by
    refine .within (l := label) fun r => ?_
    obtain ⟨more, u, hr⟩ := happend r
    simp only [hr]
    rw [declaredLabel?_append, has, Option.some_or]
  cases h with
  | behind stops => exact .inl ⟨_, stops⟩
  | @inValue n v suffix read_eq concat append =>
    refine .inr ⟨?_, by rw [read_eq], fun hc => by rw [concat hc]⟩
    cases has : declaredLabel? as with
    | some label =>
      refine hsettled has fun r => ?_
      obtain ⟨x, more, u, hr⟩ := append r
      exact ⟨_, u, hr⟩
    | none =>
      have hlast (a : Markup.Attribute) : declaredLabel? (as ++ [a]) = labelOf? a := by
        rw [declaredLabel?_append, has, Option.none_or, declaredLabel?_singleton]
      cases labelOf?_labelEnds n v with
      | @within label settled =>
        refine .within (l := label) fun r => ?_
        obtain ⟨x, more, u, hr⟩ := append r
        simp only [hr]
        rw [List.append_cons, declaredLabel?_append, hlast, settled x, Option.some_or]
      | atEnd hsuffix hconcat =>
        refine .atEnd (fun label hl => ?_) fun {c} hc label hl => ?_
        · simp only [read_eq, hlast] at hl
          obtain ⟨w, hw, hlabel⟩ := hsuffix label hl
          exact ⟨w, hw.trans suffix, hlabel⟩
        · simp only [concat hc.toInert, hlast] at hl
          exact hconcat hc label hl
  | inName read_eq concat append =>
    obtain ⟨more, hread, hmore⟩ := read_eq
    refine .inr ⟨?_, by rw [hread], fun hc => ?_⟩
    · cases has : declaredLabel? as with
      | some label => exact hsettled has append
      | none =>
        refine .atEnd (fun label hl => ?_) fun {c} hc label hl => ?_
        · simp only [hread, declaredLabel?_append, has, Option.none_or] at hl
          obtain rfl := eq_nil_of_declaredLabel? hmore hl
          exact ⟨[], List.nil_suffix, rfl⟩
        · obtain ⟨more, hread, hmore⟩ := concat hc.toInert
          simp only [hread, declaredLabel?_append, has, Option.none_or] at hl
          obtain rfl := eq_nil_of_declaredLabel? hmore hl
          decide
    · obtain ⟨more, hread, -⟩ := concat hc
      rw [hread]

end BrowserTab.Page
