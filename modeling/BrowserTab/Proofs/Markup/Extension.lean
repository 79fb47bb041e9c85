import BrowserTab.Proofs.Markup.Search
import BrowserTab.Proofs.Text.Extension

/-!
# Tags that go on

Where a text ends, the last of its tags may be unfinished: the end may be in a value, in a name, or between
two attributes. What stands in front of the unfinished attribute is read in the same way however the text
goes on, and of that attribute only a value that runs to the end of the text is known.
-/

namespace BrowserTab.Markup

open Text

namespace Attribute

lemma readAssigned_suffix (t : Text) : (readAssigned t).2 <:+ t := by
  have hdrop := List.dropWhile_suffix (l := t) isSpace
  rw [readAssigned]
  split
  next u hu =>
    rw [hu] at hdrop
    have hvalue := (readValue_suffix endsBare (u.dropWhile isSpace)).trans (List.dropWhile_suffix _)
    exact hvalue.trans ((List.suffix_cons '=' u).trans hdrop)
  next => exact hdrop

lemma read_suffix (d : Char) (t : Text) : (read d t).2 <:+ t := by
  have hname : (readName d t).2 <:+ t := by
    rw [readName]
    split
    · exact List.suffix_refl t
    · exact List.dropWhile_suffix _
  exact (readAssigned_suffix _).trans hname

end Attribute

lemma readAttributes_suffix (t : Text) : (readAttributes t).2 <:+ t := by
  fun_induction readAttributes t with
  | case1 => exact List.nil_suffix
  | case2 t rest h => exact (List.suffix_cons '>' rest).trans (h ▸ List.dropWhile_suffix _)
  | case3 t c u hc h hl attributes rest hn ih =>
    rw [hn] at ih
    have hattribute := (Attribute.read_suffix c u).trans (List.suffix_cons c u)
    exact ih.trans (hattribute.trans (h ▸ List.dropWhile_suffix _))

section Inert

variable {c : Char} (hc : Inert c)
include hc

lemma isGap_of_inert : isGap c = false := by
  simp [isGap, hc.isSpace, hc.ne]

lemma endsName_of_inert : endsName c = false := by
  simp [endsName, isGap_of_inert hc, hc.ne]

lemma endsBare_of_inert : endsBare c = false := by
  simp [endsBare, hc.isSpace, hc.ne]

end Inert

namespace Attribute

lemma readAssigned_of_equals {t u : Text} (h : t.dropWhile isSpace = '=' :: u) :
    readAssigned t = readValue endsBare (u.dropWhile isSpace) := by
  simp only [readAssigned, h]

lemma readAssigned_of_head {t : Text} (h : ∀ c ∈ (t.dropWhile isSpace).head?, c ≠ '=') :
    readAssigned t = ([], t.dropWhile isSpace) := by
  rw [readAssigned]
  split
  next u hu => exact absurd rfl (h '=' (by simp [hu]))
  next => rfl

lemma readAssigned_stops_or_runs (t : Text) : (∃ v u, StopsIn readAssigned t v u) ∨
    (∃ v, RunsOn readAssigned t v) ∨ ∀ c ∈ t, isSpace c = true := by
  cases hd : t.dropWhile isSpace with
  | nil => exact .inr (.inr (List.dropWhile_eq_nil_iff.mp hd)) -- an equals sign may still follow
  | cons d u =>
    have hdrop (r : Text) : (t ++ r).dropWhile isSpace = d :: (u ++ r) := by
      rw [dropWhile_append_of_ne_nil (by simp [hd]), hd, List.cons_append]
    by_cases hequals : d = '='
    · subst hequals
      have hread (r : Text) : readAssigned (t ++ r) = readValue endsBare ((u ++ r).dropWhile isSpace) :=
        readAssigned_of_equals (hdrop r)
      obtain ⟨v, w, hne, hstops⟩ | ⟨v, hruns⟩ := readValue_stops_or_runs endsBare_of_inert
          (u.dropWhile isSpace)
      · refine .inl ⟨v, w, fun r => ?_⟩
        rw [hread, dropWhile_append_of_ne_nil hne, hstops r]
      · have hsuffix : u.dropWhile isSpace <:+ t :=
          (List.dropWhile_suffix _).trans ((List.suffix_cons '=' u).trans (hd ▸ List.dropWhile_suffix _))
        refine .inr (.inl ⟨v, hruns.suffix.trans hsuffix, ?_, fun {c} hc => ?_, fun r => ?_⟩)
        · have h := hread []
          rwa [List.append_nil, List.append_nil, hruns.read] at h
        · rw [hread, dropWhile_concat hc.isSpace, hruns.concat hc]
        · by_cases hu : u.dropWhile isSpace = []
          · have hv := hruns.read
            rw [hu] at hv
            obtain rfl : [] = v := congrArg Prod.fst hv
            exact ⟨_, rfl⟩
          · rw [hread, dropWhile_append_of_ne_nil hu]
            exact hruns.append r
    · refine .inl ⟨[], d :: u, fun r => ?_⟩
      rw [readAssigned_of_head (by simp [hdrop, hequals]), hdrop, List.cons_append]

/-- How a text ends that begins inside an attribute: behind the attribute, in its value, or where the value
is still to come. -/
inductive Ends (d : Char) (t : Text) : Prop where
  | behind {a : Attribute} {u : Text} (stops : StopsIn (read d) t a u)
  | inValue {n v : Text} (suffix : v <:+ t) (read_eq : read d t = (⟨n, v⟩, []))
    (concat : ∀ {c}, Inert c → read d (t ++ [c]) = (⟨n, v ++ [c]⟩, []))
    (append : ∀ r, ∃ x u, read d (t ++ r) = (⟨n, v ++ x⟩, u))
  | inName {n : Text} (read_eq : read d t = (⟨n, []⟩, []))
    (concat : ∀ {c}, Inert c → ∃ m u, read d (t ++ [c]) = (⟨m, []⟩, u) ∧ (u = [] ∨ u = [c]))

lemma read_eq (d : Char) (t : Text) : read d t = (⟨lower (readName d t).1, (readAssigned (readName d t).2).1⟩,
    (readAssigned (readName d t).2).2) :=
  rfl

lemma readName_stops_or_runs (d : Char) (t : Text) : (∃ n u, u <:+ t ∧ StopsIn (readName d) t n u) ∨
    readName d t = (d :: t, []) ∧ ∀ {c}, Inert c → readName d (t ++ [c]) = (d :: (t ++ [c]), []) := by
  by_cases hd : d = '='
  · exact .inl ⟨[d], t, List.suffix_refl t, fun r => by rw [readName, if_pos hd]⟩
  · have hread (u : Text) : readName d u = (d :: u.takeWhile (!endsName ·), u.dropWhile (!endsName ·)) := by
      rw [readName, if_neg hd]
    by_cases hclosed : t.dropWhile (!endsName ·) = []
    · have hinside := List.dropWhile_eq_nil_iff.mp hclosed
      refine .inr ⟨?_, fun {c} hc => ?_⟩
      · rw [hread, hclosed, List.takeWhile_eq_self_iff.mpr hinside]
      · rw [hread, List.takeWhile_append_of_pos hinside, List.dropWhile_append_of_pos hinside]
        simp [endsName_of_inert hc]
    · refine .inl ⟨d :: t.takeWhile (!endsName ·), t.dropWhile (!endsName ·),
        List.dropWhile_suffix _, fun r => ?_⟩
      rw [hread, takeWhile_append_of_ne_nil hclosed, dropWhile_append_of_ne_nil hclosed]

lemma ends (d : Char) (t : Text) : Ends d t := by
  obtain ⟨n, w, hw, hname⟩ | ⟨hread, hconcat⟩ := readName_stops_or_runs d t
  · have hgo (r : Text) :
        read d (t ++ r) = (⟨lower n, (readAssigned (w ++ r)).1⟩, (readAssigned (w ++ r)).2) := by
      rw [read_eq, hname r]
    have hnil := hgo []
    rw [List.append_nil, List.append_nil] at hnil
    obtain ⟨v, u, hstops⟩ | ⟨v, hruns⟩ | hspace := readAssigned_stops_or_runs w
    · exact .behind (a := ⟨lower n, v⟩) (u := u) fun r => by rw [hgo, hstops r]
    · refine .inValue (n := lower n) (hruns.suffix.trans hw) ?_ (fun {c} hc => ?_) fun r => ?_
      · rw [hnil, hruns.read]
      · rw [hgo, hruns.concat hc]
      · obtain ⟨x, hx⟩ := hruns.append r
        exact ⟨x, _, by rw [hgo, hx]⟩
    · have hdrop := List.dropWhile_eq_nil_iff.mpr hspace
      refine .inName (n := lower n) ?_ fun {c} hc => ⟨lower n, [c], ?_, .inr rfl⟩
      · rw [hnil, readAssigned_of_head (by simp [hdrop]), hdrop]
      · have hc' : (w ++ [c]).dropWhile isSpace = [c] := by
          rw [dropWhile_concat hc.isSpace, hdrop, List.nil_append]
        rw [hgo, readAssigned_of_head (by simp [hc', hc.ne]), hc']
  · refine .inName (n := lower (d :: t)) ?_ fun {c} hc =>
      ⟨lower (d :: (t ++ [c])), [], ?_, .inl rfl⟩
    · rw [read_eq, hread]
      rfl
    · rw [read_eq, hconcat hc]
      rfl

end Attribute

/-- How a text ends that begins inside a tag, behind the attributes `as` that are read however it goes on:
behind the tag, in the value of an attribute, or where the next value is still to come. -/
inductive TagEnds (t : Text) (as : List Attribute) : Prop where
  | behind {u : Text} (stops : StopsIn readAttributes t as u)
  | inValue {n v : Text} (suffix : v <:+ t) (read_eq : readAttributes t = (as ++ [⟨n, v⟩], []))
    (concat : ∀ {c}, Inert c → readAttributes (t ++ [c]) = (as ++ [⟨n, v ++ [c]⟩], []))
    (append : ∀ r, ∃ x more u, readAttributes (t ++ r) = (as ++ ⟨n, v ++ x⟩ :: more, u))
  | inName (read_eq : ∃ more, readAttributes t = (as ++ more, []) ∧ ∀ a ∈ more, a.value = [])
    (concat : ∀ {c}, Inert c →
      ∃ more, readAttributes (t ++ [c]) = (as ++ more, []) ∧ ∀ a ∈ more, a.value = [])
    (append : ∀ r, ∃ more u, readAttributes (t ++ r) = (as ++ more, u))

lemma readAttributes_nil : readAttributes [] = ([], []) :=
  Written.readAttributes_of_nil rfl

lemma readAttributes_singleton {c : Char} (hc : Inert c) :
    readAttributes [c] = ([⟨lower [c], []⟩], []) := by
  have hdrop : [c].dropWhile isGap = [c] := by simp [isGap_of_inert hc]
  have hread : Attribute.read c [] = (⟨lower [c], []⟩, []) := by
    simp [Attribute.read, Attribute.readName, Attribute.readAssigned, hc.ne]
  rw [Written.readAttributes_of_name hdrop (hc.ne (by simp)), hread, readAttributes_nil]

lemma TagEnds.cons {t u : Text} {as : List Attribute} {a : Attribute} (h : TagEnds u as)
    (ht : ∀ r, readAttributes (t ++ r) = (a :: (readAttributes (u ++ r)).1, (readAttributes (u ++ r)).2))
    (hu : u <:+ t) : TagEnds t (a :: as) := by
  have hnil := ht []
  rw [List.append_nil, List.append_nil] at hnil
  cases h with
  | behind stops => exact .behind fun r => by rw [ht, stops r]
  | inValue suffix read_eq concat append =>
    refine .inValue (suffix.trans hu) (by rw [hnil, read_eq]; rfl) (fun hc => ?_) fun r => ?_
    · rw [ht, concat hc]
      rfl
    · obtain ⟨x, more, v, hr⟩ := append r
      exact ⟨x, more, v, by rw [ht, hr]; rfl⟩
  | inName read_eq concat append =>
    refine .inName ?_ (fun hc => ?_) fun r => ?_
    · obtain ⟨more, hread, hmore⟩ := read_eq
      exact ⟨more, by rw [hnil, hread]; rfl, hmore⟩
    · obtain ⟨more, hread, hmore⟩ := concat hc
      exact ⟨more, by rw [ht, hread]; rfl, hmore⟩
    · obtain ⟨more, v, hr⟩ := append r
      exact ⟨more, v, by rw [ht, hr]; rfl⟩

lemma tagEnds (t : Text) : ∃ as, TagEnds t as := by
  fun_induction readAttributes t with
  | case1 t h =>
    refine ⟨[], .inName ⟨[], Written.readAttributes_of_nil h, by simp⟩ (fun {c} hc => ?_)
      fun r => ⟨_, _, rfl⟩⟩
    have hdrop : (t ++ [c]).dropWhile isGap = [c].dropWhile isGap := by
      rw [List.dropWhile_append_of_pos (List.dropWhile_eq_nil_iff.mp h)]
    exact ⟨_, (Written.readAttributes_congr hdrop).trans (readAttributes_singleton hc), by simp⟩
  | case2 t rest h =>
    refine ⟨[], .behind (u := rest) fun r => Written.readAttributes_of_end ?_⟩
    rw [dropWhile_append_of_ne_nil (by simp [h]), h, List.cons_append]
  | case3 t c u hc h hl attributes rest hn ih =>
    have hu : u <:+ t := (List.suffix_cons c u).trans (h ▸ List.dropWhile_suffix _)
    have hread (r : Text) : readAttributes (t ++ r) =
        ((Attribute.read c (u ++ r)).1 :: (readAttributes (Attribute.read c (u ++ r)).2).1,
          (readAttributes (Attribute.read c (u ++ r)).2).2) := by
      refine Written.readAttributes_of_name ?_ hc
      rw [dropWhile_append_of_ne_nil (by simp [h]), h, List.cons_append]
    have hnil := hread []
    rw [List.append_nil, List.append_nil] at hnil
    cases Attribute.ends c u with
    | @behind a v stops =>
      have hv : (Attribute.read c u).2 = v := by rw [stops.read_eq]
      rw [hv] at ih
      obtain ⟨as, has⟩ := ih
      exact ⟨a :: as, has.cons (fun r => by rw [hread, stops r])
        (hv ▸ (Attribute.read_suffix c u).trans hu)⟩
    | @inValue n v suffix read_eq concat append =>
      refine ⟨[], .inValue (n := n) (v := v) (suffix.trans hu) ?_ (fun hc => ?_) fun r => ?_⟩
      · rw [hnil, read_eq, readAttributes_nil]
        rfl
      · rw [hread, concat hc, readAttributes_nil]
        rfl
      · obtain ⟨x, v, hr⟩ := append r
        exact ⟨x, _, _, by rw [hread, hr]; rfl⟩
    | @inName n read_eq concat =>
      refine ⟨[], .inName ⟨[⟨n, []⟩], ?_, by simp⟩ (fun hc => ?_) fun r => ⟨_, _, rfl⟩⟩
      · rw [hnil, read_eq, readAttributes_nil]
        rfl
      · obtain ⟨m, v, hr, rfl | rfl⟩ := concat hc
        · exact ⟨[⟨m, []⟩], by rw [hread, hr, readAttributes_nil]; rfl, by simp⟩
        · exact ⟨[⟨m, []⟩, _], by rw [hread, hr, readAttributes_singleton hc]; rfl, by simp⟩

/-! ### The end in a search -/

lemma opening?_eq_none_of_ne {name t : Text} {c : Char} (hc : c ≠ '<') :
    opening? name (c :: t) = none := by
  have hlower : '<'.toLower ≠ c.toLower := fun h => hc ((toLower_eq_iff rfl).mp h.symm)
  rw [opening?, after?, if_neg hlower, Option.filter_none]

lemma nextTag?_eq_none {name t : Text} (h : '<' ∉ t) : nextTag? name t = none := by
  induction t with
  | nil => rfl
  | cons c t ih =>
    obtain ⟨hc, ht⟩ := not_or.mp (mt List.mem_cons.mpr h)
    rw [nextTag?, opening?_eq_none_of_ne (Ne.symm hc)]
    exact ih ht

/-- How a search of a text ends: at a tag that opens in the text, or with nothing that a text which goes on
is sure to have. -/
inductive SearchEnds (name t : Text) : Prop where
  | opens {inside : Text} (suffix : inside <:+ t)
    (found : ∀ r, nextTag? name (t ++ r) = some (readAttributes (inside ++ r)))
  | lacks (blank : ∀ tag ∈ nextTag? name t, tag = ([], []))
    (concat : ∀ {c}, Inert c → nextTag? name (t ++ [c]) = none)

lemma SearchEnds.cons {name t : Text} {a : Char} (h : SearchEnds name t)
    (ha : ∀ r, opening? name (a :: (t ++ r)) = none) : SearchEnds name (a :: t) := by
  have hcons (r : Text) : nextTag? name (a :: t ++ r) = nextTag? name (t ++ r) := by
    rw [List.cons_append, nextTag?, ha r]
  cases h with
  | opens suffix found =>
    exact .opens (suffix.trans (List.suffix_cons a t)) fun r => (hcons r).trans (found r)
  | lacks blank concat =>
    have hnil := hcons []
    rw [List.append_nil, List.append_nil] at hnil
    exact .lacks (hnil ▸ blank) fun hc => (hcons _).trans (concat hc)

section Search

variable {name : Text} (hname : ∀ c ∈ name, c.isAlpha = true)
include hname

lemma lt_notMem_of_isPrefix {t : Text} (h : lower t <+: lower name) : '<' ∉ t := by
  intro ht
  have hmem : '<' ∈ lower name := h.subset ((mem_lower rfl).mpr ht)
  exact notMem_of_isAlpha hname rfl ((mem_lower rfl).mp hmem)

lemma opening?_concat_eq_none {t : Text} {c : Char} (hc : Inert c)
    (h : after? ('<' :: name) t = none) : opening? name (t ++ [c]) = none := by
  rw [opening?, after?_concat_eq_none h, Option.filter_none]
  have hlower : c.toLower = c := (toLower_eq_iff hc.isAlpha).mpr rfl
  intro a ha heq
  rw [hlower, toLower_eq_iff hc.isAlpha] at heq
  subst heq
  rcases List.mem_cons.mp ha with rfl | ha
  · exact hc.ne (by simp) rfl
  · exact absurd ((hname a ha).symm.trans hc.isAlpha) (by decide)

/-- A tag that opens in a text is found however the text goes on, unless the text ends with its name. -/
lemma searchEnds (t : Text) : SearchEnds name t := by
  induction t with
  | nil =>
    refine .lacks (by simp [nextTag?]) fun {c} hc => nextTag?_eq_none ?_
    simpa using (hc.ne (d := '<') (by simp)).symm
  | cons a t ih =>
    -- Behind a text without the sign that begins a tag, one more character gives none.
    have hlast (ht : '<' ∉ t) {c : Char} (hc : Inert c) (hopen : opening? name (a :: (t ++ [c])) = none) :
        nextTag? name (a :: t ++ [c]) = none := by
      rw [List.cons_append, nextTag?, hopen]
      refine nextTag?_eq_none ?_
      simpa [ht] using (hc.ne (d := '<') (by simp)).symm
    cases ha : after? ('<' :: name) (a :: t) with
    | none =>
      obtain hnone | hword := after?_append_of_eq_none ha
      · refine ih.cons fun r => ?_
        have h := hnone r
        rw [List.cons_append] at h
        rw [opening?, h, Option.filter_none]
      · -- The text ends within the name.
        have ht : '<' ∉ t := by
          rw [lower_cons_lt, lower, List.map_cons] at hword
          exact lt_notMem_of_isPrefix hname (List.cons_prefix_cons.mp hword).2
        refine .lacks ?_ fun {c} hc => hlast ht hc (opening?_concat_eq_none hname hc ha)
        rw [nextTag?, opening?, ha, Option.filter_none]
        simp [nextTag?_eq_none ht]
    | some u =>
      have hafter (r : Text) : after? ('<' :: name) (a :: (t ++ r)) = some (u ++ r) :=
        after?_append_of_eq_some ha r
      obtain ⟨x, hx, hlower⟩ := after?_eq_some_iff.mp ha
      cases u with
      | nil =>
        -- The text ends behind the name, so what follows decides whether the name ends there too.
        have ht : '<' ∉ t := by
          rw [List.append_nil] at hx
          rw [← hx, lower_cons_lt, lower, List.map_cons] at hlower
          exact lt_notMem_of_isPrefix hname ((List.cons.inj hlower).2 ▸ List.prefix_refl _)
        refine .lacks ?_ fun {c} hc => hlast ht hc ?_
        · have hopen : opening? name (a :: t) = some [] := by
            rw [opening?, ha]
            rfl
          rw [nextTag?, hopen]
          simp [readAttributes_nil]
        · rw [opening?, hafter, Option.filter_some, if_neg]
          simp [atNameEnd, isGap_of_inert hc, hc.ne]
      | cons d v =>
        by_cases hend : atNameEnd (d :: v) = true
        · have hinside : d :: v <:+ a :: t := ⟨x, hx.symm⟩
          refine .opens hinside fun r => ?_
          have hopen : opening? name (a :: (t ++ r)) = some (d :: v ++ r) := by
            rw [opening?, hafter, Option.filter_some, if_pos]
            exact hend
          rw [List.cons_append, nextTag?, hopen]
        · refine ih.cons fun r => ?_
          rw [opening?, hafter, Option.filter_some, if_neg]
          exact hend

end Search

end BrowserTab.Markup
