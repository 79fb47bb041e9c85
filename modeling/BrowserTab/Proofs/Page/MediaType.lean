import BrowserTab.Proofs.Page.Prescan

/-!
# Parameters of media types

A content type is a media type with parameters behind semicolons. Its character set is looked for by the
letters `charset` alone, so a parameter with a longer name that ends in these letters is taken for it. The
first such parameter with a value decides, and no other part of the content type is ever taken for one.
-/

namespace BrowserTab.Page

open Text Encoding

/-- Whether a character may stand in an essence, a name or a value: no separator, no quote and no blank. -/
def isPlain (c : Char) : Bool :=
  c ≠ ';' && c ≠ '=' && !isQuote c && !isBlank c

lemma isPlain_iff {c : Char} : isPlain c = true ↔
    c ≠ ';' ∧ c ≠ '=' ∧ (c ≠ '"' ∧ c ≠ '\'') ∧ isBlank c = false := by
  simp [isPlain, isQuote, and_assoc]

structure Parameter where
  /-- What stands between the semicolon and the name. -/
  gap : Text := [' ']
  name : Text
  value : Text
  gap_blank : ∀ c ∈ gap, isBlank c = true := by simp [isBlank, blankRanges]
  name_plain : ∀ c ∈ name, isPlain c = true
  value_plain : ∀ c ∈ value, isPlain c = true

structure MediaType where
  essence : Text
  parameters : List Parameter
  essence_plain : ∀ c ∈ essence, isPlain c = true

def Parameter.render (p : Parameter) : Text :=
  ';' :: (p.gap ++ (p.name ++ '=' :: p.value))

def MediaType.render (m : MediaType) : Text :=
  m.essence ++ m.parameters.flatMap Parameter.render

/-- A parameter is taken for the character set if its name ends in `charset`, letter case aside, and its
value is not empty. -/
def Parameter.IsTaken (p : Parameter) : Prop :=
  "charset".toList <:+ lower p.name ∧ p.value ≠ []

instance : DecidablePred Parameter.IsTaken := fun p =>
  inferInstanceAs (Decidable ("charset".toList <:+ lower p.name ∧ p.value ≠ []))

/-- The first parameter that is taken for the character set. -/
def MediaType.Takes (m : MediaType) (p : Parameter) : Prop :=
  ∃ before behind, m.parameters = before ++ p :: behind ∧ p.IsTaken ∧ ∀ q ∈ before, ¬q.IsTaken

lemma exists_append_of_word {w a u r : Text} (hw : lower w = "charset".toList)
    (hu : ∀ c ∈ u.head?, c.isAlpha = false) (h : a ++ u = w ++ r) :
    ∃ x, a = w ++ x ∧ r = x ++ u := by
  obtain ⟨x, hx, rfl⟩ | ⟨x, ha, hr⟩ := List.append_eq_append_iff.mp h
  · cases x with
    | nil => exact ⟨[], by simpa using hx.symm, rfl⟩
    | cons c x =>
      have hc := isAlpha_of_lower hw c (by simp [hx])
      rw [hu c rfl] at hc
      exact absurd hc (by decide)
  · exact ⟨x, ha, hr⟩

lemma charset?_append {a u : Text} (hu : ∀ c ∈ u.head?, c.isAlpha = false)
    (h : ∀ x w r, a = x ++ (w ++ r) → lower w = "charset".toList →
      ContentType.assigned? (r ++ u) = none) :
    ContentType.charset? (a ++ u) = ContentType.charset? u := by
  induction a with
  | nil => rfl
  | cons c a ih =>
    have hnone : (after? ContentType.parameter (c :: a ++ u)).bind ContentType.assigned? = none := by
      refine Option.bind_eq_none_iff.mpr fun v hv => ?_
      obtain ⟨w, hw, hlower⟩ := after?_eq_some_iff.mp hv
      rw [lower_parameter] at hlower
      obtain ⟨r, ha, rfl⟩ := exists_append_of_word hlower hu hw
      exact h [] w r ha hlower
    rw [List.cons_append] at hnone ⊢
    rw [charset?_cons, hnone, Option.none_or]
    exact ih fun x w r ha hw => h (c :: x) w r (by simp [ha]) hw

lemma charset?_append_of_not_isAlpha {a : Text} (ha : ∀ c ∈ a, c.isAlpha = false) (u : Text) :
    ContentType.charset? (a ++ u) = ContentType.charset? u := by
  induction a with
  | nil => rfl
  | cons c a ih =>
    obtain ⟨hc, ha⟩ := List.forall_mem_cons.mp ha
    have hnone : after? ContentType.parameter (c :: (a ++ u)) = none := by
      refine Option.eq_none_iff_forall_ne_some.mpr fun v hv => ?_
      obtain ⟨w, hw, hlower⟩ := after?_eq_some_iff.mp hv
      rw [lower_parameter] at hlower
      obtain ⟨x, hx, -⟩ := exists_append_of_word (a := []) hlower (by simp [hc]) hw
      rw [(List.append_eq_nil_iff.mp hx.symm).1] at hlower
      exact absurd hlower (by decide)
    rw [List.cons_append, charset?_cons, hnone, Option.bind_none, Option.none_or, ih ha]

section Parameter

variable {u : Text} (hu : ∀ c ∈ u.head?, c = ';')
include hu

lemma assigned?_plain_append {t : Text} (ht : ∀ c ∈ t, isPlain c = true) :
    ContentType.assigned? (t ++ u) = none := by
  refine assigned?_of_head fun c hc => ?_
  cases t with
  | nil =>
    obtain rfl := hu c hc
    decide
  | cons d t =>
    cases hc
    obtain ⟨-, hequals, -, hblank⟩ := isPlain_iff.mp (ht c List.mem_cons_self)
    exact ⟨hblank, hequals⟩

lemma charset?_plain_append {t : Text} (ht : ∀ c ∈ t, isPlain c = true) :
    ContentType.charset? (t ++ u) = ContentType.charset? u := by
  refine charset?_append (fun c hc => ?_) fun x w r ha _ => assigned?_plain_append hu fun c hc => ?_
  · rw [hu c hc]
    rfl
  · exact ht c (by simp [ha, hc])

lemma assigned?_value {value : Text} (hvalue : ∀ c ∈ value, isPlain c = true) :
    ContentType.assigned? ('=' :: (value ++ u)) = if value ≠ [] then some value else none := by
  split_ifs with hne
  · have hplain := fun c hc => isPlain_iff.mp (hvalue c hc)
    have hhead : ∀ c ∈ (value ++ u).head?, c ∈ value := by
      intro c hc
      rw [List.head?_append_of_ne_nil _ hne] at hc
      exact List.mem_of_head? hc
    have hbare : HoldsValue (value ++ u) value := by
      refine .bare (fun c hc => ⟨(hplain c hc).1, ?_⟩) (fun c hc => (hplain c (hhead c hc)).2.2.1)
        fun c hc => .inl (hu c hc)
      exact Bool.eq_false_iff.mpr fun hs => absurd (isBlank_of_isSpace hs)
        (Bool.eq_false_iff.mp (hplain c hc).2.2.2)
    exact assigned?_eq_some_iff.mpr ⟨[], [], value ++ u, value, rfl, by simp, by simp,
      fun c hc => (hplain c (hhead c hc)).2.2.2, hbare, trim_eq_self fun c hc => (hplain c hc).2.2.2,
      hne⟩
  · rw [not_not.mp hne, List.nil_append]
    cases u with
    | nil => rfl
    | cons c u =>
      obtain rfl := hu c rfl
      rfl

lemma charset?_name {name value : Text} (hname : ∀ c ∈ name, isPlain c = true)
    (hvalue : ∀ c ∈ value, isPlain c = true) : ContentType.charset? (name ++ '=' :: (value ++ u)) =
      (if "charset".toList <:+ lower name ∧ value ≠ [] then some value else none).or
        (ContentType.charset? u) := by
  induction name with
  | nil =>
    have hskip := charset?_append_of_not_isAlpha (a := ['=']) (by simp) (value ++ u)
    have hlonger : ¬"charset".toList <:+ lower [] := by decide
    rw [if_neg fun h => hlonger h.1, Option.none_or]
    exact hskip.trans (charset?_plain_append hu hvalue)
  | cons c name ih =>
    rw [List.cons_append, charset?_cons, ih (List.forall_mem_cons.mp hname).2]
    by_cases hword : lower (c :: name) = "charset".toList
    · -- The name from here on is the word itself.
      have hafter : after? ContentType.parameter (c :: (name ++ '=' :: (value ++ u))) =
          some ('=' :: (value ++ u)) :=
        after?_eq_some_iff.mpr ⟨c :: name, rfl, hword.trans lower_parameter.symm⟩
      have hends : "charset".toList <:+ lower (c :: name) := hword ▸ List.suffix_refl _
      rw [hafter, Option.bind_some, assigned?_value hu hvalue]
      by_cases hne : value = []
      · simp [hne]
      · rw [if_pos hne, if_pos (And.intro hends hne), Option.some_or, Option.some_or]
    · -- A word that begins here ends within the name, so no equals sign follows it.
      have hnone : (after? ContentType.parameter (c :: (name ++ '=' :: (value ++ u)))).bind
          ContentType.assigned? = none := by
        refine Option.bind_eq_none_iff.mpr fun v hv => ?_
        obtain ⟨w, hw, hlower⟩ := after?_eq_some_iff.mp hv
        rw [lower_parameter] at hlower
        obtain ⟨y, hy, rfl⟩ := exists_append_of_word (a := c :: name) hlower (by simp) hw
        refine assigned?_of_head fun d hd => ?_
        cases y with
        | nil => exact absurd (by rwa [hy, List.append_nil]) hword
        | cons e y =>
          cases hd
          obtain ⟨-, hequals, -, hblank⟩ := isPlain_iff.mp (hname d (by simp [hy]))
          exact ⟨hblank, hequals⟩
      have hends : "charset".toList <:+ lower (c :: name) ↔ "charset".toList <:+ lower name := by
        rw [lower, List.map_cons, List.suffix_cons_iff]
        exact or_iff_right fun h => hword h.symm
      rw [hnone, Option.none_or]
      simp only [hends]

end Parameter

/-- The parameter as it is taken for the character set, if it is. -/
def Parameter.charset? (p : Parameter) : Option Text :=
  if p.IsTaken then some p.value else none

lemma charset?_parameter (p : Parameter) {u : Text} (hu : ∀ c ∈ u.head?, c = ';') :
    ContentType.charset? (p.render ++ u) = p.charset?.or (ContentType.charset? u) := by
  have hgap : ∀ c ∈ ';' :: p.gap, c.isAlpha = false := by
    exact List.forall_mem_cons.mpr ⟨rfl, fun c hc => isAlpha_eq_false_of_isBlank (p.gap_blank c hc)⟩
  have hrender : p.render ++ u = ';' :: p.gap ++ (p.name ++ '=' :: (p.value ++ u)) := by
    simp [Parameter.render]
  rw [hrender, charset?_append_of_not_isAlpha hgap, charset?_name hu p.name_plain p.value_plain]
  rfl

lemma head_parameters (ps : List Parameter) :
    ∀ c ∈ (ps.flatMap Parameter.render).head?, c = ';' := by
  cases ps with
  | nil => simp
  | cons p ps =>
    rintro _ ⟨⟩
    rfl

lemma charset?_parameters (ps : List Parameter) :
    ContentType.charset? (ps.flatMap Parameter.render) = ps.findSome? Parameter.charset? := by
  induction ps with
  | nil => rfl
  | cons p ps ih =>
    rw [List.flatMap_cons, charset?_parameter p (head_parameters ps), ih, List.findSome?_cons]
    cases p.charset? with
    | none => rfl
    | some v => rfl

/-- The character set that is found in a media type is the value of the first parameter that is taken for
it. -/
lemma charset?_render_eq_some_iff {m : MediaType} {v : Text} :
    ContentType.charset? m.render = some v ↔ ∃ p, m.Takes p ∧ p.value = v := by
  have hsome {p : Parameter} : p.charset? = some v ↔ p.IsTaken ∧ p.value = v := by
    simp [Parameter.charset?]
  have hnone {p : Parameter} : p.charset? = none ↔ ¬p.IsTaken := by
    simp [Parameter.charset?]
  rw [MediaType.render, charset?_plain_append (head_parameters _) m.essence_plain, charset?_parameters,
    List.findSome?_eq_some_iff]
  simp only [hsome, hnone, MediaType.Takes]
  constructor
  · rintro ⟨before, p, behind, hp, ⟨htaken, hv⟩, hbefore⟩
    exact ⟨p, ⟨before, behind, hp, htaken, hbefore⟩, hv⟩
  · rintro ⟨p, ⟨before, behind, hp, htaken, hbefore⟩, hv⟩
    exact ⟨before, p, behind, hp, ⟨htaken, hv⟩, hbefore⟩

lemma ofMark?_ne_none {mark body : Bytes} (hmark : mark ∈ byteOrderMarks) (h : mark <+: body) :
    ofMark? body ≠ none := by
  obtain ⟨rest, rfl⟩ := h
  simp only [byteOrderMarks, List.mem_cons, List.not_mem_nil, or_false] at hmark
  rcases hmark with rfl | rfl | rfl <;> simp [ofMark?]

lemma source_sniff_eq_contentType_iff {body : Bytes} {contentType : Text} :
    (sniff body contentType).source = .contentType ↔
      ofMark? body = none ∧ (ContentType.charset? contentType).bind ofLabel? ≠ none := by
  rw [sniff]
  split
  · simp_all
  · rename_i hmark
    split
    · simp_all
    · split <;> simp_all

/-- A content type of other parameters settles the encoding of no page, except by the first parameter that
is taken for the character set, if its value is a known label. -/
theorem source_ne_contentType_iff (m : MediaType) (body : Bytes) :
    (sniff body m.render).source ≠ .contentType ↔
      (∃ mark ∈ byteOrderMarks, mark <+: body) ∨ ∀ p, m.Takes p → ofLabel? p.value = none := by
  have hmark : ofMark? body = none ↔ ¬∃ mark ∈ byteOrderMarks, mark <+: body := by
    constructor
    · rintro h ⟨mark, hmem, hprefix⟩
      exact ofMark?_ne_none hmem hprefix h
    · intro h
      exact ofMark?_eq_none fun mark hmem hprefix => h ⟨mark, hmem, hprefix⟩
  have hlabel : (ContentType.charset? m.render).bind ofLabel? = none ↔
      ∀ p, m.Takes p → ofLabel? p.value = none := by
    simp only [Option.bind_eq_none_iff, charset?_render_eq_some_iff]
    constructor
    · intro h p hp
      exact h _ ⟨p, hp, rfl⟩
    · rintro h _ ⟨p, hp, rfl⟩
      exact h p hp
  rw [ne_eq, source_sniff_eq_contentType_iff, hmark, ne_eq, hlabel, not_and_or, not_not, not_not]

/-- The media type `text/html; x-charset=koi8-r`. -/
def lookalikeType : MediaType where
  essence := "text/html".toList
  parameters := [{
    name := "x-charset".toList
    value := "koi8-r".toList
    name_plain := List.all_eq_true.mp (by decide)
    value_plain := List.all_eq_true.mp (by decide) }]
  essence_plain := List.all_eq_true.mp (by decide)

/-- A parameter of another name can settle the encoding of a page. -/
theorem contentType_of_lookalike :
    ¬∀ (m : MediaType) (body : Bytes), (∀ p ∈ m.parameters, lower p.name ≠ "charset".toList) →
      (sniff body m.render).source ≠ .contentType := by
  intro h
  have hname : lower "x-charset".toList ≠ "charset".toList := by decide
  have hrender : lookalikeType.render = "text/html; x-charset=koi8-r".toList := by decide
  have hsniff : (sniff [] "text/html; x-charset=koi8-r".toList).source = .contentType := by decide
  exact h lookalikeType [] (List.forall_mem_singleton.mpr hname) (hrender ▸ hsniff)

end BrowserTab.Page
