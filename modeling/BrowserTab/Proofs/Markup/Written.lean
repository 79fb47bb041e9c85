import BrowserTab.Markup.Attribute
import BrowserTab.Proofs.Text.Scanning

/-!
# Written tags

The inside of a start tag as an author writes it: attributes, each behind a gap of spaces and
slashes, with a quoted value, a bare one or none, and a last gap before the `>`. Reading such a text
gives back the attributes that were written, whatever follows the tag.
-/

namespace BrowserTab.Markup.Written

/-- A value in the form in which it is written. -/
inductive Value where
  | quoted (quote : Char) (text : Text) (isQuote : quote = '"' ∨ quote = '\'')
      (closed : quote ∉ text)
  | bare (text : Text) (ne_nil : text ≠ []) (plain : ∀ c ∈ text, Text.isSpace c = false ∧ c ≠ '>')
      (unquoted : ∀ c ∈ text.head?, c ≠ '"' ∧ c ≠ '\'')

namespace Value

def text : Value → Text
  | quoted _ t _ _ => t
  | bare t _ _ _ => t

def render : Value → Text
  | quoted q t _ _ => q :: (t ++ [q])
  | bare t _ _ _ => t

def isBare : Value → Bool
  | quoted _ _ _ _ => false
  | bare _ _ _ _ => true

end Value

/-- What gives an attribute its value: an equals sign, perhaps between spaces, and the value. -/
structure Assignment where
  before : Text := []
  after : Text := []
  value : Value
  before_space : ∀ c ∈ before, Text.isSpace c = true := by simp [Text.isSpace]
  after_space : ∀ c ∈ after, Text.isSpace c = true := by simp [Text.isSpace]

def Assignment.render (g : Assignment) : Text :=
  g.before ++ '=' :: (g.after ++ g.value.render)

/-- An attribute with the gap in front of it. -/
structure Attribute where
  gap : Text
  name : Text
  assignment : Option Assignment := none
  gap_ne_nil : gap ≠ [] := by decide
  gap_plain : ∀ c ∈ gap, Text.isSpace c = true ∨ c = '/' := by simp [Text.isSpace]
  name_ne_nil : name ≠ [] := by decide
  name_plain : ∀ c ∈ name, Text.isSpace c = false ∧ c ≠ '=' ∧ c ≠ '>' ∧ c ≠ '/' := by
    simp [Text.isSpace]

namespace Attribute

/-- The value of the attribute; empty if none is assigned. -/
def value (a : Attribute) : Text :=
  match a.assignment with
  | none => []
  | some g => g.value.text

def isBare (a : Attribute) : Bool :=
  a.assignment.any (·.value.isBare)

def assigned (a : Attribute) : Text :=
  a.assignment.elim [] Assignment.render

def render (a : Attribute) : Text :=
  a.gap ++ (a.name ++ a.assigned)

/-- The attribute as a reader knows it. -/
def meaning (a : Attribute) : Markup.Attribute :=
  ⟨Text.lower a.name, a.value⟩

end Attribute

/-- The inside of a tag up to its end: the attributes, a last gap and the `>`. -/
def inside (attributes : List Attribute) (close : Text) : Text :=
  attributes.flatMap Attribute.render ++ (close ++ ['>'])

/-- Each bare value is followed by a space or by the end of the tag. -/
def Separated (close : Text) : List Attribute → Prop
  | [] => True
  | a :: as =>
    (a.isBare = true → ∀ c ∈ (inside as close).head?, Text.isSpace c = true ∨ c = '>') ∧
      Separated close as

structure Tag where
  name : Text
  attributes : List Attribute
  close : Text := []
  close_plain : ∀ c ∈ close, Text.isSpace c = true ∨ c = '/' := by simp [Text.isSpace]
  separated : Separated close attributes

namespace Tag

def render (t : Tag) : Text :=
  '<' :: (t.name ++ inside t.attributes t.close)

/-- The value of the first attribute of a given name, letter case aside. -/
def valueOf? (name : Text) (t : Tag) : Option Text :=
  (t.attributes.find? fun a => Text.lower a.name = name).map Attribute.value

end Tag

lemma Attribute.render_append (a : Attribute) (u : Text) :
    a.render ++ u = a.gap ++ (a.name ++ (a.assigned ++ u)) := by
  simp [render]

lemma inside_nil_append (close rest : Text) : inside [] close ++ rest = close ++ '>' :: rest := by
  simp [inside]

lemma inside_cons_append (a : Attribute) (as : List Attribute) (close rest : Text) :
    inside (a :: as) close ++ rest = a.render ++ (inside as close ++ rest) := by
  simp [inside]

lemma Tag.render_append (t : Tag) (rest : Text) :
    t.render ++ rest = '<' :: (t.name ++ (inside t.attributes t.close ++ rest)) := by
  simp [render]

lemma Value.isSpace_head_render (v : Value) (u : Text) :
    ∀ c ∈ (v.render ++ u).head?, Text.isSpace c = false := by
  intro c hc
  cases v with
  | quoted q t hq _ =>
    cases hc
    rcases hq with rfl | rfl <;> rfl
  | bare t hne hp _ =>
    rw [render, List.head?_append_of_ne_nil _ hne] at hc
    exact (hp c (List.mem_of_head? hc)).1

lemma isGap_iff {c : Char} : isGap c = true ↔ Text.isSpace c = true ∨ c = '/' := by
  simp [isGap]

lemma endsName_iff {c : Char} :
    endsName c = true ↔ c = '=' ∨ Text.isSpace c = true ∨ c = '>' ∨ c = '/' := by
  simp only [endsName, isGap, Bool.or_eq_true, decide_eq_true_eq]
  tauto

lemma endsBare_iff {c : Char} : endsBare c = true ↔ Text.isSpace c = true ∨ c = '>' := by
  simp [endsBare]

lemma isQuote_iff {c : Char} : Text.isQuote c = true ↔ c = '"' ∨ c = '\'' := by
  simp [Text.isQuote]

lemma isGap_of_isSpace {c : Char} (h : Text.isSpace c = true) : isGap c = true :=
  isGap_iff.mpr (.inl h)

lemma readValue_render (v : Value) {u : Text}
    (hu : v.isBare = true → ∀ c ∈ u.head?, Text.isSpace c = true ∨ c = '>') :
    Text.readValue endsBare (v.render ++ u) = (v.text, u) := by
  cases v with
  | quoted q t hq hc =>
    have ht : ∀ c ∈ t, decide (c ≠ q) = true := by
      intro c hm
      simp only [decide_eq_true_eq]
      rintro rfl
      exact hc hm
    have hs : ∀ c ∈ (q :: u).head?, decide (c ≠ q) = false := by simp
    have he : (Value.quoted q t hq hc).render ++ u = q :: (t ++ q :: u) := by simp [Value.render]
    rw [he, Text.readValue, if_pos (isQuote_iff.mpr hq), Text.takeWhile_append_stop ht hs,
      Text.dropWhile_append_stop ht hs]
    rfl
  | bare t hne hp hq =>
    have ht : ∀ c ∈ t, (!endsBare c) = true := by
      intro c hm
      simpa [endsBare] using hp c hm
    have hs : ∀ c ∈ u.head?, (!endsBare c) = false := by
      intro c hm
      simp [endsBare_iff.mpr (hu rfl c hm)]
    cases t with
    | nil => exact absurd rfl hne
    | cons c r =>
      have hc : ¬Text.isQuote c = true := by simpa [isQuote_iff] using hq c rfl
      have hr := Text.takeWhile_append_stop ht hs
      have hd := Text.dropWhile_append_stop ht hs
      simp only [Value.render, Value.text, List.cons_append] at hr hd ⊢
      rw [Text.readValue, if_neg hc, hr, hd]

/-- What may follow a name, of a tag or of an attribute without a value: it ends the name and assigns
nothing. -/
structure Resumes (u : Text) : Prop where
  ends : ∀ c ∈ u.head?, Text.isSpace c = true ∨ c = '>' ∨ c = '/'
  unassigned : ∀ c ∈ (u.dropWhile Text.isSpace).head?, c ≠ '='

lemma resumes_of_gap {gap r : Text} {x : Char}
    (hgap : ∀ c ∈ gap, Text.isSpace c = true ∨ c = '/') (hx : Text.isSpace x = false)
    (hne : x ≠ '=') (hend : gap = [] → x = '>') : Resumes (gap ++ x :: r) where
  ends := by
    cases gap with
    | nil => simp [hend rfl]
    | cons d gap =>
      have hd := hgap d List.mem_cons_self
      rintro c ⟨⟩
      exact hd.imp_right .inr
  unassigned := by
    intro c hc
    rw [List.dropWhile_append, List.dropWhile_cons_of_neg (by simp [hx])] at hc
    split at hc
    · cases hc
      exact hne
    · rename_i h
      rw [List.head?_append_of_ne_nil _ (by simpa using h)] at hc
      have hm : c ∈ gap := (List.dropWhile_suffix _).subset (List.mem_of_head? hc)
      rintro rfl
      exact absurd (hgap _ hm) (by decide)

lemma resumes_inside {close : Text} (hclose : ∀ c ∈ close, Text.isSpace c = true ∨ c = '/')
    (attributes : List Attribute) (rest : Text) : Resumes (inside attributes close ++ rest) := by
  cases attributes with
  | nil =>
    rw [inside_nil_append]
    exact resumes_of_gap hclose rfl (by decide) fun _ => rfl
  | cons a as =>
    obtain ⟨x, name, hname⟩ := List.exists_cons_of_ne_nil a.name_ne_nil
    have hx := a.name_plain x (by simp [hname])
    rw [inside_cons_append, a.render_append, hname, List.cons_append]
    exact resumes_of_gap a.gap_plain hx.1 hx.2.1 fun hnil => absurd hnil a.gap_ne_nil

lemma readName_append {x : Char} {name u : Text}
    (hname : ∀ c ∈ x :: name, Text.isSpace c = false ∧ c ≠ '=' ∧ c ≠ '>' ∧ c ≠ '/')
    (hu : ∀ c ∈ u.head?, endsName c = true) :
    Markup.Attribute.readName x (name ++ u) = (x :: name, u) := by
  have hx : x ≠ '=' := (hname x List.mem_cons_self).2.1
  have ht : ∀ c ∈ name, (!endsName c) = true := by
    intro c hc
    have hplain := hname c (List.mem_cons_of_mem x hc)
    simp [endsName, isGap, hplain]
  have hs : ∀ c ∈ u.head?, (!endsName c) = false := by
    intro c hc
    simp [hu c hc]
  rw [Markup.Attribute.readName, if_neg hx, Text.takeWhile_append_stop ht hs,
    Text.dropWhile_append_stop ht hs]

lemma readAssigned_render (g : Assignment) {u : Text}
    (hu : g.value.isBare = true → ∀ c ∈ u.head?, Text.isSpace c = true ∨ c = '>') :
    Markup.Attribute.readAssigned (g.render ++ u) = (g.value.text, u) := by
  have hv := g.value.isSpace_head_render u
  have he : (g.render ++ u).dropWhile Text.isSpace = '=' :: (g.after ++ (g.value.render ++ u)) := by
    have h : g.render ++ u = g.before ++ '=' :: (g.after ++ (g.value.render ++ u)) := by
      simp [Assignment.render]
    rw [h]
    exact Text.dropWhile_append_stop g.before_space (by simp [Text.isSpace])
  simp only [Markup.Attribute.readAssigned, he, Text.dropWhile_append_stop g.after_space hv]
  exact readValue_render g.value hu

lemma readAssigned_of_resumes {u : Text} (hu : Resumes u) :
    Markup.Attribute.readAssigned u = ([], u.dropWhile Text.isSpace) := by
  rw [Markup.Attribute.readAssigned]
  split
  · rename_i v hv
    exact absurd rfl (hu.unassigned '=' (by simp [hv]))
  · rfl

namespace Attribute

lemma endsName_head_assigned (a : Attribute) {u : Text} (hu : Resumes u) :
    ∀ c ∈ (a.assigned ++ u).head?, endsName c = true := by
  intro c hc
  cases ha : a.assignment with
  | none =>
    rw [assigned, ha, Option.elim_none, List.nil_append] at hc
    exact endsName_iff.mpr (.inr (hu.ends c hc))
  | some g =>
    rw [assigned, ha, Option.elim_some, Assignment.render] at hc
    cases hg : g.before with
    | nil =>
      rw [hg] at hc
      cases hc
      rfl
    | cons d before =>
      rw [hg] at hc
      cases hc
      have hspace := g.before_space c (by simp [hg])
      simp [endsName, isGap, hspace]

/-- Reading what stands behind the name gives the value; of a gap behind it spaces at most are
taken. -/
lemma readAssigned_assigned (a : Attribute) {u : Text} (hu : Resumes u)
    (hb : a.isBare = true → ∀ c ∈ u.head?, Text.isSpace c = true ∨ c = '>') :
    ∃ more, Markup.Attribute.readAssigned (a.assigned ++ u) = (a.value, more) ∧
      more.dropWhile isGap = u.dropWhile isGap := by
  cases ha : a.assignment with
  | none =>
    refine ⟨u.dropWhile Text.isSpace, ?_, Text.dropWhile_dropWhile @isGap_of_isSpace u⟩
    rw [assigned, value, ha, Option.elim_none, List.nil_append]
    exact readAssigned_of_resumes hu
  | some g =>
    refine ⟨u, ?_, rfl⟩
    rw [assigned, value, ha, Option.elim_some]
    exact readAssigned_render g (by simpa [isBare, ha] using hb)

end Attribute

/-! ### Reading the inside of a tag -/

lemma readAttributes_of_nil {t : Text} (h : t.dropWhile isGap = []) :
    readAttributes t = ([], []) := by
  rw [readAttributes]
  split <;> simp_all

lemma readAttributes_of_end {t rest : Text} (h : t.dropWhile isGap = '>' :: rest) :
    readAttributes t = ([], rest) := by
  rw [readAttributes]
  split <;> simp_all

lemma readAttributes_of_name {t u : Text} {c : Char} (h : t.dropWhile isGap = c :: u)
    (hc : c ≠ '>') :
    readAttributes t = ((Markup.Attribute.read c u).1 ::
      (readAttributes (Markup.Attribute.read c u).2).1,
      (readAttributes (Markup.Attribute.read c u).2).2) := by
  rw [readAttributes]
  split
  · rename_i h'
    cases h.symm.trans h'
  · rename_i h'
    exact absurd (List.head_eq_of_cons_eq (h.symm.trans h')) hc
  · rename_i h'
    obtain ⟨rfl, rfl⟩ := List.cons.inj (h.symm.trans h')
    rfl

lemma readAttributes_congr {t u : Text} (h : t.dropWhile isGap = u.dropWhile isGap) :
    readAttributes t = readAttributes u := by
  cases hu : u.dropWhile isGap with
  | nil => rw [readAttributes_of_nil hu, readAttributes_of_nil (h.trans hu)]
  | cons c v =>
    by_cases hc : c = '>'
    · subst hc
      rw [readAttributes_of_end hu, readAttributes_of_end (h.trans hu)]
    · rw [readAttributes_of_name hu hc, readAttributes_of_name (h.trans hu) hc]

lemma readAttributes_render (a : Attribute) {u : Text} (hu : Resumes u)
    (hb : a.isBare = true → ∀ c ∈ u.head?, Text.isSpace c = true ∨ c = '>') :
    readAttributes (a.render ++ u) =
      (a.meaning :: (readAttributes u).1, (readAttributes u).2) := by
  obtain ⟨x, name, hname⟩ := List.exists_cons_of_ne_nil a.name_ne_nil
  have hplain := a.name_plain
  rw [hname] at hplain
  obtain ⟨hspace, -, hend, hslash⟩ := hplain x List.mem_cons_self
  have hgap : ∀ c ∈ a.gap, isGap c = true := fun c hc => isGap_iff.mpr (a.gap_plain c hc)
  have hx : isGap x = false := by simp [isGap, hspace, hslash]
  have hdrop : (a.render ++ u).dropWhile isGap = x :: (name ++ (a.assigned ++ u)) := by
    rw [a.render_append, hname, List.cons_append]
    exact Text.dropWhile_append_stop hgap (by simp [hx])
  obtain ⟨more, hread, hmore⟩ := a.readAssigned_assigned hu hb
  have hone : Markup.Attribute.read x (name ++ (a.assigned ++ u)) = (a.meaning, more) := by
    simp only [Markup.Attribute.read, readName_append hplain (a.endsName_head_assigned hu), hread,
      Attribute.meaning, hname]
  rw [readAttributes_of_name hdrop hend, hone, readAttributes_congr hmore]

/-- The attributes of a written tag are read as they were written. -/
lemma readAttributes_inside {close : Text} (hclose : ∀ c ∈ close, Text.isSpace c = true ∨ c = '/')
    {attributes : List Attribute} (hs : Separated close attributes) (rest : Text) :
    readAttributes (inside attributes close ++ rest) =
      (attributes.map Attribute.meaning, rest) := by
  induction attributes with
  | nil =>
    have hgap : ∀ c ∈ close, isGap c = true := fun c hc => isGap_iff.mpr (hclose c hc)
    refine readAttributes_of_end ?_
    rw [inside_nil_append]
    exact Text.dropWhile_append_stop hgap (by simp [isGap, Text.isSpace])
  | cons a as ih =>
    obtain ⟨hb, hs⟩ := hs
    have hb' : a.isBare = true →
        ∀ c ∈ (inside as close ++ rest).head?, Text.isSpace c = true ∨ c = '>' := by
      rwa [List.head?_append_of_ne_nil _ (by simp [inside])]
    rw [inside_cons_append, readAttributes_render a (resumes_inside hclose as rest) hb', ih hs,
      List.map_cons]

end BrowserTab.Markup.Written
