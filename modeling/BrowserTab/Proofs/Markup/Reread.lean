import BrowserTab.Proofs.Markup.Search
import BrowserTab.Proofs.Text.Ascii

/-!
# Markup under a reading

The signs that make up markup are ASCII. A reading that keeps ASCII in place may change the names and the
values of a written tag but leaves a tag of the same shape, and it lets no tag begin where none began.
-/

namespace BrowserTab.Markup

open Text

variable {f : Text → Text}

lemma isAscii_of_isGap {c : Char} (h : isSpace c = true ∨ c = '/') : IsAscii c := by
  rcases h with h | rfl
  · exact isAscii_of_isSpace h
  · decide

lemma isAscii_of_endsTagName {c : Char} (h : isSpace c = true ∨ c = '>' ∨ c = '/') : IsAscii c := by
  rcases h with h | rfl | rfl
  · exact isAscii_of_isSpace h
  · decide
  · decide

lemma beginsTag_iff {name t : Text} : BeginsTag name t ↔ ∃ x c v, t = x ++ c :: v ∧
    lower x = '<' :: lower name ∧ (isSpace c = true ∨ c = '>' ∨ c = '/') := by
  constructor
  · rintro ⟨hx, c, hc, hend⟩
    refine ⟨t.take (name.length + 1), c, t.drop (name.length + 2), ?_, hx, hend⟩
    obtain ⟨hlt, rfl⟩ := List.getElem?_eq_some_iff.mp hc
    rw [List.getElem_cons_drop, List.take_append_drop]
  · rintro ⟨x, c, v, rfl, hx, hend⟩
    have hlen : x.length = name.length + 1 := by
      simpa [lower] using congrArg List.length hx
    refine ⟨?_, c, ?_, hend⟩
    · rw [← hlen, List.take_left, hx]
    · simp [← hlen]

lemma LacksTag.map (hf : KeepsAscii f) {name t : Text} (hname : ∀ c ∈ name, IsAscii c)
    (h : LacksTag name t) : LacksTag name (f t) := by
  intro s hs hbegins
  obtain ⟨u, hu⟩ := (List.mem_tails _ _).mp hs
  obtain ⟨x, c, v, rfl, hx, hend⟩ := beginsTag_iff.mp hbegins
  have hascii : ∀ d ∈ x ++ [c], IsAscii d := by
    rw [List.forall_mem_append, List.forall_mem_singleton]
    refine ⟨forall_isAscii_of_lower hx ?_, isAscii_of_endsTagName hend⟩
    rw [List.forall_mem_cons]
    exact ⟨by decide, forall_isAscii_lower hname⟩
  have hsplit : f t = u ++ (x ++ [c]) ++ v := by
    rw [← hu]
    simp
  obtain ⟨a, b, ht, -, -⟩ := hf.exists_split_word (by simp) hascii hsplit
  refine h (x ++ c :: b) ((List.mem_tails _ _).mpr ⟨a, ?_⟩)
    (beginsTag_iff.mpr ⟨x, c, b, rfl, hx, hend⟩)
  rw [ht]
  simp

namespace Written

namespace Value

/-- A written value as a reading leaves it. -/
def map (hf : KeepsAscii f) : Value → Value
  | quoted q t hq hc =>
    quoted q (f t) hq fun h => hc (hf.mem_of_mem (by rcases hq with rfl | rfl <;> decide) h)
  | bare t hne hp hq =>
    bare (f t) (mt hf.eq_nil_iff.mp hne)
      (hf.forall_mem
        (fun _ h => ⟨isSpace_eq_false_of_not_isAscii h, ne_of_not_isAscii h (by decide)⟩) hp)
      (hf.forall_mem_head?
        (fun _ h => ⟨ne_of_not_isAscii h (by decide), ne_of_not_isAscii h (by decide)⟩) hq)

variable (hf : KeepsAscii f)

lemma text_map (v : Value) : (v.map hf).text = f v.text := by
  cases v <;> rfl

lemma isBare_map (v : Value) : (v.map hf).isBare = v.isBare := by
  cases v <;> rfl

lemma render_map (v : Value) : (v.map hf).render = f v.render := by
  cases v with
  | quoted q t hq hc =>
    have ha : IsAscii q := by rcases hq with rfl | rfl <;> decide
    rw [render, hf.cons ha, hf.append_cons t [] ha, hf.nil]
    rfl
  | bare t hne hp hq => rfl

end Value

def Assignment.map (hf : KeepsAscii f) (g : Assignment) : Assignment :=
  { g with value := g.value.map hf }

lemma Assignment.render_map (hf : KeepsAscii f) (g : Assignment) :
    (g.map hf).render = f g.render := by
  have hbefore : ∀ c ∈ g.before, IsAscii c := fun c hc => isAscii_of_isSpace (g.before_space c hc)
  have hafter : ∀ c ∈ g.after, IsAscii c := fun c hc => isAscii_of_isSpace (g.after_space c hc)
  rw [render, render, hf.ascii_append hbefore, hf.cons (by decide), hf.ascii_append hafter,
    ← g.value.render_map hf]
  rfl

namespace Attribute

def map (hf : KeepsAscii f) (a : Attribute) : Attribute :=
  { a with
    name := f a.name
    assignment := a.assignment.map (Assignment.map hf)
    name_ne_nil := mt hf.eq_nil_iff.mp a.name_ne_nil
    name_plain := hf.forall_mem
      (fun _ h => ⟨isSpace_eq_false_of_not_isAscii h, ne_of_not_isAscii h (by decide),
        ne_of_not_isAscii h (by decide), ne_of_not_isAscii h (by decide)⟩) a.name_plain }

variable (hf : KeepsAscii f)

lemma meaning_map (a : Attribute) :
    (a.map hf).meaning = ⟨lower (f a.name), f a.value⟩ := by
  cases ha : a.assignment with
  | none => simp [meaning, map, value, ha, hf.nil]
  | some g => simp [meaning, map, value, ha, Assignment.map, Value.text_map]

lemma isBare_map (a : Attribute) : (a.map hf).isBare = a.isBare := by
  cases ha : a.assignment with
  | none => simp [isBare, map, ha]
  | some g => simp [isBare, map, ha, Assignment.map, Value.isBare_map]

lemma assigned_map (a : Attribute) : (a.map hf).assigned = f a.assigned := by
  cases ha : a.assignment with
  | none => simp [assigned, map, ha, hf.nil]
  | some g => simp [assigned, map, ha, g.render_map hf]

lemma isAscii_head_assigned (a : Attribute) : ∀ c ∈ a.assigned.head?, IsAscii c := by
  cases ha : a.assignment with
  | none => simp [assigned, ha]
  | some g =>
    rw [assigned, ha, Option.elim_some, Assignment.render]
    cases hb : g.before with
    | nil =>
      rintro _ ⟨⟩
      decide
    | cons d before =>
      rintro _ ⟨⟩
      exact isAscii_of_isSpace (g.before_space d (by simp [hb]))

lemma render_map (a : Attribute) : (a.map hf).render = f a.render := by
  have hgap : ∀ c ∈ a.gap, IsAscii c := fun c hc => isAscii_of_isGap (a.gap_plain c hc)
  rw [render, render, hf.ascii_append hgap, hf.append a.name a.isAscii_head_assigned, assigned_map]
  rfl

end Attribute

lemma isAscii_head_inside {close : Text} (hclose : ∀ c ∈ close, isSpace c = true ∨ c = '/')
    (attributes : List Attribute) : ∀ c ∈ (inside attributes close).head?, IsAscii c := by
  intro c hc
  have hends := (resumes_inside hclose attributes []).ends
  rw [List.append_nil] at hends
  exact isAscii_of_endsTagName (hends c hc)

lemma inside_map (hf : KeepsAscii f) {close : Text}
    (hclose : ∀ c ∈ close, isSpace c = true ∨ c = '/') (attributes : List Attribute) :
    inside (attributes.map (Attribute.map hf)) close = f (inside attributes close) := by
  induction attributes with
  | nil =>
    have hgap : ∀ c ∈ close ++ ['>'], IsAscii c := by
      rw [List.forall_mem_append, List.forall_mem_singleton]
      exact ⟨fun c hc => isAscii_of_isGap (hclose c hc), by decide⟩
    exact (hf.eq_self hgap).symm
  | cons a as ih =>
    have hcons (a : Attribute) (as : List Attribute) :
        inside (a :: as) close = a.render ++ inside as close := by
      simpa using inside_cons_append a as close []
    rw [List.map_cons, hcons, hcons, hf.append a.render (isAscii_head_inside hclose as), ih,
      a.render_map]

lemma separated_map (hf : KeepsAscii f) {close : Text}
    (hclose : ∀ c ∈ close, isSpace c = true ∨ c = '/') {attributes : List Attribute}
    (h : Separated close attributes) :
    Separated close (attributes.map (Attribute.map hf)) := by
  induction attributes with
  | nil => trivial
  | cons a as ih =>
    refine ⟨?_, ih h.2⟩
    rw [a.isBare_map, inside_map hf hclose, hf.head?_eq (isAscii_head_inside hclose as)]
    exact h.1

def Tag.map (hf : KeepsAscii f) (t : Tag) : Tag :=
  { t with
    name := f t.name
    attributes := t.attributes.map (Attribute.map hf)
    separated := separated_map hf t.close_plain t.separated }

/-- Reading a written tag gives a written tag. -/
theorem Tag.render_map (hf : KeepsAscii f) (t : Tag) : (t.map hf).render = f t.render := by
  rw [render, render, hf.cons (by decide),
    hf.append t.name (isAscii_head_inside t.close_plain t.attributes),
    ← inside_map hf t.close_plain]
  rfl

lemma Value.text_subset_render (v : Value) : v.text ⊆ v.render := by
  cases v with
  | quoted q t hq hc => simp [text, render]
  | bare t hne hp hq => exact List.Subset.refl t

lemma Attribute.name_subset_render (a : Attribute) : a.name ⊆ a.render := by
  intro c hc
  simp [render, hc]

lemma Attribute.value_subset_render (a : Attribute) : a.value ⊆ a.render := by
  intro c hc
  cases ha : a.assignment with
  | none => simp [value, ha] at hc
  | some g =>
    rw [value, ha] at hc
    simp [render, assigned, ha, Assignment.render, g.value.text_subset_render hc]

lemma Tag.render_subset_render (t : Tag) {a : Attribute} (ha : a ∈ t.attributes) :
    a.render ⊆ t.render := by
  intro c hc
  have hm : c ∈ t.attributes.flatMap Attribute.render := List.mem_flatMap_of_mem ha hc
  simp [render, inside, hm]

end Written

end BrowserTab.Markup
