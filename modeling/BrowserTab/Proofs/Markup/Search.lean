import BrowserTab.Markup.Tag
import BrowserTab.Proofs.Markup.Written

/-!
# Finding a tag

A search for a tag passes over any text in which no tag of that name begins, lookalikes with a longer
name included, and takes the first written tag it meets with all of its attributes.
-/

namespace BrowserTab.Markup

/-- Whether a `name` tag begins at the start of a text: the name follows a `<`, in any letter case, and
what follows it ends a name. -/
def BeginsTag (name t : Text) : Prop :=
  Text.lower (t.take (name.length + 1)) = '<' :: Text.lower name ∧
    ∃ c ∈ t[name.length + 1]?, Text.isSpace c = true ∨ c = '>' ∨ c = '/'

/-- Nowhere in the text does a `name` tag begin. -/
def LacksTag (name t : Text) : Prop :=
  ∀ s ∈ t.tails, ¬BeginsTag name s

instance (name t : Text) : Decidable (BeginsTag name t) :=
  decidable_of_iff
    (Text.lower (t.take (name.length + 1)) = '<' :: Text.lower name ∧
      t[name.length + 1]?.any (fun c => Text.isSpace c || c = '>' || c = '/') = true)
    (by simp [BeginsTag, Option.any_eq_true, or_assoc])

instance (name t : Text) : Decidable (LacksTag name t) :=
  inferInstanceAs (Decidable (∀ s ∈ t.tails, ¬BeginsTag name s))

lemma LacksTag.of_cons {name t : Text} {c : Char} (h : LacksTag name (c :: t)) :
    ¬BeginsTag name (c :: t) ∧ LacksTag name t := by
  simpa [LacksTag] using h

lemma atNameEnd_cons {c : Char} {t : Text} :
    atNameEnd (c :: t) = true ↔ Text.isSpace c = true ∨ c = '>' ∨ c = '/' := by
  simp [atNameEnd, isGap]
  tauto

lemma lower_cons_lt (name : Text) : Text.lower ('<' :: name) = '<' :: Text.lower name :=
  rfl

/-- No tag opens where a text begins in which none does, also if a `<` follows the text: a `<` neither
ends a name nor stands in one. -/
lemma opening?_append_eq_none {name : Text} (hname : '<' ∉ name) {c : Char} {before : Text}
    (h : ¬BeginsTag name (c :: before)) (u : Text) :
    opening? name (c :: before ++ '<' :: u) = none := by
  rw [opening?, Option.filter_eq_none_iff]
  intro v hv hend
  obtain ⟨x, hx, hlower⟩ := Text.after?_eq_some_iff.mp hv
  rw [lower_cons_lt] at hlower
  have hv : v ≠ '<' :: u := by
    rintro rfl
    exact absurd (atNameEnd_cons.mp hend) (by decide)
  obtain ⟨a, hxa, ha⟩ | ⟨b, hb, hvb⟩ := List.append_eq_append_iff.mp hx
  · -- the name reaches beyond the text and takes the `<` with it
    cases a with
    | nil => exact hv ha.symm
    | cons d a =>
      obtain ⟨rfl, -⟩ := List.cons.inj ha
      rw [hxa, List.cons_append] at hlower
      have hmem : '<' ∈ Text.lower name := by
        rw [← List.tail_eq_of_cons_eq hlower]
        simp
      exact hname ((Text.mem_lower rfl).mp hmem)
  · -- the name ends within the text
    cases b with
    | nil => exact hv hvb
    | cons d b =>
      rw [hvb, List.cons_append] at hend
      have hlen : x.length = name.length + 1 := by
        simpa [Text.lower] using congrArg List.length hlower
      rw [hb] at h
      refine h ⟨?_, d, ?_, atNameEnd_cons.mp hend⟩
      · rw [← hlen, List.take_left, hlower]
      · simp [← hlen]

lemma nextTag?_append {name : Text} (hname : '<' ∉ name) {before : Text}
    (h : LacksTag name before) (u : Text) :
    nextTag? name (before ++ '<' :: u) = nextTag? name ('<' :: u) := by
  induction before with
  | nil => rfl
  | cons c before ih =>
    obtain ⟨hc, hbefore⟩ := h.of_cons
    have hnone := opening?_append_eq_none hname hc u
    rw [List.cons_append] at hnone ⊢
    rw [nextTag?, hnone]
    exact ih hbefore

lemma startTags_of_nextTag? {name t rest : Text} {attributes : List Attribute}
    (h : nextTag? name t = some (attributes, rest)) :
    startTags name t = attributes :: startTags name rest := by
  rw [startTags]
  split
  · rename_i hnone
    cases h.symm.trans hnone
  · rename_i hsome
    cases h.symm.trans hsome
    rfl

lemma startTags_of_nextTag?_eq_none {name t : Text} (h : nextTag? name t = none) :
    startTags name t = [] := by
  rw [startTags]
  split
  · rfl
  · rename_i hsome
    cases h.symm.trans hsome

namespace Written

lemma opening?_render {name : Text} {tag : Tag} (hname : Text.lower tag.name = Text.lower name)
    (rest : Text) :
    opening? name (tag.render ++ rest) = some (inside tag.attributes tag.close ++ rest) := by
  have hafter : Text.after? ('<' :: name) (tag.render ++ rest) =
      some (inside tag.attributes tag.close ++ rest) := by
    refine Text.after?_eq_some_iff.mpr ⟨'<' :: tag.name, ?_, ?_⟩
    · rw [tag.render_append, List.cons_append]
    · rw [lower_cons_lt, lower_cons_lt, hname]
  have hend : atNameEnd (inside tag.attributes tag.close ++ rest) = true := by
    have hends := (resumes_inside tag.close_plain tag.attributes rest).ends
    cases hu : inside tag.attributes tag.close ++ rest with
    | nil => rfl
    | cons c u => exact atNameEnd_cons.mpr (hends c (by simp [hu]))
  rw [opening?, hafter, Option.filter_some, if_pos hend]

lemma nextTag?_render {name : Text} {tag : Tag} (hname : Text.lower tag.name = Text.lower name)
    (rest : Text) :
    nextTag? name (tag.render ++ rest) = some (tag.attributes.map Attribute.meaning, rest) := by
  have hopen := opening?_render hname rest
  rw [tag.render_append] at hopen ⊢
  simp only [nextTag?, hopen]
  rw [readAttributes_inside tag.close_plain tag.separated]

/-- The first written tag is found behind any text in which none begins. -/
lemma nextTag?_append_render {name before : Text} (hlt : '<' ∉ name)
    (hbefore : LacksTag name before) {tag : Tag} (hname : Text.lower tag.name = Text.lower name)
    (rest : Text) :
    nextTag? name (before ++ tag.render ++ rest) =
      some (tag.attributes.map Attribute.meaning, rest) := by
  rw [List.append_assoc, tag.render_append, nextTag?_append hlt hbefore, ← tag.render_append]
  exact nextTag?_render hname rest

lemma valueOf?_meaning (name : Text) (tag : Tag) :
    Markup.valueOf? name (tag.attributes.map Attribute.meaning) = tag.valueOf? name := by
  rw [Markup.valueOf?, Tag.valueOf?, List.find?_map, Option.map_map]
  rfl

end Written

end BrowserTab.Markup
