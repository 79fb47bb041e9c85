import BrowserTab.Proofs.Markup.Extension
import BrowserTab.Proofs.Text.WordSearch

/-!
# Reading tags by offsets

The attributes of a tag, and the tags of a text, read by byte offsets, where a reader may ask for a place that
is not there. It never does: on every text these readers give what the readers by characters give. Each
attribute takes at least one byte, and a tag is left at a place of the text, behind its `>` or at the end.
-/

namespace BrowserTab.Markup

open Text Encoding.Utf8

namespace Sliced

/-- Reads what stands behind a name. -/
def readAssigned (t : Text) : Option (Text × Text) :=
  match t.dropWhile isSpace with
  | '=' :: u => Text.Sliced.readValue endsBare (u.dropWhile isSpace)
  | u => some ([], u)

/-- Reads an attribute; the name takes a character even if that could not stand in a name. -/
def readAttribute (t : Text) : Option (Attribute × Text) :=
  (cut? t (max (endOf endsName t) 1)).bind fun (name, behind) =>
    (readAssigned behind).map fun (value, rest) => (⟨lower name, value⟩, rest)

lemma readAssigned_eq (t : Text) : readAssigned t = some (Attribute.readAssigned t) := by
  unfold readAssigned Attribute.readAssigned
  cases t.dropWhile isSpace with
  | nil => rfl
  | cons c u =>
    by_cases hc : c = '='
    · subst hc
      exact Text.Sliced.readValue_eq endsBare (u.dropWhile isSpace)
    · simp [hc]

lemma readAttribute_of_cut? {t name behind : Text}
    (h : cut? t (max (endOf endsName t) 1) = some (name, behind)) : readAttribute t =
      some (⟨lower name, (Attribute.readAssigned behind).1⟩, (Attribute.readAssigned behind).2) := by
  rw [readAttribute, h, Option.bind_some]
  simp only [readAssigned_eq, Option.map_some]

lemma size_readAttribute_lt {t rest : Text} {a : Attribute} (h : readAttribute t = some (a, rest)) :
    size rest < size t := by
  obtain ⟨⟨name, behind⟩, hcut, -⟩ := Option.bind_eq_some_iff.mp h
  obtain rfl : (Attribute.readAssigned behind).2 = rest :=
    congrArg Prod.snd (Option.some.inj ((readAttribute_of_cut? hcut).symm.trans h))
  have hle := size_le_of_suffix (Attribute.readAssigned_suffix behind)
  obtain ⟨rfl, hname⟩ := cut?_eq_some_iff.mp hcut
  rw [size_append]
  omega

lemma readAttribute_cons {c : Char} (hc : isGap c = false) (hend : c ≠ '>') (t : Text) :
    readAttribute (c :: t) = some (Attribute.read c t) := by
  have hname : cut? (c :: t) (max (endOf endsName (c :: t)) 1) = some (Attribute.readName c t) := by
    by_cases h : c = '='
    · subst h
      rw [cut?_eq_some_iff, endOf_cons]
      exact ⟨rfl, rfl⟩
    · have hin : endsName c = false := by simp [endsName, hc, h, hend]
      have hpos : 1 ≤ endOf endsName (c :: t) := by
        have hc := width_pos c
        rw [endOf_cons, if_neg (by simp [hin])]
        omega
      rw [Nat.max_eq_left hpos, cut?_endOf, Attribute.readName, if_neg h,
        List.takeWhile_cons_of_pos (by simp [hin]), List.dropWhile_cons_of_pos (by simp [hin])]
  exact readAttribute_of_cut? hname

/-- Reads attributes up to the end of the tag; gives them and what is left, with the `>`. -/
def readAll (t : Text) : Option (List Attribute × Text) :=
  let rest := t.dropWhile isGap
  if rest = [] ∨ rest.head? = some '>' then some ([], rest)
  else
    match h : readAttribute rest with
    | none => none
    | some (a, behind) =>
      have := size_readAttribute_lt h
      have : size rest ≤ size t := size_le_of_suffix (List.dropWhile_suffix isGap)
      (readAll behind).map fun (attributes, left) => (a :: attributes, left)
termination_by size t

/-- Reads the attributes of a tag; gives them and how many bytes they take, with the `>`. -/
def readAttributes (t : Text) : Option (List Attribute × Nat) :=
  (readAll t).bind fun (attributes, left) =>
    if size left ≤ size t then
      some (attributes, size t - size left + if left.head? = some '>' then 1 else 0)
    else none

lemma readAll_of_end {t rest : Text} (h : t.dropWhile isGap = rest) (hend : rest = [] ∨ rest.head? = some '>') :
    readAll t = some ([], rest) := by
  subst h
  rw [readAll]
  exact if_pos hend

lemma readAttribute_dropWhile {t u : Text} {c : Char} (h : t.dropWhile isGap = c :: u) (hc : c ≠ '>') :
    readAttribute (t.dropWhile isGap) = some (Attribute.read c u) := by
  rw [h]
  apply readAttribute_cons _ hc
  exact head?_dropWhile t c (by rw [h]; rfl)

lemma readAll_of_name {t u : Text} {c : Char} (h : t.dropWhile isGap = c :: u) (hc : c ≠ '>') :
    readAll t = (readAll (Attribute.read c u).2).map fun (attributes, left) =>
      ((Attribute.read c u).1 :: attributes, left) := by
  have hread := readAttribute_dropWhile h hc
  rw [readAll]
  dsimp only
  rw [if_neg (by simpa [h] using hc)]
  split
  next hnone => exact absurd (hread.symm.trans hnone) (by simp)
  next hsome => rw [Option.some.inj (hread.symm.trans hsome)]

lemma readAll_spec (t : Text) : ∃ left, readAll t = some ((Markup.readAttributes t).1, left) ∧ left <:+ t ∧
    (left = [] ∧ (Markup.readAttributes t).2 = [] ∨ left = '>' :: (Markup.readAttributes t).2) ∧
    (Markup.readAttributes t).1.length + size left ≤ size t := by
  fun_induction Markup.readAttributes t with
  | case1 t h =>
    exact ⟨[], readAll_of_end h (.inl rfl), List.nil_suffix, .inl ⟨rfl, rfl⟩, by simp [size_nil]⟩
  | case2 t rest h =>
    have hsuffix : '>' :: rest <:+ t := h ▸ List.dropWhile_suffix isGap
    exact ⟨'>' :: rest, readAll_of_end h (.inr rfl), hsuffix, .inr rfl, by
      simpa using size_le_of_suffix hsuffix⟩
  | case3 t c u hc h hl attributes rest hn ih =>
    rw [hn] at ih
    obtain ⟨left, hleft, hsuffix, hends, hsize⟩ := ih
    have hbehind : (Attribute.read c u).2 <:+ t :=
      (Attribute.read_suffix c u).trans ((List.suffix_cons c u).trans (h ▸ List.dropWhile_suffix isGap))
    refine ⟨left, ?_, hsuffix.trans hbehind, hends, ?_⟩
    · rw [readAll_of_name h hc, hleft, Option.map_some]
    · have hless : size (Attribute.read c u).2 < size (t.dropWhile isGap) :=
        size_readAttribute_lt (readAttribute_dropWhile h hc)
      have hle := size_le_of_suffix (List.dropWhile_suffix (l := t) isGap)
      simp only [List.length_cons] at hsize ⊢
      omega

/-- What reading the attributes of a tag takes of a text: at least a byte for each attribute, up to a place of
the text, which is its end or stands behind a `>`. -/
structure Takes (t : Text) (attributes : List Attribute) (consumed : Nat) : Prop where
  length_le : attributes.length ≤ consumed
  le_size : consumed ≤ size t
  isBoundary : IsBoundary t consumed
  ends : consumed = size t ∨ ∃ a b, t = a ++ '>' :: b ∧ consumed = size a + 1

/-- Reading the attributes of a tag by offsets never fails and leaves what reading by characters leaves. -/
lemma readAttributes_spec (t : Text) : ∃ a, t = a ++ (Markup.readAttributes t).2 ∧
    readAttributes t = some ((Markup.readAttributes t).1, size a) ∧
      Takes t (Markup.readAttributes t).1 (size a) := by
  obtain ⟨left, hleft, ⟨b, hb⟩, hends, hsize⟩ := readAll_spec t
  have htotal := size_append b left
  rw [hb] at htotal
  have htaken : size t - size left = size b := by omega
  rw [readAttributes, hleft, Option.bind_some]
  dsimp only
  rw [if_pos (by omega), htaken]
  obtain ⟨rfl, hrest⟩ | rfl := hends
  · rw [List.append_nil] at hb
    subst hb
    exact ⟨b, by rw [hrest, List.append_nil], rfl, by omega, Nat.le_refl _, ⟨b, [], by simp, rfl⟩, .inl rfl⟩
  · have hclose : size (b ++ ['>']) = size b + 1 := size_append b ['>']
    have hsplit : t = b ++ ['>'] ++ (Markup.readAttributes t).2 := by
      rw [List.append_assoc]
      exact hb.symm
    have hrest := size_append (b ++ ['>']) (Markup.readAttributes t).2
    rw [← hsplit] at hrest
    refine ⟨b ++ ['>'], hsplit, ?_, by omega, by omega, ⟨_, _, hsplit, rfl⟩, .inr ⟨b, _, hb.symm, hclose⟩⟩
    rw [hclose]
    rfl

section Tags

variable {α : Type}

/-- Reads on behind the name of a tag, if it ends there, and puts the attributes to use. -/
def readTag (use : List Attribute → Option (Option α)) (t : Text) : Option (Option α × Nat) :=
  if atNameEnd t then
    (readAttributes t).bind fun (attributes, consumed) =>
      (use attributes).map fun result => (result, consumed)
  else some (none, 0)

/-- Goes through the `name` tags of a text until the attributes of one are of use. Gives the offsets at which
the name was found behind a `<`, and what came of it. -/
def searchTags (name : Text) (use : List Attribute → Option (Option α)) (t : Text) :
    Option (List Nat × Option α) :=
  search ('<' :: name) (List.cons_ne_nil '<' name) (readTag use) t 0

/-- What `readTag` does, by characters. -/
def tagRead (use : List Attribute → Option α) (t : Text) : Option α × Text :=
  if atNameEnd t then (use (Markup.readAttributes t).1, (Markup.readAttributes t).2) else (none, t)

variable {use : List Attribute → Option (Option α)} {use' : List Attribute → Option α}

lemma readTag_eq (huse : ∀ as, use as = some (use' as)) (t : Text) :
    ∃ a, t = a ++ (tagRead use' t).2 ∧ readTag use t = some ((tagRead use' t).1, size a) := by
  unfold tagRead readTag
  split
  · obtain ⟨a, ha, hread, -⟩ := readAttributes_spec t
    refine ⟨a, ha, ?_⟩
    rw [hread, Option.bind_some]
    simp only [huse, Option.map_some]
  · exact ⟨[], rfl, rfl⟩

lemma startTags_congr {name t u : Text} (h : nextTag? name t = nextTag? name u) :
    startTags name t = startTags name u := by
  cases hu : nextTag? name u with
  | none => rw [startTags_of_nextTag?_eq_none (h.trans hu), startTags_of_nextTag?_eq_none hu]
  | some tag => rw [startTags_of_nextTag? (h.trans hu), startTags_of_nextTag? hu]

lemma finds_startTags {name : Text} (hname : lower name = name) (hlt : '<' ∉ name) :
    Finds ('<' :: name) (tagRead use') fun t => (startTags name t).findSome? use' := by
  have hlower : lower ('<' :: name) = '<' :: name := by rw [lower_cons_lt, hname]
  have hskip {c : Char} {t : Text} (h : ¬ '<' :: name <+: lower (c :: t)) :
      startTags name (c :: t) = startTags name t := by
    apply startTags_congr
    rw [nextTag?, opening?, (after?_eq_none_iff hlower).mpr h, Option.filter_none]
  constructor
  · rw [startTags_of_nextTag?_eq_none rfl, List.findSome?_nil]
  · intro c t h
    rw [hskip h]
  · intro x u hx
    obtain ⟨c, y, rfl, hc, hy⟩ := List.map_eq_cons_iff.mp hx
    have hafter : after? ('<' :: name) (c :: (y ++ u)) = some u :=
      after?_eq_some_iff.mpr ⟨c :: y, rfl, hx.trans hlower.symm⟩
    rw [List.cons_append, tagRead]
    split
    next hend =>
      have hnext : nextTag? name (c :: (y ++ u)) = some (Markup.readAttributes u) := by
        rw [nextTag?, opening?, hafter, Option.filter_some_pos hend]
      rw [startTags_of_nextTag? hnext, List.findSome?_cons]
      cases use' (Markup.readAttributes u).1 <;> rfl
    next hend =>
      have hnext : nextTag? name (c :: (y ++ u)) = nextTag? name (y ++ u) := by
        rw [nextTag?, opening?, hafter, Option.filter_some_neg (Bool.eq_false_iff.mpr hend)]
      -- No tag begins within the name, so the search goes on behind it.
      have hlacks : '<' ∉ lower y := by
        rw [lower, hy]
        exact hlt
      have hbehind : startTags name (y ++ u) = startTags name u :=
        eq_of_lacksWord hskip (lacksWord_of_notMem hlacks u)
      rw [startTags_congr hnext, hbehind, Option.none_or]

lemma searchTags_spec (huse : ∀ as, use as = some (use' as)) (name t : Text) :
    ∃ found result, searchTags name use t = some (found, result) ∧ Places ('<' :: name) t 0 found ∧
      (lower name = name → '<' ∉ name → result = (startTags name t).findSome? use') := by
  obtain ⟨found, result, hsearch, hplaces, hF⟩ :=
    search_spec (List.cons_ne_nil '<' name) (readTag_eq huse) [] t
  exact ⟨found, result, hsearch, hplaces, fun hname hlt => hF _ (finds_startTags hname hlt)⟩

end Tags

end Sliced

end BrowserTab.Markup
