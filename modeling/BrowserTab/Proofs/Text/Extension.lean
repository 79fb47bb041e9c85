import BrowserTab.Proofs.Text.Scanning
import BrowserTab.Text.Value

/-!
# Texts that go on

A scan of the beginning of a text may come to an end in it, and then what follows the beginning changes
nothing; or it runs on into what follows. To tell the two apart it is enough to let the text go on with one
character that ends nothing and begins nothing.
-/

namespace BrowserTab.Text

/-- A reader comes to an end within a text: it gives the same, and leaves the same and what follows. -/
def StopsIn {α : Type} (f : Text → α × Text) (t : Text) (a : α) (u : Text) : Prop :=
  ∀ r, f (t ++ r) = (a, u ++ r)

lemma StopsIn.read_eq {α : Type} {f : Text → α × Text} {t u : Text} {a : α} (h : StopsIn f t a u) :
    f t = (a, u) := by
  simpa using h []

/-- A character that is no letter, no blank and no sign of markup or of content types. -/
structure Inert (c : Char) : Prop where
  isAlpha : c.isAlpha = false
  isBlank : isBlank c = false
  sign : c ∉ ['<', '>', '/', '=', ';', '"', '\'']

namespace Inert

variable {c : Char} (hc : Inert c)
include hc

lemma isSpace : isSpace c = false :=
  Bool.eq_false_iff.mpr fun hs => absurd (isBlank_of_isSpace hs) (Bool.eq_false_iff.mp hc.isBlank)

lemma ne {d : Char} (hd : d ∈ ['<', '>', '/', '=', ';', '"', '\'']) : c ≠ d := by
  rintro rfl
  exact hc.sign hd

lemma isQuote : isQuote c = false := by
  simp [Text.isQuote, hc.ne]

end Inert

section Scan

variable {p : Char → Bool} {t : Text}

lemma dropWhile_append_of_ne_nil (h : t.dropWhile p ≠ []) (r : Text) :
    (t ++ r).dropWhile p = t.dropWhile p ++ r := by
  rw [List.dropWhile_append, if_neg (by simpa using h)]

lemma dropWhile_concat {c : Char} (hc : p c = false) : (t ++ [c]).dropWhile p = t.dropWhile p ++ [c] := by
  by_cases h : t.dropWhile p = []
  · rw [List.dropWhile_append_of_pos (List.dropWhile_eq_nil_iff.mp h), h,
      List.dropWhile_cons_of_neg (by simp [hc]), List.nil_append]
  · exact dropWhile_append_of_ne_nil h [c]

lemma takeWhile_append_of_ne_nil (h : t.dropWhile p ≠ []) (r : Text) :
    (t ++ r).takeWhile p = t.takeWhile p := by
  rw [List.takeWhile_append, if_neg]
  intro hlength
  refine h (List.dropWhile_eq_nil_iff.mpr ?_)
  exact List.takeWhile_eq_self_iff.mp ((List.takeWhile_prefix p).eq_of_length hlength)

lemma trim_concat {c : Char} (hc : p c = false) : trim p (t ++ [c]) = t.dropWhile p ++ [c] := by
  rw [trim, dropWhile_concat hc, trimEnd, List.reverse_concat, List.dropWhile_cons_of_neg (by simp [hc]),
    List.reverse_cons, List.reverse_reverse]

end Scan

lemma after?_append_of_eq_none {w t : Text} (h : after? w t = none) :
    (∀ r, after? w (t ++ r) = none) ∨ lower t <+: lower w := by
  fun_induction after? w t with
  | case1 t => cases h
  | case2 a w => exact .inr (List.nil_prefix)
  | case3 a w c t ha ih =>
    refine (ih h).imp (fun hr r => ?_) fun ht => ?_
    · rw [List.cons_append, after?, if_pos ha, hr]
    · rw [lower, lower, List.map_cons, List.map_cons, ha]
      exact List.cons_prefix_cons.mpr ⟨rfl, ht⟩
  | case4 a w c t ha =>
    refine .inl fun r => ?_
    rw [List.cons_append, after?, if_neg ha]

lemma after?_append_of_eq_some {w t u : Text} (h : after? w t = some u) (r : Text) :
    after? w (t ++ r) = some (u ++ r) := by
  obtain ⟨x, rfl, hx⟩ := after?_eq_some_iff.mp h
  exact after?_eq_some_iff.mpr ⟨x, List.append_assoc x u r, hx⟩

lemma after?_concat_eq_none {w t : Text} {c : Char} (h : after? w t = none)
    (hc : ∀ a ∈ w, a.toLower ≠ c.toLower) : after? w (t ++ [c]) = none := by
  fun_induction after? w t with
  | case1 t => cases h
  | case2 a w => rw [List.nil_append, after?, if_neg (hc a List.mem_cons_self)]
  | case3 a w d t ha ih =>
    rw [List.cons_append, after?, if_pos ha]
    exact ih h fun b hb => hc b (List.mem_cons_of_mem a hb)
  | case4 a w d t ha => rw [List.cons_append, after?, if_neg ha]

lemma readValue_suffix (stop : Char → Bool) (t : Text) : (readValue stop t).2 <:+ t := by
  cases t with
  | nil => exact List.suffix_refl _
  | cons d t =>
    rw [readValue]
    split
    · exact (List.drop_suffix _ _).trans ((List.dropWhile_suffix _).trans (List.suffix_cons d t))
    · exact List.dropWhile_suffix _

/-- What is read of a value whose end is the end of the text leaves out quotes at most. -/
lemma mem_or_isQuote_of_readValue {stop : Char → Bool} {t v : Text} (h : readValue stop t = (v, []))
    {d : Char} (hd : d ∈ t) : d ∈ v ∨ isQuote d = true := by
  cases t with
  | nil => cases hd
  | cons q t =>
    rw [readValue] at h
    split at h
    · rename_i hq
      have hsplit := List.takeWhile_append_dropWhile (p := (· ≠ q)) (l := t)
      have hclosing := head?_dropWhile (p := (· ≠ q)) t
      obtain ⟨rfl, hrest⟩ := Prod.mk.inj h
      generalize t.dropWhile (· ≠ q) = rest at hsplit hclosing hrest
      rw [← hsplit, List.mem_cons, List.mem_append] at hd
      rcases hd with rfl | hd | hd
      · exact .inr hq
      · exact .inl hd
      · -- Nothing is left behind the closing quote.
        obtain ⟨e, rfl⟩ : ∃ e, rest = [e] := by
          cases rest with
          | nil => cases hd
          | cons e rest => exact ⟨e, congrArg (e :: ·) hrest⟩
        obtain rfl := List.mem_singleton.mp hd
        obtain rfl : d = q := by simpa using hclosing d rfl
        exact .inr hq
    · have hsplit := List.takeWhile_append_dropWhile (p := (!stop ·)) (l := q :: t)
      obtain ⟨rfl, hrest⟩ := Prod.mk.inj h
      rw [hrest, List.append_nil] at hsplit
      left
      rwa [hsplit]

/-- What a reader reads at the start of a text runs to the end of the text, and on into what follows. -/
structure RunsOn (f : Text → Text × Text) (t v : Text) : Prop where
  suffix : v <:+ t
  read : f t = (v, [])
  concat : ∀ {c}, Inert c → f (t ++ [c]) = (v ++ [c], [])
  append : ∀ r, ∃ x, (f (t ++ r)).1 = v ++ x

lemma readValue_stops_or_runs {stop : Char → Bool} (hstop : ∀ {c}, Inert c → stop c = false) (t : Text) :
    (∃ v u, t ≠ [] ∧ StopsIn (readValue stop) t v u) ∨ ∃ v, RunsOn (readValue stop) t v := by
  cases t with
  | nil =>
    refine .inr ⟨[], List.suffix_refl _, rfl, fun hc => ?_, fun r => ⟨_, rfl⟩⟩
    simp [readValue, hstop hc, hc.isQuote]
  | cons d t =>
    by_cases hd : isQuote d = true
    · have hread (r : Text) : readValue stop (d :: t ++ r) =
          ((t ++ r).takeWhile (· ≠ d), ((t ++ r).dropWhile (· ≠ d)).drop 1) := by
        rw [List.cons_append, readValue, if_pos hd]
      by_cases hclosed : t.dropWhile (· ≠ d) = []
      · have hinside := List.dropWhile_eq_nil_iff.mp hclosed
        refine .inr ⟨t, List.suffix_cons d t, ?_, fun {c} hc => ?_, fun r => ?_⟩
        · have h := hread []
          rwa [List.append_nil, List.append_nil, hclosed, List.takeWhile_eq_self_iff.mpr hinside] at h
        · have hne : c ≠ d := by
            rintro rfl
            exact absurd (hd.symm.trans hc.isQuote) (by decide)
          rw [hread, List.takeWhile_append_of_pos hinside, List.dropWhile_append_of_pos hinside]
          simp [hne]
        · exact ⟨_, by rw [hread, List.takeWhile_append_of_pos hinside]⟩
      · refine .inl ⟨t.takeWhile (· ≠ d), (t.dropWhile (· ≠ d)).drop 1, by simp, fun r => ?_⟩
        rw [hread, takeWhile_append_of_ne_nil hclosed, dropWhile_append_of_ne_nil hclosed,
          List.drop_append_of_le_length (List.length_pos_iff.mpr hclosed)]
    · have hread (r : Text) : readValue stop (d :: t ++ r) =
          ((d :: t ++ r).takeWhile (!stop ·), (d :: t ++ r).dropWhile (!stop ·)) := by
        rw [List.cons_append, readValue, if_neg hd]
      by_cases hclosed : (d :: t).dropWhile (!stop ·) = []
      · have hinside := List.dropWhile_eq_nil_iff.mp hclosed
        refine .inr ⟨d :: t, List.suffix_refl _, ?_, fun {c} hc => ?_, fun r => ?_⟩
        · have h := hread []
          rwa [List.append_nil, hclosed, List.takeWhile_eq_self_iff.mpr hinside] at h
        · rw [hread, List.takeWhile_append_of_pos hinside, List.dropWhile_append_of_pos hinside]
          simp [hstop hc]
        · exact ⟨_, by rw [hread, List.takeWhile_append_of_pos hinside]⟩
      · refine .inl ⟨(d :: t).takeWhile (!stop ·), (d :: t).dropWhile (!stop ·), by simp, fun r => ?_⟩
        rw [hread, takeWhile_append_of_ne_nil hclosed, dropWhile_append_of_ne_nil hclosed]

end BrowserTab.Text
