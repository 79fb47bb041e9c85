import BrowserTab.Proofs.Text.Offset

/-!
# Searching for a word

A search looks for a word in the lower-case copy of a text, reads what follows the word in the text itself,
and goes on behind what was read until a reading gives a result. The offsets of the copy are used in the
text, and each turn begins where the turn before it ended. Whatever the text is, the offsets are places of
it and increase, so the search comes to an end; and it finds what a search character by character finds.
-/

namespace BrowserTab.Text

open Encoding.Utf8

/-- The offset of the first place where the word `w` stands. -/
def findWord? (w : Text) : Text → Option Nat
  | [] => if w.isEmpty then some 0 else none
  | c :: t => if w.isPrefixOf (c :: t) then some 0 else (findWord? w t).map (width c + ·)

/-- Nowhere in the text `p` does the word `w` begin, if `y` follows it, letter case aside. -/
def LacksWord (w p y : Text) : Prop :=
  ∀ s, s <:+ p → s ≠ [] → ¬w <+: lower (s ++ y)

section Lacks

variable {w p y : Text} {c : Char}

lemma LacksWord.of_cons (h : LacksWord w (c :: p) y) :
    ¬w <+: lower (c :: (p ++ y)) ∧ LacksWord w p y :=
  ⟨h (c :: p) (List.suffix_refl _) (List.cons_ne_nil c p), fun s hs => h s (hs.trans (List.suffix_cons c p))⟩

lemma LacksWord.cons (hc : ¬w <+: lower (c :: (p ++ y))) (h : LacksWord w p y) : LacksWord w (c :: p) y := by
  intro s hs hne
  obtain rfl | hs := List.suffix_cons_iff.mp hs
  · exact hc
  · exact h s hs hne

lemma lacksWord_nil : LacksWord w [] y :=
  fun _ hs hne => absurd (List.suffix_nil.mp hs) hne

end Lacks

lemma lacksWord_of_notMem {a : Char} {v p : Text} (ha : a ∉ lower p) (y : Text) : LacksWord (a :: v) p y := by
  intro s hs hne hw
  cases s with
  | nil => exact absurd rfl hne
  | cons d s =>
    obtain ⟨hd, -⟩ := List.cons_prefix_cons.mp hw
    rw [hd] at ha
    exact ha (List.mem_map_of_mem (hs.subset List.mem_cons_self))

lemma eq_of_lacksWord {α : Type} {w p y : Text} {F : Text → α}
    (hskip : ∀ {c t}, ¬w <+: lower (c :: t) → F (c :: t) = F t) (h : LacksWord w p y) : F (p ++ y) = F y := by
  induction p with
  | nil => rfl
  | cons c p ih =>
    obtain ⟨hc, hp⟩ := h.of_cons
    rw [List.cons_append, hskip hc]
    exact ih hp

lemma after?_eq_none_iff {w t : Text} (hw : lower w = w) : after? w t = none ↔ ¬w <+: lower t := by
  rw [← Option.not_isSome_iff_eq_none, Option.isSome_iff_exists, not_iff_not]
  simp only [after?_eq_some_iff, hw]
  constructor
  · rintro ⟨u, x, rfl, hx⟩
    exact ⟨lower u, by rw [lower_append, hx]⟩
  · rintro ⟨b, hb⟩
    obtain ⟨x, u, rfl, hx, -⟩ := exists_split_of_lower hb.symm
    exact ⟨u, x, rfl, hx⟩

lemma size_of_lower {w x : Text} (h : lower x = w) : size x = size w := by
  rw [← h, size_lower]

variable {w : Text}

lemma lacksWord_of_findWord? {t : Text} (h : findWord? w (lower t) = none) : LacksWord w t [] := by
  induction t with
  | nil => exact lacksWord_nil
  | cons c t ih =>
    rw [lower, List.map_cons, findWord?] at h
    split_ifs at h with hw
    apply LacksWord.cons
    · rw [List.append_nil, lower, List.map_cons, ← List.isPrefixOf_iff_prefix]
      exact hw
    · exact ih (Option.map_eq_none_iff.mp h)

lemma exists_split_of_findWord? {t : Text} {n : Nat} (h : findWord? w (lower t) = some n) :
    ∃ p x u, t = p ++ (x ++ u) ∧ size p = n ∧ lower x = w ∧ LacksWord w p (x ++ u) := by
  induction t generalizing n with
  | nil =>
    rw [lower, List.map_nil, findWord?] at h
    split_ifs at h with hw
    cases h
    exact ⟨[], [], [], rfl, rfl, (List.isEmpty_iff.mp hw).symm, lacksWord_nil⟩
  | cons c t ih =>
    rw [lower, List.map_cons, findWord?, width_toLower] at h
    split_ifs at h with hw
    · cases h
      obtain ⟨v, hv⟩ := List.isPrefixOf_iff_prefix.mp hw
      obtain ⟨x, u, hx, hlower, -⟩ := exists_split_of_lower (t := c :: t) hv.symm
      exact ⟨[], x, u, hx, rfl, hlower, lacksWord_nil⟩
    · obtain ⟨m, hm, rfl⟩ := Option.map_eq_some_iff.mp h
      obtain ⟨p, x, u, rfl, rfl, hx, hp⟩ := ih hm
      refine ⟨c :: p, x, u, rfl, size_cons c p, hx, hp.cons ?_⟩
      rw [lower, List.map_cons, ← List.isPrefixOf_iff_prefix]
      exact hw

/-- The offset at which the word stands next in the lower-case copy of a text, from `start` on. -/
def seek (w t : Text) (start : Nat) : Option (Option Nat) :=
  (cut? (lower t) start).map fun (_, behind) => (findWord? w behind).map (start + ·)

lemma seek_append (w a b : Text) :
    seek w (a ++ b) (size a) = some ((findWord? w (lower b)).map (size a + ·)) := by
  rw [seek, lower_append, ← size_lower a, cut?_append]
  rfl

lemma isBoundary_of_seek {t : Text} {start : Nat} {next : Option Nat} (h : seek w t start = some next) :
    IsBoundary t start := by
  obtain ⟨parts, hcut, -⟩ := Option.map_eq_some_iff.mp h
  exact isBoundary_lower.mp (isSome_cut?_iff.mp (Option.isSome_of_eq_some hcut))

lemma le_of_seek {t : Text} {start n : Nat} (h : seek w t start = some (some n)) : start ≤ n := by
  obtain ⟨parts, -, hfind⟩ := Option.map_eq_some_iff.mp h
  obtain ⟨m, -, rfl⟩ := Option.map_eq_some_iff.mp hfind
  exact Nat.le_add_right start m

section Search

variable {α : Type} (w) (hw : w ≠ []) (read : Text → Option (Option α × Nat))

/-- Searches a text from `start` on for the word `w`. A reading of what follows the word gives a result or
none, and how many bytes it used. Gives the offsets at which the word was found, and the result. -/
def search (t : Text) (start : Nat) : Option (List Nat × Option α) :=
  match h : seek w t start with
  | none => none
  | some none => some ([], none)
  | some (some found) =>
    have := le_of_seek h
    have := (isBoundary_of_seek h).le_size
    have := size_pos hw
    (cut? t (found + size w)).bind fun (_, rest) =>
      (read rest).bind fun
        | (some a, _) => some ([found], some a)
        | (none, consumed) =>
          (search t (found + size w + consumed)).map fun (later, result) => (found :: later, result)
termination_by size t + 1 - start

/-- Offsets found by a search from `start` on: they increase, and the word begins and ends at places of the
text. -/
structure Places (t : Text) (start : Nat) (found : List Nat) : Prop where
  increasing : found.Pairwise (· < ·)
  start_le : ∀ n ∈ found, start ≤ n
  isBoundary : ∀ n ∈ found, IsBoundary t n ∧ IsBoundary t (n + size w)

/-- A search by characters: `F` gives the first result of reading by `R`, which leaves what it did not read,
behind the word `w`. -/
structure Finds (R : Text → Option α × Text) (F : Text → Option α) : Prop where
  nil : F [] = none
  skip : ∀ {c t}, ¬w <+: lower (c :: t) → F (c :: t) = F t
  word : ∀ {x u}, lower x = w → F (x ++ u) = (R u).1.or (F (R u).2)

variable {w read}

lemma Places.nil (t : Text) (start : Nat) : Places w t start [] :=
  ⟨List.Pairwise.nil, by simp, by simp⟩

include hw in
lemma Places.cons {t : Text} {start n next : Nat} {found : List Nat} (hstart : start ≤ n)
    (hn : IsBoundary t n ∧ IsBoundary t (n + size w)) (hnext : n + size w ≤ next)
    (h : Places w t next found) : Places w t start (n :: found) where
  increasing := by
    apply List.Pairwise.cons _ h.increasing
    intro m hm
    have hpos := size_pos hw
    have hm := h.start_le m hm
    omega
  start_le := by
    apply List.forall_mem_cons.mpr ⟨hstart, ?_⟩
    intro m hm
    have hm := h.start_le m hm
    omega
  isBoundary := List.forall_mem_cons.mpr ⟨hn, h.isBoundary⟩

lemma Places.length_le {t : Text} {start : Nat} {found : List Nat} (hw : w ≠ []) (h : Places w t start found) :
    found.length ≤ size t := by
  have hnodup : found.Nodup := h.increasing.imp Nat.ne_of_lt
  have hsubset : found ⊆ List.range (size t) := by
    intro n hn
    have hpos := size_pos hw
    have hle := (h.isBoundary n hn).2.le_size
    rw [List.mem_range]
    omega
  simpa using (List.subperm_of_subset hnodup hsubset).length_le

lemma search_of_lacks {b : Text} (h : findWord? w (lower b) = none) (a : Text) :
    search w hw read (a ++ b) (size a) = some ([], none) := by
  have hseek : seek w (a ++ b) (size a) = some none := by
    rw [seek_append, h]
    rfl
  rw [search]
  split <;> simp_all

lemma append_word (a p x v z : Text) : a ++ (p ++ (x ++ (v ++ z))) = a ++ (p ++ (x ++ v)) ++ z := by
  simp

lemma search_of_found {a p x v z : Text} {result : Option α}
    (h : findWord? w (lower (p ++ (x ++ (v ++ z)))) = some (size p)) (hx : lower x = w)
    (hread : read (v ++ z) = some (result, size v)) :
    search w hw read (a ++ (p ++ (x ++ (v ++ z)))) (size a) =
      result.elim
        ((search w hw read (a ++ (p ++ (x ++ v)) ++ z) (size (a ++ (p ++ (x ++ v))))).map
          fun (later, result) => (size (a ++ p) :: later, result))
        fun r => some ([size (a ++ p)], some r) := by
  have hseek : seek w (a ++ (p ++ (x ++ (v ++ z)))) (size a) = some (some (size (a ++ p))) := by
    rw [seek_append, h, size_append]
    rfl
  have hcut : cut? (a ++ (p ++ (x ++ (v ++ z)))) (size (a ++ p) + size w) = some (a ++ (p ++ x), v ++ z) := by
    rw [cut?_eq_some_iff, ← size_of_lower hx]
    exact ⟨by simp, by simp [Nat.add_assoc]⟩
  have hnext : size (a ++ p) + size w + size v = size (a ++ (p ++ (x ++ v))) := by
    rw [← size_of_lower hx]
    simp [Nat.add_assoc]
  rw [search]
  split
  next hnone => exact absurd (hseek.symm.trans hnone) (by simp)
  next hnone => exact absurd (hseek.symm.trans hnone) (by simp)
  next found hfound =>
    obtain rfl : size (a ++ p) = found := by simpa using hseek.symm.trans hfound
    rw [hcut, Option.bind_some]
    dsimp only
    rw [hread, Option.bind_some, ← append_word, ← hnext]
    cases result <;> rfl

lemma isBoundary_word {a p x u : Text} (hx : lower x = w) : IsBoundary (a ++ (p ++ (x ++ u))) (size (a ++ p)) ∧
    IsBoundary (a ++ (p ++ (x ++ u))) (size (a ++ p) + size w) := by
  constructor
  · exact ⟨a ++ p, x ++ u, by simp, rfl⟩
  · refine ⟨a ++ p ++ x, u, by simp, ?_⟩
    rw [size_append, size_of_lower hx]

/-- A search whose readings never fail never fails either and ends; it finds at places what the search by
characters finds. -/
lemma search_spec {R : Text → Option α × Text}
    (hread : ∀ u, ∃ v, u = v ++ (R u).2 ∧ read u = some ((R u).1, size v)) (a b : Text) :
    ∃ found result, search w hw read (a ++ b) (size a) = some (found, result) ∧
      Places w (a ++ b) (size a) found ∧ ∀ F, Finds w R F → result = F b := by
  -- by the length of what is left: each turn takes at least the word
  induction hlength : b.length using Nat.strong_induction_on generalizing a b with
  | _ length ih =>
  cases hfind : findWord? w (lower b) with
  | none =>
    refine ⟨[], none, search_of_lacks hw hfind a, Places.nil _ _, fun F hF => ?_⟩
    have hb := eq_of_lacksWord hF.skip (lacksWord_of_findWord? hfind)
    rw [List.append_nil, hF.nil] at hb
    exact hb.symm
  | some n =>
    obtain ⟨p, x, u, rfl, rfl, hx, hlacks⟩ := exists_split_of_findWord? hfind
    obtain ⟨v, hu, hv⟩ := hread u
    rcases hR : R u with ⟨result, z⟩
    rw [hR] at hu hv
    subst hu
    have hword := isBoundary_word (a := a) (p := p) (u := v ++ z) hx
    have hstart : size a ≤ size (a ++ p) := by simp
    have hresult (F : Text → Option α) (hF : Finds w R F) : F (p ++ (x ++ (v ++ z))) = result.or (F z) := by
      rw [eq_of_lacksWord hF.skip hlacks, hF.word hx, hR]
    rw [search_of_found hw hfind hx hv]
    cases result with
    | some r =>
      refine ⟨[size (a ++ p)], some r, rfl, ?_, fun F hF => ?_⟩
      · exact (Places.nil _ _).cons hw hstart hword (Nat.le_refl _)
      · rw [hresult F hF, Option.some_or]
    | none =>
      have hless : z.length < length := by
        have hpos : 0 < x.length := List.length_pos_iff.mpr fun h => hw (by rw [← hx, h]; rfl)
        simp only [List.length_append] at hlength
        omega
      obtain ⟨later, result, hsearch, hplaces, hfinds⟩ := ih _ hless (a ++ (p ++ (x ++ v))) z rfl
      have hnext : size (a ++ p) + size w ≤ size (a ++ (p ++ (x ++ v))) := by
        rw [← size_of_lower hx]
        simp only [size_append]
        omega
      refine ⟨size (a ++ p) :: later, result, ?_, ?_, fun F hF => ?_⟩
      · rw [hsearch]
        rfl
      · rw [append_word] at hword ⊢
        exact hplaces.cons hw hstart hword hnext
      · rw [hresult F hF, Option.none_or]
        exact hfinds F hF

end Search

end BrowserTab.Text
