import BrowserTab.Proofs.Encoding.RoundTrip
import BrowserTab.Proofs.Text.Ascii
import BrowserTab.Text.Value

/-!
# Byte offsets

A place in a text can be given by the number of bytes in front of it. A reader that works with such numbers
may ask for a place that is not there: beyond the end, or between the bytes of one character. This file says
which numbers are places, cuts texts at them, and shows that letter case within ASCII moves none of them.
-/

namespace BrowserTab.Text

open Encoding.Utf8

/-- The number of bytes of one character. -/
def width (c : Char) : Nat :=
  (encodeChar c).length

@[simp] lemma size_nil : size [] = 0 :=
  rfl

@[simp] lemma size_append (t u : Text) : size (t ++ u) = size t + size u := by
  simp [size, encode]

@[simp] lemma size_cons (c : Char) (t : Text) : size (c :: t) = width c + size t := by
  simp [size, encode, width]

/-- Whether a byte stands behind the first byte of a character. -/
def Continues (b : UInt8) : Prop :=
  0x80 ≤ b.toNat ∧ b.toNat < 0xC0

/-- Whether a byte can be the first one of a character; a character of ASCII is its only byte. -/
def Begins (c : Char) (b : UInt8) : Prop :=
  c.toNat < 0x80 ∧ b.toNat = c.toNat ∨ 0x80 ≤ c.toNat ∧ 0xC0 ≤ b.toNat

lemma Begins.not_continues {c : Char} {b : UInt8} (h : Begins c b) : ¬Continues b := by
  unfold Begins at h
  unfold Continues
  omega

lemma exists_encodeChar (c : Char) :
    ∃ b bs, encodeChar c = b :: bs ∧ Begins c b ∧ ∀ d ∈ bs, Continues d := by
  have hvalid := Encoding.toNat_valid c
  have hbegins {n : Nat} (hc : ¬c.toNat < 0x80) (hlow : 0xC0 ≤ n) (hhigh : n < 0x100) :
      Begins c (.ofNat n) := by
    rw [Begins, Encoding.toNat_ofNat_byte hhigh]
    omega
  have hcontinues (n : Nat) : Continues (.ofNat (0x80 + n % 64)) := by
    rw [Continues, Encoding.toNat_ofNat_byte (by omega)]
    omega
  unfold encodeChar
  dsimp only
  split_ifs with hc
  · exact ⟨_, _, rfl, .inl ⟨hc, Encoding.toNat_ofNat_byte (by omega)⟩, List.forall_mem_nil _⟩
  · exact ⟨_, _, rfl, hbegins hc (by omega) (by omega), List.forall_mem_singleton.mpr (hcontinues _)⟩
  · exact ⟨_, _, rfl, hbegins hc (by omega) (by omega), List.forall_mem_cons.mpr
      ⟨hcontinues _, List.forall_mem_singleton.mpr (hcontinues _)⟩⟩
  · exact ⟨_, _, rfl, hbegins hc (by omega) (by omega), List.forall_mem_cons.mpr
      ⟨hcontinues _, List.forall_mem_cons.mpr ⟨hcontinues _, List.forall_mem_singleton.mpr (hcontinues _)⟩⟩⟩

lemma width_pos (c : Char) : 0 < width c := by
  obtain ⟨b, bs, h, -⟩ := exists_encodeChar c
  simp [width, h]

lemma size_pos {t : Text} (h : t ≠ []) : 0 < size t := by
  cases t with
  | nil => exact absurd rfl h
  | cons c t =>
    have hc := width_pos c
    rw [size_cons]
    omega

lemma width_of_isAscii {c : Char} (h : IsAscii c) : width c = 1 := by
  have hc : c.toNat < 0x80 := h
  simp [width, encodeChar, hc]

lemma width_toLower (c : Char) : width c.toLower = width c := by
  by_cases h : IsAscii c
  · rw [width_of_isAscii h, width_of_isAscii (isAscii_toLower.mpr h)]
  · rw [(toLower_eq_iff (Bool.eq_false_iff.mpr fun ha => h (isAscii_of_isAlpha ha))).mpr rfl]

@[simp] lemma size_lower (t : Text) : size (lower t) = size t := by
  induction t with
  | nil => rfl
  | cons c t ih =>
    calc
      size (lower (c :: t)) = width c.toLower + size (lower t) := size_cons _ _
      _ = size (c :: t) := by rw [width_toLower, ih, ← size_cons]

lemma size_le_of_suffix {t u : Text} (h : u <:+ t) : size u ≤ size t := by
  obtain ⟨a, rfl⟩ := h
  simp

/-- Whether a text has a place with `n` bytes in front of it. -/
def IsBoundary (t : Text) (n : Nat) : Prop :=
  ∃ a b, t = a ++ b ∧ size a = n

lemma IsBoundary.le_size {t : Text} {n : Nat} (h : IsBoundary t n) : n ≤ size t := by
  obtain ⟨a, b, rfl, rfl⟩ := h
  simp

lemma continues_of_getElem? {c : Char} {t : Text} {n : Nat} {b : UInt8} (hpos : 0 < n) (hn : n < width c)
    (h : (encode (c :: t))[n]? = some b) : Continues b := by
  obtain ⟨first, bs, hc, -, hbs⟩ := exists_encodeChar c
  have hencode : encode (c :: t) = first :: (bs ++ encode t) := by simp [encode, hc]
  have hwidth : width c = bs.length + 1 := by simp [width, hc]
  obtain ⟨m, rfl⟩ : ∃ m, n = m + 1 := ⟨n - 1, by omega⟩
  rw [hencode, List.getElem?_cons_succ, List.getElem?_append_left (by omega)] at h
  exact hbs b (List.mem_of_getElem? h)

lemma getElem?_encode_cons {c : Char} {t : Text} {n : Nat} (hn : width c ≤ n) :
    (encode (c :: t))[n]? = (encode t)[n - width c]? := by
  have hencode : encode (c :: t) = encodeChar c ++ encode t := by simp [encode]
  rw [hencode, List.getElem?_append_right hn]
  rfl

/-- The places of a text are its end and those in front of a byte that begins a character. -/
theorem isBoundary_iff {t : Text} {n : Nat} :
    IsBoundary t n ↔ n = size t ∨ ∃ b ∈ (encode t)[n]?, ¬Continues b := by
  constructor
  · rintro ⟨a, b, rfl, rfl⟩
    cases b with
    | nil =>
      left
      rw [List.append_nil]
    | cons c b =>
      obtain ⟨first, bs, hc, hfirst, -⟩ := exists_encodeChar c
      right
      refine ⟨first, ?_, hfirst.not_continues⟩
      simp [encode, size, hc]
  · intro h
    induction t generalizing n with
    | nil =>
      obtain rfl | ⟨b, hb, -⟩ := h
      · exact ⟨[], [], rfl, rfl⟩
      · simp [encode] at hb
    | cons c t ih =>
      rw [size_cons] at h
      by_cases hn : n < width c
      · -- Within the bytes of the first character only the first is preceded by a place.
        obtain rfl | hpos := Nat.eq_zero_or_pos n
        · exact ⟨[], c :: t, rfl, rfl⟩
        · obtain hend | ⟨b, hb, hbegins⟩ := h
          · omega
          · exact absurd (continues_of_getElem? hpos hn hb) hbegins
      · rw [getElem?_encode_cons (by omega)] at h
        obtain ⟨a, b, rfl, ha⟩ := ih (h.imp_left fun hend => by omega)
        refine ⟨c :: a, b, rfl, ?_⟩
        rw [size_cons]
        omega

lemma exists_split_of_lower {t a b : Text} (h : lower t = a ++ b) :
    ∃ x y, t = x ++ y ∧ lower x = a ∧ lower y = b :=
  List.map_eq_append_iff.mp h

/-- The lower-case copy of a text has the places of the text. -/
theorem isBoundary_lower {t : Text} {n : Nat} : IsBoundary (lower t) n ↔ IsBoundary t n := by
  constructor
  · rintro ⟨a, b, h, rfl⟩
    obtain ⟨x, y, rfl, rfl, rfl⟩ := exists_split_of_lower h
    exact ⟨x, y, rfl, (size_lower x).symm⟩
  · rintro ⟨a, b, rfl, rfl⟩
    exact ⟨lower a, lower b, lower_append a b, size_lower a⟩

/-! ### Cutting -/

/-- The parts of a text in front of a place and behind it; there are none if there is no such place. -/
def cut? : Text → Nat → Option (Text × Text)
  | t, 0 => some ([], t)
  | [], _ + 1 => none
  | c :: t, n + 1 =>
    if width c ≤ n + 1 then (cut? t (n + 1 - width c)).map fun (a, b) => (c :: a, b) else none

lemma cut?_zero (t : Text) : cut? t 0 = some ([], t) := by
  simp [cut?]

lemma cut?_cons {c : Char} {n : Nat} (h : width c ≤ n) (t : Text) :
    cut? (c :: t) n = (cut? t (n - width c)).map fun (a, b) => (c :: a, b) := by
  cases n with
  | zero => exact absurd (width_pos c) (by omega)
  | succ n => rw [cut?, if_pos h]

lemma cut?_append (a b : Text) : cut? (a ++ b) (size a) = some (a, b) := by
  induction a with
  | nil => exact cut?_zero b
  | cons c a ih =>
    have hn : size (c :: a) - width c = size a := by
      rw [size_cons]
      omega
    rw [List.cons_append, cut?_cons (by rw [size_cons]; omega), hn, ih]
    rfl

lemma cut?_eq_some_iff {t a b : Text} {n : Nat} :
    cut? t n = some (a, b) ↔ t = a ++ b ∧ size a = n := by
  constructor
  · intro h
    fun_induction cut? t n generalizing a with
    | case1 t =>
      cases h
      exact ⟨rfl, rfl⟩
    | case2 => cases h
    | case3 c t n hc ih =>
      obtain ⟨⟨x, y⟩, hx, hxy⟩ := Option.map_eq_some_iff.mp h
      obtain ⟨rfl, rfl⟩ := Prod.mk.inj hxy
      obtain ⟨rfl, hsize⟩ := ih hx
      refine ⟨rfl, ?_⟩
      rw [size_cons]
      omega
    | case4 => cases h
  · rintro ⟨rfl, rfl⟩
    exact cut?_append a b

lemma isSome_cut?_iff {t : Text} {n : Nat} : (cut? t n).isSome ↔ IsBoundary t n := by
  rw [Option.isSome_iff_exists, Prod.exists]
  simp only [cut?_eq_some_iff, IsBoundary]

/-- There is no place between the two bytes of the second character. -/
example : cut? ['n', 'é', 'e'] 2 = none := by decide

/-- The offset of the first character of the class `p`. -/
def findChar? (p : Char → Bool) : Text → Option Nat
  | [] => none
  | c :: t => if p c then some 0 else (findChar? p t).map (width c + ·)

/-- The offset of the first character of the class `p`, or of the end. -/
def endOf (p : Char → Bool) (t : Text) : Nat :=
  (findChar? p t).getD (size t)

lemma endOf_cons (p : Char → Bool) (c : Char) (t : Text) :
    endOf p (c :: t) = if p c then 0 else width c + endOf p t := by
  rw [endOf, findChar?, endOf]
  split
  · rfl
  · rw [size_cons]
    cases findChar? p t <;> rfl

lemma endOf_eq (p : Char → Bool) (t : Text) : endOf p t = size (t.takeWhile (!p ·)) := by
  induction t with
  | nil => rfl
  | cons c t ih =>
    rw [endOf_cons]
    by_cases h : p c = true
    · simp [h]
    · rw [if_neg h, ih, List.takeWhile_cons_of_pos (by simp [h]), ← size_cons]

lemma cut?_endOf (p : Char → Bool) (t : Text) :
    cut? t (endOf p t) = some (t.takeWhile (!p ·), t.dropWhile (!p ·)) := by
  rw [cut?_eq_some_iff]
  exact ⟨List.takeWhile_append_dropWhile.symm, (endOf_eq p t).symm⟩

namespace Sliced

/-- The quote with which a text begins, as its first byte tells. -/
def openingQuote? (t : Text) : Option Char :=
  ((encode t).head?.filter fun b => b = 0x22 ∨ b = 0x27).map fun b => .ofNat b.toNat

lemma openingQuote?_eq (t : Text) : openingQuote? t = t.head?.filter isQuote := by
  cases t with
  | nil => rfl
  | cons c t =>
    obtain ⟨b, bs, hc, hb, -⟩ := exists_encodeChar c
    have hhead : (encode (c :: t)).head? = some b := by simp [encode, hc]
    have hquote : isQuote c = true ↔ c.toNat = 0x22 ∨ c.toNat = 0x27 := by
      simp [isQuote, Char.ext_iff, ← UInt32.toNat_inj]
    have hbyte : b = 0x22 ∨ b = 0x27 ↔ b.toNat = 0x22 ∨ b.toNat = 0x27 := by
      simp [← UInt8.toNat_inj]
    unfold Begins at hb
    rw [openingQuote?, hhead, List.head?_cons]
    by_cases h : isQuote c = true
    · have hsame : b.toNat = c.toNat := by
        rw [hquote] at h
        omega
      rw [Option.filter_some_pos h, Option.filter_some_pos, Option.map_some, hsame, Char.ofNat_toNat]
      simpa [hbyte, hsame] using hquote.mp h
    · have hplain : ¬(b = 0x22 ∨ b = 0x27) := by
        rw [hquote] at h
        rw [hbyte]
        omega
      rw [Option.filter_some_neg (by simpa using hplain), Option.map_none,
        Option.filter_some_neg (Bool.eq_false_iff.mpr h)]

/-- Reads a value behind the quote `q` that a text begins with; gives it and what follows it. If the quote is
not closed, nothing follows. -/
def readQuoted (q : Char) (t : Text) : Option (Text × Text) :=
  (cut? t 1).bind fun (_, inside) =>
    (cut? inside (endOf (· = q) inside)).map fun (value, _) =>
      (value, ((cut? inside (endOf (· = q) inside + 1)).map (·.2)).getD [])

/-- Reads a value by offsets. -/
def readValue (stop : Char → Bool) (t : Text) : Option (Text × Text) :=
  match openingQuote? t with
  | some q => readQuoted q t
  | none => cut? t (endOf stop t)

lemma width_of_isQuote {q : Char} (hq : isQuote q = true) : width q = 1 := by
  apply width_of_isAscii
  simp only [isQuote, Bool.or_eq_true, decide_eq_true_eq] at hq
  rcases hq with rfl | rfl <;> decide

/-- The byte that is skipped behind a quoted value is the closing quote, or it lies behind the end of the text
and then nothing follows. -/
lemma getD_cut?_closing {q : Char} (hq : isQuote q = true) (t : Text) :
    ((cut? t (endOf (· = q) t + 1)).map (·.2)).getD [] = (t.dropWhile (· ≠ q)).drop 1 := by
  have hsplit := List.takeWhile_append_dropWhile (p := (· ≠ q)) (l := t)
  have hend : endOf (· = q) t = size (t.takeWhile (· ≠ q)) := by simpa using endOf_eq (· = q) t
  have hhead := head?_dropWhile (p := (· ≠ q)) t
  cases hrest : t.dropWhile (· ≠ q) with
  | nil =>
    have hnone : cut? t (endOf (· = q) t + 1) = none := by
      rw [← Option.not_isSome_iff_eq_none, isSome_cut?_iff]
      intro h
      have hle := h.le_size
      rw [hrest, List.append_nil] at hsplit
      rw [hend, hsplit] at hle
      omega
    rw [hnone]
    rfl
  | cons d rest =>
    obtain rfl : d = q := by simpa using hhead d (by rw [hrest]; rfl)
    rw [hrest] at hsplit
    have hcut : cut? t (endOf (· = d) t + 1) = some (t.takeWhile (· ≠ d) ++ [d], rest) := by
      rw [cut?_eq_some_iff, size_append, size_cons, width_of_isQuote hq, hend, List.append_assoc]
      exact ⟨hsplit.symm, rfl⟩
    rw [hcut]
    rfl

lemma readQuoted_cons {q : Char} (hq : isQuote q = true) (t : Text) :
    readQuoted q (q :: t) = some (t.takeWhile (· ≠ q), (t.dropWhile (· ≠ q)).drop 1) := by
  have hopen : cut? (q :: t) 1 = some ([q], t) := by
    rw [cut?_eq_some_iff, size_cons, width_of_isQuote hq]
    exact ⟨rfl, rfl⟩
  have hvalue : cut? t (endOf (· = q) t) = some (t.takeWhile (· ≠ q), t.dropWhile (· ≠ q)) := by
    simpa using cut?_endOf (· = q) t
  rw [readQuoted, hopen, Option.bind_some]
  dsimp only
  rw [hvalue, Option.map_some, getD_cut?_closing hq]

lemma readValue_eq (stop : Char → Bool) (t : Text) : readValue stop t = some (Text.readValue stop t) := by
  rw [readValue, openingQuote?_eq]
  cases t with
  | nil => rfl
  | cons c t =>
    rw [Text.readValue, List.head?_cons]
    by_cases h : isQuote c = true
    · rw [Option.filter_some_pos h, if_pos h]
      exact readQuoted_cons h t
    · rw [Option.filter_some_neg (Bool.eq_false_iff.mpr h), if_neg h]
      exact cut?_endOf stop (c :: t)

end Sliced

end BrowserTab.Text
