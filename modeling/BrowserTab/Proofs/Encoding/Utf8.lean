import BrowserTab.Encoding.Decode
import BrowserTab.Proofs.Text.Ascii

/-!
# Any bytes as UTF-8

Bytes that are no UTF-8 can be read as if they were. An ASCII byte ends whatever was begun before it, so
it always stands for itself; and what the other bytes stand for, characters or malformed pieces, is never
ASCII. Reading any bytes as UTF-8 therefore keeps the ASCII among them in place.
-/

namespace BrowserTab.Encoding

namespace Utf8

/-- The least number that a sequence can become. -/
def Unfinished.low (u : Unfinished) : Nat :=
  (u.bits * 64 + (u.least - 0x80)) * 64 ^ u.due

/-- The first number beyond those that a sequence can become. -/
def Unfinished.high (u : Unfinished) : Nat :=
  (u.bits * 64 + (u.greatest - 0x80) + 1) * 64 ^ u.due

/-- What holds of every sequence that is begun: no byte of ASCII continues it, and it becomes a
character beyond ASCII. -/
structure Unfinished.Proper (u : Unfinished) : Prop where
  le_least : 0x80 ≤ u.least
  le_low : 0x80 ≤ u.low
  scalar : u.high ≤ 0xD800 ∨ 0xE000 ≤ u.low ∧ u.high ≤ 0x110000

/-- Nothing but characters beyond ASCII and malformed pieces. -/
def Beyond (d : Decoded) : Prop :=
  ∀ c ∈ d.text, ¬Text.IsAscii c

/-- What a byte beyond ASCII leaves: no ASCII character, and what it does not complete is remembered as
a proper sequence. -/
structure Leaves (r : Decoded × Option Unfinished) : Prop where
  beyond : Beyond r.1
  proper : ∀ u ∈ r.2, u.Proper
  ne : r ≠ ([], none)

lemma beyond_nil : Beyond [] := by
  simp [Beyond, Decoded.text]

lemma Beyond.none_cons {d : Decoded} (h : Beyond d) : Beyond (none :: d) := by
  simp only [Beyond, Decoded.text, List.map_cons, Option.getD_none, List.forall_mem_cons]
  exact ⟨by decide, h⟩

lemma beyond_some {n : Nat} (hn : 0x80 ≤ n) (hv : n < 0xD800 ∨ 0xE000 ≤ n ∧ n < 0x110000) :
    Beyond [some (Char.ofNat n)] := by
  have hs : n.isValidChar := by
    rw [Nat.isValidChar]
    omega
  simp [Beyond, Decoded.text, Text.IsAscii, Char.toNat_ofNat, hs, hn]

lemma beyond_finish (s : Option Unfinished) : Beyond (finish s) := by
  cases s with
  | none => exact beyond_nil
  | some u => exact beyond_nil.none_cons

lemma leaves_unfinished {bits due least greatest : Nat} (hleast : 0x80 ≤ least)
    (hlow : 0x80 ≤ (bits * 64 + (least - 0x80)) * 64 ^ due)
    (hscalar : (bits * 64 + (greatest - 0x80) + 1) * 64 ^ due ≤ 0xD800 ∨
      0xE000 ≤ (bits * 64 + (least - 0x80)) * 64 ^ due ∧
        (bits * 64 + (greatest - 0x80) + 1) * 64 ^ due ≤ 0x110000) :
    Leaves ([], some ⟨bits, due, least, greatest⟩) where
  beyond := beyond_nil
  proper := by
    rintro _ ⟨⟩
    exact ⟨hleast, hlow, hscalar⟩
  ne := by simp

/-- Each sequence is begun with bounds on its second byte that keep it above ASCII, clear of the
surrogates and within Unicode. -/
lemma leaves_begin {b : Nat} (hb : 0x80 ≤ b) : Leaves (begin b) := by
  have hmalformed : Leaves ([none], none) := ⟨beyond_nil.none_cons, by simp, by simp⟩
  rw [begin, if_neg (by omega)]
  -- Each way to begin a sequence comes with its own bounds; the rest is malformed.
  repeat' split
  any_goals exact hmalformed
  all_goals exact leaves_unfinished (by omega) (by omega) (by omega)

lemma leaves_extend {u : Unfinished} (hu : u.Proper) {b : Nat} (hleast : u.least ≤ b)
    (hgreatest : b ≤ u.greatest) : Leaves (u.extend b) := by
  obtain ⟨bits, due, least, greatest⟩ := u
  obtain ⟨hle, hlow, hscalar⟩ := hu
  simp only [Unfinished.low, Unfinished.high] at hle hlow hscalar hleast hgreatest
  have hfrom := Nat.mul_le_mul_right (64 ^ due)
    (show bits * 64 + (least - 0x80) ≤ bits * 64 + (b - 0x80) by omega)
  have hto := Nat.mul_le_mul_right (64 ^ due)
    (show bits * 64 + (b - 0x80) + 1 ≤ bits * 64 + (greatest - 0x80) + 1 by omega)
  cases due with
  | zero =>
    have hn : Beyond [some (Char.ofNat (bits * 64 + (b - 0x80)))] :=
      beyond_some (by omega) (by omega)
    exact ⟨hn, by simp [Unfinished.extend], by simp [Unfinished.extend]⟩
  | succ due =>
    have hl : (bits * 64 + (b - 0x80)) * 64 ^ (due + 1) =
        ((bits * 64 + (b - 0x80)) * 64 + (0x80 - 0x80)) * 64 ^ due := by ring
    have hh : (bits * 64 + (b - 0x80) + 1) * 64 ^ (due + 1) =
        ((bits * 64 + (b - 0x80)) * 64 + (0xBF - 0x80) + 1) * 64 ^ due := by ring
    have hnext : Leaves ([], some ⟨bits * 64 + (b - 0x80), due, 0x80, 0xBF⟩) :=
      leaves_unfinished (Nat.le_refl _) (by omega) (by omega)
    exact hnext

lemma begin_ascii {b : Nat} (hb : b < 0x80) : begin b = ([some (Char.ofNat b)], none) := by
  rw [begin, if_pos hb]

lemma toNat_ofNat_ascii {n : Nat} (hn : n < 0x80) : (Char.ofNat n).toNat = n := by
  rw [Char.toNat_ofNat, if_pos (.inl (by omega))]

lemma resume_cons (s : Option Unfinished) (b : UInt8) (bs : Bytes) :
    decoder.resume s (b :: bs) = (read s b).1 ++ decoder.resume (read s b).2 bs :=
  rfl

lemma exists_resume_append (s : Option Unfinished) (a : Bytes) :
    ∃ out next, ∀ rest, decoder.resume s (a ++ rest) = out ++ decoder.resume next rest := by
  induction a generalizing s with
  | nil => exact ⟨[], s, fun rest => rfl⟩
  | cons b a ih =>
    obtain ⟨out, next, h⟩ := ih (read s b).2
    refine ⟨(read s b).1 ++ out, next, fun rest => ?_⟩
    rw [List.cons_append, resume_cons, h, List.append_assoc]

lemma text_append (d e : Decoded) : Decoded.text (d ++ e) = d.text ++ e.text := by
  simp [Decoded.text]

section Reading

variable {s : Option Unfinished} (hs : ∀ u ∈ s, u.Proper)
include hs

lemma leaves_read {b : UInt8} (hb : 0x80 ≤ b.toNat) : Leaves (read s b) := by
  cases s with
  | none => exact leaves_begin hb
  | some u =>
    rw [read]
    split_ifs with h
    · exact leaves_extend (hs u rfl) h.1 h.2
    · have hbegin := leaves_begin hb
      exact ⟨hbegin.beyond.none_cons, hbegin.proper, by simp⟩

lemma read_ascii {b : UInt8} (hb : b.toNat < 0x80) :
    read s b = (finish s ++ [some (Char.ofNat b.toNat)], none) := by
  cases s with
  | none => exact begin_ascii hb
  | some u =>
    have hleast := (hs u rfl).le_least
    rw [read, if_neg (by omega), begin_ascii hb]
    rfl

lemma proper_read (b : UInt8) : ∀ u ∈ (read s b).2, u.Proper := by
  by_cases hb : b.toNat < 0x80
  · rw [read_ascii hs hb]
    simp
  · exact (leaves_read hs (Nat.le_of_not_lt hb)).proper

lemma read_ne (b : UInt8) : read s b ≠ ([], none) := by
  by_cases hb : b.toNat < 0x80
  · rw [read_ascii hs hb]
    simp
  · exact (leaves_read hs (Nat.le_of_not_lt hb)).ne

lemma resume_append_cons (a : Bytes) {b : UInt8} (hb : b.toNat < 0x80) (rest : Bytes) :
    decoder.resume s (a ++ b :: rest) =
      decoder.resume s a ++ some (Char.ofNat b.toNat) :: decoder.resume none rest := by
  induction a generalizing s with
  | nil =>
    rw [List.nil_append, resume_cons, read_ascii hs hb, List.append_assoc]
    rfl
  | cons c a ih =>
    rw [List.cons_append, resume_cons, resume_cons, ih (proper_read hs c), List.append_assoc]

/-- An ASCII character is never what bytes beyond ASCII are read as, so it is read from a byte of its
own, and that byte divides the reading. -/
lemma exists_split_resume {bs : Bytes} {c : Char} (hc : Text.IsAscii c) {u v : Text}
    (h : (decoder.resume s bs).text = u ++ c :: v) :
    ∃ a b rest, bs = a ++ b :: rest ∧ b.toNat = c.toNat ∧ (decoder.resume s a).text = u ∧
      (decoder.resume none rest).text = v := by
  -- On the bytes, with any proper memory: what is read of a byte beyond ASCII lies before the character.
  induction bs generalizing s u with
  | nil =>
    have hfinish : (finish s).text = u ++ c :: v := h
    exact absurd hc (beyond_finish s c (by simp [hfinish]))
  | cons b bs ih =>
    rw [resume_cons, text_append] at h
    by_cases hb : b.toNat < 0x80
    · rw [read_ascii hs hb, text_append, List.append_assoc] at h
      obtain ⟨w, rfl, hw⟩ := Text.exists_append_of_notMem (fun hm => beyond_finish s c hm hc) h
      change Char.ofNat b.toNat :: (decoder.resume none bs).text = w ++ c :: v at hw
      cases w with
      | nil =>
        obtain ⟨rfl, rfl⟩ := List.cons.inj hw
        exact ⟨[], b, bs, rfl, (toNat_ofNat_ascii hb).symm, (List.append_nil _).symm, rfl⟩
      | cons d w =>
        obtain ⟨rfl, hbehind⟩ := List.cons.inj hw
        obtain ⟨a, d, rest, rfl, hd, ha, hrest⟩ := ih (s := none) (by simp) hbehind
        refine ⟨b :: a, d, rest, rfl, hd, ?_, hrest⟩
        rw [resume_cons, read_ascii hs hb, text_append, text_append, List.append_assoc, ha]
        rfl
    · have hleaves := leaves_read hs (Nat.le_of_not_lt hb)
      obtain ⟨w, rfl, hw⟩ := Text.exists_append_of_notMem (fun hm => hleaves.beyond c hm hc) h
      obtain ⟨a, d, rest, rfl, hd, ha, hrest⟩ := ih hleaves.proper hw
      refine ⟨b :: a, d, rest, rfl, hd, ?_, hrest⟩
      rw [resume_cons, text_append, ha]

lemma eq_nil_of_resume_eq_nil {bs : Bytes} (h : decoder.resume s bs = []) : s = none ∧ bs = [] := by
  induction bs generalizing s with
  | nil =>
    cases s with
    | none => exact ⟨rfl, rfl⟩
    | some u => cases h
  | cons b bs ih =>
    rw [resume_cons, List.append_eq_nil_iff] at h
    exact absurd (Prod.ext h.1 (ih (proper_read hs b) h.2).1) (read_ne hs b)

end Reading

end Utf8

/-! ### One character to a byte -/

/-- The text whose characters are numbered by the bytes. -/
def characters (bs : Bytes) : Text :=
  bs.map UInt8.toChar

/-- The byte that numbers a character; what has no byte is numbered last. -/
def octet (c : Char) : UInt8 :=
  UInt8.ofNat (min c.toNat 0xFF)

/-- What becomes of a text, one character to a byte, when its bytes are read as UTF-8. -/
def reread (t : Text) : Text :=
  (Encoding.Utf8.decoder.run (t.map octet)).text

lemma characters_append (a b : Bytes) : characters (a ++ b) = characters a ++ characters b :=
  List.map_append

lemma toNat_octet (c : Char) : (octet c).toNat = min c.toNat 0xFF := by
  rw [octet, UInt8.toNat_ofNat']
  omega

lemma toNat_octet_ascii {c : Char} (hc : Text.IsAscii c) : (octet c).toNat = c.toNat := by
  rw [Text.IsAscii] at hc
  rw [toNat_octet]
  omega

lemma eq_of_toNat_octet {c d : Char} (hc : Text.IsAscii c) (h : (octet d).toNat = c.toNat) :
    d = c := by
  rw [Text.IsAscii] at hc
  rw [toNat_octet] at h
  exact Char.toNat_inj.mp (by omega)

lemma map_octet_characters (bs : Bytes) : (characters bs).map octet = bs := by
  rw [characters, List.map_map]
  refine List.map_id'' (fun b => UInt8.toNat_inj.mp ?_) bs
  rw [Function.comp_apply, toNat_octet]
  exact Nat.min_eq_left (Nat.le_of_lt_succ b.toNat_lt)

lemma characters_encode {t : Text} (h : ∀ c ∈ t, Text.IsAscii c) : characters (Utf8.encode t) = t := by
  induction t with
  | nil => rfl
  | cons c t ih =>
    obtain ⟨hc, ht⟩ := List.forall_mem_cons.mp h
    rw [Text.IsAscii] at hc
    have hbyte : (UInt8.ofNat c.toNat).toChar = c := by
      apply Char.toNat_inj.mp
      change (UInt8.ofNat c.toNat).toNat = c.toNat
      rw [UInt8.toNat_ofNat']
      omega
    have hencode : Utf8.encode (c :: t) = UInt8.ofNat c.toNat :: Utf8.encode t := by
      rw [Utf8.encode, List.flatMap_cons, Utf8.encodeChar]
      simp only [hc, if_true]
      rfl
    rw [hencode, characters, List.map_cons, hbyte]
    exact congrArg (c :: ·) (ih ht)

lemma reread_characters (bs : Bytes) : reread (characters bs) = (Encoding.Utf8.decoder.run bs).text := by
  rw [reread, map_octet_characters]

lemma reread_eq (t : Text) : reread t = (Utf8.decoder.resume none (t.map octet)).text :=
  rfl

theorem keepsAscii_reread : Text.KeepsAscii reread where
  append_cons a b c hc := by
    have hl : (octet c).toNat < 0x80 := (toNat_octet_ascii hc).trans_lt hc
    have h := Utf8.resume_append_cons (s := none) (by simp) (a.map octet) hl (b.map octet)
    rw [toNat_octet_ascii hc, Char.ofNat_toNat] at h
    rw [reread_eq, List.map_append, List.map_cons, h, Utf8.text_append]
    rfl
  exists_split hc h := by
    obtain ⟨a, b, rest, ht, hb, ha, hrest⟩ :=
      Utf8.exists_split_resume (s := none) (by simp) hc h
    obtain ⟨x, y, rfl, rfl, hy⟩ := List.map_eq_append_iff.mp ht
    obtain ⟨d, z, rfl, rfl, rfl⟩ := List.map_eq_cons_iff.mp hy
    rw [eq_of_toNat_octet hc hb]
    exact ⟨x, z, rfl, ha, hrest⟩
  eq_nil_iff {t} := by
    constructor
    · intro h
      have hnil := Utf8.eq_nil_of_resume_eq_nil (s := none) (by simp) (List.map_eq_nil_iff.mp h)
      exact List.map_eq_nil_iff.mp hnil.2
    · rintro rfl
      rfl

end BrowserTab.Encoding
