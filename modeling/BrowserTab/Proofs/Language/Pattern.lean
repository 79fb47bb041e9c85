import BrowserTab.Proofs.Language.PrimaryTag
import BrowserTab.Proofs.Text.Offset

/-!
# The pattern of codes

What has the form of a code can be written down as a regular expression, `[a-zA-Z]{1,3}(-[a-zA-Z]{2})?`, in
which a letter is one of the 52 of ASCII. A code can be checked against it character by character, or by the
bytes of what stands between its hyphens. Both checks accept the words of the expression and nothing else.
-/

namespace BrowserTab.Language.Code

open Encoding.Utf8

/-- The words of one character, which is one of the given ones. -/
def oneOf (cs : Text) : RegularExpression Char :=
  (cs.map RegularExpression.char).sum

def letters : Text :=
  "abcdefghijklmnopqrstuvwxyzABCDEFGHIJKLMNOPQRSTUVWXYZ".toList

def letter : RegularExpression Char :=
  oneOf letters

/-- One to three letters, then a hyphen and two letters or nothing. -/
def pattern : RegularExpression Char :=
  (letter + letter ^ 2 + letter ^ 3) * (1 + RegularExpression.char '-' * letter ^ 2)

variable {t : Text}

lemma mem_oneOf {cs : Text} : t ∈ (oneOf cs).matches' ↔ ∃ c ∈ cs, t = [c] := by
  unfold oneOf
  induction cs with
  | nil => simp [RegularExpression.matches'_zero, Language.notMem_zero]
  | cons c cs ih =>
    rw [List.map_cons, List.sum_cons, RegularExpression.matches'_add, Language.mem_add, ih,
      RegularExpression.matches'_char, List.exists_mem_cons_iff]
    rfl

lemma mem_letters_iff {c : Char} : c ∈ letters ↔ c.isAlpha = true := by
  have hruns : letters.map Char.toNat = List.range' 97 26 ++ List.range' 65 26 := by decide
  have hinj : Function.Injective Char.toNat := fun _ _ => Char.toNat_inj.mp
  rw [← List.mem_map_of_injective hinj, hruns, List.mem_append, List.mem_range'_1, List.mem_range'_1,
    Text.isAlpha_iff]
  omega

lemma mem_letter : t ∈ letter.matches' ↔ ∃ c, t = [c] ∧ c.isAlpha = true := by
  rw [letter, mem_oneOf]
  apply exists_congr
  intro c
  rw [mem_letters_iff, and_comm]

lemma mem_letter_pow {n : Nat} :
    t ∈ (letter ^ n).matches' ↔ t.length = n ∧ ∀ c ∈ t, c.isAlpha = true := by
  rw [RegularExpression.matches'_pow]
  induction n generalizing t with
  | zero =>
    rw [pow_zero, Language.mem_one, List.length_eq_zero_iff]
    constructor
    · rintro rfl
      simp
    · exact And.left
  | succ n ih =>
    rw [pow_succ', Language.mem_mul]
    constructor
    · rintro ⟨a, ha, b, hb, rfl⟩
      obtain ⟨c, rfl, hc⟩ := mem_letter.mp ha
      obtain ⟨hlength, hall⟩ := ih.mp hb
      exact ⟨congrArg Nat.succ hlength, List.forall_mem_cons.mpr ⟨hc, hall⟩⟩
    · rintro ⟨hlength, hall⟩
      cases t with
      | nil => cases hlength
      | cons c t =>
        rw [List.forall_mem_cons] at hall
        have hc := mem_letter.mpr ⟨c, rfl, hall.1⟩
        have ht := ih.mpr ⟨Nat.succ.inj hlength, hall.2⟩
        exact ⟨[c], hc, t, ht, rfl⟩

lemma isPrimary_iff_matches :
    isPrimary t = true ↔ t ∈ (letter + letter ^ 2 + letter ^ 3).matches' := by
  have hone : letter.matches' = (letter ^ 1).matches' := by
    rw [RegularExpression.matches'_pow, pow_one]
  rw [RegularExpression.matches'_add, RegularExpression.matches'_add, Language.mem_add,
    Language.mem_add, hone, mem_letter_pow, mem_letter_pow, mem_letter_pow, isPrimary_iff,
    ← or_and_right, ← or_and_right]
  apply and_congr_left'
  omega

lemma isRegion_iff_matches :
    isRegion t = true ↔ t ∈ (1 + RegularExpression.char '-' * letter ^ 2).matches' := by
  rw [isRegion_iff, RegularExpression.matches'_add, Language.mem_add, RegularExpression.matches'_epsilon,
    Language.mem_one, RegularExpression.matches'_mul, Language.mem_mul]
  apply or_congr_right
  constructor
  · rintro ⟨a, b, rfl, ha, hb⟩
    exact ⟨['-'], rfl, [a, b], mem_letter_pow.mpr ⟨rfl, by simp [ha, hb]⟩, rfl⟩
  · rintro ⟨h, hh, r, hr, rfl⟩
    obtain rfl : h = ['-'] := hh
    obtain ⟨hlength, hall⟩ := mem_letter_pow.mp hr
    obtain ⟨a, b, rfl⟩ := List.length_eq_two.mp hlength
    exact ⟨a, b, rfl, hall a (by simp), hall b (by simp)⟩

lemma isValid_iff_exists : isValid t = true ↔
    ∃ p, isPrimary p = true ∧ ∃ r, isRegion r = true ∧ p ++ r = t := by
  constructor
  · intro h
    obtain ⟨hp, hr⟩ := isValid_iff.mp h
    exact ⟨main t, hp, tail t, hr, main_append_tail t⟩
  · rintro ⟨p, hp, r, hr, rfl⟩
    exact isValid_append hp hr

lemma isValid_iff_matches : isValid t = true ↔ t ∈ pattern.matches' := by
  rw [isValid_iff_exists, pattern, RegularExpression.matches'_mul, Language.mem_mul]
  simp only [isPrimary_iff_matches, isRegion_iff_matches]

/-- Whether a byte is a letter of ASCII. -/
def isLetterByte (b : UInt8) : Bool :=
  0x41 ≤ b.toNat && b.toNat ≤ 0x5A || 0x61 ≤ b.toNat && b.toNat ≤ 0x7A

/-- Whether what stands between two hyphens is made of letters and has so many bytes. -/
def chunkFits (least greatest : Nat) (chunk : Text) : Bool :=
  least ≤ size chunk && size chunk ≤ greatest && (encode chunk).all isLetterByte

/-- The check of a code that is cut at all its hyphens. -/
def fitsInChunks (code : Text) : Bool :=
  match code.splitOn '-' with
  | [primary] => chunkFits 1 3 primary
  | [primary, region] => chunkFits 1 3 primary && chunkFits 2 2 region
  | _ => false

lemma isLetterByte_iff {b : UInt8} : isLetterByte b = true ↔
    65 ≤ b.toNat ∧ b.toNat ≤ 90 ∨ 97 ≤ b.toNat ∧ b.toNat ≤ 122 := by
  simp only [isLetterByte, Bool.or_eq_true, Bool.and_eq_true, decide_eq_true_eq]

/-- A character beyond ASCII begins with a byte that is no letter, so its bytes cannot pass for letters. -/
lemma all_isLetterByte_encodeChar {c : Char} :
    (encodeChar c).all isLetterByte = true ↔ c.isAlpha = true := by
  constructor
  · intro h
    obtain ⟨b, bs, hc, hb, -⟩ := Text.exists_encodeChar c
    rw [hc, List.all_cons, Bool.and_eq_true, isLetterByte_iff] at h
    unfold Text.Begins at hb
    rw [Text.isAlpha_iff]
    omega
  · intro h
    have hr := Text.isAlpha_iff.mp h
    have hascii : c.toNat < 0x80 := by omega
    have hbyte : (UInt8.ofNat c.toNat).toNat = c.toNat := Encoding.toNat_ofNat_byte (by omega)
    simp only [encodeChar, hascii, if_true, List.all_cons, List.all_nil, Bool.and_true,
      isLetterByte_iff, hbyte]
    exact hr

lemma all_isLetterByte_encode :
    (encode t).all isLetterByte = true ↔ ∀ c ∈ t, c.isAlpha = true := by
  rw [encode, List.all_flatMap, List.all_eq_true]
  apply forall₂_congr
  intro c _
  exact all_isLetterByte_encodeChar

lemma chunkFits_iff {least greatest : Nat} : chunkFits least greatest t = true ↔
    (least ≤ t.length ∧ t.length ≤ greatest) ∧ ∀ c ∈ t, c.isAlpha = true := by
  rw [chunkFits, Bool.and_eq_true, Bool.and_eq_true, all_isLetterByte_encode, decide_eq_true_eq,
    decide_eq_true_eq]
  apply and_congr_left
  intro h
  rw [Tables.size_of_isAscii fun c hc => Text.isAscii_of_isAlpha (h c hc)]

lemma chunkFits_primary : chunkFits 1 3 t = isPrimary t := by
  rw [Bool.eq_iff_iff, chunkFits_iff, isPrimary_iff]

lemma chunkFits_region : chunkFits 2 2 t = isRegion ('-' :: t) := by
  rw [Bool.eq_iff_iff, chunkFits_iff, isRegion_iff]
  constructor
  · rintro ⟨⟨hleast, hgreatest⟩, hall⟩
    obtain ⟨a, b, rfl⟩ := List.length_eq_two.mp (le_antisymm hgreatest hleast)
    exact .inr ⟨a, b, rfl, hall a (by simp), hall b (by simp)⟩
  · rintro (h | ⟨a, b, h, ha, hb⟩)
    · cases h
    · cases h
      exact ⟨⟨le_rfl, le_rfl⟩, by simp [ha, hb]⟩

lemma isRegion_eq_false {b : Text} (h : '-' ∈ b) : isRegion ('-' :: b) = false := by
  rw [← chunkFits_region, Bool.eq_false_iff, Ne, chunkFits_iff]
  rintro ⟨-, hall⟩
  exact Text.notMem_of_isAlpha hall rfl h

lemma fitsInChunks_append {a b : Text} (ha : '-' ∉ a) (hb : IsTail b) :
    fitsInChunks (a ++ b) = (isPrimary a && isRegion b) := by
  unfold fitsInChunks
  cases b with
  | nil =>
    rw [List.append_nil, List.splitOn_eq_singleton ha]
    simp [chunkFits_primary, isRegion]
  | cons h b =>
    obtain rfl : h = '-' := hb h rfl
    rw [List.splitOn_append_cons_self_of_not_mem ha]
    by_cases hm : '-' ∈ b
    · rw [isRegion_eq_false hm]
      -- There is a chunk behind the second hyphen too, be it empty.
      obtain ⟨c, d, rfl, hc⟩ := List.eq_append_cons_of_mem hm
      obtain ⟨e, es, hd⟩ := List.exists_cons_of_ne_nil (List.splitOn_ne_nil '-' d)
      rw [List.splitOn_append_cons_self_of_not_mem hc, hd]
      simp
    · rw [List.splitOn_eq_singleton hm]
      simp [chunkFits_primary, chunkFits_region]

lemma fitsInChunks_eq (code : Text) : fitsInChunks code = isValid code := by
  have h := fitsInChunks_append (hyphen_notMem_main code) (isTail_tail code)
  rwa [main_append_tail] at h

/-- The words of the expression are what has the form of a code, whether the characters of a text are
looked at or the bytes of its chunks. -/
theorem isValid_iff_mem_pattern (code : Text) :
    (isValid code = true ↔ code ∈ pattern.matches') ∧
      (fitsInChunks code = true ↔ code ∈ pattern.matches') := by
  rw [fitsInChunks_eq]
  exact ⟨isValid_iff_matches, isValid_iff_matches⟩

end BrowserTab.Language.Code
