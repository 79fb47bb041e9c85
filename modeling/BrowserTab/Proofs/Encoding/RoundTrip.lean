import BrowserTab.Proofs.Encoding.Utf8

/-!
# Reading what was written

A text that was written in UTF-8, or in UTF-16 in either byte order, is read back as it was, and nothing in
it counts as malformed. This holds of every text: characters of any size, and the mark U+FEFF wherever it
stands.
-/

namespace BrowserTab.Encoding

lemma toNat_ofNat_byte {n : Nat} (hn : n < 256) : (UInt8.ofNat n).toNat = n :=
  UInt8.toNat_ofNat_of_lt' hn

lemma toNat_valid (c : Char) : c.toNat < 0xD800 ∨ 0xE000 ≤ c.toNat ∧ c.toNat < 0x110000 := by
  have h : c.toNat.isValidChar := c.valid
  rw [Nat.isValidChar] at h
  omega

namespace Utf8

lemma begin_two {n : Nat} (hlow : 0x80 ≤ n) (hhigh : n < 0x800) :
    begin (0xC0 + n / 64) = ([], some ⟨n / 64, 0, 0x80, 0xBF⟩) := by
  rw [begin, if_neg (by omega), if_neg (by omega), if_pos (by omega), Nat.add_sub_cancel_left]

lemma begin_three {n : Nat} (hlow : 0x800 ≤ n) (hhigh : n < 0x10000)
    (hvalid : n < 0xD800 ∨ 0xE000 ≤ n) : ∃ least greatest,
      begin (0xE0 + n / 4096) = ([], some ⟨n / 4096, 1, least, greatest⟩) ∧
        least ≤ 0x80 + n / 64 % 64 ∧ 0x80 + n / 64 % 64 ≤ greatest := by
  rw [begin, if_neg (by omega), if_neg (by omega), if_neg (by omega)]
  by_cases hzero : n / 4096 = 0
  · rw [hzero, if_pos rfl]
    exact ⟨_, _, rfl, by omega, by omega⟩
  rw [if_neg (by omega)]
  by_cases hd : n / 4096 = 0xD
  · rw [hd, if_pos rfl]
    exact ⟨_, _, rfl, by omega, by omega⟩
  rw [if_neg (by omega), if_pos (by omega), Nat.add_sub_cancel_left]
  exact ⟨_, _, rfl, by omega, by omega⟩

lemma begin_four {n : Nat} (hlow : 0x10000 ≤ n) (hhigh : n < 0x110000) : ∃ least greatest,
      begin (0xF0 + n / 262144) = ([], some ⟨n / 262144, 2, least, greatest⟩) ∧
        least ≤ 0x80 + n / 4096 % 64 ∧ 0x80 + n / 4096 % 64 ≤ greatest := by
  rw [begin, if_neg (by omega), if_neg (by omega), if_neg (by omega), if_neg (by omega),
    if_neg (by omega), if_neg (by omega)]
  by_cases hzero : n / 262144 = 0
  · rw [hzero, if_pos rfl]
    exact ⟨_, _, rfl, by omega, by omega⟩
  rw [if_neg (by omega)]
  by_cases hfour : n / 262144 = 4
  · rw [hfour, if_neg (by omega), if_pos rfl]
    exact ⟨_, _, rfl, by omega, by omega⟩
  rw [if_pos (by omega), Nat.add_sub_cancel_left]
  exact ⟨_, _, rfl, by omega, by omega⟩

lemma resume_begin {n : Nat} (hn : n < 256) (bs : Bytes) :
    decoder.resume none (.ofNat n :: bs) = (begin n).1 ++ decoder.resume (begin n).2 bs := by
  rw [resume_cons, read, toNat_ofNat_byte hn]

lemma resume_within {bits due least greatest n : Nat} (hleast : least ≤ 0x80 + n)
    (hgreatest : 0x80 + n ≤ greatest) (hn : n < 64) (bs : Bytes) :
    decoder.resume (some ⟨bits, due + 1, least, greatest⟩) (.ofNat (0x80 + n) :: bs) =
      decoder.resume (some ⟨bits * 64 + n, due, 0x80, 0xBF⟩) bs := by
  rw [resume_cons, read, toNat_ofNat_byte (by omega), if_pos ⟨hleast, hgreatest⟩,
    Unfinished.extend, Nat.add_sub_cancel_left]
  rfl

lemma resume_last {bits n : Nat} (hn : n < 64) (bs : Bytes) :
    decoder.resume (some ⟨bits, 0, 0x80, 0xBF⟩) (.ofNat (0x80 + n) :: bs) =
      some (Char.ofNat (bits * 64 + n)) :: decoder.resume none bs := by
  rw [resume_cons, read, toNat_ofNat_byte (by omega), if_pos (by simp only; omega),
    Unfinished.extend, Nat.add_sub_cancel_left]
  rfl

lemma resume_encodeChar (c : Char) (bs : Bytes) :
    decoder.resume none (encodeChar c ++ bs) = some c :: decoder.resume none bs := by
  have hvalid := toNat_valid c
  have hc {n : Nat} (hn : n = c.toNat) : Char.ofNat n = c := by rw [hn, Char.ofNat_toNat]
  simp only [encodeChar]
  split_ifs with hone htwo hthree
  · rw [List.singleton_append, resume_begin (by omega), begin_ascii hone, hc rfl]
    rfl
  · rw [List.cons_append, resume_begin (by omega), begin_two (by omega) htwo, List.nil_append,
      List.singleton_append, resume_last (Nat.mod_lt _ (by decide)), hc (by omega)]
  · obtain ⟨least, greatest, hbegin, hleast, hgreatest⟩ :=
      begin_three (Nat.le_of_not_lt htwo) hthree (by omega)
    rw [List.cons_append, resume_begin (by omega), hbegin, List.nil_append, List.cons_append,
      resume_within hleast hgreatest (Nat.mod_lt _ (by decide)), List.singleton_append,
      resume_last (Nat.mod_lt _ (by decide)), hc (by omega)]
  · obtain ⟨least, greatest, hbegin, hleast, hgreatest⟩ :=
      begin_four (Nat.le_of_not_lt hthree) (by omega)
    rw [List.cons_append, resume_begin (by omega), hbegin, List.nil_append, List.cons_append,
      resume_within hleast hgreatest (Nat.mod_lt _ (by decide)), List.cons_append,
      resume_within (by omega) (by omega) (Nat.mod_lt _ (by decide)), List.singleton_append,
      resume_last (Nat.mod_lt _ (by decide)), hc (by omega)]

lemma resume_encode (t : Text) (bs : Bytes) :
    decoder.resume none (encode t ++ bs) = t.map some ++ decoder.resume none bs := by
  induction t with
  | nil => rfl
  | cons c t ih =>
    rw [encode, List.flatMap_cons, List.append_assoc]
    exact (resume_encodeChar c _).trans (congrArg (some c :: ·) ih)

theorem run_encode (t : Text) : decoder.run (encode t) = t.map some := by
  have h := resume_encode t []
  rw [List.append_nil] at h
  exact h.trans (List.append_nil _)

lemma encode_prefix_encode_iff {t u : Text} : encode t <+: encode u ↔ t <+: u := by
  constructor
  · rintro ⟨rest, h⟩
    have hread : u.map some = t.map some ++ decoder.resume none rest := by
      rw [← resume_encode, h]
      exact (run_encode u).symm
    obtain ⟨a, b, rfl, ha, -⟩ := List.map_eq_append_iff.mp hread
    rw [← List.map_injective_iff.mpr (Option.some_injective _) ha]
    exact List.prefix_append a b
  · rintro ⟨rest, rfl⟩
    rw [encode, encode, List.flatMap_append]
    exact List.prefix_append _ _

end Utf8

namespace Utf16

variable (order : ByteOrder)

lemma unit_unitBytes {u : Nat} (hu : u < 0x10000) :
    ∃ a b, unitBytes order u = [a, b] ∧ unit order a b = u := by
  have hlow : (UInt8.ofNat (u % 256)).toNat = u % 256 := toNat_ofNat_byte (by omega)
  have hhigh : (UInt8.ofNat (u / 256)).toNat = u / 256 := toNat_ofNat_byte (by omega)
  cases order with
  | little =>
    refine ⟨_, _, rfl, ?_⟩
    rw [unit, hlow, hhigh]
    omega
  | big =>
    refine ⟨_, _, rfl, ?_⟩
    rw [unit, hlow, hhigh]
    omega

lemma resume_unitBytes (lead : Option Nat) {u : Nat} (hu : u < 0x10000) (bs : Bytes) :
    (decoder order).resume ⟨none, lead⟩ (unitBytes order u ++ bs) =
      (readUnit lead u).1 ++ (decoder order).resume ⟨none, (readUnit lead u).2⟩ bs := by
  obtain ⟨a, b, hbytes, hunit⟩ := unit_unitBytes order hu
  have hread : read order ⟨some a, lead⟩ b = ((readUnit lead u).1, ⟨none, (readUnit lead u).2⟩) := by
    rw [← hunit]
    rfl
  calc
    (decoder order).resume ⟨none, lead⟩ (unitBytes order u ++ bs)
      = (decoder order).resume ⟨some a, lead⟩ (b :: bs) := by
        rw [hbytes]
        rfl
    _ = (read order ⟨some a, lead⟩ b).1 ++
        (decoder order).resume (read order ⟨some a, lead⟩ b).2 bs := rfl
    _ = _ := by rw [hread]

lemma readUnit_single {n : Nat} (hn : n < 0xD800 ∨ 0xE000 ≤ n) :
    readUnit none n = ([some (Char.ofNat n)], none) := by
  have hlead : ¬isLead n = true := by
    simp only [isLead, Bool.and_eq_true, decide_eq_true_eq]
    omega
  have htrail : ¬isTrail n = true := by
    simp only [isTrail, Bool.and_eq_true, decide_eq_true_eq]
    omega
  rw [readUnit, beginUnit, if_neg hlead, if_neg htrail]

lemma readUnit_lead {n : Nat} (hn : n < 0x400) :
    readUnit none (0xD800 + n) = ([], some (0xD800 + n)) := by
  have hlead : isLead (0xD800 + n) = true := by
    simp only [isLead, Bool.and_eq_true, decide_eq_true_eq]
    omega
  rw [readUnit, beginUnit, if_pos hlead]

lemma readUnit_trail {m n : Nat} (hn : n < 0x400) :
    readUnit (some (0xD800 + m)) (0xDC00 + n) = ([some (Char.ofNat (0x10000 + m * 0x400 + n))], none) := by
  have htrail : isTrail (0xDC00 + n) = true := by
    simp only [isTrail, Bool.and_eq_true, decide_eq_true_eq]
    omega
  rw [readUnit, if_pos htrail, pair, Nat.add_sub_cancel_left, Nat.add_sub_cancel_left]

lemma resume_units (c : Char) (bs : Bytes) :
    (decoder order).resume ⟨none, none⟩ ((units c).flatMap (unitBytes order) ++ bs) =
      some c :: (decoder order).resume ⟨none, none⟩ bs := by
  have hvalid := toNat_valid c
  simp only [units]
  split_ifs with hsingle
  · rw [List.flatMap_singleton, resume_unitBytes order none hsingle, readUnit_single (by omega),
      Char.ofNat_toNat]
    rfl
  · have hpair : 0x10000 + (c.toNat - 0x10000) / 0x400 * 0x400 + (c.toNat - 0x10000) % 0x400 = c.toNat := by
      omega
    rw [List.flatMap_cons, List.flatMap_singleton, List.append_assoc,
      resume_unitBytes order none (by omega), readUnit_lead (by omega), List.nil_append,
      resume_unitBytes order _ (by omega), readUnit_trail (by omega), hpair, Char.ofNat_toNat]
    rfl

theorem run_encode (t : Text) : (decoder order).run (encode order t) = t.map some := by
  induction t with
  | nil => rfl
  | cons c t ih =>
    rw [encode, List.flatMap_cons, List.flatMap_append, Decoder.run]
    exact (resume_units order c _).trans (congrArg (some c :: ·) ih)

end Utf16

end BrowserTab.Encoding
