import BrowserTab.Proofs.Encoding.Utf8

/-!
# Plain bytes

Nearly every encoding reads ASCII as it is. Three do not, and one of the multi-byte sets has a use of its own
for three control characters. Of the multi-byte decoders, which come from outside, no more is assumed here
than that they keep the rest of ASCII.
-/

namespace BrowserTab.Encoding

/-- The encodings in which a byte of ASCII does not stand for itself. -/
def obscuring : List Encoding :=
  [.utf16 .little, .utf16 .big, .replacement]

/-- Whether a byte is ASCII and does not switch between character sets in any encoding. -/
def IsPlain (b : UInt8) : Prop :=
  b < 0x80 ∧ b ∉ [0x0E, 0x0F, 0x1B]

instance : DecidablePred IsPlain := fun b =>
  inferInstanceAs (Decidable (b < 0x80 ∧ b ∉ [0x0E, 0x0F, 0x1B]))

/-- Decoders that read plain bytes as the characters they number. Those of the encoding standard do: a plain
byte neither begins a longer character nor leaves the state in which they start. -/
def MultiByte.KeepsPlain (decoders : MultiByte.Decoders) : Prop :=
  ∀ (set : MultiByte) (bs : Bytes), (∀ b ∈ bs, IsPlain b) →
    decoders set bs = (characters bs).map some

/-- Decoders for plain bytes alone. They take every other byte to be malformed. -/
def MultiByte.plainDecoders : MultiByte.Decoders := fun _ bs =>
  bs.map fun b => if IsPlain b then some b.toChar else none

lemma asMarkup_notMem (e : Encoding) : e.asMarkup ∉ obscuring := by
  cases e <;> simp [asMarkup, obscuring]

lemma toNat_lt_of_isPlain {b : UInt8} (hb : IsPlain b) : b.toNat < 0x80 :=
  UInt8.lt_iff_toNat_lt.mp hb.1

lemma ofNat_toNat_of_isPlain {b : UInt8} (hb : IsPlain b) : Char.ofNat b.toNat = b.toChar := by
  apply Char.toNat_inj.mp
  rw [Utf8.toNat_ofNat_ascii (toNat_lt_of_isPlain hb)]
  rfl

lemma Utf8.run_plain {bs : Bytes} (hbs : ∀ b ∈ bs, IsPlain b) :
    Utf8.decoder.run bs = (characters bs).map some := by
  induction bs with
  | nil => rfl
  | cons b bs ih =>
    rw [List.forall_mem_cons] at hbs
    have hread : read none b = ([some b.toChar], none) := by
      rw [read_ascii (by simp) (toNat_lt_of_isPlain hbs.1), ofNat_toNat_of_isPlain hbs.1]
      rfl
    have hrest : decoder.resume none bs = (characters bs).map some := ih hbs.2
    change decoder.resume none (b :: bs) = _
    rw [resume_cons, hread, hrest]
    rfl

lemma map_plain {read : UInt8 → Option Char} (hread : ∀ b, IsPlain b → read b = some b.toChar)
    {bs : Bytes} (hbs : ∀ b ∈ bs, IsPlain b) : bs.map read = (characters bs).map some := by
  rw [characters, List.map_map]
  exact List.map_congr_left fun b hb => hread b (hbs b hb)

lemma MultiByte.keepsPlain_plainDecoders : KeepsPlain plainDecoders :=
  fun _ _ hbs => map_plain (fun _ hb => if_pos hb) hbs

lemma decode_plain {decoders : MultiByte.Decoders} (hdecoders : MultiByte.KeepsPlain decoders)
    {e : Encoding} (he : e ∉ obscuring) {bs : Bytes} (hbs : ∀ b ∈ bs, IsPlain b) :
    e.decode decoders bs = (characters bs).map some := by
  cases e with
  | utf8 => exact Utf8.run_plain hbs
  | utf16 order => cases order <;> simp [obscuring] at he
  | replacement => simp [obscuring] at he
  | userDefined =>
    refine map_plain (fun b hb => ?_) hbs
    rw [readUserDefined, if_pos hb.1, ofNat_toNat_of_isPlain hb]
  | codePage page =>
    refine map_plain (fun b hb => ?_) hbs
    rw [page.read_of_lt hb.1, ofNat_toNat_of_isPlain hb]
  | multiByte set => exact hdecoders set bs hbs

end BrowserTab.Encoding
