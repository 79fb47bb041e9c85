import BrowserTab.Proofs.Language.Canonical

/-!
# Languages listed as misdeclared

A page declared English is taken for misdeclared if its classifier saw one of the listed languages. The
list is compared with the code that the tables put in the place of what was seen, so an entry that the
tables replace takes effect only through another entry.
-/

namespace BrowserTab.Language

variable {t : Tables} {declared seen : Text}

lemma Tables.compare_eq_different_iff :
    t.compare declared seen = .different ↔ ¬t.Alike declared seen := by
  rw [← isMatch_compare_iff]
  cases t.compare declared seen <;> simp [Similarity.isMatch]

namespace Resolver

/-- Against English nothing is asked about regions, so what counts is that the other code determines
something, is unlike it, and is listed. -/
lemma warrants_suspectedMisconfiguration_iff (h : Text.BeginsWith "en".toList declared) :
    Warrants t declared seen .suspectedMisconfiguration ↔
      seen ∈ t.misconfigured ∧ seen ≠ Code.undetermined ∧
        t.compare declared seen = .different := by
  have hne : declared ≠ [] := by
    rintro rfl
    exact absurd h (by decide)
  have hz : ¬Tables.Completes declared seen := by
    rintro ⟨rfl, -⟩
    exact absurd h (by decide)
  simp only [Warrants, Compares, Tables.Misdeclared, Tables.compare_eq_different_iff]
  tauto

lemma suspects_iff {r : Resolver} {c : Classifier} (h : r.classifier = some c)
    (header markup text : Text) (hd : Text.BeginsWith "en".toList (r.declared header markup)) :
    let seen := r.seen (c.classify text)
    (r.resolve header markup text).verdict.outcome = .suspectedMisconfiguration ∧
        (r.resolve header markup text).verdict.language = seen ↔
      seen ∈ r.tables.misconfigured ∧ seen ≠ Code.undetermined ∧
        r.tables.compare (r.declared header markup) seen = .different := by
  intro seen
  rw [verdict_resolve_of_some h, ← warrants_suspectedMisconfiguration_iff hd,
    ← outcome_reconcile_eq_iff, language_reconcile]
  constructor
  · rintro ⟨ho, -⟩
    exact ho
  · intro ho
    rw [ho]
    exact ⟨rfl, rfl⟩

/-- A trusted detection of a listed language makes a page declared in an English unlike it count as
misdeclared exactly if the tables do not replace the entry, or replace it by a code that is listed itself,
determines something and is unlike that English. -/
theorem suspects_listed_iff (tables : Tables) (settings : Settings) (c : Classifier) (sink : Sink)
    (r : Resolver) (hr : build tables settings (some c) sink = .ok r) (m : Text)
    (hm : m ∈ tables.misconfigured) (hu : m ≠ Code.undetermined) (header markup text : Text)
    (declared : Text) (hdeclared : declared = if tables.normalize markup ≠ [] then
      tables.normalize markup else tables.normalize header)
    (hen : Text.BeginsWith "en".toList declared) (hd : tables.compare declared m = .different)
    (hl : (c.classify text).language = m) (hreliable : (c.classify text).reliable = true)
    (hbytes : settings.minReliableBytes ≤ (c.classify text).bytes) :
    (r.resolve header markup text).verdict.outcome = .suspectedMisconfiguration ∧
        (r.resolve header markup text).verdict.language = tables.rename m ↔
      ¬tables.IsMapped m ∨
        tables.rename m ∈ tables.misconfigured ∧ tables.rename m ≠ Code.undetermined ∧
          tables.compare declared (tables.rename m) = .different := by
  obtain ⟨rfl, rfl, hc⟩ := tables_of_build hr
  rw [← declared_eq] at hdeclared
  subst hdeclared
  have hne : m ≠ [] := Code.ne_nil_of_isValid (r.sound.misconfigured_isValid m hm)
  have hseen : r.seen (c.classify text) = r.tables.rename m := by
    rw [seen_eq, if_pos ⟨hreliable, hbytes, hl ▸ hne, hl ▸ hu⟩, hl]
  have hs := suspects_iff hc header markup text hen
  simp only [hseen] at hs
  rw [hs]
  constructor
  · exact .inr
  · rintro (hmap | h)
    · rw [Tables.rename_of_not_isMapped r.sound hmap]
      exact ⟨hm, hu, hd⟩
    · exact h

/-- A listed language that is also a synonym of another listed one. -/
theorem suspects_listed_iff_renamed :
    let tables : Tables :=
      { Tables.standard with misconfigured := ["no", "nb"].map String.toList }
    let c := Classifier.constant "nb".toList true (some 100) []
    let r : Resolver := ⟨tables, .standard, some c, .silent, by decide, rfl⟩
    build tables .standard (some c) .silent = .ok r ∧ "nb".toList ∈ tables.misconfigured ∧
      tables.compare "en-GB".toList "nb".toList = .different ∧
      (r.resolve "EN_gb, nb".toList [] []).verdict.outcome = .suspectedMisconfiguration ∧
      (r.resolve "EN_gb, nb".toList [] []).verdict.language = "no".toList := by
  intro tables c r
  have hr : build tables .standard (some c) .silent = .ok r := rfl
  have hm : "nb".toList ∈ tables.misconfigured := by decide
  have hd : tables.compare "en-GB".toList "nb".toList = .different := by decide
  refine ⟨hr, hm, hd, ?_⟩
  exact (suspects_listed_iff tables .standard c .silent r hr "nb".toList hm (by decide)
    "EN_gb, nb".toList [] [] "en-GB".toList (by decide) (by decide) hd rfl rfl (by decide)).mpr
    (.inr ⟨by decide, by decide, by decide⟩)

/-- An entry that the tables replace by a code that is not listed never takes effect, although the check
of the tables lets it pass. -/
theorem not_suspects_of_renamed :
    ¬∀ (tables : Tables) (settings : Settings) (c : Classifier) (sink : Sink) (r : Resolver),
      build tables settings (some c) sink = .ok r → ∀ m ∈ tables.misconfigured,
        m ≠ Code.undetermined → ∀ header markup text declared,
          (declared = if tables.normalize markup ≠ [] then tables.normalize markup
            else tables.normalize header) →
          "en".toList <+: declared → tables.compare declared m = .different →
          (c.classify text).language = m → (c.classify text).reliable = true →
          settings.minReliableBytes ≤ (c.classify text).bytes →
          (r.resolve header markup text).verdict.outcome = .suspectedMisconfiguration ∧
            (r.resolve header markup text).verdict.language = tables.rename m := by
  intro h
  let tables : Tables :=
    { Tables.standard with
      misconfigured := Tables.standard.misconfigured ++ ["nb".toList] }
  let c := Classifier.constant "nb".toList true (some 4096) []
  let r : Resolver := ⟨tables, .standard, some c, .silent, by decide, rfl⟩
  have he := h tables .standard c .silent r rfl "nb".toList (by decide) (by decide) "en".toList [] []
    "en".toList (by decide) (by decide) (by decide) rfl rfl (by decide)
  exact absurd he (by decide)

end Resolver

end BrowserTab.Language
