import BrowserTab.Language.Resolver.Basic
import BrowserTab.Proofs.Language.Soundness
import BrowserTab.Proofs.Text.Scanning

/-!
# Reconciliation

The resolver asks about the declared and the seen code one question after the other, and the first
answer settles the outcome. Here every outcome has a condition of its own, without regard to the order
of the questions: for any two codes exactly one of the conditions holds, and it is that of the outcome.
-/

namespace BrowserTab

namespace Text

/-- Whether a text begins with a word, ASCII letter case aside. -/
def BeginsWith (w t : Text) : Prop :=
  ∃ x v, t = x ++ v ∧ lower x = lower w

lemma isSome_after?_iff {w t : Text} : (after? w t).isSome = true ↔ BeginsWith w t := by
  rw [Option.isSome_iff_exists, BeginsWith, exists_comm]
  exact exists_congr fun v => after?_eq_some_iff

instance (w t : Text) : Decidable (BeginsWith w t) :=
  decidable_of_iff _ isSome_after?_iff

end Text

namespace Language

/-- Whether a detection is to be trusted: it is reliable, rests on enough bytes and names a language. -/
def Settings.Trusts (s : Settings) (d : Detection) : Prop :=
  d.reliable = true ∧ s.minReliableBytes ≤ d.bytes ∧ d.language ≠ [] ∧
    d.language ≠ Code.undetermined

instance (s : Settings) (d : Detection) : Decidable (s.Trusts d) :=
  inferInstanceAs (Decidable (_ ∧ _ ∧ _ ∧ _))

namespace Tables

/-- Whether the first member whose code begins the given one belongs to the given group. -/
def InGroup (t : Tables) (code : Text) (group : Nat) : Prop :=
  ∃ before m after, t.groups = before ++ m :: after ∧ (∀ n ∈ before, ¬n.code <+: code) ∧
    m.code <+: code ∧ m.group = group

lemma groupOf_eq_iff {t : Tables} {code : Text} {group : Nat} (h : group ≠ 0) :
    t.groupOf code = group ↔ t.InGroup code group := by
  have hf : t.groupOf code = group ↔
      ∃ m, t.groups.find? (·.code.isPrefixOf code) = some m ∧ m.group = group := by
    rw [groupOf]
    cases t.groups.find? (·.code.isPrefixOf code) with
    | none => simp [Ne.symm h]
    | some m => simp
  rw [hf, InGroup]
  simp only [List.find?_eq_some_iff_append, Bool.not_eq_eq_eq_not, Bool.not_true,
    ← Bool.not_eq_true, List.isPrefixOf_iff_prefix]
  constructor
  · rintro ⟨m, ⟨hm, before, after, hg, hb⟩, rfl⟩
    exact ⟨before, m, after, hg, hb, hm, rfl⟩
  · rintro ⟨before, m, after, hg, hb, hm, rfl⟩
    exact ⟨m, ⟨hm, before, after, hg, hb⟩, rfl⟩

/-- Whether the classifier's code is one of the regions of the plain Chinese that a page declared. -/
def Completes (declared seen : Text) : Prop :=
  declared = "zh".toList ∧ Text.BeginsWith "zh-".toList seen

/-- Whether the codes count as one language: the first two bytes of the declared code begin the other
code, or both belong to one group. -/
def Alike (t : Tables) (declared seen : Text) : Prop :=
  (2 ≤ Encoding.Utf8.size declared ∧
      (Encoding.Utf8.encode declared).take 2 <+: Encoding.Utf8.encode seen) ∨
    ∃ group ≠ 0, t.InGroup declared group ∧ t.InGroup seen group

/-- Whether a page was declared English and is in a language that often is by mistake. -/
def Misdeclared (t : Tables) (declared seen : Text) : Prop :=
  Text.BeginsWith "en".toList declared ∧ seen ∈ t.misconfigured

lemma completesRegion_iff {declared seen : Text} :
    completesRegion declared seen = true ↔ Completes declared seen := by
  rw [completesRegion, Bool.and_eq_true, decide_eq_true_eq, Text.isSome_after?_iff, Completes]

lemma suspectsServer_iff {t : Tables} {declared seen : Text} :
    t.suspectsServer declared seen = true ↔ t.Misdeclared declared seen := by
  rw [suspectsServer, Bool.and_eq_true, List.contains_iff_mem, Text.isSome_after?_iff, Misdeclared]

lemma sharesPrimary_iff {declared seen : Text} : sharesPrimary declared seen = true ↔
    2 ≤ Encoding.Utf8.size declared ∧
      (Encoding.Utf8.encode declared).take 2 <+: Encoding.Utf8.encode seen := by
  simp [sharesPrimary, Encoding.Utf8.size]

lemma sameGroup_iff {t : Tables} {declared seen : Text} :
    t.groupOf declared ≠ 0 ∧ t.groupOf declared = t.groupOf seen ↔
      ∃ group ≠ 0, t.InGroup declared group ∧ t.InGroup seen group := by
  constructor
  · rintro ⟨h, hs⟩
    exact ⟨_, h, (groupOf_eq_iff h).mp rfl, (groupOf_eq_iff h).mp hs.symm⟩
  · rintro ⟨group, h, hd, hs⟩
    rw [(groupOf_eq_iff h).mpr hd, (groupOf_eq_iff h).mpr hs]
    exact ⟨h, rfl⟩

lemma isMatch_compare_iff {t : Tables} {declared seen : Text} :
    (t.compare declared seen).isMatch = true ↔ t.Alike declared seen := by
  rw [Alike, ← sharesPrimary_iff, ← sameGroup_iff, compare]
  split <;> rename_i hp
  · simp [hp, Similarity.isMatch]
  · split <;> rename_i hg
    · exact iff_of_true rfl (.inr hg)
    · exact iff_of_false (by simp [Similarity.isMatch]) (not_or.mpr ⟨hp, hg⟩)

end Tables

/-! ### Outcomes and their conditions -/

namespace Resolver

/-- Whether two codes have to be compared: each of them says something, and the classifier's does more
than to add a region. -/
def Compares (declared seen : Text) : Prop :=
  declared ≠ [] ∧ seen ≠ Code.undetermined ∧ ¬Tables.Completes declared seen

/-- When two codes warrant an outcome. -/
def Warrants (t : Tables) (declared seen : Text) : Outcome → Prop
  | .classifierOnly => declared = []
  | .unknownClassifier => declared ≠ [] ∧ seen = Code.undetermined
  | .classifierComplementsRegion => Tables.Completes declared seen
  | .agreement => Compares declared seen ∧ t.Alike declared seen
  | .suspectedMisconfiguration =>
    Compares declared seen ∧ ¬t.Alike declared seen ∧ t.Misdeclared declared seen
  | .disagreement =>
    Compares declared seen ∧ ¬t.Alike declared seen ∧ ¬t.Misdeclared declared seen
  | .classifierDisabled => False

/-- Which of two codes stands under an outcome. -/
def standing (declared seen : Text) : Outcome → Text
  | .classifierDisabled | .unknownClassifier | .agreement => declared
  | .classifierOnly | .classifierComplementsRegion | .suspectedMisconfiguration => seen
  | .disagreement => Code.undetermined

variable {t : Tables} {declared seen : Text} {o : Outcome}

lemma compares_iff : Compares declared seen ↔ declared ≠ [] ∧ seen ≠ Code.undetermined ∧
    Tables.completesRegion declared seen = false := by
  rw [Compares, ← Tables.completesRegion_iff, Bool.not_eq_true]

lemma ne_undetermined_of_completes (h : Tables.Completes declared seen) :
    seen ≠ Code.undetermined := by
  rintro rfl
  exact absurd h.2 (by decide)

lemma reconcile_of_compares (h : Compares declared seen) : reconcile t declared seen =
    if (t.compare declared seen).isMatch then
      ⟨declared, .agreement, some (t.compare declared seen)⟩
    else if t.suspectsServer declared seen then
      ⟨seen, .suspectedMisconfiguration, some (t.compare declared seen)⟩
    else ⟨Code.undetermined, .disagreement, some (t.compare declared seen)⟩ := by
  obtain ⟨hd, hs, hc⟩ := compares_iff.mp h
  simp [reconcile, hd, hs, hc]

lemma reconcile_of_warrants (h : Warrants t declared seen o) :
    (reconcile t declared seen).outcome = o ∧
      (reconcile t declared seen).language = standing declared seen o := by
  cases o with
  | classifierOnly =>
    have hd : declared = [] := h
    simp [reconcile, hd, standing]
  | unknownClassifier =>
    obtain ⟨hd, hs⟩ := h
    simp [reconcile, hd, hs, standing]
  | classifierComplementsRegion =>
    have hs := ne_undetermined_of_completes h
    have hd : declared ≠ [] := by
      rw [h.1]
      decide
    simp [reconcile, hd, hs, Tables.completesRegion_iff.mpr h, standing]
  | agreement =>
    obtain ⟨hc, ha⟩ := h
    rw [reconcile_of_compares hc, if_pos (Tables.isMatch_compare_iff.mpr ha)]
    exact ⟨rfl, rfl⟩
  | suspectedMisconfiguration =>
    obtain ⟨hc, ha, hm⟩ := h
    rw [reconcile_of_compares hc, if_neg (mt Tables.isMatch_compare_iff.mp ha),
      if_pos (Tables.suspectsServer_iff.mpr hm)]
    exact ⟨rfl, rfl⟩
  | disagreement =>
    obtain ⟨hc, ha, hm⟩ := h
    rw [reconcile_of_compares hc, if_neg (mt Tables.isMatch_compare_iff.mp ha),
      if_neg (mt Tables.suspectsServer_iff.mp hm)]
    exact ⟨rfl, rfl⟩
  | classifierDisabled => exact h.elim

lemma exists_warrants (t : Tables) (declared seen : Text) : ∃ o, Warrants t declared seen o := by
  by_cases hd : declared = []
  · exact ⟨.classifierOnly, hd⟩
  by_cases hs : seen = Code.undetermined
  · exact ⟨.unknownClassifier, hd, hs⟩
  by_cases hc : Tables.Completes declared seen
  · exact ⟨.classifierComplementsRegion, hc⟩
  by_cases ha : t.Alike declared seen
  · exact ⟨.agreement, ⟨hd, hs, hc⟩, ha⟩
  by_cases hm : t.Misdeclared declared seen
  · exact ⟨.suspectedMisconfiguration, ⟨hd, hs, hc⟩, ha, hm⟩
  · exact ⟨.disagreement, ⟨hd, hs, hc⟩, ha, hm⟩

lemma outcome_reconcile_eq_iff :
    (reconcile t declared seen).outcome = o ↔ Warrants t declared seen o := by
  constructor
  · rintro rfl
    obtain ⟨o, ho⟩ := exists_warrants t declared seen
    rwa [(reconcile_of_warrants ho).1]
  · exact fun h => (reconcile_of_warrants h).1

lemma language_reconcile (t : Tables) (declared seen : Text) :
    (reconcile t declared seen).language =
      standing declared seen (reconcile t declared seen).outcome :=
  (reconcile_of_warrants (outcome_reconcile_eq_iff.mp rfl)).2

lemma tables_of_build {tables : Tables} {settings : Settings} {classifier : Option Classifier}
    {sink : Sink} {r : Resolver} (h : build tables settings classifier sink = .ok r) :
    r.tables = tables ∧ r.settings = settings ∧ r.classifier = classifier := by
  unfold build at h
  split at h
  · cases h
  · split at h
    · cases h
    · cases h
      exact ⟨rfl, rfl, rfl⟩

lemma sound (r : Resolver) : r.tables.Sound :=
  Tables.defect?_eq_none_iff.mp r.tables_sound

variable {r : Resolver}

lemma declared_eq (r : Resolver) (header markup : Text) : r.declared header markup =
    if r.tables.normalize markup ≠ [] then r.tables.normalize markup
      else r.tables.normalize header := by
  unfold declared
  by_cases h : r.tables.normalize markup = []
  · simp [h]
  · simp [h]

lemma trusts_iff {d : Detection} : r.trusts d = true ↔ r.settings.Trusts d := by
  simp [trusts, Settings.Trusts, and_assoc]

lemma seen_eq (r : Resolver) (d : Detection) : r.seen d =
    r.tables.rename (if r.settings.Trusts d then d.language else Code.undetermined) := by
  simp only [seen, trusts_iff]

lemma verdict_resolve_of_none (h : r.classifier = none) (header markup text : Text) :
    (r.resolve header markup text).verdict =
      ⟨r.declared header markup, .classifierDisabled, none, false⟩ := by
  simp [resolve, h]

lemma verdict_resolve_of_some {c : Classifier} (h : r.classifier = some c)
    (header markup text : Text) :
    (r.resolve header markup text).verdict =
      ⟨(reconcile r.tables (r.declared header markup) (r.seen (c.classify text))).language,
        (reconcile r.tables (r.declared header markup) (r.seen (c.classify text))).outcome,
        some (c.classify text).language, (c.classify text).reliable⟩ := by
  simp [resolve, h]

lemma outcome_resolve_eq_classifierDisabled_iff (r : Resolver) (header markup text : Text) :
    (r.resolve header markup text).verdict.outcome = .classifierDisabled ↔ r.classifier = none := by
  cases h : r.classifier with
  | none => simp [verdict_resolve_of_none h]
  | some c =>
    rw [verdict_resolve_of_some h]
    simp [outcome_reconcile_eq_iff, Warrants]

/-- The outcome and the language of every verdict. Without a classifier the declaration stands; with
one each outcome is reached exactly if the declared code and the code for which the classifier stands
warrant it, and decides which of the two stands. -/
theorem outcome_resolve_iff (r : Resolver) (header markup text : Text) :
    let declared := if r.tables.normalize markup ≠ [] then r.tables.normalize markup
      else r.tables.normalize header
    let verdict := (r.resolve header markup text).verdict
    (verdict.outcome = .classifierDisabled ↔ r.classifier = none) ∧
      (r.classifier = none → verdict.language = declared) ∧
      ∀ c, r.classifier = some c →
        let d := c.classify text
        let seen := r.tables.rename
          (if r.settings.Trusts d then d.language else Code.undetermined)
        (∀ o, verdict.outcome = o ↔ Warrants r.tables declared seen o) ∧
          verdict.language = standing declared seen verdict.outcome := by
  simp only [← declared_eq, ← seen_eq]
  refine ⟨outcome_resolve_eq_classifierDisabled_iff r header markup text, ?_, ?_⟩
  · intro h
    rw [verdict_resolve_of_none h]
  · intro c h
    rw [verdict_resolve_of_some h]
    exact ⟨fun o => outcome_reconcile_eq_iff, language_reconcile _ _ _⟩

/-- A page in plain Chinese in which the classifier saw that of Hong Kong. The primary tags agree, but
the question after the region comes first. -/
theorem outcome_resolve_iff_region :
    let c := Classifier.constant "zh-HK".toList true (some 100) []
    let r : Resolver := ⟨.standard, .standard, some c, .silent, by decide, rfl⟩
    r.classifier = some c ∧
      (r.resolve "zh_TW".toList "ZH , en".toList []).verdict.outcome = .classifierComplementsRegion ∧
      (r.resolve "zh_TW".toList "ZH , en".toList []).verdict.language = "zh-TW".toList := by
  intro c r
  obtain ⟨-, -, h⟩ := outcome_resolve_iff r "zh_TW".toList "ZH , en".toList []
  obtain ⟨ho, hl⟩ := h c rfl
  have hz : (r.resolve "zh_TW".toList "ZH , en".toList []).verdict.outcome =
      .classifierComplementsRegion := (ho _).mpr ⟨by decide, by decide⟩
  rw [hz] at hl
  exact ⟨rfl, hz, hl.trans (by decide)⟩

end Resolver

end Language

end BrowserTab
