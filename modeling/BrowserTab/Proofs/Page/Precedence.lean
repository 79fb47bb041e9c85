import BrowserTab.Page.Response
import BrowserTab.Proofs.Encoding.Plain
import BrowserTab.Proofs.Language.Reconciliation
import BrowserTab.Proofs.Page.Declared

/-!
# Precedence of declarations

A page may contradict itself about its language. The `lang` attribute is heard before the headers, and
the first `Content-Language` header before later ones. What is overruled leaves no trace in the verdict,
although all of it is read and reported.
-/

namespace BrowserTab

namespace Language.Resolver

/-- The first normal form that is not empty, that of the attribute before that of the header. -/
def prevailing (t : Tables) (header markup : Text) : Option Text :=
  [t.normalize markup, t.normalize header].find? (· ≠ [])

variable {t : Tables} {header header' markup markup' : Text}

lemma prevailing_of_ne_nil (h : t.normalize markup ≠ []) :
    prevailing t header markup = some (t.normalize markup) := by
  rw [prevailing, List.find?_cons_of_pos (by simpa using h)]

lemma prevailing_of_eq_nil (h : t.normalize markup = []) :
    prevailing t header markup = [t.normalize header].find? (· ≠ []) := by
  rw [prevailing, List.find?_cons_of_neg (by simpa using h)]

lemma declared_eq_prevailing (r : Resolver) (header markup : Text) :
    r.declared header markup = (prevailing r.tables header markup).getD [] := by
  rw [declared_eq]
  by_cases hm : r.tables.normalize markup = []
  · by_cases hh : r.tables.normalize header = []
    · simp [prevailing_of_eq_nil hm, hm, hh]
    · simp [prevailing_of_eq_nil hm, hm, hh]
  · rw [if_pos hm, prevailing_of_ne_nil hm, Option.getD_some]

lemma verdict_congr {r : Resolver}
    (h : prevailing r.tables header markup = prevailing r.tables header' markup') (text : Text) :
    (r.resolve header markup text).verdict = (r.resolve header' markup' text).verdict := by
  have hd : r.declared header markup = r.declared header' markup' := by
    rw [declared_eq_prevailing, declared_eq_prevailing, h]
  cases hc : r.classifier with
  | none => rw [verdict_resolve_of_none hc, verdict_resolve_of_none hc, hd]
  | some c => rw [verdict_resolve_of_some hc, verdict_resolve_of_some hc, hd]

end Language.Resolver

namespace Page

open BrowserTab.Language Markup

/-- Whether a header is named `Content-Language`, letter case and the blanks around it aside. -/
def IsLanguageHeader (h : Header) : Prop :=
  Text.Spells "content-language".toList h.1

/-- What headers announce: the value of the first one that is about the language, or nothing. -/
inductive Announces : List Header → Text → Prop where
  | nothing {headers : List Header} (h : ∀ x ∈ headers, ¬IsLanguageHeader x) : Announces headers []
  | value {before after : List Header} {x : Header} (hb : ∀ y ∈ before, ¬IsLanguageHeader y)
      (hx : IsLanguageHeader x) : Announces (before ++ x :: after) x.2

lemma isLanguageHeader_iff {x : Header} :
    Text.sameIgnoringCase (Text.trim Text.isBlank x.1) "content-language".toList = true ↔
      IsLanguageHeader x := by
  rw [Text.sameIgnoringCase, beq_iff_eq]
  exact Text.lower_trim_eq_iff (by simp [Text.lower]) (by simp [Text.lower])

lemma getD_headerLanguage?_of_announces {headers : List Header} {v : Text}
    (h : Announces headers v) : (headerLanguage? headers).getD [] = v := by
  unfold headerLanguage?
  cases h with
  | nothing h =>
    rw [List.find?_eq_none.mpr fun x hx => mt isLanguageHeader_iff.mp (h x hx)]
    rfl
  | @value before after x hb hx =>
    rw [List.find?_append, List.find?_eq_none.mpr fun y hy => mt isLanguageHeader_iff.mp (hb y hy),
      Option.none_or, List.find?_cons_of_pos]
    · rfl
    · exact isLanguageHeader_iff.mpr hx

/-- The verdict on a page does not depend on what its declarations are overruled by: not on the headers
where the attribute has a normal form, and otherwise only on that of the first language header. Of any
two declarations the prevailing normal form alone counts; without a classifier it is the verdict. -/
theorem verdict_precedence (decoders : Encoding.MultiByte.Decoders) (r : Resolver) (body : Bytes)
    (contentType : Text) (headers headers' : List Header) :
    let verdict := fun h => ((Response.mk body contentType h).resolve decoders r).verdict
    let lang := markupLanguage? (text decoders body contentType)
    (∀ l, lang = some l → r.tables.normalize l ≠ [] → verdict headers = verdict headers') ∧
      ((∀ l, lang = some l → r.tables.normalize l = []) →
        ∀ v v', Announces headers v → Announces headers' v' →
          r.tables.normalize v = r.tables.normalize v' → verdict headers = verdict headers') ∧
      (∀ t header header' markup markup',
        Resolver.prevailing r.tables header markup = Resolver.prevailing r.tables header' markup' →
          (r.resolve header markup t).verdict = (r.resolve header' markup' t).verdict) ∧
      (r.classifier = none → ∀ t header markup, (r.resolve header markup t).verdict.language =
        (Resolver.prevailing r.tables header markup).getD []) := by
  intro verdict lang
  refine ⟨?_, ?_, fun t header header' markup markup' h => Resolver.verdict_congr h t, ?_⟩
  · intro l hl hn
    apply Resolver.verdict_congr
    have hm : r.tables.normalize (lang.getD []) ≠ [] := by rwa [hl]
    exact (Resolver.prevailing_of_ne_nil hm).trans (Resolver.prevailing_of_ne_nil hm).symm
  · intro hl v v' hv hv' hn
    apply Resolver.verdict_congr
    have hm : r.tables.normalize (lang.getD []) = [] := by
      cases h : lang with
      | none => rfl
      | some l => exact hl l h
    rw [← getD_headerLanguage?_of_announces hv, ← getD_headerLanguage?_of_announces hv'] at hn
    refine (Resolver.prevailing_of_eq_nil hm).trans ?_
    exact (congrArg (fun n => [n].find? (· ≠ [])) hn).trans (Resolver.prevailing_of_eq_nil hm).symm
  · intro hc t header markup
    rw [Resolver.verdict_resolve_of_none hc, Resolver.declared_eq_prevailing]

/-- A page that says Portuguese in its markup is not moved by its headers; an empty page goes by the first
language header, however that is written. The server takes both for Japanese, whose decoder reads them as
they are. -/
theorem verdict_precedence_portuguese :
    let decoders := Encoding.MultiByte.plainDecoders
    let r : Resolver := ⟨.standard, .standard, none, .silent, Tables.defect?_standard, rfl⟩
    let body := Encoding.Utf8.encode portugueseTag.render
    let type := "text/html; charset=Shift_JIS".toList
    let first : List Header :=
      [("Content-Type".toList, type), (" content-language".toList, "de_at, en".toList),
        ("Content-Language".toList, "fr".toList)]
    let second : List Header := [("CONTENT-LANGUAGE".toList, "DE-at".toList)]
    (sniff body type).encoding = .multiByte .shiftJis ∧ (∀ b ∈ body, Encoding.IsPlain b) ∧
      markupLanguage? (text decoders body type) = some "pt-BR".toList ∧
      ((Response.mk body type first).resolve decoders r).verdict =
        ((Response.mk body type []).resolve decoders r).verdict ∧
      markupLanguage? (text decoders [] type) = none ∧
      Announces first "de_at, en".toList ∧ Announces second "DE-at".toList ∧
      ((Response.mk [] type first).resolve decoders r).verdict =
        ((Response.mk [] type second).resolve decoders r).verdict := by
  intro decoders r body type first second
  have hplain : ∀ b ∈ body, Encoding.IsPlain b := by
    have hall : body.all (fun b => decide (Encoding.IsPlain b)) = true := by decide
    simpa using hall
  have hl : markupLanguage? (text decoders body type) = some "pt-BR".toList := by
    have ht : text decoders body type = portugueseTag.render ++ [] := by decide
    rw [ht, markupLanguage?, Written.nextTag?_render (by decide)]
    decide
  have hn : markupLanguage? (text decoders [] type) = none := by decide
  have hf : Announces first "de_at, en".toList := by
    have hbefore : ∀ y ∈ [(("Content-Type".toList, type) : Header)], ¬IsLanguageHeader y := by
      intro y hy
      rw [List.mem_singleton.mp hy, ← isLanguageHeader_iff]
      decide
    refine .value hbefore ?_
    rw [← isLanguageHeader_iff]
    decide
  have hs : Announces second "DE-at".toList := by
    have hbefore : ∀ y ∈ ([] : List Header), ¬IsLanguageHeader y := by simp
    refine .value hbefore ?_
    rw [← isLanguageHeader_iff]
    decide
  refine ⟨by decide, hplain, hl, ?_, hn, hf, hs, ?_⟩
  · exact (verdict_precedence decoders r body type first []).1 _ hl (by decide)
  · refine (verdict_precedence decoders r [] type first second).2.1 ?_ _ _ hf hs (by decide)
    intro l h
    cases hn.symm.trans h

end Page

end BrowserTab
