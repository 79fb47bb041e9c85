import BrowserTab.Proofs.Language.Telemetry

/-!
# Resolving step by step

A resolution comes with the list of its signals. A resolver at work gives them off one after the other, to
listeners that have a state and do with a signal what they like. Here the work is written down with the returns
it makes early. No listener has a say in the verdict, and each hears the signals of the list in their order.
-/

namespace BrowserTab.Language

variable {σ α β : Type} {hear : σ → Signal → σ}

/-- Gives off a signal to a listener that changes its state by `hear`. -/
def tell (hear : σ → Signal → σ) (s : Signal) : StateM σ Unit :=
  modify (hear · s)

/-- Whether an action comes to the result `a` and gives off the given signals on its way. -/
def Tells (hear : σ → Signal → σ) (m : StateM σ α) (a : α) (signals : List Signal) : Prop :=
  ∀ w, m.run w = (a, signals.foldl hear w)

lemma tells_pure (a : α) : Tells hear (pure a) a [] := by
  intro w
  rfl

lemma tells_tell (s : Signal) : Tells hear (tell hear s) () [s] := by
  intro w
  rfl

lemma Tells.bind {m : StateM σ α} {f : α → StateM σ β} {a : α} {b : β} {first second : List Signal}
    (hm : Tells hear m a first) (hf : Tells hear (f a) b second) :
    Tells hear (m >>= f) b (first ++ second) := by
  intro w
  rw [StateT.run_bind, hm w, List.foldl_append]
  exact hf _

lemma Tells.bind_pure {m : StateM σ α} {a : α} {signals : List Signal} (hm : Tells hear m a signals)
    (f : α → β) : Tells hear (m >>= fun x => pure (f x)) (f a) signals := by
  have h := hm.bind (f := fun x => pure (f x)) (tells_pure (f a))
  rwa [List.append_nil] at h

namespace Resolver

/-- Hears one declaration; an empty one passes unheard. -/
def performNormalize (t : Tables) (hear : σ → Signal → σ) (event : Text → Text → Event)
    (note : Text → Text → Note) (raw : Text) : StateM σ Text := do
  if raw.isEmpty then return []
  let code := t.normalize raw
  tell hear (.event (event raw code))
  tell hear (.note (note raw code))
  return code

/-- Hears what a page declares, in its markup first. -/
def performDeclared (r : Resolver) (hear : σ → Signal → σ) (header markup : Text) : StateM σ Text := do
  let fromMarkup ← performNormalize r.tables hear .markupLanguage .markupLanguage markup
  let fromHeader ← performNormalize r.tables hear .headerLanguage .headerLanguage header
  return if fromMarkup.isEmpty then fromHeader else fromMarkup

/-- Lets the classifier run, if there is one. -/
def performDetect (r : Resolver) (hear : σ → Signal → σ) (text : Text) : StateM σ (Option Detection) := do
  let some c := r.classifier | return none
  let d := c.classify text
  tell hear (.event .detectionTime)
  tell hear (.note (.detected d))
  return some d

/-- Asks about the two codes, and tells of the comparison if it comes to one. -/
def performReconcile (t : Tables) (hear : σ → Signal → σ) (declared seen : Text) :
    StateM σ (Text × Outcome) := do
  if declared.isEmpty then return (seen, .classifierOnly)
  if seen = Code.undetermined then return (declared, .unknownClassifier)
  if Tables.completesRegion declared seen then return (seen, .classifierComplementsRegion)
  let similarity := t.compare declared seen
  tell hear (.event (.similarMatch (similarity = .similarGroup)))
  if similarity.isMatch then return (declared, .agreement)
  if t.suspectsServer declared seen then return (seen, .suspectedMisconfiguration)
  return (Code.undetermined, .disagreement)

/-- Closes with a verdict. -/
def performClose (hear : σ → Signal → σ) (v : Verdict) : StateM σ Verdict := do
  tell hear (.event (.verification v.outcome))
  tell hear (.note (.resolved v.language v.outcome))
  return v

/-- Resolves the language of a page while somebody listens. -/
def perform (r : Resolver) (hear : σ → Signal → σ) (header markup text : Text) : StateM σ Verdict := do
  let detected ← r.performDetect hear text
  let declared ← r.performDeclared hear header markup
  let some d := detected | performClose hear ⟨declared, .classifierDisabled, none, false⟩
  let (language, outcome) ← performReconcile r.tables hear declared (r.seen d)
  performClose hear ⟨language, outcome, some d.language, d.reliable⟩

variable (r : Resolver) (header markup text : Text)

lemma tells_performNormalize (t : Tables) (event : Text → Text → Event) (note : Text → Text → Note)
    (raw : Text) : Tells hear (performNormalize t hear event note raw) (t.normalize raw)
      (if raw.isEmpty then [] else
        [.event (event raw (t.normalize raw)), .note (note raw (t.normalize raw))]) := by
  unfold performNormalize
  cases raw with
  | nil => exact tells_pure []
  | cons c raw => exact (tells_tell _).bind ((tells_tell _).bind (tells_pure _))

lemma tells_performDeclared : Tells hear (r.performDeclared hear header markup)
    (r.declared header markup) (r.declarationSignals header markup) := by
  unfold performDeclared declarationSignals declared
  apply Tells.bind (tells_performNormalize r.tables _ _ markup)
  exact (tells_performNormalize r.tables _ _ header).bind_pure _

lemma tells_performReconcile (t : Tables) (declared seen : Text) :
    Tells hear (performReconcile t hear declared seen)
      ((reconcile t declared seen).language, (reconcile t declared seen).outcome)
      (comparisonSignals (reconcile t declared seen).compared) := by
  unfold performReconcile reconcile
  split
  · exact tells_pure _
  · split
    · exact tells_pure _
    · split
      · exact tells_pure _
      · -- From here on the codes are compared, and all three answers have the same signal.
        dsimp only
        generalize t.compare declared seen = similarity
        have htell : Tells hear (tell hear (.event (.similarMatch (similarity = .similarGroup)))) () _ :=
          tells_tell _
        split
        · exact htell.bind_pure _
        · split
          · exact htell.bind_pure _
          · exact htell.bind_pure _

lemma tells_performClose (v : Verdict) :
    Tells hear (performClose hear v) v (closingSignals v.language v.outcome) :=
  (tells_tell _).bind ((tells_tell _).bind_pure _)

lemma tells_performDetect : Tells hear (r.performDetect hear text)
    (r.classifier.map (·.classify text))
    ((r.classifier.map (·.classify text)).elim [] detectionSignals) := by
  unfold performDetect
  cases r.classifier with
  | none => exact tells_pure none
  | some c => exact (tells_tell _).bind ((tells_tell _).bind_pure _)

/-- Whoever listens, the resolver at work comes to the verdict of the resolution and gives off its signals. -/
lemma tells_perform : Tells hear (r.perform hear header markup text)
    (r.resolve header markup text).verdict (r.resolve header markup text).signals := by
  unfold perform
  have hdetect : Tells hear (r.performDetect hear text) _ _ := r.tells_performDetect text
  have hdeclared : Tells hear (r.performDeclared hear header markup) _ _ :=
    r.tells_performDeclared header markup
  cases h : r.classifier with
  | none =>
    rw [h] at hdetect
    rw [signals_resolve_of_none h, verdict_resolve_of_none h]
    apply hdetect.bind
    apply hdeclared.bind
    exact tells_performClose _
  | some c =>
    rw [h] at hdetect
    rw [signals_resolve_of_some h, verdict_resolve_of_some h, List.append_assoc, List.append_assoc]
    apply hdetect.bind
    apply hdeclared.bind
    apply (tells_performReconcile r.tables _ _).bind
    exact tells_performClose _

end Resolver

end BrowserTab.Language
