import BrowserTab.Markup.Attribute

/-!
# Start tags

The start tags of one name in a text, found without a full reading of the markup: a tag begins
wherever its name follows a `<`, whatever stands around it, and the search goes on behind the tag.
-/

namespace BrowserTab.Markup

/-- Whether a text begins where a tag's name ends. -/
def atNameEnd : Text → Bool
  | [] => true
  | c :: _ => isGap c || c = '>'

/-- What follows the name of a `name` tag that begins at the start of a text. -/
def opening? (name : Text) (t : Text) : Option Text :=
  (Text.after? ('<' :: name) t).filter atNameEnd

/-- The attributes of the first `name` tag in a text, and what follows that tag. -/
def nextTag? (name : Text) : Text → Option (List Attribute × Text)
  | [] => none
  | c :: t =>
    match opening? name (c :: t) with
    | some inside => some (readAttributes inside)
    | none => nextTag? name t

/-- What follows a tag is shorter than the text. -/
theorem length_lt_of_nextTag? {name t rest : Text} {attributes : List Attribute}
    (h : nextTag? name t = some (attributes, rest)) : rest.length < t.length := by
  fun_induction nextTag? name t with
  | case1 => cases h
  | case2 c t inside ho =>
    have hl := Text.length_of_after? (Option.filter_eq_some_iff.mp ho).1
    have hr := length_readAttributes_le inside
    rw [Option.some.inj h] at hr
    simp only [List.length_cons] at hl hr ⊢
    omega
  | case3 c t ho ih =>
    have hr := ih h
    simp only [List.length_cons]
    omega

/-- The attributes of every `name` tag in a text, in order. -/
def startTags (name : Text) (t : Text) : List (List Attribute) :=
  match h : nextTag? name t with
  | none => []
  | some (attributes, rest) =>
    have := length_lt_of_nextTag? h
    attributes :: startTags name rest
termination_by t.length

/-- The value of the first attribute of a given name. -/
def valueOf? (name : Text) (attributes : List Attribute) : Option Text :=
  (attributes.find? (·.name = name)).map (·.value)

end BrowserTab.Markup
