/-
**Expressions of the view language.**

A view refers to values at run time by expressions between `${` and `}`.  Template arguments may
be such expressions or bare names; this module says how a bare name becomes an expression: a
collection is looked up under `descriptor`, a field's value under `instance`, and there only the
last part of a dotted name counts.

Main definitions:

* `Expression.isDynamic`, `Expression.unwrap?`, `Expression.wrap` — the markers;
* `Expression.collection`, `Expression.leaf`, `Expression.boundValue` — references;
* `Selection`, `Selection.of` — the expressions of a loop over the options of a choice.

Main results:

* `Expression.unwrap?_isSome` — a text unwraps exactly when it is an expression.
-/

set_option relaxedAutoImplicit false
set_option autoImplicit false

namespace JellyViews

namespace Expression

/-! ### Names and markers -/

/-- The marker that opens an expression. -/
def openMarker : String := "$\x7b"

/-- The marker that closes an expression. -/
def closeMarker : String := "\x7d"

/-- The name under which the values of fields are looked up. -/
def instanceRoot : String := "instance"

/-- The name under which collections are looked up. -/
def descriptorRoot : String := "descriptor"

/-- The variable of a loop that names none. -/
def loopVar : String := "it"

/-- The variable of a loop over options that names none. -/
def optionVar : String := "option"

/-- The property by which options are told apart if a loop names none. -/
def optionValue : String := "name"

/-- The part of an expression between its markers, if there are markers and the part is not
empty. -/
def inner? : List Char → Option (List Char)
  | '$' :: '\x7b' :: cs =>
    match cs.reverse with
    | '\x7d' :: c :: rest => some (c :: rest).reverse
    | _ => none
  | _ => none

/-- The text between the markers of an expression; `none` for a bare name. -/
def unwrap? (token : String) : Option String := (inner? token.toList).map String.ofList

/-- Whether the token is `${`, at least one character, and `}`. -/
def isDynamic (token : String) : Bool := (inner? token.toList).isSome

/-- The expression of a text. -/
def wrap (inner : String) : String := openMarker ++ inner ++ closeMarker

theorem unwrap?_isSome (token : String) : (unwrap? token).isSome = isDynamic token := by
  simp [unwrap?, isDynamic]

/-! ### References -/

/-- A collection: an expression stands for itself, and a bare name is looked up under
`descriptor`. -/
def collection (token : String) : String :=
  if isDynamic token then token else wrap (descriptorRoot ++ "." ++ token)

/-- The characters after the last dot, or all of them. -/
def leafChars (field : List Char) : List Char :=
  (field.reverse.takeWhile fun c => c ≠ '.').reverse

/-- The part of a dotted name after its last dot, or the whole name. -/
def leaf (field : String) : String := String.ofList (leafChars field.toList)

/-- The value a field shows by default: its leaf, looked up under `instance`. -/
def boundValue (field : String) : String := wrap (instanceRoot ++ "." ++ leaf field)

/-- The text of an argument without its markers, if it has markers. -/
def stripMarkers (token : String) : String := (unwrap? token).getD token

end Expression

/-! ### Options of a choice -/

/-- What a loop over the options of a choice refers to: the collection, what tells an option apart,
and the value selected at the moment. -/
structure Selection where
  items : String
  option : String
  selected : String

namespace Selection

/-- The expression that is true for the selected option. -/
def test (s : Selection) : String := Expression.wrap (s.option ++ " == " ++ s.selected)

/-- The expression that an option shows. -/
def label (s : Selection) : String := Expression.wrap s.option

/-- The selection for a collection, a selected value, a loop variable and a property.  A selected
value that is an expression counts without its markers; a bare one is a field of `instance`. -/
def of (items selected var value : String) : Selection :=
  { items := Expression.collection items
    option := var ++ "." ++ value
    selected :=
      match Expression.unwrap? selected with
      | some inner => inner
      | none => Expression.instanceRoot ++ "." ++ selected }

end Selection

end JellyViews
