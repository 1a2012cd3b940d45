/-
**What can go wrong while tags are written.**

Main definitions:

* `TagError` — the causes;
* `TagError.message` — the text that reports a cause.
-/

import JellyViews.Text.Quoted

set_option relaxedAutoImplicit false
set_option autoImplicit false

namespace JellyViews

/-- A cause of failure while a tag operation writes its element. -/
inductive TagError where
  /-- A required argument is absent. -/
  | missingArgument (tag argument : String)
  /-- An argument has no form as an attribute value. -/
  | invalidAttributeValue (tag attr reason : String)
  /-- No operation has this name. -/
  | unknownTag (name : String)
  /-- The name is taken. -/
  | duplicateTag (name : String)
  /-- An end tag for an element that is not the innermost open one. -/
  | unbalancedClose (expected : Option String) (found : String)
  /-- The text ends with elements open, listed from the outermost in. -/
  | unclosedTags (names : List String)
  /-- A block for an element that takes none. -/
  | unexpectedBody (name : String)
  /-- Bytes that are not UTF-8. -/
  | invalidUtf8
deriving DecidableEq

namespace TagError

/-- An innermost open element as reports show it. -/
def shownElement : Option String → String
  | none => "None"
  | some name => "Some(" ++ Text.quoted name ++ ")"

/-- The report of a cause. -/
def message : TagError → String
  | missingArgument tag argument => "tag '" ++ tag ++ "' requires argument '" ++ argument ++ "'"
  | invalidAttributeValue tag attr reason =>
    "tag '" ++ tag ++ "': attribute '" ++ attr ++ "' has a non-representable value (" ++
      reason ++ ")"
  | unknownTag name => "unknown tag operation '" ++ name ++ "'"
  | duplicateTag name => "tag operation '" ++ name ++ "' is already registered"
  | unbalancedClose expected found =>
    "cannot close <" ++ found ++ ">: innermost open element is " ++ shownElement expected
  | unclosedTags names =>
    "render finished with unclosed elements: " ++ String.intercalate ", " names
  | unexpectedBody name => "tag '" ++ name ++ "' is self-closing and takes no nested block"
  | invalidUtf8 => "output buffer received invalid UTF-8"

end TagError

end JellyViews
