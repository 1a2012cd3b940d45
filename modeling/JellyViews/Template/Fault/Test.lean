/-
**Why a test has no outcome.**

Main definitions:

* `Template.TestFault` — the causes;
* `Template.TestFault.message` — their texts.
-/

import JellyViews.Decimal.Layout
import JellyViews.Text.Quoted

set_option relaxedAutoImplicit false
set_option autoImplicit false

namespace JellyViews

namespace Template

open Text

/-- A cause for which a test of a variable has no outcome. -/
inductive TestFault where
  /-- The test takes no arguments. -/
  | takesNone (test : String)
  /-- The test was given `count` arguments, and takes at most `most`. -/
  | tooMany (test : String) (count most : Nat)
  /-- The variable has no value. -/
  | undefined (test : String)
  /-- The variable is not of the kind that the test is for. -/
  | wrongVariable (test wanted : String)
  /-- An argument is missing or not of the kind that the test is for. -/
  | wrongArgument (test wanted : String)
  /-- The variable has no parts. -/
  | partless (test : String)

/-- The text of a cause. -/
def TestFault.message : TestFault → String
  | takesNone test =>
    "Tester " ++ backquoted test ++
      " was called with some args but this test doesn't take args"
  | tooMany test count most =>
    "Tester " ++ backquoted test ++ " was called with " ++ Decimal.digitsOf count ++
      " args, the max number is " ++ Decimal.digitsOf most
  | undefined test => "Tester " ++ backquoted test ++ " was called on an undefined variable"
  | wrongVariable test wanted =>
    "Tester " ++ backquoted test ++ " was called on a variable that isn't a " ++ wanted
  | wrongArgument test wanted =>
    "Tester " ++ backquoted test ++ " was called with a parameter that isn't a " ++ wanted
  | partless test =>
    "Tester " ++ backquoted test ++ " can only be used on string, array or map"

end Template

end JellyViews
