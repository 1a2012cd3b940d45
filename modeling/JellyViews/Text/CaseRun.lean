/-
**Runs of letters that change case alike.**

The case mappings (`Text/Uppercase.lean`, `Text/Lowercase.lean`) are constant distances over long
runs of letters, often over every second letter of a run.

Main definitions:

* `Text.CaseRun` — letters `first`, `first + step`, … `last`, whose images start at `image`;
* `Text.CaseRun.imageOf?` — the image of a character under a list of runs.
-/

set_option relaxedAutoImplicit false
set_option autoImplicit false

namespace JellyViews

namespace Text

/-- The letters `first`, `first + step`, … `last`; the first has the image `image`, and the images
of the others follow at the same distance. -/
structure CaseRun where
  first : Nat
  last : Nat
  step : Nat
  image : Nat

namespace CaseRun

/-- Whether the code point is a letter of the run. -/
def holds (r : CaseRun) (n : Nat) : Bool :=
  r.first ≤ n && n ≤ r.last && (n - r.first) % r.step == 0

/-- The image of a character under the first run that holds it. -/
def imageOf? (rs : List CaseRun) (c : Char) : Option Char :=
  (rs.find? fun r => r.holds c.toNat).map fun r => Char.ofNat (r.image + (c.toNat - r.first))

@[simp] theorem imageOf?_nil (c : Char) : imageOf? [] c = none := rfl

end CaseRun

end Text

end JellyViews
