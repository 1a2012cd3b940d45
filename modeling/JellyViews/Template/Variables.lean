/-
**The variables of a template.**

Every template sees three variables: its own path, the path of its output, and the program that
renders it.

Main definitions:

* `Template.Variables`, `Template.Variables.pairs` — the variables and their names;
* `Template.generator` — the program.
-/

set_option relaxedAutoImplicit false
set_option autoImplicit false

namespace JellyViews

namespace Template

/-- The version of the program. -/
def version : String := "0.1.0"

/-- The program, as templates and `--version` show it. -/
def generator : String := "jellyforge " ++ version

/-- What a template knows about itself. -/
structure Variables where
  template : String
  output : String

namespace Variables

/-- The variables by name. -/
def pairs (v : Variables) : List (String × String) :=
  [("template", v.template), ("output", v.output), ("generator", generator)]

/-- The value of a variable. -/
def lookup (v : Variables) (name : String) : Option String := v.pairs.lookup name

end Variables

end Template

end JellyViews
