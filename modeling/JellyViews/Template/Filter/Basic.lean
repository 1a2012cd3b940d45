/-
**Filters and their arguments.**

A filter makes a value of a value and of named arguments.  It wants both in a certain form and
refuses any other.

Main definitions:

* `Template.Values`, `Template.Filter` — named values and filters;
* `Template.wantValue`, `Template.wantArgument` — a value or an argument in the form that is wanted;
* `Template.unescaped` — a mark with line feeds and tabs in the place of `\n` and `\t`;
* `Template.onForm` — the filter that a function on the wanted form makes.
-/

import JellyViews.Template.Fault
import JellyViews.Template.Value

set_option relaxedAutoImplicit false
set_option autoImplicit false

namespace JellyViews

namespace Template

/-- Named values. -/
abbrev Values : Type := List (String × Json)

/-- A filter: the value that it makes of a value and of named arguments. -/
abbrev Filter : Type := Json → Values → Except Fault Json

variable {α : Type}

/-- The filtered value, in the form that the filter wants. -/
def wantValue (filter : String) (form : Form α) (v : Json) : Except Fault α :=
  match form.read v with
  | some a => .ok a
  | none => .error (.filter (.wrongValue filter v form.name))

/-- An argument of a filter, if it is given, in the form that the filter wants. -/
def wantArgument (filter : String) (form : Form α) (args : Values) (arg : String) :
    Except Fault (Option α) :=
  match args.lookup arg with
  | none => .ok none
  | some v =>
    match form.read v with
    | some a => .ok (some a)
    | none => .error (.filter (.wrongArgument filter arg v form.name))

/-- An argument that has to be given. -/
def requireArgument (filter : String) (form : Form α) (args : Values) (arg : String)
    (missing : FilterFault) : Except Fault α := do
  match (← wantArgument filter form args arg) with
  | some a => return a
  | none => .error (.filter missing)

/-- The filter that a function makes which needs no arguments. -/
def onForm (filter : String) (form : Form α) (f : α → Json) : Filter := fun v _ => do
  let a ← wantValue filter form v
  return f a

/-- The mark with line feeds and tabs in the place of their written forms. -/
def unescaped (mark : String) : String :=
  Text.replace "\\t" "\t" (Text.replace "\\n" "\n" mark)

end Template

end JellyViews
