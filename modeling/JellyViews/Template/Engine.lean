/-
**Rendering a template.**

Templates are rendered in the part of the language that `Template.parse` reads, with the functions,
filters and tests that `Template.standardFunction?`, `Template.standardFilter?` and
`Template.standardTest?` know.  Engines for the whole language, and for any other one, are in
`Template.Language`.

Main definitions:

* `Template.render` — the text of a template, or a report on why there is none.
-/

import JellyViews.Template.Document
import JellyViews.Template.Evaluation

set_option relaxedAutoImplicit false
set_option autoImplicit false

namespace JellyViews

namespace Template

open Tag

/-- The chain of a text that is no template. -/
def malformed : Chain := .single "Failed to parse"

/-- The message around all faults of a template. -/
def whileRendering (name : String) : String := "Failed to render '" ++ name ++ "'"

/-- Renders a template under a name.  The output of a template goes through a context, and a
template opens no elements in it, so it never ends with elements open. -/
def render (registry : Registry) (name source : String) (vars : Variables) :
    Except RenderError String :=
  match parse source with
  | none => .error (.ofChain name malformed)
  | some nodes =>
    match renderNodes ⟨registry, vars, name⟩ nodes with
    | .ok text => .ok text
    | .error fault => .error (.ofChain name (fault.chain.under (whileRendering name)))

end Template

end JellyViews
