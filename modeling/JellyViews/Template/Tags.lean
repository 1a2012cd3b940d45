/-
**Tags as functions and filters.**

Functions and filters are looked up among the tag operations first and then among the language's
own.  A tag operation is a filter only if it takes a body, which is then the filtered text.

Main definitions:

* `Template.tagText` — the text of a tag;
* `Template.tagFunction`, `Template.tagFilter` — a tag as a function and as a filter;
* `Template.functionNamed`, `Template.filterNamed` — what a name means in a template.
-/

import JellyViews.Tag.Registry
import JellyViews.Template.Arguments
import JellyViews.Template.Filter
import JellyViews.Template.Function

set_option relaxedAutoImplicit false
set_option autoImplicit false

namespace JellyViews

namespace Template

open Tag

/-- The text of a tag around a body. -/
def tagText (r : Registry) (tag : String) (args : Values) (body : Option String) :
    Except Fault Json :=
  match callOf tag (OrderedMap.ofList args) with
  | .error e => .error (.refused tag e)
  | .ok call =>
    match r.renderExpr tag call (body.map Markup.textBlock) with
    | .error e => .error (.refused tag e)
    | .ok text => .ok (.string text)

/-- A tag as a function: it has no body. -/
def tagFunction (r : Registry) (name : String) : Callee := fun args => tagText r name args none

/-- A tag as a filter: what is filtered is its body, which has to be text. -/
def tagFilter (r : Registry) (name : String) : Filter := fun value args =>
  match value with
  | .string body => tagText r name args (some body)
  | v => .error (.unrendered name v)

/-- What a name means where a function is called. -/
def functionNamed (r : Registry) (name : String) : Except Fault Callee :=
  if r.contains name then .ok (tagFunction r name)
  else
    match standardFunction? name with
    | some f => .ok f
    | none => .error (.unknownFunction name)

/-- Whether the name is that of a tag which takes a body. -/
def isTagFilter (r : Registry) (name : String) : Bool :=
  match r.find? name with
  | some op => op.acceptsBody
  | none => false

/-- What a name means where a filter is applied. -/
def filterNamed (r : Registry) (name : String) : Except Fault Filter :=
  if isTagFilter r name then .ok (tagFilter r name)
  else
    match standardFilter? name with
    | some f => .ok f
    | none => .error (.unknownFilter name)

end Template

end JellyViews
