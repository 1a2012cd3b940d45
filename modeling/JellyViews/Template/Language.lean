/-
**Engines for any language.**

An engine is a language of templates to which the tag operations of a registry are added.  How the
language reads and evaluates a template is its own affair.  The tags only rely on three things: it
has functions and filters of its own, what is added takes the place of what has the name, and a
rendering comes to functions and filters by looking their names up.  Between two look-ups it may do
whatever it likes, for as long as it likes, and it decides what becomes of a name that stands for
nothing.  The time, chance and everything else that a rendering meets belong to the language, so
what is said of all languages is said of all of these.

Nothing that is written is escaped in an engine, so functions and filters need not tell whether they
have done so.  The text goes into a context in which no element is opened, and comes out of it as it
was.

Main definitions:

* `Template.Use`, `Template.Tables` — the names that are looked up, and what they stand for;
* `Template.Move`, `Template.Language` — what a rendering does next, in a language;
* `Template.Language.tables` — the functions and filters of the language and of a registry;
* `Template.Language.Step`, `Template.Language.Leads`, `Template.Language.Reaches` — renderings on
  their way;
* `Template.Language.Yields`, `Template.Language.Renders` — what a rendering comes to.
-/

import JellyViews.Template.Tags
import JellyViews.Template.Variables
import Mathlib.Logic.Function.Basic

set_option relaxedAutoImplicit false
set_option autoImplicit false

namespace JellyViews

namespace Template

open Tag

/-! ### Names -/

/-- A name that is looked up, for a function or for a filter. -/
inductive Use where
  | function (name : String)
  | filter (name : String)
deriving DecidableEq

/-- What such a name stands for, if functions are of one type and filters of another. -/
def Use.Of (F G : Type) : Use → Type
  | function _ => F
  | filter _ => G

/-- What each name stands for, if for anything. -/
abbrev Tables (F G : Type) : Type := (u : Use) → Option (u.Of F G)

/-! ### Languages -/

/-- What a rendering does next: it ends, it goes on, or it looks a name up and goes on with what
this stands for. -/
inductive Move (F G S : Type) where
  | ends (outcome : Except Chain String)
  | on (next : S)
  | lookUp (u : Use) (next : Option (u.Of F G) → S)

/-- A language of templates. -/
structure Language (F G : Type) where
  /-- The functions and filters of the language itself. -/
  own : Tables F G
  /-- The function of the language that does what is done to named values. -/
  ofCallee : Callee → F
  /-- The filter of the language that does what is done to a value and named values. -/
  ofFilter : Filter → G
  State : Type
  /-- The beginning of a rendering, before the template is read. -/
  start (name source : String) (vars : Variables) : State
  move : State → Move F G State

namespace Language

variable {F G : Type} (L : Language F G)

/-! ### Engines -/

/-- A tag where its name is looked up. -/
def tag (r : Registry) : (u : Use) → u.Of F G
  | .function name => L.ofCallee (tagFunction r name)
  | .filter name => L.ofFilter (tagFilter r name)

/-- The tables with an operation, which is a function and, if it takes a body, a filter. -/
def bind (r : Registry) (t : Tables F G) (op : Operation) : Tables F G :=
  let t := Function.update t (.function op.name) (some (L.tag r (.function op.name)))
  if op.acceptsBody then Function.update t (.filter op.name) (some (L.tag r (.filter op.name)))
  else t

/-- The tables of the engine for a registry. -/
def tables (r : Registry) : Tables F G := r.ops.foldl (L.bind r) L.own

/-! ### Renderings -/

/-- One step of a rendering, with the name that it looks up, if it does. -/
inductive Step (t : Tables F G) : L.State → List Use → L.State → Prop where
  | on {s s' : L.State} (h : L.move s = .on s') : Step t s [] s'
  | lookUp {s : L.State} {u : Use} {next : Option (u.Of F G) → L.State}
      (h : L.move s = .lookUp u next) : Step t s [u] (next (t u))

/-- Steps in a row, with the names that they look up. -/
inductive Leads (t : Tables F G) : L.State → List Use → L.State → Prop where
  | refl (s : L.State) : Leads t s [] s
  | step {s s' s'' : L.State} {us vs : List Use} (h : L.Step t s us s') (h' : Leads t s' vs s'') :
      Leads t s (us ++ vs) s''

/-- The rendering comes to a name: it is going to look `u` up, with `us` behind it, and to go on
with `next`. -/
def Reaches (t : Tables F G) (s : L.State) (us : List Use) (u : Use)
    (next : Option (u.Of F G) → L.State) : Prop :=
  ∃ s', L.Leads t s us s' ∧ L.move s' = .lookUp u next

/-- What the rendering of a template of this name comes to from a state on.  A failure discards what
was written. -/
def Yields (t : Tables F G) (name : String) (s : L.State) (outcome : Except RenderError String) :
    Prop :=
  ∃ us s' o, L.Leads t s us s' ∧ L.move s' = .ends o ∧ outcome = o.mapError (.ofChain name)

/-- What a template comes to in the engine for a registry. -/
def Renders (r : Registry) (name source : String) (vars : Variables)
    (outcome : Except RenderError String) : Prop :=
  L.Yields (L.tables r) name (L.start name source vars) outcome

end Language

end Template

end JellyViews
