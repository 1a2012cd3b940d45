/-
**Templates with more tags.**

Definitions that can be added to a registry take no name that it has, so templates might be expected
to render as before.  But the functions and filters of the language are not in the registry: a
declared tag that has the name of one of them takes its place.  And where the language puts up with
a name that stands for nothing, a tag that is declared under this name is found instead.  These are
the two exceptions.  A template whose rendering meets neither keeps its text, whatever the language
is, since it does not come to any of the names that are declared.

Main definitions:

* `Template.Use.isDeclared` — the names that definitions take;
* `Extension.Parts` — the place where renderings with and without definitions part.

Main results:

* `Template.tagText_congr` — **a tag is what its operation makes it**;
* `Extension.find?_declare_of_notMem` — definitions leave all other names alone;
* `Extension.tables_of_isDeclared`, `Extension.tables_of_not_isDeclared` — what names stand for when
  there are definitions;
* `Extension.renders_declare` — **a template that has a text keeps it or comes to a declared name**,
  which is one of the language's own or stood for nothing;
* `Extension.renders_declare_of_fresh` — **definitions change nothing** where no name is hidden and
  none stands for nothing;
* `Extension.renders_declare_unneeded` — a template that keeps its text;
* `Extension.render_declare_of_names` — a template that looks up no declared name renders as before.
-/

import JellyViews.Proofs.Extension.History
import JellyViews.Proofs.Outcome
import JellyViews.Proofs.Template.Inquiry

set_option relaxedAutoImplicit false
set_option autoImplicit false

namespace JellyViews

/-! ### What a name means -/

namespace Template

open Tag

section

variable {r r' : Registry} {name : String}

/-- A tag is what its operation makes it. -/
theorem tagText_congr (h : r.find? name = r'.find? name) : tagText r name = tagText r' name := by
  funext args body
  have hget : r.get name = r'.get name := by rw [Registry.get, Registry.get, h]
  simp only [tagText, Registry.renderExpr, Registry.express, Registry.emit, hget]

theorem tagFunction_congr (h : r.find? name = r'.find? name) :
    tagFunction r name = tagFunction r' name := by
  funext args
  rw [tagFunction, tagFunction, tagText_congr h]

theorem tagFilter_congr (h : r.find? name = r'.find? name) :
    tagFilter r name = tagFilter r' name := by
  unfold tagFilter
  rw [tagText_congr h]

theorem isTagFilter_of_find? {op : Operation} (h : r.find? name = some op) :
    isTagFilter r name = op.acceptsBody := by
  rw [isTagFilter, h]

theorem isTagFilter_congr (h : r.find? name = r'.find? name) :
    isTagFilter r name = isTagFilter r' name := by
  rw [isTagFilter, isTagFilter, h]

theorem isTagFilter_of_none (h : r.find? name = none) : isTagFilter r name = false := by
  rw [isTagFilter, h]

end

/-- The name itself. -/
def Use.name : Use → String
  | function name => name
  | filter name => name

/-- Whether a definition takes the name.  A filter is one with a body. -/
def Use.isDeclared (ds : List Extension.Definition) : Use → Bool
  | function name => ds.any fun d => d.name == name
  | filter name => ds.any fun d => d.name == name && d.kind.shape.acceptsBody

namespace Language

variable {F G : Type} (L : Language F G) {r r' : Registry}

/-- A name stands for the same if its operation is the same. -/
theorem tables_congr {u : Use} (h : r.find? u.name = r'.find? u.name) :
    L.tables r u = L.tables r' u := by
  have htag : u.isTag r = u.isTag r' ∧ L.tag r u = L.tag r' u := by
    cases u with
    | function name =>
      exact ⟨congrArg Option.isSome h, congrArg L.ofCallee (tagFunction_congr h)⟩
    | filter name =>
      exact ⟨isTagFilter_congr h, congrArg L.ofFilter (tagFilter_congr h)⟩
  rw [tables_apply, tables_apply, htag.1, htag.2]

/-- Names without a tag stand for what they are in the language. -/
theorem tables_of_not_tag {u : Use} (h : u.isTag r = false) : L.tables r u = L.own u := by
  rw [tables_apply, h]
  rfl

theorem tables_of_tag {u : Use} (h : u.isTag r = true) : L.tables r u = some (L.tag r u) := by
  rw [tables_apply, if_pos h]

end Language

end Template

namespace Extension

open Tag Template

/-! ### Names behind definitions -/

section

variable {r : Registry} {ds : List Definition} {name : String}

/-- Definitions leave all other names alone. -/
theorem find?_registerAll_of_notMem (h : name ∉ ds.map Definition.name) :
    (registerAll r ds).1.find? name = r.find? name := by
  induction ds generalizing r with
  | nil => rfl
  | cons d ds ih =>
    rw [List.map_cons, List.mem_cons, not_or] at h
    cases hstep : registerOne r d with
    | error e => rw [registerAll_of_error hstep]
    | ok r' =>
      obtain ⟨op, hd, -, rfl⟩ := registerOne_eq_ok hstep
      have hne : op.name ≠ name := (Definition.of_operation hd).1 ▸ Ne.symm h.1
      rw [registerAll_of_ok hstep, ih h.2, Registry.find?_insert, if_neg hne]

theorem find?_declare_of_notMem (h : name ∉ ds.map Definition.name) :
    (declare r ds).1.find? name = r.find? name := by
  rw [fst_declare, find?_registerAll_of_notMem h]

/-- The name of a definition has its operation. -/
theorem find?_declare_of_mem (hds : Admissible r ds) {d : Definition} (hd : d ∈ ds) :
    ∃ op, (declare r ds).1.find? d.name = some op ∧ op.shape = d.kind.shape := by
  obtain ⟨op, hop, hget⟩ := ((declares r ds).added hds).2 d hd
  exact ⟨op, Registry.get_eq_ok_iff.1 hget, (Definition.of_operation hop).2⟩

theorem find?_of_mem (hds : Admissible r ds) {d : Definition} (hd : d ∈ ds) :
    r.find? d.name = none := Registry.contains_eq_false_iff.1 (hds.fresh d hd)

/-- A declared name is that of a tag, and it was not before. -/
theorem isTag_of_isDeclared (hds : Admissible r ds) {u : Use} (hu : u.isDeclared ds = true) :
    u.isTag r = false ∧ u.isTag (declare r ds).1 = true := by
  cases u with
  | function name =>
    obtain ⟨d, hd, rfl⟩ : ∃ d ∈ ds, d.name = name := by simpa [Use.isDeclared] using hu
    obtain ⟨op, hop, -⟩ := find?_declare_of_mem hds hd
    exact ⟨hds.fresh d hd, Registry.contains_iff.2 ⟨op, hop⟩⟩
  | filter name =>
    obtain ⟨d, hd, rfl, hbody⟩ : ∃ d ∈ ds, d.name = name ∧ d.kind.shape.acceptsBody = true := by
      simpa [Use.isDeclared] using hu
    obtain ⟨op, hop, hshape⟩ := find?_declare_of_mem hds hd
    have hop' : op.acceptsBody = true := (congrArg Shape.acceptsBody hshape).trans hbody
    exact ⟨isTagFilter_of_none (find?_of_mem hds hd), (isTagFilter_of_find? hop).trans hop'⟩

section

variable {F G : Type} (L : Language F G)

/-- **A declared name stands for its tag.**  Before, it was left to the language. -/
theorem tables_of_isDeclared (hds : Admissible r ds) {u : Use} (hu : u.isDeclared ds = true) :
    L.tables r u = L.own u ∧
      L.tables (declare r ds).1 u = some (L.tag (declare r ds).1 u) := by
  obtain ⟨hbefore, hbehind⟩ := isTag_of_isDeclared hds hu
  exact ⟨L.tables_of_not_tag hbefore, L.tables_of_tag hbehind⟩

/-- **All other names stand for what they did.** -/
theorem tables_of_not_isDeclared (hds : Admissible r ds) {u : Use}
    (hu : u.isDeclared ds = false) : L.tables r u = L.tables (declare r ds).1 u := by
  by_cases hname : u.name ∈ ds.map Definition.name
  · obtain ⟨d, hd, hdname⟩ := List.mem_map.1 hname
    cases u with
    | function name =>
      have hdeclared : (Use.function name).isDeclared ds = true := by
        simpa [Use.isDeclared] using ⟨d, hd, hdname⟩
      rw [hdeclared] at hu
      cases hu
    | filter name =>
      -- the filter of a name that was declared for a tag without a body
      obtain rfl : d.name = name := hdname
      obtain ⟨op, hop, hshape⟩ := find?_declare_of_mem hds hd
      have hbody : d.kind.shape.acceptsBody = false := by
        simp only [Use.isDeclared, List.any_eq_false] at hu
        simpa using hu d hd
      have hbefore : (Use.filter d.name).isTag r = false :=
        isTagFilter_of_none (find?_of_mem hds hd)
      have hbehind : (Use.filter d.name).isTag (declare r ds).1 = false :=
        (isTagFilter_of_find? hop).trans ((congrArg Shape.acceptsBody hshape).trans hbody)
      rw [L.tables_of_not_tag hbefore, L.tables_of_not_tag hbehind]
  · exact L.tables_congr (find?_declare_of_notMem hname).symm

end

end

/-! ### Rendering with declared tags -/

section

variable {F G : Type} {L : Language F G} {r : Registry} {ds : List Definition} {n : Nat}
  {name source text : String} {vars : Variables}

/-- Where renderings with and without definitions part: both come to a name that a definition takes,
with the same names behind them, none of which is declared.  Without the definitions, the name is
left to the language, so it stands for one of its own functions and filters or for nothing, and the
rendering goes on with this.  With them, it stands for the tag. -/
structure Parts (L : Language F G) (r : Registry) (ds : List Definition) (name : String)
    (s : L.State) (outcome : Except RenderError String) (us : List Use) (u : Use)
    (next : Option (u.Of F G) → L.State) : Prop where
  before : L.Reaches (L.tables r) s us u next
  behind : L.Reaches (L.tables (declare r ds).1) s us u next
  same : ∀ v ∈ us, v.isDeclared ds = false
  declared : u.isDeclared ds = true
  own : L.tables r u = L.own u
  onward : L.Yields (L.tables r) name (next (L.own u)) outcome
  tag : L.tables (declare r ds).1 u = some (L.tag (declare r ds).1 u)

/-- A template comes to the same with definitions, or to a name that one of them takes. -/
theorem renders_or_parts (hds : Admissible r ds) {outcome : Except RenderError String}
    (h : L.Renders r name source vars outcome) :
    L.Renders (declare r ds).1 name source vars outcome ∨
      ∃ us u next, Parts L r ds name (L.start name source vars) outcome us u next := by
  have hsame (u : Use) (hu : u.isDeclared ds = false) := tables_of_not_isDeclared L hds hu
  refine (h.or_reaches (Use.isDeclared ds) hsame).imp id ?_
  rintro ⟨us, u, next, hbefore, hbehind, hus, hu, honward⟩
  obtain ⟨hown, htag⟩ := tables_of_isDeclared L hds hu
  exact ⟨us, u, next, hbefore, hbehind, hus, hu, hown, hown ▸ honward, htag⟩

/-- **A template that has a text keeps it when tags are declared**, unless its rendering comes to a
name that a definition takes: one of the language's own, which the tag hides, or one that stood for
nothing and with which the language put up. -/
theorem renders_declare (hds : (declare r ds).2 = .ok n)
    (h : L.Renders r name source vars (.ok text)) :
    L.Renders (declare r ds).1 name source vars (.ok text) ∨
      ∃ us u next, Parts L r ds name (L.start name source vars) (.ok text) us u next :=
  renders_or_parts (declare_eq_ok_iff.1 hds).2 h

/-- So definitions change nothing for a template if none of their names is the language's own, and
every name to which its rendering comes stands for something. -/
theorem renders_declare_of_fresh (hds : Admissible r ds) {outcome : Except RenderError String}
    (hfresh : ∀ u, u.isDeclared ds = true → L.own u = none)
    (hfound : ∀ us u next,
      L.Reaches (L.tables r) (L.start name source vars) us u next → L.tables r u ≠ none)
    (h : L.Renders r name source vars outcome) :
    L.Renders (declare r ds).1 name source vars outcome := by
  refine (renders_or_parts hds h).resolve_right ?_
  rintro ⟨us, u, next, hparts⟩
  exact hfound us u next hparts.before (hparts.own.trans (hfresh u hparts.declared))

end

section

variable {r : Registry} {ds : List Definition} {name source : String} {vars : Variables}

/-- Where renderings part, a declared name is looked up. -/
theorem Parts.mem_namesIn {outcome : Except RenderError String} {us : List Use} {u : Use}
    {next : Option (u.Of Callee Filter) → native.State}
    (h : Parts native r ds name (native.start name source vars) outcome us u next) :
    u ∈ namesIn r name source vars := mem_names_of_reaches h.before

/-- A template that looks up no declared name renders as before, to a text or not. -/
theorem render_declare_of_names (hds : Admissible r ds)
    (hnames : ∀ u ∈ namesIn r name source vars, u.isDeclared ds = false) :
    render (declare r ds).1 name source vars = render r name source vars := by
  rcases renders_or_parts hds (native_renders_iff.2 rfl) with h | ⟨us, u, next, h⟩
  · exact native_renders_iff.1 h
  · have hu := hnames u h.mem_namesIn
    rw [h.declared] at hu
    cases hu

end

/-- A definition of a block with no more than a name. -/
def Definition.plainBlock (name : String) : Definition := ⟨name, .block, none, none, [], ∅⟩

/-- A filter of the language, and a tag in a condition that is decided before it is looked up. -/
def unneededSource : String :=
  "\x7b\x7b template | upper \x7d\x7d\x7b\x7b false and logo(src=template) \x7d\x7d"

/-- The tag of `unneededSource` may be declared, with others. -/
theorem renders_declare_unneeded :
    (declare .standard [.bare "logo", .plainBlock "panel"]).2 = .ok 2 ∧
      native.Renders .standard "t" unneededSource ⟨"a", "b"⟩ (.ok "Afalse") ∧
      native.Renders (declare .standard [.bare "logo", .plainBlock "panel"]).1 "t" unneededSource
        ⟨"a", "b"⟩ (.ok "Afalse") := by
  have hds : (declare .standard [.bare "logo", .plainBlock "panel"]).2 = .ok 2 := by
    decide +kernel
  have hrender : native.Renders .standard "t" unneededSource ⟨"a", "b"⟩ (.ok "Afalse") :=
    native_renders_iff.2 (eq_ok_of_toOption (by decide +kernel))
  refine ⟨hds, hrender, (renders_declare hds hrender).resolve_right ?_⟩
  rintro ⟨us, u, next, h⟩
  have hnames : namesIn .standard "t" unneededSource ⟨"a", "b"⟩ = [.filter "upper"] := by
    decide +kernel
  have hu := h.mem_namesIn
  rw [hnames, List.mem_singleton] at hu
  subst hu
  exact absurd h.declared (by decide)

/-- The text of a template, if it has one, with these tags next to the vocabulary. -/
def textWith (ds : List Definition) (source : String) : Option String :=
  (render (declare .standard ds).1 "t" source ⟨"a", "b"⟩).toOption

/-- A tag hides the filter of its name. -/
example : textWith [] "\x7b\x7b template | upper \x7d\x7d" = some "A" ∧
    textWith [.plainBlock "upper"] "\x7b\x7b template | upper \x7d\x7d" =
      some "<f:upper>a</f:upper>" := by
  decide +kernel

/-- A filter that means nothing counts as false here, and a tag of its name as true. -/
example : textWith [] "\x7b\x7b template | panel and true \x7d\x7d" = some "false" ∧
    textWith [.plainBlock "panel"] "\x7b\x7b template | panel and true \x7d\x7d" =
      some "true" := by
  decide +kernel

end Extension

end JellyViews
