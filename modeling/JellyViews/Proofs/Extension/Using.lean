/-
**Calling declared tags.**

A definition that becomes an operation can be called: if a call gives the arguments that the
definition requires, and the name of the field to a form input, then the element is written, with
all arguments of the call among its attributes.  There is one exception.  Each required argument is
taken out of the call, so that a definition that requires the same argument twice does not find it
the second time: it becomes an operation, but one that refuses every call.

Main definitions:

* `Extension.Definition.Supplied` — calls that give what the definition requires.

Main results:

* `Tag.Element.takeParams_of_lacks` — a call that lacks a required argument is refused;
* `Tag.Element.takeParams_of_repeated` — **so is every call of a tag that requires an argument
  twice**;
* `Extension.emit_of_declared` — **which declared tags can be called**;
* `Extension.emit_of_declared_repeated` — a tag that can be called, and one that cannot.
-/

import JellyViews.Proofs.Tag.Attributes

set_option relaxedAutoImplicit false
set_option autoImplicit false

namespace JellyViews

/-! ### Required arguments -/

namespace Tag

/-- An argument that is missing is not found after others are taken. -/
theorem Param.Lacks.without {p : Param} {call : Call} (h : p.Lacks call) (names : List String) :
    p.Lacks (call.without names) := by
  refine ⟨h.1, ?_⟩
  rw [Call.get?_without, h.2, ite_self]

namespace Element

/-- A call that lacks a required argument is refused, although another argument may be named. -/
theorem takeParams_of_lacks (tag : String) {ps : List Param} {p : Param} {call : Call}
    (hp : p ∈ ps) (h : p.Lacks call) (attrs : Attributes) :
    ∃ q ∈ ps, takeParams tag ps call attrs = .error (.missingArgument tag q.arg) := by
  induction ps generalizing call attrs with
  | nil => simp at hp
  | cons q ps ih =>
    rw [takeParams_cons]
    by_cases hq : q.Lacks call
    · exact ⟨q, List.mem_cons_self, if_pos hq⟩
    · have hrest : p ∈ ps := (List.mem_cons.1 hp).resolve_left fun hpq => hq (hpq ▸ h)
      obtain ⟨r, hr, herr⟩ :=
        ih hrest (h.without [q.arg]) (attrs.insertIfSome q.attr (q.given call))
      exact ⟨r, List.mem_cons_of_mem _ hr, (if_neg hq).trans herr⟩

/-- **A tag that requires an argument twice refuses every call.**  If the call has the argument, the
first parameter takes it away. -/
theorem takeParams_of_repeated (tag : String) {ps : List Param}
    (hps : ∀ p ∈ ps, p.absence = .refused) (h : ¬ (ps.map Param.arg).Nodup) (call : Call)
    (attrs : Attributes) :
    ∃ q ∈ ps, takeParams tag ps call attrs = .error (.missingArgument tag q.arg) := by
  induction ps generalizing call attrs with
  | nil => simp at h
  | cons p ps ih =>
    rw [takeParams_cons]
    by_cases hp : p.Lacks call
    · exact ⟨p, List.mem_cons_self, if_pos hp⟩
    · have hrest : ∃ q ∈ ps, takeParams tag ps (call.without [p.arg])
          (attrs.insertIfSome p.attr (p.given call)) = .error (.missingArgument tag q.arg) := by
        by_cases hagain : p.arg ∈ ps.map Param.arg
        · obtain ⟨q, hq, harg⟩ := List.mem_map.1 hagain
          refine takeParams_of_lacks tag hq ⟨hps q (List.mem_cons_of_mem _ hq), ?_⟩ _
          rw [Call.get?_without, harg, if_pos (List.mem_singleton_self _)]
        · refine ih (fun q hq => hps q (List.mem_cons_of_mem _ hq)) (fun hnodup => ?_) _ _
          exact h (List.nodup_cons.2 ⟨hagain, hnodup⟩)
      obtain ⟨q, hq, herr⟩ := hrest
      exact ⟨q, List.mem_cons_of_mem _ hq, (if_neg hp).trans herr⟩

end Element

end Tag

/-! ### Declared tags -/

namespace Extension

open Tag Markup

/-- The call gives what the tag cannot do without: the name of the field, or all arguments that the
definition requires. -/
structure Definition.Supplied (d : Definition) (call : Call) : Prop where
  name : d.kind = .field → call.get? "name" ≠ none
  required : d.kind ≠ .field → ∀ a ∈ d.required, call.get? a ≠ none

theorem map_arg_required (names : List String) :
    (names.map Param.required).map Param.arg = names := by
  rw [List.map_map]
  exact List.map_id names

theorem map_attr_required (names : List String) :
    (names.map Param.required).map Param.attr = names := by
  rw [List.map_map]
  exact List.map_id names

/-- An element with distinct required arguments is written, with all arguments of the call. -/
theorem attributes_of_required (name element : String) (shape : Shape) {required : List String}
    (defaults : Attributes) {call : Call} (hrequired : required.Nodup)
    (hcall : ∀ a ∈ required, call.get? a ≠ none) :
    ∃ attrs, (⟨name, element, shape, required.map Param.required, defaults⟩ : Element).attributes
        call = .ok attrs ∧
      ∀ key value, call.get? key = some value → attrs.get? key = some value := by
  generalize he : (⟨name, element, shape, required.map Param.required, defaults⟩ : Element) = e
  have hparams : e.params = required.map Param.required := by rw [← he]
  have hargs : (e.params.map Param.arg).Nodup := by rwa [hparams, map_arg_required]
  have hattrs : (e.params.map Param.attr).Nodup := by rwa [hparams, map_attr_required]
  have hsupplied : ∀ p ∈ e.params, ¬ p.Lacks call := by
    intro p hp hlacks
    rw [hparams] at hp
    obtain ⟨a, ha, rfl⟩ := List.mem_map.1 hp
    exact hcall a ha hlacks.2
  have hok := Element.attributes_of_supplied hargs hsupplied
  refine ⟨_, hok, fun key value hkey => ?_⟩
  rw [Element.get?_attributes_iff hargs hattrs hok]
  have hleft : (e.leftOver call).get? key =
      if key ∈ e.params.map Param.arg then none else call.get? key :=
    Call.get?_without call _ key
  by_cases hparam : key ∈ e.params.map Param.arg
  · -- the argument is one of those that are required, and is written under its own name
    rw [hparams, map_arg_required] at hparam
    have hp : Param.required key ∈ e.params := hparams ▸ List.mem_map_of_mem hparam
    refine .supplied ?_ hp rfl hkey
    have hparam : key ∈ e.params.map Param.arg := List.mem_map.2 ⟨_, hp, rfl⟩
    rw [hleft, if_pos hparam]
  · refine .explicit ?_
    rw [hleft, if_neg hparam, hkey]

/-- **Which declared tags can be called.**  If the required arguments are distinct, every call that
gives them is written as an element with all its arguments, on every context.  Otherwise every call
is refused, for an argument that the definition requires. -/
theorem emit_of_declared {d : Definition} {op : Operation} (h : d.operation = .ok op) :
    (d.required.Nodup → ∀ call, d.Supplied call → ∀ c : Context, ∃ attrs : Attributes,
      (op.emit call none).on c =
        (.ok (), c.pushAll (d.kind.shape.pieces d.elementName attrs)) ∧
      ∀ key value, call.get? key = some value → attrs.get? key = some value) ∧
    (¬ d.required.Nodup → ∀ (call : Call) (body : Option Block) (c : Context), ∃ a ∈ d.required,
      (op.emit call body).on c = (.error (.missingArgument d.name a), c)) := by
  obtain ⟨-, -, haccepted⟩ := Definition.operation_eq_ok_iff.1 h
  cases haccepted with
  | field hkind hrequired hvalue =>
    refine ⟨fun _ call hcall c => ?_, fun hnot => absurd (hrequired ▸ List.nodup_nil) hnot⟩
    obtain ⟨n, hn⟩ := Option.ne_none_iff_exists'.1 (hcall.name hkind)
    have hattrs := Field.attributes_of_some
      (f := ⟨d.name, d.elementName, d.shownIn, d.attributes⟩) hvalue hn
    refine ⟨_, ?_, fun key value => Field.get?_attributes_of_explicit hvalue hn hattrs⟩
    rw [hkind]
    exact on_emit_field hattrs c
  | element hkind _ =>
    constructor
    · intro hnodup call hcall c
      obtain ⟨attrs, hok, hkeys⟩ := attributes_of_required d.name d.elementName d.kind.shape
        d.attributes hnodup (hcall.required hkind)
      exact ⟨attrs, on_emit_element hok c, hkeys⟩
    · intro hrepeated call body c
      have hparams : ¬ ((d.required.map Param.required).map Param.arg).Nodup := by
        rwa [map_arg_required]
      have hrefused : ∀ p ∈ d.required.map Param.required, p.absence = .refused := by
        intro p hp
        obtain ⟨a, -, rfl⟩ := List.mem_map.1 hp
        rfl
      obtain ⟨p, hp, herr⟩ := Element.takeParams_of_repeated d.name hrefused hparams call ∅
      obtain ⟨a, ha, rfl⟩ := List.mem_map.1 hp
      refine ⟨a, ha, on_emit_element_of_error ?_ body c⟩
      unfold Element.attributes
      rw [herr]
      rfl

/-- A block that requires the arguments. -/
def blockRequiring (required : List String) : Definition :=
  { name := "help_area"
    kind := .block
    valueAttr := none
    element := none
    required := required
    defaults := OrderedMap.ofList [("class", .text "help")] }

/-- Two arguments can be required, and come in any order; but not one argument twice. -/
theorem emit_of_declared_repeated :
    (∃ op attrs, (blockRequiring ["title", "name"]).operation = .ok op ∧
      (op.emit (Call.ofList [("id", "x"), ("name", "n"), ("title", "t")]) none).on Context.empty =
        (.ok (), Context.empty.pushAll
          [.startTag "f:helpArea" attrs, .endTag "f:helpArea"]) ∧
      attrs.get? "title" = some "t" ∧ attrs.get? "name" = some "n" ∧
      attrs.get? "id" = some "x") ∧
    ∃ op, (blockRequiring ["title", "title"]).operation = .ok op ∧
      (op.emit (Call.ofList [("title", "t")]) none).on Context.empty =
        (.error (.missingArgument "help_area" "title"), Context.empty) := by
  have hname : Naming.isIdentifier "help_area" = true := by decide
  have helement : Naming.isElementName (Naming.elementName "f" "help_area") = true := by decide
  have hkind : Kind.block ≠ .field := by decide
  have haccepted (required : List String) : (blockRequiring required).operation = .ok _ :=
    Definition.operation_eq_ok_iff.2 ⟨hname, helement, .element hkind rfl⟩
  constructor
  · have hsupplied : (blockRequiring ["title", "name"]).Supplied
        (Call.ofList [("id", "x"), ("name", "n"), ("title", "t")]) :=
      ⟨by decide, fun _ => by decide⟩
    obtain ⟨attrs, hemit, hkeys⟩ :=
      (emit_of_declared (haccepted ["title", "name"])).1 (by decide) _ hsupplied Context.empty
    exact ⟨_, attrs, haccepted _, hemit, hkeys _ _ (by decide), hkeys _ _ (by decide),
      hkeys _ _ (by decide)⟩
  · obtain ⟨a, ha, hemit⟩ :=
      (emit_of_declared (haccepted ["title", "title"])).2 (by decide)
        (Call.ofList [("title", "t")]) none Context.empty
    obtain rfl : a = "title" := by simpa [blockRequiring] using ha
    exact ⟨_, haccepted _, hemit⟩

end Extension

end JellyViews
