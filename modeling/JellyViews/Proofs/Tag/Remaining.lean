/-
**What is left of a call.**

Every operation takes the arguments that it understands out of a call and writes attributes of its
own, with names that it declares.  What is left of the call comes behind them, in the order of the
call: these are the extra attributes.  An argument that is left and has the name of an attribute
that is there already replaces its value, and is no extra attribute.

Main definitions:

* `Tag.Form.attributes` — the attributes that a form writes;
* `Tag.Operation.understood`, `Tag.Operation.declared` — the arguments that an operation takes, and
  the attributes that it may write of its own;
* `Tag.Operation.extra` — the extra attributes.

Main results:

* `Tag.Operation.keys_attributes_form` — **the extra attributes come last, in the order of the
  call**.
-/

import JellyViews.Proofs.Tag.Looping
import JellyViews.Proofs.Tag.Settling

set_option relaxedAutoImplicit false
set_option autoImplicit false

namespace JellyViews

namespace Tag

/-- The attributes that the form writes. -/
def Form.attributes : Form → Attributes
  | void _ attrs => attrs
  | around _ attrs _ _ => attrs

namespace Operation

/-- The arguments that the operation takes out of a call. -/
def understood : Operation → List String
  | field f => [Field.nameArg, f.valueAttr]
  | element e => e.params.map Param.arg
  | forEach => Loop.itemsArgs
  | optionsFor => Loop.optionsArgs

/-- The attributes that the operation may write of its own. -/
def declared : Operation → List String
  | field f => Field.nameArg :: f.valueAttr :: f.defaults.keys
  | element e => e.params.map Param.attr ++ e.defaults.keys
  | forEach => ["var", "items"]
  | optionsFor => ["var", "items"]

/-- The extra attributes of a call, behind attributes with the names `own`. -/
def extra (op : Operation) (own : List String) (call : Call) : List String :=
  call.args.keys.filter fun k => decide (k ∉ op.understood ∧ k ∉ own)

end Operation

variable {call rest : Call} {attrs : Attributes}

/-! ### Attributes of its own -/

/-- What is left of a call comes behind the attributes that are there. -/
theorem keys_merge_without (own : Attributes) (call : Call) (names : List String) :
    (own.merge (call.args.without names)).keys =
      own.keys ++ call.args.keys.filter fun k => decide (k ∉ names ∧ k ∉ own.keys) := by
  rw [OrderedMap.keys_merge, OrderedMap.keys_without, List.filter_filter]
  congr 1
  exact List.filter_congr fun k _ => by simp [Bool.and_comm]

theorem mem_keys_insert {m : Attributes} {key value k : String} :
    k ∈ (m.insert key value).keys ↔ k ∈ m.keys ∨ k = key := by
  rw [OrderedMap.keys_insert]
  split
  · rename_i h
    exact ⟨.inl, fun hk => hk.elim id fun heq => heq ▸ h⟩
  · rw [List.mem_append, List.mem_singleton]

/-- Defaults bring their own keys only. -/
theorem mem_keys_fill {m defaults : Attributes} {k : String}
    (h : k ∈ (m.fill defaults).keys) : k ∈ m.keys ∨ k ∈ defaults.keys := by
  rw [OrderedMap.keys_fill] at h
  exact (List.mem_append.1 h).imp_right fun hk => (List.mem_filter.1 hk).1

theorem Call.require_eq_ok {tag key value : String} (h : call.require tag key = .ok (value, rest)) :
    rest = call.without [key] := by
  cases hget : call.get? key with
  | none =>
    rw [require_of_none hget] at h
    cases h
  | some v =>
    rw [require_eq hget] at h
    exact (Prod.mk.inj (Except.ok.inj h)).2.symm

/-- A form input writes the name, the value and the defaults. -/
theorem Field.exists_own {f : Field} (h : f.attributes call = .ok attrs) :
    ∃ own : Attributes, own.keys ⊆ nameArg :: f.valueAttr :: f.defaults.keys ∧
      attrs = own.merge (call.args.without [nameArg, f.valueAttr]) := by
  obtain ⟨⟨field, rest⟩, hrequire, h⟩ := bind_eq_ok h
  obtain rfl := Call.require_eq_ok hrequire
  obtain rfl := Except.ok.inj h
  have hrest (fallback : String) :
      ((call.without [nameArg]).takeOr f.valueAttr fallback).2.args =
        call.args.without [nameArg, f.valueAttr] := by
    rw [Call.args_takeOr, OrderedMap.erase_eq_without]
    exact OrderedMap.without_without call.args [nameArg] [f.valueAttr]
  refine ⟨_, fun k hk => ?_, congrArg (OrderedMap.merge _) (hrest (Expression.boundValue field))⟩
  rcases mem_keys_fill hk with hk | hk
  · rcases mem_keys_insert.1 hk with hk | rfl
    · obtain rfl : k = nameArg := List.mem_singleton.1 hk
      exact List.mem_cons_self
    · simp
  · exact List.mem_cons_of_mem _ (List.mem_cons_of_mem _ hk)

/-- Parameters write their own attributes only, and take their arguments. -/
theorem Element.takeParams_eq_ok {tag : String} {ps : List Param} {own attrs : Attributes}
    (h : takeParams tag ps call own = .ok (attrs, rest)) :
    rest = call.without (ps.map Param.arg) ∧
      ∀ k ∈ attrs.keys, k ∈ own.keys ∨ k ∈ ps.map Param.attr := by
  induction ps generalizing call own with
  | nil =>
    obtain ⟨rfl, rfl⟩ := Prod.mk.inj (Except.ok.inj h)
    exact ⟨(congrArg Call.mk (OrderedMap.without_nil call.args)).symm, fun k => .inl⟩
  | cons p ps ih =>
    rw [takeParams_cons] at h
    split at h
    · cases h
    · obtain ⟨rfl, hkeys⟩ := ih h
      refine ⟨Call.without_without call [p.arg] (ps.map Param.arg), fun k hk => ?_⟩
      rcases hkeys k hk with hk | hk
      · cases hgiven : p.given call with
        | none =>
          rw [hgiven] at hk
          exact .inl hk
        | some value =>
          rw [hgiven] at hk
          have hinsert : k ∈ (own.insert p.attr value).keys := hk
          rcases mem_keys_insert.1 hinsert with hk | rfl
          · exact .inl hk
          · exact .inr List.mem_cons_self
      · exact .inr (List.mem_cons_of_mem _ hk)

/-- An element writes its parameters and the defaults. -/
theorem Element.exists_own {e : Element} (h : e.attributes call = .ok attrs) :
    ∃ own : Attributes, own.keys ⊆ e.params.map Param.attr ++ e.defaults.keys ∧
      attrs = own.merge (call.args.without (e.params.map Param.arg)) := by
  obtain ⟨⟨own, rest⟩, hparams, h⟩ := bind_eq_ok h
  obtain ⟨rfl, hkeys⟩ := takeParams_eq_ok hparams
  obtain rfl := Except.ok.inj h
  refine ⟨own.fill e.defaults, fun k hk => ?_, rfl⟩
  rcases mem_keys_fill hk with hk | hk
  · exact List.mem_append_left _ ((hkeys k hk).resolve_left List.not_mem_nil)
  · exact List.mem_append_right _ hk

namespace Loop

/-- A loop writes the variable and the collection. -/
theorem exists_own (var items : String) (call : Call) (names : List String) :
    ∃ own : Attributes, own.keys ⊆ ["var", "items"] ∧
      attributes var items (call.without names) = own.merge (call.args.without names) :=
  ⟨(Attributes.single "var" var).insert "items" items, List.Subset.refl _, rfl⟩

theorem attributes_of_overItems {form : Form} (h : overItems call = .ok form) :
    ∃ var items, form.attributes = attributes var items (call.without itemsArgs) := by
  cases hitems : call.get? "items" with
  | none =>
    rw [overItems, Call.require_of_none hitems] at h
    cases h
  | some items =>
    rw [overItems_eq hitems] at h
    obtain rfl := Except.ok.inj h
    exact ⟨_, _, rfl⟩

theorem overOptions_eq_error {items : String} {e : TagError}
    (hitems : call.get? "items" = some items)
    (hselected : selectedOf (call.get? "selected") (call.get? "field") = .error e) :
    overOptions call = .error e := by
  unfold overOptions
  rw [Call.require_eq hitems]
  simp only [bind, Except.bind, Call.take_without (show "field" ∉ ["items"] by decide),
    List.cons_append, List.nil_append,
    Call.take_without (show "selected" ∉ ["items", "field"] by decide), hselected]

theorem attributes_of_overOptions {form : Form} (h : overOptions call = .ok form) :
    ∃ var items, form.attributes = attributes var items (call.without optionsArgs) := by
  cases hitems : call.get? "items" with
  | none =>
    rw [overOptions, Call.require_of_none hitems] at h
    cases h
  | some items =>
    cases hselected : selectedOf (call.get? "selected") (call.get? "field") with
    | error err =>
      rw [overOptions_eq_error hitems hselected] at h
      cases h
    | ok selected =>
      rw [overOptions_eq hitems hselected] at h
      obtain rfl := Except.ok.inj h
      exact ⟨_, _, rfl⟩

end Loop

/-! ### Extra attributes -/

namespace Operation

variable {op : Operation} {hasBody : Bool} {form : Form}

/-- Every operation writes attributes of its own, with what is left of the call on top. -/
theorem exists_own_of_form (h : op.form call hasBody = .ok form) :
    ∃ own : Attributes, own.keys ⊆ op.declared ∧
      form.attributes = own.merge (call.args.without op.understood) := by
  cases op with
  | field f =>
    cases hasBody with
    | true => cases h
    | false =>
      have h : f.attributes call >>= (fun attrs => .ok (.void f.element attrs)) = .ok form := h
      obtain ⟨attrs, hattrs, h⟩ := bind_eq_ok h
      obtain rfl := Except.ok.inj h
      exact Field.exists_own hattrs
  | element e =>
    have h : e.form call hasBody = .ok form := h
    obtain ⟨attrs, hattrs, h⟩ := bind_eq_ok h
    have hform : form.attributes = attrs := by
      split at h
      · rw [← Except.ok.inj h]
        rfl
      · cases hasBody with
        | true => cases h
        | false =>
          rw [← Except.ok.inj h]
          rfl
    rw [hform]
    exact Element.exists_own hattrs
  | forEach =>
    obtain ⟨var, items, hattrs⟩ := Loop.attributes_of_overItems h
    rw [hattrs]
    exact Loop.exists_own var items call Loop.itemsArgs
  | optionsFor =>
    obtain ⟨var, items, hattrs⟩ := Loop.attributes_of_overOptions h
    rw [hattrs]
    exact Loop.exists_own var items call Loop.optionsArgs

/-- **The extra attributes come last, in the order of the call.** -/
theorem keys_attributes_form (h : op.form call hasBody = .ok form) :
    ∃ own ⊆ op.declared, form.attributes.keys = own ++ op.extra own call := by
  obtain ⟨own, hown, hattrs⟩ := exists_own_of_form h
  exact ⟨own.keys, hown, by rw [hattrs, keys_merge_without, extra]⟩

end Operation

end Tag

end JellyViews
