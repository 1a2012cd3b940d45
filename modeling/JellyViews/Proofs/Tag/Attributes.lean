/-
**The attributes that elements are written with.**

A form input is written with the name of its field, with the attribute that shows the field's
value, with defaults, and with what is left of the call.  An element with parameters is written with
the attributes of its parameters, with defaults, and with what is left of the call.  Several of
these may speak of the same attribute.  The laws below say which calls are refused, in which order
the attributes come, and which value counts for each.

Main definitions:

* `Tag.Call.without` — a call without some of its arguments;
* `Tag.Shape.pieces` — an element with nothing in it, as it is written;
* `Tag.Field.Known` — the form inputs of the vocabulary and those that definitions become;
* `Tag.Param.Lacks`, `Tag.Param.given` — an argument that is missing, and what a parameter gives to
  its attribute;
* `Tag.Element.Value` — where the value of an attribute comes from.

Main results:

* `Tag.Field.entries_attributes`, `Tag.Field.get?_attributes` — the attributes of a form input;
* `Tag.Element.takeParams_cons`, `Tag.Element.takeParams_eq` — **one parameter, and all of them**;
* `Tag.Element.keys_attributes`, `Tag.Element.get?_attributes_iff` — the attributes of an element
  with parameters;
* `Tag.input_attributes` — **the law of form inputs**;
* `Tag.element_attributes` — **the law of elements with parameters**.
-/

import Mathlib.Data.List.Basic
import Mathlib.Data.List.Find
import JellyViews.Proofs.Expression
import JellyViews.Proofs.Extension.Accepting
import JellyViews.Proofs.Markup.Steps
import JellyViews.Proofs.OrderedMap

set_option relaxedAutoImplicit false
set_option autoImplicit false

namespace JellyViews

namespace Tag

open Markup

/-! ### Arguments that are taken -/

/-- The call without the arguments of these names. -/
def Call.without (call : Call) (names : List String) : Call := ⟨call.args.without names⟩

theorem Call.get?_without (call : Call) (names : List String) (key : String) :
    (call.without names).get? key = if key ∈ names then none else call.get? key :=
  OrderedMap.get?_without call.args names key

theorem Call.without_without (call : Call) (names names' : List String) :
    (call.without names).without names' = call.without (names ++ names') :=
  congrArg Call.mk (OrderedMap.without_without call.args names names')

section

variable {call : Call} {names : List String} {key : String}

theorem Call.require_eq {tag value : String} (h : call.get? key = some value) :
    call.require tag key = .ok (value, call.without [key]) := by
  rw [require_of_some h, OrderedMap.erase_eq_without]
  rfl

theorem Call.take_eq (call : Call) (key : String) :
    call.take key = (call.get? key, call.without [key]) := by
  rw [take_eq_erase, OrderedMap.erase_eq_without]
  rfl

/-- Taking an argument out of what is left of a call. -/
theorem Call.take_without (h : key ∉ names) :
    (call.without names).take key = (call.get? key, call.without (names ++ [key])) := by
  rw [take_eq, get?_without, if_neg h, without_without]

theorem Call.takeOr_without (h : key ∉ names) (fallback : String) :
    (call.without names).takeOr key fallback =
      ((call.get? key).getD fallback, call.without (names ++ [key])) := by
  rw [takeOr, take_without h]

end

/-! ### Elements with nothing in them -/

/-- An element with nothing in it, as it is written: a start tag and an end tag, or one tag. -/
def Shape.pieces (shape : Shape) (name : String) (attrs : Attributes) : List Piece :=
  if shape.acceptsBody then [.startTag name attrs, .endTag name] else [.voidTag name attrs]

section

variable {call : Call} {attrs : Attributes} {err : TagError}

theorem on_emit_of_error {op : Operation} {body : Option Block}
    (h : op.form call body.isSome = .error err) (c : Context) :
    (op.emit call body).on c = (.error err, c) := by
  rw [Operation.emit, h]
  rfl

theorem on_emit_field {f : Field} (h : f.attributes call = .ok attrs) (c : Context) :
    ((Operation.field f).emit call none).on c = (.ok (), c.push (.voidTag f.element attrs)) := by
  have hform : (Operation.field f).form call (none : Option Block).isSome =
      .ok (.void f.element attrs) := by
    simp [Operation.form, Field.form, h, bind, Except.bind, pure, Except.pure]
  rw [Operation.emit, hform]
  rfl

theorem on_emit_field_of_error {f : Field} (h : f.attributes call = .error err) (c : Context) :
    ((Operation.field f).emit call none).on c = (.error err, c) := by
  refine on_emit_of_error ?_ c
  simp [Operation.form, Field.form, h, bind, Except.bind]

theorem on_emit_element {e : Element} (h : e.attributes call = .ok attrs) (c : Context) :
    ((Operation.element e).emit call none).on c =
      (.ok (), c.pushAll (e.shape.pieces e.element attrs)) := by
  have hform : (Operation.element e).form call (none : Option Block).isSome =
      .ok (if e.shape.acceptsBody then .around e.element attrs .plain none
        else .void e.element attrs) := by
    simp only [Operation.form, Element.form, h, bind, Except.bind]
    split <;> rfl
  rw [Operation.emit, hform, Shape.pieces]
  cases e.shape.acceptsBody with
  | false => rfl
  | true =>
    have hclose : (closeTag e.element).on
        { c.push (.startTag e.element attrs) with openElements := e.element :: c.openElements } =
        _ := on_closeTag_of_open rfl
    exact hclose

/-- A call that is refused for its arguments is refused with any body. -/
theorem on_emit_element_of_error {e : Element} (h : e.attributes call = .error err)
    (body : Option Block) (c : Context) :
    ((Operation.element e).emit call body).on c = (.error err, c) := by
  refine on_emit_of_error ?_ c
  simp only [Operation.form, Element.form, h, bind, Except.bind]

end

/-! ### Form inputs -/

namespace Field

variable {f : Field} {call : Call} {attrs : Attributes} {n : String}

/-- The form inputs that templates can call: those of the vocabulary, and those that definitions
become. -/
inductive Known (f : Field) : Prop
  | standard (h : Operation.field f ∈ vocabulary) : Known f
  | declared (d : Extension.Definition) (h : d.operation = .ok (.field f)) : Known f

theorem Known.valueAttr_ne (h : f.Known) : f.valueAttr ≠ nameArg := by
  cases h with
  | standard h =>
    have hall : (vocabulary.all fun op =>
        match op with
        | .field f => decide (f.valueAttr ≠ nameArg)
        | _ => true) = true := by decide
    exact of_decide_eq_true (List.all_eq_true.1 hall _ h)
  | declared d h =>
    obtain ⟨-, -, haccepted⟩ := Extension.Definition.operation_eq_ok_iff.1 h
    cases haccepted with
    | field _ _ hvalue => exact hvalue

/-- The two attributes that every form input has. -/
def own (f : Field) (call : Call) (n : String) : Attributes :=
  (Attributes.single nameArg n).insert f.valueAttr
    ((call.get? f.valueAttr).getD (Expression.boundValue n))

theorem keys_own (hvalue : f.valueAttr ≠ nameArg) (call : Call) (n : String) :
    (f.own call n).keys = [nameArg, f.valueAttr] := by
  have hkeys : (Attributes.single nameArg n).keys = [nameArg] := rfl
  rw [own, OrderedMap.keys_insert, hkeys, if_neg (by simpa using hvalue)]
  rfl

theorem get?_own (f : Field) (call : Call) (n key : String) :
    (f.own call n).get? key =
      if f.valueAttr = key then some ((call.get? f.valueAttr).getD (Expression.boundValue n))
      else if nameArg = key then some n
      else none := by
  rw [own, OrderedMap.get?_insert]
  refine if_congr Iff.rfl rfl ?_
  exact OrderedMap.get?_insert ∅ nameArg key n

theorem attributes_of_none (h : call.get? nameArg = none) :
    f.attributes call = .error (.missingArgument f.name nameArg) := by
  unfold attributes
  rw [Call.require_of_none h]
  rfl

/-- The two attributes, defaults below them, and on top what is left of the call. -/
theorem attributes_of_some (hvalue : f.valueAttr ≠ nameArg) (h : call.get? nameArg = some n) :
    f.attributes call =
      .ok (((f.own call n).fill f.defaults).merge (call.args.without [nameArg, f.valueAttr])) := by
  unfold attributes
  rw [Call.require_eq h]
  simp only [bind, Except.bind, Call.takeOr_without (mt List.mem_singleton.1 hvalue)]
  rfl

/-- The two attributes, whatever the defaults say; for the others an argument counts more than a
default. -/
theorem get?_attributes (hvalue : f.valueAttr ≠ nameArg) (h : call.get? nameArg = some n)
    (hattrs : f.attributes call = .ok attrs) (key : String) :
    attrs.get? key =
      if f.valueAttr = key then some ((call.get? f.valueAttr).getD (Expression.boundValue n))
      else if nameArg = key then some n
      else (call.get? key).or (f.defaults.get? key) := by
  rw [attributes_of_some hvalue h] at hattrs
  obtain rfl := Except.ok.inj hattrs
  rw [OrderedMap.get?_fill_merge, OrderedMap.get?_without, get?_own]
  by_cases hvalueKey : f.valueAttr = key
  · simp [hvalueKey]
  · by_cases hnameKey : nameArg = key
    · simp [hvalueKey, hnameKey]
    · have hleft : key ∉ [nameArg, f.valueAttr] := by
        simp [Ne.symm hvalueKey, Ne.symm hnameKey]
      rw [if_neg hleft, if_neg hvalueKey, if_neg hnameKey, if_neg hvalueKey, if_neg hnameKey,
        Option.none_or]
      rfl

/-- No explicit value is lost. -/
theorem get?_attributes_of_explicit (hvalue : f.valueAttr ≠ nameArg)
    (h : call.get? nameArg = some n) (hattrs : f.attributes call = .ok attrs) {key value : String}
    (hkey : call.get? key = some value) : attrs.get? key = some value := by
  rw [get?_attributes hvalue h hattrs]
  split
  · rename_i hvalueKey
    rw [hvalueKey, hkey, Option.getD_some]
  · split
    · rename_i hnameKey
      rwa [← h, hnameKey]
    · rw [hkey, Option.some_or]

/-- **The attributes of a form input**, in order. -/
theorem entries_attributes (hvalue : f.valueAttr ≠ nameArg) (h : call.get? nameArg = some n)
    (hattrs : f.attributes call = .ok attrs) :
    attrs.entries =
      (nameArg, n) ::
        (f.valueAttr, (call.get? f.valueAttr).getD (Expression.boundValue n)) ::
          (((f.defaults.entries.filter fun e => e.1 ∉ [nameArg, f.valueAttr]).map
              fun e => (e.1, (call.get? e.1).getD e.2)) ++
            call.args.entries.filter fun e => e.1 ∉ nameArg :: f.valueAttr :: f.defaults.keys) := by
  refine OrderedMap.entries_eq_of_views ?_ ?_
  · rw [attributes_of_some hvalue h] at hattrs
    obtain rfl := Except.ok.inj hattrs
    have hdefaults : ((f.defaults.entries.filter fun e => e.1 ∉ [nameArg, f.valueAttr]).map
        fun e => (e.1, (call.get? e.1).getD e.2)).map Prod.fst =
        f.defaults.keys.filter fun k => k ∉ [nameArg, f.valueAttr] := by
      rw [List.map_map]
      exact f.defaults.map_fst_filter fun k => k ∉ [nameArg, f.valueAttr]
    have hleft : (call.args.keys.filter fun k => k ∉ [nameArg, f.valueAttr]).filter
        (fun k => k ∉ [nameArg, f.valueAttr] ++ f.defaults.keys) =
        call.args.keys.filter fun k => k ∉ nameArg :: f.valueAttr :: f.defaults.keys := by
      refine (List.filter_filter ..).trans (List.filter_congr fun k _ => ?_)
      -- the first two keys are among those of the second list
      have hsub : k ∈ [nameArg, f.valueAttr] → k ∈ nameArg :: f.valueAttr :: f.defaults.keys :=
        List.mem_append_left f.defaults.keys
      rw [← Bool.decide_and, decide_eq_decide]
      exact and_iff_left_of_imp (mt hsub)
    rw [OrderedMap.keys_fill_merge, OrderedMap.keys_without, keys_own hvalue, hleft,
      List.map_cons, List.map_cons, List.map_append, hdefaults,
      OrderedMap.map_fst_filter call.args fun k => k ∉ nameArg :: f.valueAttr :: f.defaults.keys]
    rfl
  · intro e he
    rcases List.mem_cons.1 he with rfl | he
    · rw [get?_attributes hvalue h hattrs, if_neg hvalue, if_pos rfl]
    rcases List.mem_cons.1 he with rfl | he
    · rw [get?_attributes hvalue h hattrs, if_pos rfl]
    rcases List.mem_append.1 he with he | he
    · obtain ⟨d, hd, rfl⟩ := List.mem_map.1 he
      obtain ⟨hd, hother⟩ := List.mem_filter.1 hd
      obtain ⟨hname, hshown⟩ : d.1 ≠ nameArg ∧ d.1 ≠ f.valueAttr := by simpa using hother
      have hdefault : f.defaults.get? d.1 = some d.2 := OrderedMap.mem_entries_iff.1 hd
      rw [get?_attributes hvalue h hattrs, if_neg hshown.symm, if_neg hname.symm, hdefault]
      cases call.get? d.1 <;> rfl
    · have hkey : call.get? e.1 = some e.2 :=
        OrderedMap.mem_entries_iff.1 (List.mem_filter.1 he).1
      exact get?_attributes_of_explicit hvalue h hattrs hkey

end Field

/-! ### Parameters -/

/-- The value that an absent argument has. -/
def Absence.value? : Absence → Option String
  | refused => none
  | omitted => none
  | filled value => some value

namespace Param

variable {p : Param} {call : Call} {value : String}

/-- The call is refused for want of the argument. -/
def Lacks (p : Param) (call : Call) : Prop := p.absence = .refused ∧ call.get? p.arg = none

instance (p : Param) (call : Call) : Decidable (p.Lacks call) :=
  inferInstanceAs (Decidable (_ ∧ _))

/-- What the parameter gives to its attribute: the argument, or else the value for its absence. -/
def given (p : Param) (call : Call) : Option String := (call.get? p.arg).or p.absence.value?

theorem given_eq_some_iff :
    p.given call = some value ↔
      call.get? p.arg = some value ∨ call.get? p.arg = none ∧ p.absence = .filled value := by
  unfold given
  cases call.get? p.arg with
  | some v => simp
  | none =>
    cases p.absence <;> simp [Absence.value?]

/-- Other arguments make no difference. -/
theorem lacks_without {names : List String} (h : p.arg ∉ names) :
    p.Lacks (call.without names) ↔ p.Lacks call := by
  unfold Lacks
  rw [Call.get?_without, if_neg h]

theorem given_without {names : List String} (h : p.arg ∉ names) :
    p.given (call.without names) = p.given call := by
  unfold given
  rw [Call.get?_without, if_neg h]

end Param

namespace Element

variable {e : Element} {call : Call} {attrs : Attributes}

/-- **One parameter**: the call is refused for want of its argument, or the argument is taken and
the attribute is added if there is a value for it. -/
theorem takeParams_cons (tag : String) (p : Param) (ps : List Param) (call : Call)
    (attrs : Attributes) :
    takeParams tag (p :: ps) call attrs =
      if p.Lacks call then .error (.missingArgument tag p.arg)
      else takeParams tag ps (call.without [p.arg]) (attrs.insertIfSome p.attr (p.given call)) := by
  by_cases hlacks : p.Lacks call
  · obtain ⟨habsence, hget⟩ := hlacks
    rw [if_pos ⟨habsence, hget⟩]
    simp only [takeParams, call.take_eq, hget, habsence]
  · rw [if_neg hlacks]
    unfold Param.given
    cases hget : call.get? p.arg with
    | some value => simp [takeParams, call.take_eq, hget, OrderedMap.insertIfSome]
    | none =>
      cases habsence : p.absence with
      | refused => exact absurd ⟨habsence, hget⟩ hlacks
      | omitted =>
        simp [takeParams, call.take_eq, hget, habsence, Absence.value?, OrderedMap.insertIfSome]
      | filled value =>
        simp [takeParams, call.take_eq, hget, habsence, Absence.value?, OrderedMap.insertIfSome]

/-- The attributes of those parameters that have a value. -/
def givenAll (ps : List Param) (call : Call) : List (String × String) :=
  ps.filterMap fun p => (p.given call).map fun value => (p.attr, value)

theorem insertAll_givenAll_cons (p : Param) (ps : List Param) (call : Call) (attrs : Attributes) :
    attrs.insertAll (givenAll (p :: ps) call) =
      (attrs.insertIfSome p.attr (p.given call)).insertAll (givenAll ps call) := by
  unfold givenAll
  rw [List.filterMap_cons]
  cases p.given call <;> rfl

theorem givenAll_without {ps : List Param} {names : List String}
    (h : ∀ p ∈ ps, p.arg ∉ names) (call : Call) :
    givenAll ps (call.without names) = givenAll ps call := by
  unfold givenAll
  refine List.filterMap_congr fun p hp => ?_
  rw [Param.given_without (h p hp)]

/-- **All parameters**: the call is refused for the first one that it lacks, or all arguments are
taken and the attributes are added in order. -/
theorem takeParams_eq (tag : String) {ps : List Param} (h : (ps.map Param.arg).Nodup) (call : Call)
    (attrs : Attributes) :
    takeParams tag ps call attrs =
      match ps.find? fun p => p.Lacks call with
      | some p => .error (.missingArgument tag p.arg)
      | none => .ok (attrs.insertAll (givenAll ps call), call.without (ps.map Param.arg)) := by
  induction ps generalizing call attrs with
  | nil =>
    have hcall : call.without [] = call := congrArg Call.mk (OrderedMap.without_nil call.args)
    simp [takeParams, givenAll, OrderedMap.insertAll, hcall]
  | cons p ps ih =>
    obtain ⟨hnew, hps⟩ := List.nodup_cons.1 h
    -- the other parameters have other arguments
    have hother : ∀ q ∈ ps, q.arg ∉ [p.arg] := by
      intro q hq hqp
      exact hnew (List.mem_singleton.1 hqp ▸ List.mem_map_of_mem hq)
    have hfind : ps.find? (fun q => q.Lacks (call.without [p.arg])) =
        ps.find? fun q => q.Lacks call :=
      List.find?_congr fun q hq => by simp only [Param.lacks_without (hother q hq)]
    rw [takeParams_cons]
    by_cases hp : p.Lacks call
    · rw [if_pos hp, List.find?_cons_of_pos (by simpa using hp)]
    · rw [if_neg hp, List.find?_cons_of_neg (by simpa using hp), ih hps, hfind,
        givenAll_without hother, insertAll_givenAll_cons, Call.without_without]
      rfl

/-- The attributes of the parameters. -/
def own (e : Element) (call : Call) : Attributes :=
  (∅ : Attributes).insertAll (givenAll e.params call)

/-- The keys of those parameters that have a value, in the order of declaration. -/
def ownKeys (e : Element) (call : Call) : List String :=
  (e.params.filter fun p => (p.given call).isSome).map Param.attr

/-- What no parameter takes out of the call. -/
def leftOver (e : Element) (call : Call) : Call := call.without (e.params.map Param.arg)

theorem map_fst_givenAll (ps : List Param) (call : Call) :
    (givenAll ps call).map Prod.fst =
      (ps.filter fun p => (p.given call).isSome).map Param.attr := by
  induction ps with
  | nil => rfl
  | cons p ps ih =>
    unfold givenAll at ih ⊢
    cases hp : p.given call with
    | none => simpa [hp] using ih
    | some value => simpa [hp] using ih

theorem nodup_ownKeys (hattrs : (e.params.map Param.attr).Nodup) (call : Call) :
    (e.ownKeys call).Nodup :=
  hattrs.sublist (List.filter_sublist.map Param.attr)

theorem entries_own (hattrs : (e.params.map Param.attr).Nodup) (call : Call) :
    (e.own call).entries = givenAll e.params call := by
  have hnodup : ((givenAll e.params call).map Prod.fst).Nodup := by
    rw [map_fst_givenAll]
    exact nodup_ownKeys hattrs call
  exact OrderedMap.entries_insertAll (m := ∅) hnodup

theorem keys_own (hattrs : (e.params.map Param.attr).Nodup) (call : Call) :
    (e.own call).keys = e.ownKeys call := by
  rw [OrderedMap.keys, entries_own hattrs, map_fst_givenAll]
  rfl

theorem get?_own_eq_some_iff (hattrs : (e.params.map Param.attr).Nodup) {key value : String} :
    (e.own call).get? key = some value ↔
      ∃ p ∈ e.params, p.attr = key ∧ p.given call = some value := by
  rw [← OrderedMap.mem_entries_iff, entries_own hattrs, givenAll, List.mem_filterMap]
  refine exists_congr fun p => and_congr_right fun _ => ?_
  rw [Option.map_eq_some_iff]
  constructor
  · rintro ⟨v, hv, hpair⟩
    obtain ⟨rfl, rfl⟩ := Prod.mk.inj hpair
    exact ⟨rfl, hv⟩
  · rintro ⟨rfl, hv⟩
    exact ⟨value, hv, rfl⟩

theorem get?_own_eq_none_iff (hattrs : (e.params.map Param.attr).Nodup) {key : String} :
    (e.own call).get? key = none ↔ ∀ p ∈ e.params, p.attr = key → p.given call = none := by
  rw [Option.eq_none_iff_forall_ne_some]
  simp only [Ne, get?_own_eq_some_iff hattrs]
  constructor
  · intro hnone p hp hattr
    rw [Option.eq_none_iff_forall_ne_some]
    exact fun v hv => hnone v ⟨p, hp, hattr, hv⟩
  · rintro hnone v ⟨p, hp, hattr, hv⟩
    rw [hnone p hp hattr] at hv
    cases hv

theorem attributes_of_lacks (hargs : (e.params.map Param.arg).Nodup) {p : Param}
    (hp : e.params.find? (fun p => p.Lacks call) = some p) :
    e.attributes call = .error (.missingArgument e.name p.arg) := by
  unfold attributes
  rw [takeParams_eq e.name hargs, hp]
  rfl

theorem attributes_of_supplied (hargs : (e.params.map Param.arg).Nodup)
    (h : ∀ p ∈ e.params, ¬ p.Lacks call) :
    e.attributes call = .ok (((e.own call).fill e.defaults).merge (e.leftOver call).args) := by
  have hnone : e.params.find? (fun p => p.Lacks call) = none :=
    List.find?_eq_none.2 fun p hp => by simpa using h p hp
  unfold attributes
  rw [takeParams_eq e.name hargs, hnone]
  rfl

theorem attributes_eq_ok (hargs : (e.params.map Param.arg).Nodup)
    (h : e.attributes call = .ok attrs) :
    attrs = ((e.own call).fill e.defaults).merge (e.leftOver call).args := by
  cases hfind : e.params.find? fun p => p.Lacks call with
  | some p =>
    rw [attributes_of_lacks hargs hfind] at h
    cases h
  | none =>
    have hall : ∀ p ∈ e.params, ¬ p.Lacks call := fun p hp => by
      simpa using List.find?_eq_none.1 hfind p hp
    rw [attributes_of_supplied hargs hall] at h
    exact (Except.ok.inj h).symm

/-- **The order of the attributes** of an element with parameters. -/
theorem keys_attributes (hargs : (e.params.map Param.arg).Nodup)
    (hattrs : (e.params.map Param.attr).Nodup) (h : e.attributes call = .ok attrs) :
    attrs.keys =
      e.ownKeys call ++ (e.defaults.keys.filter fun k => k ∉ e.ownKeys call) ++
        (e.leftOver call).args.keys.filter fun k => k ∉ e.ownKeys call ++ e.defaults.keys := by
  rw [attributes_eq_ok hargs h, OrderedMap.keys_fill_merge, keys_own hattrs]

/-- Where the value of an attribute comes from: an argument of this name that no parameter takes,
or else the parameter that is written under this name, or else the default. -/
inductive Value (e : Element) (call : Call) (key : String) : String → Prop
  | explicit {value : String} (h : (e.leftOver call).get? key = some value) : Value e call key value
  | supplied {p : Param} {value : String} (hleft : (e.leftOver call).get? key = none)
      (hp : p ∈ e.params) (hattr : p.attr = key) (harg : call.get? p.arg = some value) :
    Value e call key value
  | filled {p : Param} {value : String} (hleft : (e.leftOver call).get? key = none)
      (hp : p ∈ e.params) (hattr : p.attr = key) (harg : call.get? p.arg = none)
      (habsence : p.absence = .filled value) : Value e call key value
  | literal {value : String} (hleft : (e.leftOver call).get? key = none)
      (hparams : ∀ p ∈ e.params, p.attr = key → p.given call = none)
      (hdefault : e.defaults.get? key = some value) : Value e call key value

/-- **The values of the attributes** of an element with parameters. -/
theorem get?_attributes_iff (hargs : (e.params.map Param.arg).Nodup)
    (hattrs : (e.params.map Param.attr).Nodup) (h : e.attributes call = .ok attrs)
    {key value : String} : attrs.get? key = some value ↔ e.Value call key value := by
  have hget : attrs.get? key =
      ((e.leftOver call).get? key).or (((e.own call).get? key).or (e.defaults.get? key)) := by
    rw [attributes_eq_ok hargs h, OrderedMap.get?_fill_merge]
    rfl
  rw [hget]
  constructor
  · intro hvalue
    cases hleft : (e.leftOver call).get? key with
    | some v =>
      rw [hleft, Option.some_or] at hvalue
      exact .explicit (hleft.trans hvalue)
    | none =>
      rw [hleft, Option.none_or] at hvalue
      cases hparam : (e.own call).get? key with
      | some v =>
        rw [hparam, Option.some_or] at hvalue
        obtain ⟨p, hp, hattr, hgiven⟩ := (get?_own_eq_some_iff hattrs).1 (hparam.trans hvalue)
        rcases Param.given_eq_some_iff.1 hgiven with harg | ⟨harg, habsence⟩
        · exact .supplied hleft hp hattr harg
        · exact .filled hleft hp hattr harg habsence
      | none =>
        rw [hparam, Option.none_or] at hvalue
        exact .literal hleft ((get?_own_eq_none_iff hattrs).1 hparam) hvalue
  · intro hvalue
    cases hvalue with
    | explicit hleft => rw [hleft, Option.some_or]
    | supplied hleft hp hattr harg =>
      have hgiven := Param.given_eq_some_iff.2 (.inl harg)
      rw [hleft, (get?_own_eq_some_iff hattrs).2 ⟨_, hp, hattr, hgiven⟩, Option.none_or,
        Option.some_or]
    | filled hleft hp hattr harg habsence =>
      have hgiven := Param.given_eq_some_iff.2 (.inr ⟨harg, habsence⟩)
      rw [hleft, (get?_own_eq_some_iff hattrs).2 ⟨_, hp, hattr, hgiven⟩, Option.none_or,
        Option.some_or]
    | literal hleft hparams hdefault =>
      rw [hleft, (get?_own_eq_none_iff hattrs).2 hparams, Option.none_or, Option.none_or, hdefault]

end Element

/-! ### The two laws -/

/-- **The law of form inputs.**  Without a name of the field, a call is refused.  With one, the
input has the name as it is, then the value, then the defaults, and then what is left of the call;
the value is looked up by the leaf of the name unless the call gives one, and other arguments count
more than defaults.  The inputs that templates can call are such that the attribute of the value is
not that of the name. -/
theorem input_attributes (f : Field) :
    (f.Known → f.valueAttr ≠ "name") ∧
    (f.valueAttr ≠ "name" → ∀ (call : Call) (c : Context),
      (call.get? "name" = none →
        ((Operation.field f).emit call none).on c = (.error (.missingArgument f.name "name"), c)) ∧
      ∀ n, call.get? "name" = some n → ∃ (leaf : String) (attrs : Attributes),
        Expression.LeafOf n leaf ∧
        ((Operation.field f).emit call none).on c = (.ok (), c.push (.voidTag f.element attrs)) ∧
        attrs.entries =
          ("name", n) ::
            (f.valueAttr,
              (call.get? f.valueAttr).getD ("$\x7binstance." ++ leaf ++ "\x7d")) ::
              (((f.defaults.entries.filter fun e => e.1 ∉ ["name", f.valueAttr]).map
                  fun e => (e.1, (call.get? e.1).getD e.2)) ++
                call.args.entries.filter fun e => e.1 ∉ "name" :: f.valueAttr :: f.defaults.keys) ∧
        attrs.keys.Nodup ∧
        ∀ key value, call.get? key = some value → attrs.get? key = some value) := by
  refine ⟨Field.Known.valueAttr_ne, fun hvalue call c => ⟨fun h => ?_, fun n h => ?_⟩⟩
  · exact on_emit_field_of_error (Field.attributes_of_none h) c
  · have hattrs := Field.attributes_of_some hvalue h
    have hbound : Expression.boundValue n =
        "$\x7binstance." ++ Expression.leaf n ++ "\x7d" := by
      have hroot : "$\x7binstance." =
          Expression.openMarker ++ (Expression.instanceRoot ++ ".") := by decide
      rw [hroot, String.append_assoc]
      rfl
    refine ⟨Expression.leaf n, _, Expression.leafOf_iff.2 rfl, on_emit_field hattrs c, ?_,
      OrderedMap.keys_nodup _, fun key value hkey => ?_⟩
    · rw [← hbound]
      exact Field.entries_attributes hvalue h hattrs
    · exact Field.get?_attributes_of_explicit hvalue h hattrs hkey

/-- A password, with defaults that speak of the name and of the value. -/
def password : Field :=
  { name := "password"
    element := "f:password"
    valueAttr := "value"
    defaults := OrderedMap.ofList [("class", "secret"), ("name", "lost"), ("value", "lost")] }

/-- A default counts less than an argument, and its place more; it says nothing on the value. -/
theorem input_attributes_overlapping :
    let call := Call.ofList [("id", "x"), ("class", "wide"), ("name", "creds.token")]
    ((Operation.field password).emit call none).on Context.empty =
      (.ok (), Context.empty.push (.voidTag "f:password" (OrderedMap.ofList
        [("name", "creds.token"), ("value", "$\x7binstance.token\x7d"), ("class", "wide"),
          ("id", "x")]))) := by
  intro call
  obtain ⟨-, hlaw⟩ := input_attributes password
  obtain ⟨-, hinput⟩ := hlaw (by decide) call Context.empty
  obtain ⟨leaf, attrs, hleaf, hemit, hentries, -, -⟩ := hinput "creds.token" (by decide)
  obtain rfl : leaf = "token" := (Expression.leafOf_iff.1 hleaf).trans (by decide)
  have hattrs : attrs = OrderedMap.ofList
      [("name", "creds.token"), ("value", "$\x7binstance.token\x7d"), ("class", "wide"),
        ("id", "x")] := OrderedMap.ext (hentries.trans (by decide))
  rw [hemit, hattrs]
  rfl

/-- **The law of elements with parameters.**  A call is refused exactly if it lacks an argument that
is required, for the first one that it lacks.  Otherwise the attributes of parameters with a value
come first, then defaults that are not among them, then what is left of the call; and for each
attribute an argument of its name counts most, then the parameter, and then the default. -/
theorem element_attributes {e : Element} (hargs : (e.params.map Param.arg).Nodup)
    (hattrs : (e.params.map Param.attr).Nodup) (call : Call) :
    ((∃ err, e.attributes call = .error err) ↔ ∃ p ∈ e.params, p.Lacks call) ∧
    (∀ p, e.params.find? (fun p => p.Lacks call) = some p →
      e.attributes call = .error (.missingArgument e.name p.arg)) ∧
    (∀ attrs, e.attributes call = .ok attrs →
      attrs.keys.Nodup ∧
      attrs.keys =
        e.ownKeys call ++ (e.defaults.keys.filter fun k => k ∉ e.ownKeys call) ++
          ((e.leftOver call).args.keys.filter fun k => k ∉ e.ownKeys call ++ e.defaults.keys) ∧
      ∀ key value, attrs.get? key = some value ↔ e.Value call key value) ∧
    ∀ c : Context, ((Operation.element e).emit call none).on c =
      match e.attributes call with
      | .ok attrs => (.ok (), c.pushAll (e.shape.pieces e.element attrs))
      | .error err => (.error err, c) := by
  refine ⟨⟨?_, ?_⟩, fun p hp => Element.attributes_of_lacks hargs hp, fun attrs h => ?_,
    fun c => ?_⟩
  · rintro ⟨err, herr⟩
    by_contra hnone
    rw [Element.attributes_of_supplied hargs fun p hp hlacks => hnone ⟨p, hp, hlacks⟩] at herr
    cases herr
  · rintro ⟨p, hp, hlacks⟩
    cases hfind : e.params.find? fun p => p.Lacks call with
    | some q => exact ⟨_, Element.attributes_of_lacks hargs hfind⟩
    | none =>
      have hnot := List.find?_eq_none.1 hfind p hp
      exact absurd hlacks (by simpa using hnot)
  · exact ⟨attrs.keys_nodup, Element.keys_attributes hargs hattrs h,
      fun key value => Element.get?_attributes_iff hargs hattrs h⟩
  · cases h : e.attributes call with
    | ok attrs => exact on_emit_element h c
    | error err => exact on_emit_element_of_error h none c

/-- Two buttons, with parameters that are written under other names than those of the arguments. -/
def radio : Element :=
  { name := "radio"
    element := "f:radio"
    shape := .void
    params :=
      [.required "field", (Param.defaulted "false_label" "No").writtenAs "false",
        (Param.defaulted "true_label" "Yes").writtenAs "true", .optional "clazz"]
    defaults := OrderedMap.ofList [("class", "plain"), ("true", "lost")] }

/-- An argument is written under the name of a parameter, and another call lacks an argument. -/
theorem element_attributes_renamed :
    let call := Call.ofList
      [("id", "x"), ("false", "never"), ("true_label", "always"), ("field", "y")]
    (∃ attrs, radio.attributes call = .ok attrs ∧
      attrs.keys = ["field", "false", "true", "class", "id"] ∧
      attrs.get? "false" = some "never" ∧ attrs.get? "true" = some "always" ∧
      attrs.get? "class" = some "plain") ∧
    radio.attributes ∅ = .error (.missingArgument "radio" "field") := by
  intro call
  obtain ⟨hfails, -, hlaw, -⟩ := element_attributes (e := radio) (by decide) (by decide) call
  obtain ⟨-, hlacks, -, -⟩ := element_attributes (e := radio) (by decide) (by decide) ∅
  refine ⟨?_, hlacks (.required "field") (by decide)⟩
  cases h : radio.attributes call with
  | error err =>
    have hnone : ¬ ∃ p ∈ radio.params, p.Lacks call := by decide
    exact absurd (hfails.1 ⟨err, h⟩) hnone
  | ok attrs =>
    obtain ⟨-, hkeys, hvalues⟩ := hlaw attrs h
    refine ⟨attrs, rfl, hkeys.trans (by decide), (hvalues _ _).2 (.explicit (by decide)), ?_, ?_⟩
    · exact (hvalues _ _).2 (.supplied (p := (Param.defaulted "true_label" "Yes").writtenAs "true")
        (by decide) (by decide) rfl (by decide))
    · exact (hvalues _ _).2 (.literal (by decide) (by decide) (by decide))

end Tag

end JellyViews
