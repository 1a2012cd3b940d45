/-
**Arguments in any order.**

A template names the arguments of a tag in whatever order it likes, and what the tag is given does
not tell the order.  The arguments are sorted by name before they become a call, so the call, the
text of the tag, and the error if there is one, are the same for every order: of several arguments
that no tag takes, the one with the smallest name is reported.

Main definitions:

* `Template.Unfit` — the values that no tag takes, and what is said of them.

Main results:

* `Template.callOf_of_unfit`, `Template.callOf_of_fit` — **what becomes of named values**;
* `Template.callOf_eq_of_perm`, `Template.tagText_eq_of_perm` — the order makes no difference;
* `Template.evalArgs_of_perm` — nor does the order in which a template writes them;
* `Template.arguments_in_any_order` — **the law of arguments**.
-/

import JellyViews.Proofs.OrderedMap.Sorting
import JellyViews.Proofs.Tag.Remaining
import JellyViews.Proofs.Template.InsideOut
import JellyViews.Proofs.Text.ByteOrder

set_option relaxedAutoImplicit false
set_option autoImplicit false

namespace JellyViews

namespace Template

open Tag Text

/-! ### Values that a tag takes -/

/-- The values that no tag takes, and what is said of them. -/
inductive Unfit : Json → String → Prop where
  | null : Unfit .null "null"
  | array (items : List Json) : Unfit (.array items) "array"
  | object (fields : List (String × Json)) : Unfit (.object fields) "object"

section

variable {tag key : String} {value : Json} {e : TagError}

theorem attributeValue_eq_error_iff :
    attributeValue tag key value = .error e ↔
      ∃ reason, Unfit value reason ∧ e = .invalidAttributeValue tag key reason := by
  constructor
  · intro h
    cases value with
    | null => exact ⟨_, .null, (Except.error.inj h).symm⟩
    | array items => exact ⟨_, .array items, (Except.error.inj h).symm⟩
    | object fields => exact ⟨_, .object fields, (Except.error.inj h).symm⟩
    | _ => cases h
  · rintro ⟨reason, hunfit, rfl⟩
    cases hunfit <;> rfl

/-- Every other value has a text. -/
theorem exists_text (h : ∀ reason, ¬ Unfit value reason) (tag key : String) :
    ∃ text, attributeValue tag key value = .ok text := by
  cases hvalue : attributeValue tag key value with
  | ok text => exact ⟨text, rfl⟩
  | error e =>
    obtain ⟨reason, hunfit, -⟩ := attributeValue_eq_error_iff.1 hvalue
    exact absurd hunfit (h reason)

end

/-! ### Adding arguments -/

variable {tag : String} {call : Call} {args args' : Values}

/-- The texts of those arguments that have one. -/
def textsOf (tag : String) (args : Values) : List (String × String) :=
  args.filterMap fun a => (attributeValue tag a.1 a.2).toOption.map fun text => (a.1, text)

theorem mem_textsOf_iff {key text : String} :
    (key, text) ∈ textsOf tag args ↔
      ∃ value, (key, value) ∈ args ∧ attributeValue tag key value = .ok text := by
  rw [textsOf, List.mem_filterMap]
  constructor
  · rintro ⟨⟨k, value⟩, hmem, htext⟩
    obtain ⟨t, ht, hpair⟩ := Option.map_eq_some_iff.1 htext
    obtain ⟨rfl, rfl⟩ := Prod.mk.inj hpair
    exact ⟨value, hmem, eq_ok_of_toOption ht⟩
  · rintro ⟨value, hmem, htext⟩
    exact ⟨(key, value), hmem, by rw [htext]; rfl⟩

theorem textsOf_cons {key text : String} {value : Json}
    (h : attributeValue tag key value = .ok text) :
    textsOf tag ((key, value) :: args) = (key, text) :: textsOf tag args := by
  simp [textsOf, h, Except.toOption]

theorem map_fst_textsOf (tag : String) (h : ∀ a ∈ args, ∀ reason, ¬ Unfit a.2 reason) :
    (textsOf tag args).map Prod.fst = args.map Prod.fst := by
  induction args with
  | nil => rfl
  | cons a args ih =>
    obtain ⟨text, htext⟩ := exists_text (h a List.mem_cons_self) tag a.1
    rw [textsOf_cons htext, List.map_cons, List.map_cons,
      ih fun a ha => h a (List.mem_cons_of_mem _ ha)]

/-- Without an unfit value among them, all arguments are added. -/
theorem addArguments_of_fit (h : ∀ a ∈ args, ∀ reason, ¬ Unfit a.2 reason) (call : Call) :
    addArguments tag call args = .ok ⟨call.args.insertAll (textsOf tag args)⟩ := by
  induction args generalizing call with
  | nil => rfl
  | cons a args ih =>
    obtain ⟨text, htext⟩ := exists_text (h a List.mem_cons_self) tag a.1
    rw [addArguments, htext, textsOf_cons htext]
    exact ih (fun a ha => h a (List.mem_cons_of_mem _ ha)) (call.arg a.1 text)

/-- The first unfit value is reported. -/
theorem addArguments_of_unfit {key reason : String} {value : Json} {front back : Values}
    (hfront : ∀ a ∈ front, ∀ reason, ¬ Unfit a.2 reason) (hunfit : Unfit value reason)
    (call : Call) :
    addArguments tag call (front ++ (key, value) :: back) =
      .error (.invalidAttributeValue tag key reason) := by
  induction front generalizing call with
  | nil =>
    have hvalue : attributeValue tag key value = .error (.invalidAttributeValue tag key reason) :=
      attributeValue_eq_error_iff.2 ⟨reason, hunfit, rfl⟩
    rw [List.nil_append, addArguments, hvalue]
  | cons a front ih =>
    obtain ⟨text, htext⟩ := exists_text (hfront _ List.mem_cons_self) tag a.1
    rw [List.cons_append, addArguments, htext]
    exact ih (fun a ha => hfront a (List.mem_cons_of_mem _ ha)) (call.arg a.1 text)

/-- If there are unfit values, there is a first one. -/
theorem exists_first_unfit (h : ∃ a ∈ args, ∃ reason, Unfit a.2 reason) :
    ∃ front key value reason back, args = front ++ (key, value) :: back ∧ Unfit value reason ∧
      ∀ a ∈ front, ∀ reason, ¬ Unfit a.2 reason := by
  induction args with
  | nil =>
    obtain ⟨a, ha, -⟩ := h
    cases ha
  | cons a args ih =>
    by_cases ha : ∃ reason, Unfit a.2 reason
    · obtain ⟨reason, hunfit⟩ := ha
      exact ⟨[], a.1, a.2, reason, args, rfl, hunfit, nofun⟩
    · obtain ⟨b, hb, hunfit⟩ := h
      have hb : b ∈ args := (List.mem_cons.1 hb).resolve_left fun heq => ha (heq ▸ hunfit)
      obtain ⟨front, key, value, reason, back, rfl, hunfit, hfront⟩ := ih ⟨b, hb, hunfit⟩
      refine ⟨a :: front, key, value, reason, back, rfl, hunfit, fun c hc => ?_⟩
      rcases List.mem_cons.1 hc with rfl | hc
      · exact fun reason hc => ha ⟨reason, hc⟩
      · exact hfront c hc

/-! ### Sorted arguments -/

/-- Whether the first name does not come behind the second. -/
def byName (a b : String) : Bool := decide (a ≤ b)

theorem byName_trans (a b c : String) (hab : byName a b = true) (hbc : byName b c = true) :
    byName a c = true :=
  decide_eq_true (String.le_trans (of_decide_eq_true hab) (of_decide_eq_true hbc))

theorem byName_total (a b : String) : (byName a b || byName b a) = true := by
  rw [byName, byName, ← Bool.decide_or]
  exact decide_eq_true (String.le_total a b)

theorem byName_antisymm (a b : String) (hab : byName a b = true) (hba : byName b a = true) :
    a = b :=
  String.le_antisymm (of_decide_eq_true hab) (of_decide_eq_true hba)

variable {m m' : OrderedMap String Json}

theorem callOf_eq (tag : String) (m : OrderedMap String Json) :
    callOf tag m = addArguments tag ∅ (m.sortBy byName).entries := rfl

/-- The names come in the order of their bytes. -/
theorem pairwise_bytes_sortBy (m : OrderedMap String Json) :
    (m.sortBy byName).keys.Pairwise fun a b => bytes a < bytes b := by
  refine (OrderedMap.pairwise_keys_sortBy byName_trans byName_total m).imp ?_
  rintro a b ⟨hle, hne⟩
  rw [bytes_lt_iff]
  by_contra hnot
  exact hne (String.le_antisymm (of_decide_eq_true hle) (String.not_lt.1 hnot))

/-- **The order of the arguments makes no difference.** -/
theorem callOf_eq_of_perm (tag : String) (h : m.entries.Perm m'.entries) :
    callOf tag m = callOf tag m' := by
  rw [callOf_eq, callOf_eq,
    OrderedMap.sortBy_eq_of_perm byName_trans byName_total byName_antisymm h]

/-- **Without an unfit value among them, all arguments are in the call**, in the order of their
names. -/
theorem callOf_of_fit (tag : String) (h : ∀ a ∈ m.entries, ∀ reason, ¬ Unfit a.2 reason) :
    ∃ call, callOf tag m = .ok call ∧ call.args.keys = (m.sortBy byName).keys ∧
      ∀ key value, (key, value) ∈ m.entries →
        ∃ text, attributeValue tag key value = .ok text ∧ call.get? key = some text := by
  have hsorted : ∀ a ∈ (m.sortBy byName).entries, ∀ reason, ¬ Unfit a.2 reason := fun a ha =>
    h a ((m.perm_entries_sortBy byName).mem_iff.1 ha)
  have hkeys := map_fst_textsOf tag hsorted
  have hnodup : ((textsOf tag (m.sortBy byName).entries).map Prod.fst).Nodup := by
    rw [hkeys]
    exact (m.sortBy byName).nodup
  have hentries : ((∅ : Call).args.insertAll (textsOf tag (m.sortBy byName).entries)).entries =
      textsOf tag (m.sortBy byName).entries := OrderedMap.entries_insertAll (m := ∅) hnodup
  refine ⟨_, addArguments_of_fit hsorted ∅, ?_, fun key value hmem => ?_⟩
  · exact (congrArg (List.map Prod.fst) hentries).trans hkeys
  · obtain ⟨text, htext⟩ := exists_text (h _ hmem) tag key
    refine ⟨text, htext, OrderedMap.mem_entries_iff.1 ?_⟩
    rw [hentries]
    exact mem_textsOf_iff.2 ⟨value, (m.perm_entries_sortBy byName).mem_iff.2 hmem, htext⟩

/-- **Of several unfit values, the one with the smallest name is reported.** -/
theorem callOf_of_unfit (h : ∃ a ∈ m.entries, ∃ reason, Unfit a.2 reason) :
    ∃ key value reason, (key, value) ∈ m.entries ∧ Unfit value reason ∧
      callOf tag m = .error (.invalidAttributeValue tag key reason) ∧
      ∀ a ∈ m.entries, ∀ reason', Unfit a.2 reason' → a.1 = key ∨ bytes key < bytes a.1 := by
  have hmem {a : String × Json} : a ∈ (m.sortBy byName).entries ↔ a ∈ m.entries :=
    (m.perm_entries_sortBy byName).mem_iff
  have hsorted : ∃ a ∈ (m.sortBy byName).entries, ∃ reason, Unfit a.2 reason :=
    h.imp fun a ha => ⟨hmem.2 ha.1, ha.2⟩
  obtain ⟨front, key, value, reason, back, hsplit, hunfit, hfront⟩ := exists_first_unfit hsorted
  refine ⟨key, value, reason, hmem.1 ?_, hunfit, ?_, fun a ha reason' hunfit' => ?_⟩
  · rw [hsplit]
    exact List.mem_append_right front List.mem_cons_self
  · rw [callOf_eq, hsplit]
    exact addArguments_of_unfit hfront hunfit ∅
  · have ha := hmem.2 ha
    rw [hsplit] at ha
    rcases List.mem_append.1 ha with ha | ha
    · exact absurd hunfit' (hfront a ha reason')
    rcases List.mem_cons.1 ha with rfl | ha
    · exact .inl rfl
    · -- what comes behind the first unfit value has a larger name
      have hpairwise := pairwise_bytes_sortBy m
      rw [OrderedMap.keys, hsplit, List.map_append, List.map_cons] at hpairwise
      have hback := (List.pairwise_cons.1 (List.pairwise_append.1 hpairwise).2.1).1
      exact .inr (hback a.1 (List.mem_map_of_mem ha))

/-- **A call is refused exactly if one of its values is unfit.** -/
theorem callOf_eq_error_iff :
    (∃ e, callOf tag m = .error e) ↔ ∃ a ∈ m.entries, ∃ reason, Unfit a.2 reason := by
  constructor
  · rintro ⟨e, he⟩
    by_contra hnone
    obtain ⟨call, hcall, -⟩ := callOf_of_fit tag fun a ha reason hreason =>
      hnone ⟨a, ha, reason, hreason⟩
    cases hcall.symm.trans he
  · intro h
    obtain ⟨key, value, reason, -, -, herror, -⟩ := callOf_of_unfit h
    exact ⟨_, herror⟩

theorem of_callOf_error {e : TagError} (h : callOf tag m = .error e) :
    ∃ key value reason, (key, value) ∈ m.entries ∧ Unfit value reason ∧
      e = .invalidAttributeValue tag key reason ∧
      ∀ a ∈ m.entries, ∀ reason', Unfit a.2 reason' → a.1 = key ∨ bytes key < bytes a.1 := by
  obtain ⟨key, value, reason, hmem, hunfit, herror, hsmallest⟩ :=
    callOf_of_unfit (callOf_eq_error_iff.1 ⟨e, h⟩)
  exact ⟨key, value, reason, hmem, hunfit, Except.error.inj (h.symm.trans herror), hsmallest⟩

theorem of_callOf_ok (h : callOf tag m = .ok call) :
    call.args.keys.Perm m.keys ∧ (call.args.keys.Pairwise fun a b => bytes a < bytes b) ∧
      ∀ key value, (key, value) ∈ m.entries →
        ∃ text, attributeValue tag key value = .ok text ∧ call.get? key = some text := by
  have hfit : ∀ a ∈ m.entries, ∀ reason, ¬ Unfit a.2 reason := fun a ha reason hreason => by
    obtain ⟨e, he⟩ := callOf_eq_error_iff.2 ⟨a, ha, reason, hreason⟩
    cases h.symm.trans he
  obtain ⟨call', hcall, hkeys, hvalues⟩ := callOf_of_fit tag hfit
  obtain rfl := Except.ok.inj (h.symm.trans hcall)
  rw [hkeys]
  exact ⟨(m.perm_entries_sortBy byName).map Prod.fst, pairwise_bytes_sortBy m, hvalues⟩

/-! ### Tags -/

/-- Named values with distinct names are a map. -/
theorem entries_ofList (h : (args.map Prod.fst).Nodup) : (OrderedMap.ofList args).entries = args :=
  OrderedMap.entries_insertAll (m := .empty) h

theorem perm_entries_ofList (hargs : (args.map Prod.fst).Nodup) (h : args.Perm args') :
    (OrderedMap.ofList args).entries.Perm (OrderedMap.ofList args').entries := by
  rw [entries_ofList hargs, entries_ofList ((h.map Prod.fst).nodup_iff.1 hargs)]
  exact h

/-- **The text of a tag does not depend on the order of its arguments**, and neither does the
fault. -/
theorem tagText_eq_of_perm (hargs : (args.map Prod.fst).Nodup) (h : args.Perm args')
    (r : Registry) (tag : String) (body : Option String) :
    tagText r tag args body = tagText r tag args' body := by
  rw [tagText, tagText, callOf_eq_of_perm tag (perm_entries_ofList hargs h)]

/-- What is written for a form begins with the element and the attributes. -/
theorem textOf_eq_some {op : Operation} {hasBody : Bool} {form : Tag.Form} {t text : String}
    (hform : op.form call hasBody = .ok form) (h : form.textOf (some t) = some text) :
    ∃ rest, text = "<" ++ Markup.tagInside op.elementName form.attributes ++ rest := by
  have hsettles := op.settles_form call hasBody
  rw [hform] at hsettles
  cases hsettles with
  | void attrs _ _ => exact ⟨"/>", (Option.some.inj h).symm⟩
  | around attrs scope option _ =>
    refine ⟨">" ++ (optionText option ++ t) ++ (Markup.Piece.endTag op.elementName).text, ?_⟩
    rw [← Option.some.inj h]
    simp only [Markup.Piece.text, String.append_assoc]
    rfl

/-- So does the text of a tag. -/
theorem tagText_eq_ok {r : Registry} {body : Option String} {v : Json}
    (h : tagText r tag args body = .ok v) :
    ∃ op call form rest, r.get tag = .ok op ∧ callOf tag (.ofList args) = .ok call ∧
      op.form call body.isSome = .ok form ∧
      v = .string ("<" ++ Markup.tagInside op.elementName form.attributes ++ rest) := by
  unfold tagText at h
  split at h
  · cases h
  · rename_i call hcall
    split at h
    · cases h
    · rename_i text htext
      obtain rfl := Except.ok.inj h
      have htextOf := renderExpr_toOption r tag call (runBody_textBlock_gives body)
      rw [htext, Option.isSome_map, Registry.textOf] at htextOf
      split at htextOf
      · cases htextOf
      · rename_i op hop
        split at htextOf
        · cases htextOf
        · rename_i form hform
          obtain ⟨rest, rfl⟩ := textOf_eq_some hform htextOf.symm
          exact ⟨op, call, form, rest, hop, hcall, hform, rfl⟩

/-! ### Templates -/

section

variable {s : Setting} {ts ts' : List (String × Term)} {vs : Values}

theorem evalArgs_cons_eq_ok_iff {a : String × Term} :
    evalArgs s (a :: ts) = .ok vs ↔
      ∃ v ws, a.2.eval s = .ok v ∧ evalArgs s ts = .ok ws ∧ vs = (a.1, v) :: ws := by
  rw [evalArgs]
  constructor
  · intro h
    obtain ⟨v, hv, h⟩ := bind_eq_ok h
    obtain ⟨ws, hws, h⟩ := bind_eq_ok h
    exact ⟨v, ws, hv, hws, (Except.ok.inj h).symm⟩
  · rintro ⟨v, ws, hv, hws, rfl⟩
    have hv : (a.2.meaning s).value = .ok v := hv
    rw [hv, hws]
    rfl

theorem map_fst_of_evalArgs (h : evalArgs s ts = .ok vs) :
    vs.map Prod.fst = ts.map Prod.fst := by
  induction ts generalizing vs with
  | nil =>
    obtain rfl := Except.ok.inj h
    rfl
  | cons a ts ih =>
    obtain ⟨v, ws, -, hws, rfl⟩ := evalArgs_cons_eq_ok_iff.1 h
    rw [List.map_cons, List.map_cons, ih hws]

/-- Arguments that a template writes in another order have the same values, in that order. -/
theorem evalArgs_of_perm (h : ts.Perm ts') (hvs : evalArgs s ts = .ok vs) :
    ∃ vs', evalArgs s ts' = .ok vs' ∧ vs.Perm vs' := by
  induction h generalizing vs with
  | nil => exact ⟨vs, hvs, .refl vs⟩
  | cons a _ ih =>
    obtain ⟨v, ws, hv, hws, rfl⟩ := evalArgs_cons_eq_ok_iff.1 hvs
    obtain ⟨ws', hws', hperm⟩ := ih hws
    exact ⟨_, evalArgs_cons_eq_ok_iff.2 ⟨v, ws', hv, hws', rfl⟩, hperm.cons _⟩
  | swap a b =>
    obtain ⟨v, _, hv, hrest, rfl⟩ := evalArgs_cons_eq_ok_iff.1 hvs
    obtain ⟨w, ws, hw, hws, rfl⟩ := evalArgs_cons_eq_ok_iff.1 hrest
    have hrest := evalArgs_cons_eq_ok_iff.2 ⟨v, ws, hv, hws, rfl⟩
    exact ⟨_, evalArgs_cons_eq_ok_iff.2 ⟨w, _, hw, hrest, rfl⟩, .swap ..⟩
  | trans _ _ ih ih' =>
    obtain ⟨vs', hvs', hperm⟩ := ih hvs
    obtain ⟨vs'', hvs'', hperm'⟩ := ih' hvs'
    exact ⟨vs'', hvs'', hperm.trans hperm'⟩

/-- A tag is given the same text for every order in which a template writes its arguments. -/
theorem tagText_of_evalArgs (hts : (ts.map Prod.fst).Nodup) (h : ts.Perm ts')
    (hvs : evalArgs s ts = .ok vs) :
    ∃ vs', evalArgs s ts' = .ok vs' ∧
      ∀ r tag body, tagText r tag vs body = tagText r tag vs' body := by
  obtain ⟨vs', hvs', hperm⟩ := evalArgs_of_perm h hvs
  refine ⟨vs', hvs', tagText_eq_of_perm ?_ hperm⟩
  rwa [map_fst_of_evalArgs hvs]

theorem eval_call_of_perm (htag : s.registry.contains tag = true) (hts : (ts.map Prod.fst).Nodup)
    (h : ts.Perm ts') (hvs : evalArgs s ts = .ok vs) :
    (Term.call tag ts).eval s = (Term.call tag ts').eval s := by
  obtain ⟨vs', hvs', htext⟩ := tagText_of_evalArgs hts h hvs
  rw [eval_call_eq (functionNamed_tag htag), eval_call_eq (functionNamed_tag htag), hvs, hvs']
  simp only [bind, Except.bind, htext]

theorem render_section_of_perm (htag : isTagFilter s.registry tag = true)
    (hts : (ts.map Prod.fst).Nodup) (h : ts.Perm ts') (hvs : evalArgs s ts = .ok vs)
    (body : List Node) :
    (Node.section tag ts body).render s = (Node.section tag ts' body).render s := by
  obtain ⟨vs', hvs', htext⟩ := tagText_of_evalArgs hts h hvs
  rw [Node.render, Node.render, filterNamed, if_pos htag, hvs, hvs']
  simp only [bind, Except.bind, tagFilter, htext]

end

/-! ### The law of arguments -/

/-- **The law of arguments.**  What a tag is given does not tell in which order its arguments were
named.  A value without a text is reported, of several the one with the smallest name; otherwise all
arguments are in the call, in the order of the bytes of their names, and so are the extra
attributes, behind the attributes that the tag writes of its own.  Functions, filters and templates
do not tell the order, either. -/
theorem arguments_in_any_order (hargs : (args.map Prod.fst).Nodup) (h : args.Perm args')
    (tag : String) :
    let made := callOf tag (.ofList args)
    made = callOf tag (.ofList args') ∧
    ((∃ e, made = .error e) ↔ ∃ a ∈ args, ∃ reason, Unfit a.2 reason) ∧
    (∀ e, made = .error e → ∃ key value reason, (key, value) ∈ args ∧ Unfit value reason ∧
      e = .invalidAttributeValue tag key reason ∧
      ∀ a ∈ args, ∀ reason', Unfit a.2 reason' → a.1 = key ∨ bytes key < bytes a.1) ∧
    (∀ call, made = .ok call →
      call.args.keys.Perm (args.map Prod.fst) ∧
      (call.args.keys.Pairwise fun a b => bytes a < bytes b) ∧
      (∀ key value, (key, value) ∈ args →
        ∃ text, attributeValue tag key value = .ok text ∧ call.get? key = some text) ∧
      ∀ (op : Operation) (hasBody : Bool) (form : Tag.Form), op.form call hasBody = .ok form →
        ∃ own ⊆ op.declared, form.attributes.keys = own ++ op.extra own call ∧
          (op.extra own call).Pairwise fun a b => bytes a < bytes b) ∧
    (∀ r : Registry, r.contains tag = true →
      ∃ f, functionNamed r tag = .ok f ∧ f args = f args') ∧
    (∀ r : Registry, isTagFilter r tag = true →
      ∃ f, filterNamed r tag = .ok f ∧ ∀ v, f v args = f v args') ∧
    (∀ r body v, tagText r tag args body = .ok v →
      ∃ op call form rest, r.get tag = .ok op ∧ made = .ok call ∧
        op.form call body.isSome = .ok form ∧
        v = .string ("<" ++ Markup.tagInside op.elementName form.attributes ++ rest)) ∧
    ∀ (s : Setting) (ts ts' : List (String × Term)), ts.Perm ts' → evalArgs s ts = .ok args →
      (s.registry.contains tag = true → (Term.call tag ts).eval s = (Term.call tag ts').eval s) ∧
      (isTagFilter s.registry tag = true → ∀ body,
        (Node.section tag ts body).render s = (Node.section tag ts' body).render s) := by
  intro made
  have hentries := entries_ofList hargs
  have hkeys : (OrderedMap.ofList args).keys = args.map Prod.fst := by
    rw [OrderedMap.keys, hentries]
  have hnamed {ts : List (String × Term)} {s : Setting} (hvs : evalArgs s ts = .ok args) :
      (ts.map Prod.fst).Nodup := map_fst_of_evalArgs hvs ▸ hargs
  refine ⟨callOf_eq_of_perm tag (perm_entries_ofList hargs h), ?_, fun e he => ?_,
    fun call hcall => ?_, fun r hr => ⟨_, functionNamed_tag hr, ?_⟩,
    fun r hr => ⟨_, if_pos hr, fun v => ?_⟩, fun r body v => tagText_eq_ok,
    fun s ts ts' hts hvs => ⟨fun htag => ?_, fun htag body => ?_⟩⟩
  · rw [callOf_eq_error_iff, hentries]
  · have hsmallest := of_callOf_error he
    rwa [hentries] at hsmallest
  · obtain ⟨hperm, hpairwise, hvalues⟩ := of_callOf_ok hcall
    rw [hkeys] at hperm
    rw [hentries] at hvalues
    refine ⟨hperm, hpairwise, hvalues, fun op hasBody form hform => ?_⟩
    obtain ⟨own, hown, hkeys⟩ := Operation.keys_attributes_form hform
    exact ⟨own, hown, hkeys, hpairwise.filter _⟩
  · exact tagText_eq_of_perm hargs h r tag none
  · cases v with
    | string body => exact tagText_eq_of_perm hargs h r tag (some body)
    | _ => rfl
  · exact eval_call_of_perm htag (hnamed hvs) hts hvs
  · exact render_section_of_perm htag (hnamed hvs) hts hvs body

/-- Two unfit values among four, in an order that is not that of the names. -/
def misfits : Values :=
  [("zeta", .null), ("é", .bool true), ("beta", .array [.null]), ("alpha", .int 1)]

/-- Arguments of an input; a letter outside of ASCII has the largest bytes. -/
def wide : Values :=
  [("é", .bool true), ("zeta", .int 2), ("name", .string "n"), ("alpha", .string "a")]

/-- The smaller one of two unfit names is reported from both ends, and an input is given its
arguments in one order. -/
theorem arguments_in_any_order_reversed :
    callOf "textbox" (.ofList misfits.reverse) =
      .error (.invalidAttributeValue "textbox" "beta" "array") ∧
    ∃ call, callOf "textbox" (.ofList wide.reverse) = .ok call ∧
      call.args.keys = ["alpha", "name", "zeta", "é"] := by
  have hmisfits : (misfits.map Prod.fst).Nodup := by decide
  have hwide : (wide.map Prod.fst).Nodup := by decide
  obtain ⟨hsame, hrefused, hreported, -⟩ :=
    arguments_in_any_order hmisfits (List.reverse_perm misfits).symm "textbox"
  obtain ⟨hsame', hrefused', -, hmade, -⟩ :=
    arguments_in_any_order hwide (List.reverse_perm wide).symm "textbox"
  constructor
  · obtain ⟨e, he⟩ := hrefused.2 ⟨("zeta", .null), by simp [misfits], _, .null⟩
    obtain ⟨key, value, reason, hmem, hunfit, rfl, hsmallest⟩ := hreported e he
    have hbeta := hsmallest ("beta", .array [.null]) (by simp [misfits]) _ (.array _)
    rw [← hsame, he]
    simp only [misfits, List.mem_cons, Prod.mk.injEq, List.not_mem_nil, or_false] at hmem
    rcases hmem with ⟨rfl, rfl⟩ | ⟨rfl, rfl⟩ | ⟨rfl, rfl⟩ | ⟨rfl, rfl⟩
    · rw [bytes_lt_iff] at hbeta
      exact absurd hbeta (by decide)
    · cases hunfit
    · cases hunfit
      rfl
    · cases hunfit
  · cases hcall : callOf "textbox" (.ofList wide) with
    | error e =>
      obtain ⟨a, ha, reason, hunfit⟩ := hrefused'.1 ⟨e, hcall⟩
      simp only [wide, List.mem_cons, List.not_mem_nil, or_false] at ha
      rcases ha with rfl | rfl | rfl | rfl <;> cases hunfit
    | ok call =>
      obtain ⟨hperm, hpairwise, -⟩ := hmade call hcall
      simp only [bytes_lt_iff] at hpairwise
      refine ⟨call, hsame'.symm.trans hcall, ?_⟩
      refine List.Perm.eq_of_pairwise (fun a b _ _ hab hba => ?_) hpairwise (by decide)
        (hperm.trans (by decide))
      exact absurd hba (String.lt_asymm hab)

end Template

end JellyViews
