/-
**Faults on their way out.**

A fault that comes up while a template is rendered ends the rendering.  The calls that it passes on
its way out are reported around it, and inside of them it stays what it is.  So it is for the
arguments of functions, filters and tests, for what filters are applied to, for items, for parts of
joined texts and for the bodies of sections.  Arithmetic is not among these places, as it keeps no
more of a fault than a message, and neither are conditions, some of which are false instead.

Main definitions:

* `Template.Fault.Nested` — a fault inside of others;
* `Template.Term.Raises`, `Template.Raises` — the fault that a term, or a template, comes upon.

Main results:

* `Template.Fault.cause_chain_iff` — which faults carry a tag error;
* `Template.eval_of_raises`, `Template.renderNodes_of_raises` — **a fault ends the rendering**, with
  the calls around it.
-/

import JellyViews.Proofs.Outcome
import JellyViews.Template.Engine

set_option relaxedAutoImplicit false
set_option autoImplicit false

namespace JellyViews

namespace Template

open Tag

/-! ### Faults inside of others -/

/-- A fault inside of the faults of calls. -/
inductive Fault.Nested (inner : Fault) : Fault → Prop where
  | here : Nested inner inner
  | inFunction (name : String) {outer : Fault} (h : Nested inner outer) :
      Nested inner (.inFunction name outer)
  | inFilter (name : String) {outer : Fault} (h : Nested inner outer) :
      Nested inner (.inFilter name outer)
  | inTest (name : String) {outer : Fault} (h : Nested inner outer) :
      Nested inner (.inTest name outer)

namespace Fault

variable {fault : Fault} {e : TagError}

/-- Calls around a fault keep the tag error of its chain. -/
theorem Nested.cause_chain {inner : Fault} (h : Nested inner fault) :
    fault.chain.cause = inner.chain.cause := by
  induction h with
  | here => rfl
  | inFunction name _ ih => exact ih
  | inFilter name _ ih => exact ih
  | inTest name _ ih => exact ih

/-- **The chain of a fault has a tag error exactly if a refusal is nested in it.** -/
theorem cause_chain_iff :
    fault.chain.cause = some e ↔ ∃ tag, Nested (.refused tag e) fault := by
  constructor
  · intro h
    induction fault with
    | refused tag error =>
      obtain rfl := Option.some.inj h
      exact ⟨tag, .here⟩
    | inFunction name fault ih => exact (ih h).imp fun _ => .inFunction name
    | inFilter name fault ih => exact (ih h).imp fun _ => .inFilter name
    | inTest name fault ih => exact (ih h).imp fun _ => .inTest name
    | _ => cases h
  · rintro ⟨tag, h⟩
    exact h.cause_chain

end Fault

/-! ### Calls -/

variable {s : Setting} {fault : Fault}

/-- A tag as a function. -/
theorem functionNamed_tag {r : Registry} {tag : String} (htag : r.contains tag = true) :
    functionNamed r tag = .ok fun args => tagText r tag args none := if_pos htag

/-- A tag as a filter: it encloses texts. -/
theorem filterNamed_tag {r : Registry} {tag : String} (htag : isTagFilter r tag = true) :
    ∃ f, filterNamed r tag = .ok f ∧
      ∀ body args, f (.string body) args = tagText r tag args (some body) :=
  ⟨_, if_pos htag, fun _ _ => rfl⟩

theorem inside_of_error {α : Type} {x : Except Fault α} (mark : Fault → Fault)
    (h : x = .error fault) : inside mark x = .error (mark fault) := by
  rw [h]
  rfl

/-- The value of a function call. -/
theorem eval_call_eq {name : String} {args : List (String × Term)} {f : Callee}
    (hname : functionNamed s.registry name = .ok f) :
    (Term.call name args).eval s = inside (.inFunction name) (evalArgs s args >>= f) := by
  rw [Term.eval, Term.meaning, Meaning.ofCall]
  dsimp only
  rw [hname]
  rfl

/-- The value of a term with a filter. -/
theorem eval_filtered_eq {t : Term} {name : String} {args : List (String × Term)}
    (hsupplies : s.supplies name t = false) :
    (Term.filtered t name args).eval s =
      if isIdle name then t.eval s
      else t.eval s >>= fun v => filterNamed s.registry name >>= fun f =>
        inside (.inFilter name) (evalArgs s args >>= f v) := by
  rw [Term.eval, Term.meaning, filteredMeaning]
  dsimp only
  rw [hsupplies]
  rfl

/-! ### Rows of terms -/

section

variable {t : Term}

theorem evalArgs_eq_error {key : String} {before after : List (String × Term)} {vs : Values}
    (hbefore : evalArgs s before = .ok vs) (h : t.eval s = .error fault) :
    evalArgs s (before ++ (key, t) :: after) = .error fault :=
  append_eq_error (fun a => a.2.eval s) (fun a v vs => (a.1, v) :: vs)
    (fun _ _ => by rw [evalArgs]; rfl) hbefore h

theorem evalItems_eq_error {before after : List Term} {vs : List Json}
    (hbefore : evalItems s before = .ok vs) (h : t.eval s = .error fault) :
    evalItems s (before ++ t :: after) = .error fault :=
  append_eq_error (fun t => t.eval s) (fun _ v vs => v :: vs)
    (fun _ _ => by rw [evalItems]; rfl) hbefore h

theorem evalParts_eq_error {before after : List Term} {text : String}
    (hbefore : evalParts s before = .ok text) (h : t.eval s = .error fault) :
    evalParts s (before ++ t :: after) = .error fault := by
  refine append_eq_error (fun t => t.eval s >>= joinedText t) (fun _ text more => text ++ more)
    (fun t rest => ?_) hbefore (by rw [h]; rfl)
  rw [evalParts, bind_assoc]
  rfl

theorem renderNodes_eq_error {node : Node} {before after : List Node} {text : String}
    (hbefore : renderNodes s before = .ok text) (h : node.render s = .error fault) :
    renderNodes s (before ++ node :: after) = .error fault :=
  append_eq_error (Node.render s) (fun _ text more => text ++ more)
    (fun _ _ => by rw [renderNodes]; rfl) hbefore h

end

/-! ### Faults that come up -/

/-- The fault is the first one that the evaluation of a term comes upon, in a place where faults are
kept: whatever is evaluated before has a value. -/
inductive Term.Raises (s : Setting) (fault : Fault) : Term → Prop where
  | here {t : Term} (h : t.eval s = .error fault) : Raises s fault t
  | called (name : String) {args : List (String × Term)} {f : Callee} {vs : Values}
      (hname : functionNamed s.registry name = .ok f) (hargs : evalArgs s args = .ok vs)
      (h : f vs = .error fault) : Raises s fault (.call name args)
  | argument (name : String) {key : String} {t : Term} {before after : List (String × Term)}
      {f : Callee} {vs : Values} (hname : functionNamed s.registry name = .ok f)
      (hbefore : evalArgs s before = .ok vs) (h : Raises s fault t) :
      Raises s fault (.call name (before ++ (key, t) :: after))
  | filtered {name : String} {t : Term} {args : List (String × Term)}
      (hsupplies : s.supplies name t = false) (h : Raises s fault t) :
      Raises s fault (.filtered t name args)
  | option (name : String) {key : String} {t u : Term} {before after : List (String × Term)}
      {f : Filter} {v : Json} {vs : Values} (hsupplies : s.supplies name t = false)
      (hidle : isIdle name = false) (hv : t.eval s = .ok v)
      (hname : filterNamed s.registry name = .ok f) (hbefore : evalArgs s before = .ok vs)
      (h : Raises s fault u) : Raises s fault (.filtered t name (before ++ (key, u) :: after))
  | applied (name : String) {t : Term} {args : List (String × Term)} {f : Filter} {v : Json}
      {vs : Values} (hsupplies : s.supplies name t = false) (hidle : isIdle name = false)
      (hv : t.eval s = .ok v) (hname : filterNamed s.registry name = .ok f)
      (hargs : evalArgs s args = .ok vs) (h : f v vs = .error fault) :
      Raises s fault (.filtered t name args)
  | tested (name : String) {path : String} {opposite : Bool} {t : Term} {before after : List Term}
      {test : Test} {vs : List Json} (hname : standardTest? name = some test)
      (hbefore : evalItems s before = .ok vs) (h : Raises s fault t) :
      Raises s fault (.tested path opposite name (before ++ t :: after))
  | item {t : Term} {before after : List Term} {vs : List Json}
      (hbefore : evalItems s before = .ok vs) (h : Raises s fault t) :
      Raises s fault (.array (before ++ t :: after))
  | part {t : Term} {before after : List Term} {text : String}
      (hbefore : evalParts s before = .ok text) (h : Raises s fault t) :
      Raises s fault (.joined (before ++ t :: after))

/-- The fault is the first one that the rendering of a template comes upon, in such a place. -/
inductive Raises (s : Setting) (fault : Fault) : List Node → Prop where
  | output {t : Term} {before after : List Node} {text : String}
      (hbefore : renderNodes s before = .ok text) (h : t.Raises s fault) :
      Raises s fault (before ++ .output t :: after)
  | body {name : String} {args : List (String × Term)} {nodes before after : List Node}
      {text : String} (hbefore : renderNodes s before = .ok text) (h : Raises s fault nodes) :
      Raises s fault (before ++ .section name args nodes :: after)
  | option (name : String) {key : String} {t : Term} {front back : List (String × Term)}
      {nodes before after : List Node} {f : Filter} {vs : Values} {text body : String}
      (hbefore : renderNodes s before = .ok text) (hbody : renderNodes s nodes = .ok body)
      (hsafe : name ≠ "safe") (hname : filterNamed s.registry name = .ok f)
      (hfront : evalArgs s front = .ok vs) (h : t.Raises s fault) :
      Raises s fault (before ++ .section name (front ++ (key, t) :: back) nodes :: after)
  | applied (name : String) {args : List (String × Term)} {nodes before after : List Node}
      {f : Filter} {vs : Values} {text body : String} (hbefore : renderNodes s before = .ok text)
      (hbody : renderNodes s nodes = .ok body) (hsafe : name ≠ "safe")
      (hname : filterNamed s.registry name = .ok f) (hargs : evalArgs s args = .ok vs)
      (h : f (.string body) vs = .error fault) :
      Raises s fault (before ++ .section name args nodes :: after)

/-- **A fault that a term comes upon ends its evaluation**, with the calls around it. -/
theorem eval_of_raises {t : Term} (h : t.Raises s fault) :
    ∃ outer, t.eval s = .error outer ∧ fault.Nested outer := by
  induction h with
  | here h => exact ⟨fault, h, .here⟩
  | called name hname hargs h =>
    refine ⟨.inFunction name fault, ?_, Fault.Nested.here.inFunction name⟩
    rw [eval_call_eq hname, hargs]
    exact inside_of_error _ h
  | argument name hname hbefore _ ih =>
    obtain ⟨outer, houter, hnested⟩ := ih
    refine ⟨.inFunction name outer, ?_, hnested.inFunction name⟩
    rw [eval_call_eq hname, evalArgs_eq_error hbefore houter]
    exact inside_of_error _ rfl
  | filtered hsupplies _ ih =>
    obtain ⟨outer, houter, hnested⟩ := ih
    refine ⟨outer, ?_, hnested⟩
    rw [eval_filtered_eq hsupplies, houter]
    exact ite_self _
  | option name hsupplies hidle hv hname hbefore _ ih =>
    obtain ⟨outer, houter, hnested⟩ := ih
    refine ⟨.inFilter name outer, ?_, hnested.inFilter name⟩
    rw [eval_filtered_eq hsupplies, hidle, if_neg Bool.false_ne_true, hv, hname,
      evalArgs_eq_error hbefore houter]
    exact inside_of_error _ rfl
  | applied name hsupplies hidle hv hname hargs h =>
    refine ⟨.inFilter name fault, ?_, Fault.Nested.here.inFilter name⟩
    rw [eval_filtered_eq hsupplies, hidle, if_neg Bool.false_ne_true, hv, hname, hargs]
    exact inside_of_error _ h
  | tested name hname hbefore _ ih =>
    obtain ⟨outer, houter, hnested⟩ := ih
    refine ⟨.inTest name outer, ?_, hnested.inTest name⟩
    rw [Term.eval, Term.meaning, Meaning.ofCondition, hname]
    dsimp only
    rw [evalItems_eq_error hbefore houter]
    rfl
  | item hbefore _ ih =>
    obtain ⟨outer, houter, hnested⟩ := ih
    refine ⟨outer, ?_, hnested⟩
    rw [Term.eval, Term.meaning]
    dsimp only
    rw [evalItems_eq_error hbefore houter]
    rfl
  | part hbefore _ ih =>
    obtain ⟨outer, houter, hnested⟩ := ih
    refine ⟨outer, ?_, hnested⟩
    rw [Term.eval, Term.meaning, Meaning.ofText]
    dsimp only
    rw [evalParts_eq_error hbefore houter]
    rfl

/-- The text of a section. -/
theorem render_section_eq {name body : String} {args : List (String × Term)} {nodes : List Node}
    {f : Filter} (hbody : renderNodes s nodes = .ok body) (hsafe : name ≠ "safe")
    (hname : filterNamed s.registry name = .ok f) :
    (Node.section name args nodes).render s =
      (inside (.inFilter name) (evalArgs s args >>= f (.string body))).map shown := by
  rw [Node.render, hbody]
  dsimp only [bind, Except.bind]
  rw [if_neg hsafe, hname]
  rfl

/-- **A fault that a template comes upon ends its rendering**, with the calls around it. -/
theorem renderNodes_of_raises {nodes : List Node} (h : Raises s fault nodes) :
    ∃ outer, renderNodes s nodes = .error outer ∧ fault.Nested outer := by
  induction h with
  | output hbefore h =>
    obtain ⟨outer, houter, hnested⟩ := eval_of_raises h
    refine ⟨outer, renderNodes_eq_error hbefore ?_, hnested⟩
    rw [Node.render, houter]
    rfl
  | body hbefore _ ih =>
    obtain ⟨outer, houter, hnested⟩ := ih
    refine ⟨outer, renderNodes_eq_error hbefore ?_, hnested⟩
    rw [Node.render, houter]
    rfl
  | option name hbefore hbody hsafe hname hfront h =>
    obtain ⟨outer, houter, hnested⟩ := eval_of_raises h
    refine ⟨.inFilter name outer, renderNodes_eq_error hbefore ?_, hnested.inFilter name⟩
    rw [render_section_eq hbody hsafe hname, evalArgs_eq_error hfront houter]
    rfl
  | applied name hbefore hbody hsafe hname hargs h =>
    refine ⟨.inFilter name fault, renderNodes_eq_error hbefore ?_, Fault.Nested.here.inFilter name⟩
    rw [render_section_eq hbody hsafe hname, hargs]
    exact congrArg _ (inside_of_error _ h)

end Template

end JellyViews
