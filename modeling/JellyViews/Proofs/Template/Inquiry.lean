/-
**The evaluation of templates, name by name.**

`Template.render` evaluates a template with the functions and filters of a registry at hand.  The
same can be done by a computation that knows none of them and asks for each name when it comes to
it.  This makes the evaluation a language to which the tags of a registry are added, like any other,
and shows which names a template looks up.

Main definitions:

* `Template.Inquiry` — computations that look names up;
* `Template.Term.inquiry`, `Template.Node.inquiry` — what terms and parts of templates mean, by
  looking names up;
* `Template.inquiryOf`, `Template.namesIn` — the rendering of a template, and the names that it
  looks up;
* `Template.native` — the language in which templates are evaluated.

Main results:

* `Template.Term.run_inquiry`, `Template.Node.run_inquiry` — **terms and parts of templates mean
  what they did**;
* `Template.native_renders_iff` — **templates are rendered by the engines of a language**.
-/

import JellyViews.Proofs.Template.Language
import JellyViews.Template.Engine

set_option relaxedAutoImplicit false
set_option autoImplicit false

namespace JellyViews

namespace Template

open Tag

/-! ### Computations that look names up -/

/-- A computation that looks names up, one after the other. -/
inductive Inquiry (α : Type) where
  | done (a : α)
  | lookUp (u : Use) (next : Option (u.Of Callee Filter) → Inquiry α)

namespace Inquiry

variable {α β : Type}

/-- One computation after another. -/
def bind : Inquiry α → (α → Inquiry β) → Inquiry β
  | done a, f => f a
  | lookUp u next, f => lookUp u fun x => (next x).bind f

instance : Monad Inquiry where
  pure := done
  bind := bind

/-- What comes of a computation. -/
def run (t : Tables Callee Filter) : Inquiry α → α
  | done a => a
  | lookUp u next => (next (t u)).run t

/-- The names that a computation looks up. -/
def names (t : Tables Callee Filter) : Inquiry α → List Use
  | done _ => []
  | lookUp u next => u :: (next (t u)).names t

@[simp] theorem run_pure (t : Tables Callee Filter) (a : α) : (pure a : Inquiry α).run t = a := rfl

@[simp] theorem run_bind (t : Tables Callee Filter) (q : Inquiry α) (f : α → Inquiry β) :
    (q >>= f).run t = (f (q.run t)).run t := by
  induction q with
  | done a => rfl
  | lookUp u next ih => exact ih (t u)

/-- Goes on with a value, if there is one. -/
def andThen (x : Except Fault α) (f : α → Inquiry (Except Fault β)) : Inquiry (Except Fault β) :=
  match x with
  | .ok a => f a
  | .error e => done (.error e)

@[simp] theorem run_andThen (t : Tables Callee Filter) (x : Except Fault α)
    (f : α → Inquiry (Except Fault β)) : (andThen x f).run t = x >>= fun a => (f a).run t := by
  cases x <;> rfl

/-- Goes on with the function of a name. -/
def calling (name : String) (f : Callee → Inquiry (Except Fault α)) : Inquiry (Except Fault α) :=
  lookUp (.function name) fun
    | some callee => f callee
    | none => done (.error (.unknownFunction name))

/-- Goes on with the filter of a name. -/
def filtering (name : String) (f : Filter → Inquiry (Except Fault α)) :
    Inquiry (Except Fault α) :=
  lookUp (.filter name) fun
    | some filter => f filter
    | none => done (.error (.unknownFilter name))

end Inquiry

open Inquiry

/-! ### Terms -/

/-- Whether the first of two conditions decides. -/
def Connective.isDecided (c : Connective) : Except Fault Bool → Bool
  | .error _ => true
  | .ok b =>
    match c with
    | .both => !b
    | .either => b

mutual

/-- What a term means. -/
def Term.inquiry (s : Setting) : Term → Inquiry Meaning
  | .call name args => do
    let v ← calling name fun f => do
      let values ← argsInquiry s args
      return inside (.inFunction name) (values >>= f)
    return .ofCall name v
  | .joined parts => do
    let text ← partsInquiry s parts
    return .ofText (joinSource parts) text
  | .arithmetic op l r => do
    let m ← l.inquiry s
    let result ← andThen m.number fun x => do
      let m' ← r.inquiry s
      return m'.number >>= fun y => ofOperand (calculate op l r x y)
    return .ofResult result
  | .compared rel l r => do
    -- the right side is looked at even if the left one fails, which changes no outcome
    let m ← l.inquiry s
    let m' ← r.inquiry s
    return comparisonMeaning (verdict rel m m')
  | .connected c l r => do
    let m ← l.inquiry s
    if c.isDecided m.condition then return .ofCondition m.condition .other
    let m' ← r.inquiry s
    return .ofCondition m'.condition .other
  | .member absent l r => do
    let m ← l.inquiry s
    let found ← andThen m.value fun x => do
      let m' ← r.inquiry s
      return m'.value >>= fun y => ofOperand (isMember x y) >>= fun found => .ok (found != absent)
    return .ofCondition found .other
  | .tested path opposite name args => do
    let values ← itemsInquiry s args
    return .ofCondition (do
      match standardTest? name with
      | none => .error (.unknownTest name)
      | some test =>
        inside (.inTest name) (do
          let values ← values
          let outcome ← ofTest (test (s.lookup path).toOption values)
          return outcome != opposite)) (.test name)
  | .array items => do
    let values ← itemsInquiry s items
    let v : Except Fault Json := values.map .array
    return ⟨v, v.map isTruthy, .error (.operand .other)⟩
  | .filtered t name args => do
    let m ← t.inquiry s
    let v ←
      if s.supplies name t then defaultInquiry s args
      else if isIdle name then pure m.value
      else andThen m.value fun v => filtering name fun f => do
        let values ← argsInquiry s args
        return inside (.inFilter name) (values >>= f v)
    return filteredMeaning t m v
  | .negated (.compared rel l r) => do
    let m ← l.inquiry s
    let m' ← r.inquiry s
    return negatedComparison (verdict rel m m')
  | .negated t => do
    let m ← t.inquiry s
    return negatedMeaning s t m
  | t => return t.meaning s

/-- The values of named arguments. -/
def argsInquiry (s : Setting) : List (String × Term) → Inquiry (Except Fault Values)
  | [] => return .ok []
  | (key, t) :: rest => do
    let m ← t.inquiry s
    andThen m.value fun v => do
      let values ← argsInquiry s rest
      return values >>= fun vs => .ok ((key, v) :: vs)

/-- The value that stands in for a variable without one. -/
def defaultInquiry (s : Setting) : List (String × Term) → Inquiry (Except Fault Json)
  | [] => return .error .noDefault
  | (key, t) :: rest => do
    if key = "value" then
      let m ← t.inquiry s
      return m.value
    else defaultInquiry s rest

/-- The values of terms, in order. -/
def itemsInquiry (s : Setting) : List Term → Inquiry (Except Fault (List Json))
  | [] => return .ok []
  | t :: rest => do
    let m ← t.inquiry s
    andThen m.value fun v => do
      let values ← itemsInquiry s rest
      return values >>= fun vs => .ok (v :: vs)

/-- The texts of parts, one after the other. -/
def partsInquiry (s : Setting) : List Term → Inquiry (Except Fault String)
  | [] => return .ok ""
  | t :: rest => do
    let m ← t.inquiry s
    andThen (m.value >>= joinedText t) fun text => do
      let more ← partsInquiry s rest
      return more >>= fun more => .ok (text ++ more)

end

/-! ### Templates -/

mutual

/-- The text of a part of a template. -/
def Node.inquiry (s : Setting) : Node → Inquiry (Except Fault String)
  | .text t => return .ok t
  | .output t => do
    let m ← t.inquiry s
    return m.value.map shown
  | .section name args body => do
    let text ← nodesInquiry s body
    andThen text fun text => do
      if name = "safe" then return .ok text
      filtering name fun f => do
        let values ← argsInquiry s args
        return (inside (.inFilter name) (values >>= f (.string text))).map shown

/-- The texts of the parts, one after the other. -/
def nodesInquiry (s : Setting) : List Node → Inquiry (Except Fault String)
  | [] => return .ok ""
  | n :: rest => do
    let text ← n.inquiry s
    andThen text fun text => do
      let more ← nodesInquiry s rest
      return more >>= fun more => .ok (text ++ more)

end

/-! ### Meanings by looking names up -/

/-- The functions and filters of the evaluation itself. -/
def nativeTables : Tables Callee Filter
  | .function name => standardFunction? name
  | .filter name => standardFilter? name

/-- The rendering of a template. -/
def inquiryOf (name source : String) (vars : Variables) : Inquiry (Except Chain String) :=
  match parse source with
  | none => return .error malformed
  | some nodes => do
    let outcome ← nodesInquiry ⟨.empty, vars, name⟩ nodes
    return outcome.mapError fun fault => fault.chain.under (whileRendering name)

/-- The language in which templates are evaluated. -/
def native : Language Callee Filter where
  own := nativeTables
  ofCallee := id
  ofFilter := id
  State := Inquiry (Except Chain String)
  start := inquiryOf
  move
    | .done outcome => .ends outcome
    | .lookUp u next => .lookUp u next

section

variable {α : Type} (r : Registry)

@[simp] theorem run_calling (name : String) (f : Callee → Inquiry (Except Fault α)) :
    (calling name f).run (native.tables r) =
      functionNamed r name >>= fun callee => (f callee).run (native.tables r) := by
  rw [calling, Inquiry.run, Language.tables_apply, Use.isTag, functionNamed]
  cases r.contains name with
  | true => rfl
  | false => cases h : standardFunction? name <;> simp [native, nativeTables, h] <;> rfl

@[simp] theorem run_filtering (name : String) (f : Filter → Inquiry (Except Fault α)) :
    (filtering name f).run (native.tables r) =
      filterNamed r name >>= fun filter => (f filter).run (native.tables r) := by
  rw [filtering, Inquiry.run, Language.tables_apply, Use.isTag, filterNamed]
  cases isTagFilter r name with
  | true => rfl
  | false => cases h : standardFilter? name <;> simp [native, nativeTables, h] <;> rfl

variable (s : Setting)

theorem lookup_withRegistry (path : String) :
    ({ s with registry := r } : Setting).lookup path = s.lookup path := rfl

/-- Whether a variable has a value is no matter of the registry. -/
theorem lacks_withRegistry (t : Term) :
    ({ s with registry := r } : Setting).lacks t = s.lacks t := by
  fun_induction Setting.lacks s t with
  | case1 path => rfl
  | case2 path name args => rfl
  | case3 t name args hpath ih => rw [Setting.lacks, ih]; exact hpath
  | case4 t hvariable hfiltered => rw [Setting.lacks] <;> assumption

theorem supplies_withRegistry (name : String) (t : Term) :
    ({ s with registry := r } : Setting).supplies name t = s.supplies name t := by
  cases t <;> rfl

theorem negatedMeaning_withRegistry (t : Term) (m : Meaning) :
    negatedMeaning { s with registry := r } t m = negatedMeaning s t m := by
  rw [negatedMeaning, negatedMeaning, lacks_withRegistry]

theorem meaning_negated {t : Term} (h : ∀ rel l r, t ≠ .compared rel l r) :
    (Term.negated t).meaning s = negatedMeaning s t (t.meaning s) := by
  rw [Term.meaning]
  exact h

theorem inquiry_negated {t : Term} (h : ∀ rel l r, t ≠ .compared rel l r) :
    (Term.negated t).inquiry s = do
      let m ← t.inquiry s
      return negatedMeaning s t m := by
  rw [Term.inquiry]
  exact h

theorem connect_eq (c : Connective) (m m' : Meaning) :
    connect c m m' = if c.isDecided m.condition then m.condition else m'.condition := by
  unfold connect
  cases m.condition with
  | error e => rfl
  | ok b => cases c <;> cases b <;> rfl

end

mutual

/-- **A term means what it did.** -/
theorem Term.run_inquiry (r : Registry) (s : Setting) :
    ∀ t : Term, (t.inquiry s).run (native.tables r) = t.meaning { s with registry := r }
  | .text _ | .int _ | .float _ | .bool _ | .variable _ | .foreign _ _ => by
    simp only [Term.inquiry, Term.meaning, run_pure, lookup_withRegistry]
  | .call name args => by
    simp only [Term.inquiry, Term.meaning, run_bind, run_calling, run_pure,
      run_argsInquiry r s args]
  | .joined parts => by
    simp only [Term.inquiry, Term.meaning, run_bind, run_pure, run_partsInquiry r s parts]
  | .arithmetic op l rt => by
    simp only [Term.inquiry, Term.meaning, run_bind, run_andThen, run_pure, l.run_inquiry r s,
      rt.run_inquiry r s]
  | .compared rel l rt => by
    simp only [Term.inquiry, Term.meaning, run_bind, run_pure, l.run_inquiry r s,
      rt.run_inquiry r s]
  | .connected c l rt => by
    simp only [Term.inquiry, Term.meaning, run_bind, l.run_inquiry r s, connect_eq]
    split <;> simp only [run_bind, run_pure, rt.run_inquiry r s]
  | .member absent l rt => by
    simp only [Term.inquiry, Term.meaning, run_bind, run_andThen, run_pure, l.run_inquiry r s,
      rt.run_inquiry r s]
    rfl
  | .tested path opposite name args => by
    simp only [Term.inquiry, Term.meaning, run_bind, run_pure, run_itemsInquiry r s args]
    rfl
  | .array items => by
    simp only [Term.inquiry, Term.meaning, run_bind, run_pure, run_itemsInquiry r s items]
  | .filtered t name args => by
    simp only [Term.inquiry, Term.meaning, run_bind, t.run_inquiry r s, supplies_withRegistry]
    split
    · simp only [run_bind, run_pure, run_defaultInquiry r s args]
    · split
      · rfl
      · simp only [run_andThen, run_filtering, run_bind, run_pure, run_argsInquiry r s args]
  | .negated t => by
    have ht := t.run_inquiry r s
    cases t with
    | compared rel l rt =>
      simp only [Term.inquiry, Term.meaning, run_bind, run_pure, l.run_inquiry r s,
        rt.run_inquiry r s]
    | _ =>
      rw [inquiry_negated s (by simp), meaning_negated _ (by simp), run_bind, run_pure, ht,
        negatedMeaning_withRegistry r s]

theorem run_argsInquiry (r : Registry) (s : Setting) : ∀ args : List (String × Term),
    (argsInquiry s args).run (native.tables r) = evalArgs { s with registry := r } args
  | [] => by simp only [argsInquiry, evalArgs, run_pure]
  | (key, t) :: rest => by
    simp only [argsInquiry, evalArgs, run_bind, run_andThen, run_pure, t.run_inquiry r s,
      run_argsInquiry r s rest]
    rfl

theorem run_defaultInquiry (r : Registry) (s : Setting) : ∀ args : List (String × Term),
    (defaultInquiry s args).run (native.tables r) = evalDefault { s with registry := r } args
  | [] => by simp only [defaultInquiry, evalDefault, run_pure]
  | (key, t) :: rest => by
    simp only [defaultInquiry, evalDefault]
    split
    · simp only [run_bind, run_pure, t.run_inquiry r s]
    · exact run_defaultInquiry r s rest

theorem run_itemsInquiry (r : Registry) (s : Setting) : ∀ items : List Term,
    (itemsInquiry s items).run (native.tables r) = evalItems { s with registry := r } items
  | [] => by simp only [itemsInquiry, evalItems, run_pure]
  | t :: rest => by
    simp only [itemsInquiry, evalItems, run_bind, run_andThen, run_pure, t.run_inquiry r s,
      run_itemsInquiry r s rest]
    rfl

theorem run_partsInquiry (r : Registry) (s : Setting) : ∀ parts : List Term,
    (partsInquiry s parts).run (native.tables r) = evalParts { s with registry := r } parts
  | [] => by simp only [partsInquiry, evalParts, run_pure]
  | t :: rest => by
    simp only [partsInquiry, evalParts, run_bind, run_andThen, run_pure, t.run_inquiry r s,
      run_partsInquiry r s rest, bind_assoc]
    rfl

end

mutual

/-- **A part of a template has the text that it had.** -/
theorem Node.run_inquiry (r : Registry) (s : Setting) :
    ∀ n : Node, (n.inquiry s).run (native.tables r) = n.render { s with registry := r }
  | .text t => by simp only [Node.inquiry, Node.render, run_pure]
  | .output t => by
    simp only [Node.inquiry, Node.render, Term.eval, run_bind, run_pure, t.run_inquiry r s]
    rfl
  | .section name args body => by
    simp only [Node.inquiry, Node.render, run_bind, run_andThen, run_nodesInquiry r s body]
    congr 1
    funext text
    split
    · rfl
    · simp only [run_filtering, run_bind, run_pure, run_argsInquiry r s args]
      rfl

theorem run_nodesInquiry (r : Registry) (s : Setting) : ∀ nodes : List Node,
    (nodesInquiry s nodes).run (native.tables r) = renderNodes { s with registry := r } nodes
  | [] => by simp only [nodesInquiry, renderNodes, run_pure]
  | n :: rest => by
    simp only [nodesInquiry, renderNodes, run_bind, run_andThen, run_pure, n.run_inquiry r s,
      run_nodesInquiry r s rest]
    rfl

end

/-! ### Templates by looking names up -/

/-- The names that the rendering of a template looks up in the engine for a registry. -/
def namesIn (r : Registry) (name source : String) (vars : Variables) : List Use :=
  (inquiryOf name source vars).names (native.tables r)

section

variable {t : Tables Callee Filter}

/-- A computation is led to its end, by way of its names. -/
theorem native_leads (q : Inquiry (Except Chain String)) :
    native.Leads t q (q.names t) (.done (q.run t)) := by
  induction q with
  | done o => exact .refl _
  | lookUp u next ih => exact .step (.lookUp rfl) (ih (t u))

theorem names_of_step {q q' : native.State} {us : List Use} (h : native.Step t q us q') :
    Inquiry.names t q = us ++ Inquiry.names t q' := by
  cases q with
  | done o =>
    cases h with
    | on h => cases h
    | lookUp h => cases h
  | lookUp u next =>
    cases h with
    | on h => cases h
    | lookUp h =>
      cases h
      rfl

theorem names_of_leads {q q' : native.State} {us : List Use} (h : native.Leads t q us q') :
    Inquiry.names t q = us ++ Inquiry.names t q' := by
  induction h with
  | refl q => rfl
  | step h _ ih => rw [names_of_step h, ih, List.append_assoc]

/-- A name to which a computation comes is one that it looks up. -/
theorem mem_names_of_reaches {q : native.State} {us : List Use} {u : Use}
    {next : Option (u.Of Callee Filter) → native.State} (h : native.Reaches t q us u next) :
    u ∈ Inquiry.names t q := by
  obtain ⟨q', hleads, hmove⟩ := h
  rw [names_of_leads hleads, List.mem_append]
  cases q' with
  | done o => cases hmove
  | lookUp v next' =>
    cases hmove
    exact .inr List.mem_cons_self

end

/-- **Templates are rendered by the engines of a language.** -/
theorem native_renders_iff {r : Registry} {name source : String} {vars : Variables}
    {outcome : Except RenderError String} :
    native.Renders r name source vars outcome ↔ render r name source vars = outcome := by
  have hrenders : native.Renders r name source vars (render r name source vars) := by
    refine ⟨_, _, _, native_leads (inquiryOf name source vars), rfl, ?_⟩
    unfold render inquiryOf
    cases parse source with
    | none => rfl
    | some nodes =>
      simp only [run_bind, run_pure, run_nodesInquiry]
      cases renderNodes ⟨r, vars, name⟩ nodes <;> rfl
  exact ⟨hrenders.eq, fun h => h ▸ hrenders⟩

end Template

end JellyViews
