/-
**Templates from the inside out.**

A template renders the body of a section first, and then applies the filter of the section to the
text.  Calls in a program go the other way: the outer call settles what it writes, and runs its body
in the middle of writing it, into the same context.  Both orders succeed for the same forests of
calls, with the same text, although they may come upon different errors: what a call writes around
its body is settled without looking at the body.

Main definitions:

* `Tag.Registry.textOf` — the text of a call, by the text of its body;
* `Template.Tree` — texts and calls with scalar arguments, nested in each other;
* `Template.Tree.insideOut`, `Template.Tree.nested` — its text in the two orders;
* `Template.Tree.node` — the tree as a part of a template.

Main results:

* `Tag.emit_gives`, `Tag.renderExpr_toOption` — **both styles of calls give the text of the call**;
* `Tag.textOf_section` — a call with a body needs the text of the body;
* `Template.nestedAll_gives` — nested calls give what is evaluated from the inside out;
* `Template.renderNodes_nodesOf` — evaluating from the inside out is what templates do;
* `Template.insideOut_eq_nested` — **both orders agree**;
* `Template.insideOut_eq_nested_sizes` — a section around a loop over options.
-/

import JellyViews.Proofs.Markup.Steps
import JellyViews.Proofs.OrderedMap
import JellyViews.Proofs.Tag.Settling
import JellyViews.Proofs.Template.Raising

set_option relaxedAutoImplicit false
set_option autoImplicit false

namespace JellyViews

/-! ### The text of a call -/

namespace Tag

open Markup

/-- The text of the option in front of a body. -/
def optionText : Option Selection → String
  | none => ""
  | some s => (Piece.startTag optionElement (optionAttributes s)).text ++ s.label ++
      (Piece.endTag optionElement).text

/-- The text of a form around a body that gives `x`. -/
def Form.textOf (x : Option String) : Form → Option String
  | .void name attrs => some (Piece.voidTag name attrs).text
  | .around name attrs _ option => x.map fun t =>
      (Piece.startTag name attrs).text ++ (optionText option ++ t) ++ (Piece.endTag name).text

/-- The text of a call with a body that gives `x`, or without a body. -/
def Registry.textOf (r : Registry) (name : String) (call : Call) (hasBody : Bool)
    (x : Option String) : Option String :=
  match r.get name with
  | .error _ => none
  | .ok op =>
    match op.form call hasBody with
    | .error _ => none
    | .ok form => form.textOf x

section

variable {body : Option Block} {x : Option String}

theorem content_gives (option : Option Selection) {scope : Scope}
    (hbody : (runBody scope body).Gives x) :
    (content option body scope).Gives (x.map fun t => optionText option ++ t) := by
  cases option with
  | none => exact Render.gives_bind Render.gives_pure hbody
  | some s =>
    have hoption := Render.gives_around optionElement (optionAttributes s)
      (Render.gives_append s.label)
    exact Render.gives_bind hoption hbody

theorem write_gives (form : Form) (hbody : ∀ scope, (runBody scope body).Gives x) :
    (form.write body).Gives (form.textOf x) := by
  cases form with
  | void name attrs => exact Render.gives_voidTag name attrs
  | around name attrs scope option =>
    have haround := Render.gives_around name attrs (content_gives option (hbody scope))
    rwa [Option.map_map] at haround

/-- **A call written into a context gives the text of the call.** -/
theorem emit_gives (r : Registry) (name : String) (call : Call)
    (hbody : ∀ scope, (runBody scope body).Gives x) :
    (r.emit name call body).Gives (r.textOf name call body.isSome x) := by
  unfold Registry.emit Registry.textOf
  cases r.get name with
  | error e => exact Render.gives_throw e
  | ok op =>
    dsimp only [Operation.emit]
    cases op.form call body.isSome with
    | error e => exact Render.gives_throw e
    | ok form => exact write_gives form hbody

/-- **So does a call that is turned into a text of its own.** -/
theorem renderExpr_toOption (r : Registry) (name : String) (call : Call)
    (hbody : ∀ scope, (runBody scope body).Gives x) :
    (r.renderExpr name call body).toOption = r.textOf name call body.isSome x := by
  have hemit := emit_gives r name call hbody
  unfold Registry.renderExpr Registry.express
  cases htext : r.textOf name call body.isSome x with
  | none =>
    rw [htext] at hemit
    obtain ⟨e, c, hc⟩ := hemit Context.empty
    rw [hc]
    rfl
  | some t =>
    rw [htext] at hemit
    obtain ⟨c, hc, htext, hopen⟩ := hemit Context.empty
    have hfinish : c.finish = .ok t := by
      -- nothing is left open
      simp [Context.finish, hopen, htext]
    rw [hc]
    simp [hfinish, Except.toOption]

/-- A body that is a text gives this text. -/
theorem runBody_textBlock_gives (body : Option String) (scope : Scope) :
    (runBody scope (body.map textBlock)).Gives (some (body.getD "")) := by
  cases body with
  | none => exact Render.gives_pure
  | some t => exact Render.gives_append t

/-- Only an operation that takes a body has a form with one, which is a form around the body. -/
theorem of_form_with_body {op : Operation} {call : Call} {form : Form}
    (h : op.form call true = .ok form) : op.acceptsBody = true ∧ form.textOf none = none := by
  have hsettles := op.settles_form call true
  rw [h] at hsettles
  cases hsettles with
  | void attrs hop hbody => cases hbody
  | around attrs scope option hop => exact ⟨hop, rfl⟩

/-- **A call with a body needs the text of the body**, and an operation that takes one. -/
theorem textOf_section (r : Registry) (name : String) (call : Call) (x : Option String) :
    r.textOf name call true x =
      x.bind fun t =>
        if Template.isTagFilter r name then r.textOf name call true (some t) else none := by
  have hname : Template.isTagFilter r name = (r.get name).toOption.any Operation.acceptsBody := by
    unfold Template.isTagFilter Registry.get
    cases r.find? name <;> rfl
  unfold Registry.textOf
  rw [hname]
  cases r.get name with
  | error e => cases x <;> rfl
  | ok op =>
    dsimp only
    cases hform : op.form call true with
    | error e => cases x <;> simp
    | ok form =>
      obtain ⟨hop, hnone⟩ := of_form_with_body hform
      cases x with
      | none => exact hnone
      | some t => simp [Except.toOption, hop]

end

end Tag

/-! ### Arguments -/

namespace Template

open Tag Markup

/-- The values that a tag takes. -/
inductive Scalar where
  | text (s : String)
  | int (n : Int)
  | float (x : Float)
  | bool (b : Bool)

namespace Scalar

/-- The scalar as a value of a template. -/
def value : Scalar → Json
  | text s => .string s
  | int n => .int n
  | float x => .float x
  | bool b => .bool b

/-- The scalar as a term of a template. -/
def term : Scalar → Term
  | text s => .text s
  | int n => .int n
  | float x => .float x
  | bool b => .bool b

/-- The scalar as an argument of a call. -/
def argument : Scalar → String
  | text s => s
  | int n => Decimal.ofInt n
  | float x => Decimal.dataLayout.write x
  | bool b => Json.boolText b

theorem attributeValue_value (tag key : String) (v : Scalar) :
    attributeValue tag key v.value = .ok v.argument := by
  cases v <;> rfl

theorem eval_term (s : Setting) (v : Scalar) : v.term.eval s = .ok v.value := by
  cases v <;> rfl

end Scalar

/-- The arguments as values. -/
def valuesOf (args : List (String × Scalar)) : Values := args.map (Prod.map id Scalar.value)

/-- The arguments as terms. -/
def termsOf (args : List (String × Scalar)) : List (String × Term) :=
  args.map (Prod.map id Scalar.term)

/-- The call with these arguments, in the order of their names. -/
def callWith (args : List (String × Scalar)) : Call :=
  ((OrderedMap.ofList args).sortBy fun a b => decide (a ≤ b)).entries.foldl
    (fun call a => call.arg a.1 a.2.argument) ∅

theorem addArguments_values (tag : String) (call : Call) (args : List (String × Scalar)) :
    addArguments tag call (args.map (Prod.map id Scalar.value)) =
      .ok (args.foldl (fun call a => call.arg a.1 a.2.argument) call) := by
  induction args generalizing call with
  | nil => rfl
  | cons a args ih =>
    rw [List.map_cons, Prod.map, addArguments, Scalar.attributeValue_value]
    exact ih _

/-- Scalars are never refused. -/
theorem callOf_valuesOf (tag : String) (args : List (String × Scalar)) :
    callOf tag (OrderedMap.ofList (valuesOf args)) = .ok (callWith args) := by
  have hsort : ((OrderedMap.ofList (valuesOf args)).sortBy fun a b => decide (a ≤ b)).entries =
      ((OrderedMap.ofList args).sortBy fun a b => decide (a ≤ b)).entries.map
        (Prod.map id Scalar.value) := by
    change (OrderedMap.ofList (args.map (Prod.map id Scalar.value))).entries.mergeSort _ = _
    rw [OrderedMap.entries_ofList_map]
    exact (List.map_mergeSort (f := Prod.map id Scalar.value) fun a _ b _ => rfl).symm
  rw [callOf, hsort]
  exact addArguments_values tag ∅ _

theorem evalArgs_termsOf (s : Setting) (args : List (String × Scalar)) :
    evalArgs s (termsOf args) = .ok (valuesOf args) := by
  induction args with
  | nil => rfl
  | cons a args ih =>
    have hcons : evalArgs s (termsOf (a :: args)) = (do
        let v ← a.2.term.eval s
        let vs ← evalArgs s (termsOf args)
        return (a.1, v) :: vs) := by
      rw [termsOf, List.map_cons, Prod.map, evalArgs]
      rfl
    rw [hcons, Scalar.eval_term, ih]
    rfl

/-- Arguments that are in the order of their names already. -/
theorem callWith_of_pairwise {args : List (String × Scalar)}
    (h : (OrderedMap.ofList args).entries.Pairwise fun a b => decide (a.1 ≤ b.1) = true) :
    callWith args = (OrderedMap.ofList args).entries.foldl
      (fun call a => call.arg a.1 a.2.argument) ∅ := by
  have hsort : ((OrderedMap.ofList args).sortBy fun a b => decide (a ≤ b)).entries =
      (OrderedMap.ofList args).entries := List.mergeSort_of_pairwise h
  rw [callWith, hsort]

/-! ### Forests -/

/-- A text, or a call with scalar arguments and perhaps a body. -/
inductive Tree where
  | text (s : String)
  | call (name : String) (args : List (String × Scalar))
  | section (name : String) (args : List (String × Scalar)) (body : List Tree)

mutual

/-- The text of a tree, with the bodies of calls first.  A name that is no tag for a body is
unknown. -/
def Tree.insideOut (r : Registry) : Tree → Except Fault String
  | .text s => .ok s
  | .call name args => (inside (.inFunction name) (tagText r name (valuesOf args) none)).map shown
  | .section name args body => do
    let text ← insideOutAll r body
    if isTagFilter r name then
      (inside (.inFilter name) (tagText r name (valuesOf args) (some text))).map shown
    else .error (.unknownFilter name)

/-- The texts of trees, one after the other. -/
def insideOutAll (r : Registry) : List Tree → Except Fault String
  | [] => .ok ""
  | tree :: trees => do
    let text ← tree.insideOut r
    let more ← insideOutAll r trees
    return text ++ more

end

mutual

/-- Writes a tree into a context, with the bodies of calls as blocks. -/
def Tree.nested (r : Registry) : Tree → Render Unit
  | .text s => append s
  | .call name args => r.emit name (callWith args) none
  | .section name args body => r.emit name (callWith args) (some fun _ => nestedAll r body)

/-- Writes trees, one after the other. -/
def nestedAll (r : Registry) : List Tree → Render Unit
  | [] => pure ()
  | tree :: trees => do
    tree.nested r
    nestedAll r trees

end

/-- The text of a tag around a text is the text of its call. -/
theorem tagText_toOption (r : Registry) (name : String) (args : List (String × Scalar))
    (body : Option String) (mark : Fault → Fault) :
    ((inside mark (tagText r name (valuesOf args) body)).map shown).toOption =
      r.textOf name (callWith args) body.isSome (body.getD "") := by
  have hrender := renderExpr_toOption r name (callWith args) (runBody_textBlock_gives body)
  rw [Option.isSome_map] at hrender
  rw [← hrender, tagText, callOf_valuesOf]
  dsimp only
  cases r.renderExpr name (callWith args) (body.map textBlock) <;> rfl

theorem toOption_bind {α β : Type} (x : Except Fault α) (f : α → Except Fault β) :
    (x >>= f).toOption = x.toOption.bind fun a => (f a).toOption := by
  cases x <;> rfl

/-- The text of a section is the text of its call around the text of its body. -/
theorem insideOut_section_toOption (r : Registry) (name : String) (args : List (String × Scalar))
    (body : List Tree) :
    ((Tree.section name args body).insideOut r).toOption =
      r.textOf name (callWith args) true (insideOutAll r body).toOption := by
  rw [Tree.insideOut, toOption_bind, textOf_section]
  congr 1
  funext text
  split
  · exact tagText_toOption r name args (some text) (.inFilter name)
  · rfl

theorem insideOutAll_cons_toOption (r : Registry) (tree : Tree) (trees : List Tree) :
    (insideOutAll r (tree :: trees)).toOption = (tree.insideOut r).toOption.bind fun t =>
      (insideOutAll r trees).toOption.map fun u => t ++ u := by
  rw [insideOutAll, toOption_bind]
  congr 1
  funext t
  cases insideOutAll r trees <;> rfl

mutual

/-- **Nested calls give what is evaluated from the inside out.** -/
theorem Tree.nested_gives (r : Registry) :
    ∀ tree : Tree, (tree.nested r).Gives (tree.insideOut r).toOption
  | .text s => Render.gives_append s
  | .call name args => by
    rw [Tree.nested, Tree.insideOut, tagText_toOption]
    exact emit_gives r name (callWith args) fun _ => Render.gives_pure
  | .section name args body => by
    -- the call comes first here, but all that it needs of its body is the text
    rw [Tree.nested, insideOut_section_toOption]
    exact emit_gives r name (callWith args) fun _ => nestedAll_gives r body

theorem nestedAll_gives (r : Registry) :
    ∀ trees : List Tree, (nestedAll r trees).Gives (insideOutAll r trees).toOption
  | [] => Render.gives_pure
  | tree :: trees => by
    have hboth := Render.gives_bind (Tree.nested_gives r tree) (nestedAll_gives r trees)
    rw [nestedAll, insideOutAll_cons_toOption]
    exact hboth

end

/-! ### Templates -/

mutual

/-- The tree as a part of a template. -/
def Tree.node : Tree → Node
  | .text s => .text s
  | .call name args => .output (.call name (termsOf args))
  | .section name args body => .section name (termsOf args) (nodesOf body)

/-- Trees as parts of a template. -/
def nodesOf : List Tree → List Node
  | [] => []
  | tree :: trees => tree.node :: nodesOf trees

end

mutual

/-- Whether all names in the tree are those of tags, and those of sections of tags with a body.  A
section `safe` is one of the language. -/
def Tree.isTagged (r : Registry) : Tree → Bool
  | .text _ => true
  | .call name _ => r.contains name
  | .section name _ body => isTagFilter r name && name != "safe" && areTagged r body

/-- Whether this holds of trees. -/
def areTagged (r : Registry) : List Tree → Bool
  | [] => true
  | tree :: trees => tree.isTagged r && areTagged r trees

end

theorem eval_call (s : Setting) {name : String} (args : List (String × Scalar))
    (h : s.registry.contains name = true) :
    (Term.call name (termsOf args)).eval s =
      inside (.inFunction name) (tagText s.registry name (valuesOf args) none) := by
  rw [eval_call_eq (functionNamed_tag h), evalArgs_termsOf]
  rfl

theorem render_section (s : Setting) {name : String} (args : List (String × Scalar))
    (body : List Node) (h : isTagFilter s.registry name = true) (hname : name ≠ "safe") :
    (Node.section name (termsOf args) body).render s = (do
      let text ← renderNodes s body
      (inside (.inFilter name)
        (tagText s.registry name (valuesOf args) (some text))).map shown) := by
  rw [Node.render]
  congr 1
  funext text
  rw [if_neg hname, filterNamed, if_pos h, evalArgs_termsOf]
  change (inside (.inFilter name) (tagText s.registry name (valuesOf args) (some text)) >>=
    fun v => pure (shown v)) = _
  cases inside (.inFilter name) (tagText s.registry name (valuesOf args) (some text)) <;> rfl

mutual

/-- **Templates evaluate tags from the inside out.** -/
theorem Tree.render_node (s : Setting) :
    ∀ tree : Tree, tree.isTagged s.registry = true →
      tree.node.render s = tree.insideOut s.registry
  | .text t, _ => by rw [Tree.node, Node.render, Tree.insideOut]
  | .call name args, h => by
    rw [Tree.node, Node.render, eval_call s args h, Tree.insideOut]
    cases inside (.inFunction name) (tagText s.registry name (valuesOf args) none) <;> rfl
  | .section name args body, h => by
    obtain ⟨⟨hfilter, hname⟩, hbody⟩ : (isTagFilter s.registry name = true ∧ name ≠ "safe") ∧
        areTagged s.registry body = true := by simpa [Tree.isTagged] using h
    rw [Tree.node, render_section s args _ hfilter hname, renderNodes_nodesOf s body hbody,
      Tree.insideOut]
    simp only [hfilter, if_true]

theorem renderNodes_nodesOf (s : Setting) :
    ∀ trees : List Tree, areTagged s.registry trees = true →
      renderNodes s (nodesOf trees) = insideOutAll s.registry trees
  | [], _ => by rw [nodesOf, renderNodes, insideOutAll]
  | tree :: trees, h => by
    obtain ⟨htree, htrees⟩ : tree.isTagged s.registry = true ∧
        areTagged s.registry trees = true := by simpa [areTagged] using h
    rw [nodesOf, renderNodes, insideOutAll, Tree.render_node s tree htree,
      renderNodes_nodesOf s trees htrees]

end

/-! ### Both orders -/

/-- **Both orders agree.**  A forest can be evaluated from the inside out exactly if it can be
written as nested calls, into any context; and then it is the same text that is appended, and the
same elements are open.  In a template whose names are those of tags, evaluating from the inside out
is rendering. -/
theorem insideOut_eq_nested (r : Registry) (forest : List Tree) :
    (∀ c : Context, ((nestedAll r forest).on c).1 = .ok () ↔ ∃ t, insideOutAll r forest = .ok t) ∧
      (∀ t, insideOutAll r forest = .ok t → ∀ c : Context,
        ((nestedAll r forest).on c).2.text = c.text ++ t ∧
          ((nestedAll r forest).on c).2.openElements = c.openElements) ∧
      ∀ s : Setting, s.registry = r → areTagged r forest = true →
        renderNodes s (nodesOf forest) = insideOutAll r forest := by
  have hgives := nestedAll_gives r forest
  refine ⟨fun c => ?_, fun t ht c => ?_, ?_⟩
  · cases htext : insideOutAll r forest with
    | error e =>
      rw [htext] at hgives
      obtain ⟨e', c', hc⟩ := hgives c
      simp [hc]
    | ok t =>
      rw [htext] at hgives
      obtain ⟨c', hc, -⟩ := hgives c
      simp [hc]
  · rw [ht] at hgives
    obtain ⟨c', hc, htext, hopen⟩ := hgives c
    rw [hc]
    exact ⟨htext, hopen⟩
  · rintro s rfl htagged
    exact renderNodes_nodesOf s forest htagged

/-- A section around a loop over options, which has a body in turn, and around an input. -/
def sizesForest : List Tree :=
  [.section "section" [("title", .text "Sizes")]
    [.section "options_for" [("field", .text "size"), ("items", .text "sizes")] [.text "more"],
      .call "textbox" [("name", .text "note"), ("wide", .bool true)]]]

/-- The text of `sizesForest`. -/
def sizesText : String :=
  "<f:section title=\"Sizes\"><j:forEach var=\"option\" items=\"$\x7bdescriptor.sizes\x7d\">" ++
    "<f:option selected=\"$\x7boption.name == instance.size\x7d\">$\x7boption.name\x7d</f:option>" ++
    "more</j:forEach><f:textbox name=\"note\" value=\"$\x7binstance.note\x7d\" wide=\"true\"/>" ++
    "</f:section>"

/-- Where `sizesForest` is rendered. -/
def sizesSetting : Setting := ⟨Registry.standard, ⟨"sizes.tera", "sizes"⟩, "sizes.tera"⟩

theorem nestedAll_sizes :
    ∃ c, (nestedAll Registry.standard sizesForest).on Context.empty = (.ok (), c) ∧
      c.text = sizesText := by
  have hcalls : callWith [("title", .text "Sizes")] = Call.ofList [("title", "Sizes")] ∧
      callWith [("field", .text "size"), ("items", .text "sizes")] =
        Call.ofList [("field", "size"), ("items", "sizes")] ∧
      callWith [("name", .text "note"), ("wide", .bool true)] =
        Call.ofList [("name", "note"), ("wide", "true")] :=
    ⟨callWith_of_pairwise (by decide), callWith_of_pairwise (by decide),
      callWith_of_pairwise (by decide)⟩
  simp only [sizesForest, nestedAll, Tree.nested, hcalls]
  exact ⟨_, rfl, by decide +kernel⟩

/-- A template renders the text that is written for `sizesForest`. -/
theorem insideOut_eq_nested_sizes :
    ∃ c, (nestedAll Registry.standard sizesForest).on Context.empty = (.ok (), c) ∧
      c.finish = .ok sizesText ∧
      renderNodes sizesSetting (nodesOf sizesForest) = .ok sizesText := by
  obtain ⟨c, hc, hsizes⟩ := nestedAll_sizes
  obtain ⟨hsuccess, htext, hrender⟩ := insideOut_eq_nested Registry.standard sizesForest
  obtain ⟨t, ht⟩ := (hsuccess Context.empty).1 (by rw [hc])
  obtain ⟨htext, hopen⟩ := htext t ht Context.empty
  rw [hc] at htext hopen
  obtain rfl : sizesText = t := by simpa [hsizes] using htext
  have hclosed : c.openElements = [] := hopen
  have hfinish : c.finish = .ok sizesText := by simp [Context.finish, hclosed, hsizes]
  exact ⟨c, hc, hfinish, (hrender sizesSetting rfl (by decide)).trans ht⟩

end Template

end JellyViews
