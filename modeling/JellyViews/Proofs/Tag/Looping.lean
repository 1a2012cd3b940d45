/-
**Loops and their bodies.**

Both loops write one element, which declares a variable and a collection, and run their body once
inside of it.  The body is given the variable that the element declares, whether the call names it
or not.  No argument that a loop understands comes again among the other attributes.

What a body does is up to the body.  Bodies that write with the operations of a context can only
add to the text; then the text of the loop is its start tag, the option if there is one, what the
body adds, and the end tag.

Main definitions:

* `Markup.Context.inside` — a context in which an element is open, behind some pieces;
* `Markup.Render.Extends` — steps that only add to the text;
* `Tag.optionPieces` — an option as it is written;
* `Tag.RunsOnce` — steps that write an element around one run of their body.

Main results:

* `Tag.Program.extends` — **programs only add to the text**;
* `Tag.on_emit_of_around`, `Tag.runsOnce_of_around` — **operations that take a body run it once**;
* `Tag.Loop.overItems_eq`, `Tag.Loop.overOptions_eq` — what the loops settle;
* `Tag.Loop.entries_attributes` — the attributes of a loop;
* `Tag.loop_runs_body` — **the law of loops**;
* `Tag.loop_runs_body_nested` — a loop over options in a loop.
-/

import JellyViews.Proofs.Tag.Attributes
import JellyViews.Proofs.Tag.Pushing

set_option relaxedAutoImplicit false
set_option autoImplicit false

namespace JellyViews

namespace Markup

/-! ### Steps that only add to the text -/

namespace Render

/-- Whether the step succeeds or fails, it adds to the text and takes nothing away. -/
def Extends (step : Render Unit) : Prop :=
  ∀ c : Context, ∃ out, (step.on c).2.text = c.text ++ out

theorem Logged.extends {step : Render Unit} (h : step.Logged) : step.Extends := by
  intro c
  obtain ⟨ps, hps⟩ := h c
  exact ⟨joined (ps.map Piece.text), hps.text_eq⟩

end Render

/-! ### Inside of an element -/

/-- The context in which the element is open, behind its start tag and some pieces. -/
def Context.inside (c : Context) (name : String) (attrs : Attributes) (front : List Piece) :
    Context :=
  { c.pushAll (.startTag name attrs :: front) with openElements := name :: c.openElements }

theorem Context.text_inside (c : Context) (name : String) (attrs : Attributes)
    (front : List Piece) :
    (c.inside name attrs front).text =
      c.text ++ (Piece.startTag name attrs).text ++ joined (front.map Piece.text) := by
  change ((c.push (.startTag name attrs)).pushAll front).text = _
  rw [text_pushAll, text_push]

end Markup

namespace Tag

open Markup

/-- **Programs only add to the text**, whatever fails in them. -/
theorem Program.extends {r : Registry} {step : Render Unit} (h : Program r step) :
    step.Extends :=
  h.logged.extends

/-! ### One run of the body -/

/-- The pieces of an option, if there is one. -/
def optionPieces : Option Selection → List Piece
  | none => []
  | some s =>
    [.startTag optionElement (optionAttributes s), .literal s.label, .endTag optionElement]

/-- Whatever the body does, the step writes the start tag of the element and some pieces, then runs
the body once, giving it the scope, and then closes the element. -/
structure RunsOnce (step : Option Block → Render Unit) (name : String) (attrs : Attributes)
    (front : List Piece) (scope : Scope) : Prop where
  /-- The body runs when the element is open, and the element is closed after it. -/
  run (body : Option Block) (c : Context) :
    (step body).on c =
      (do
        runBody scope body
        closeTag name : Render Unit).on (c.inside name attrs front)
  /-- After a success the body has succeeded, and the end tag comes behind what the body leaves;
  that is what the body adds, if it writes with the operations of a context. -/
  text {body : Option Block} {c c' : Context} (h : (step body).on c = (.ok (), c')) :
    ∃ c₁, (runBody scope body).on (c.inside name attrs front) = (.ok (), c₁) ∧
      c₁.openElements = name :: c'.openElements ∧
      c'.text = c₁.text ++ (Piece.endTag name).text ∧
      ∀ r, (∀ b ∈ body, ∀ s, Program r (b s)) →
        ∃ out, c₁.text = (c.inside name attrs front).text ++ out ∧
          c'.text = c.text ++ (Piece.startTag name attrs).text ++
            joined (front.map Piece.text) ++ out ++ (Piece.endTag name).text

/-- How the body is run settles what the text is. -/
theorem runsOnce_of_run {step : Option Block → Render Unit} {name : String} {attrs : Attributes}
    {front : List Piece} {scope : Scope}
    (h : ∀ body c, (step body).on c =
      (do
        runBody scope body
        closeTag name : Render Unit).on (c.inside name attrs front)) :
    RunsOnce step name attrs front scope where
  run := h
  text {body c c'} hok := by
    rw [h, Render.on_bind] at hok
    rcases hbody : (runBody scope body).on (c.inside name attrs front) with ⟨e | u, c₁⟩
    · simp [hbody] at hok
    · rw [hbody] at hok
      obtain ⟨rest, hopen, rfl⟩ := on_closeTag_eq_ok_iff.1 hok
      have htext := Context.text_push c₁ (.endTag name)
      refine ⟨c₁, rfl, hopen, htext, fun r hprogram => ?_⟩
      have hlogged := runBody_of_compositional compositional_logged
        (fun b hb s => (hprogram b hb s).logged) scope
      obtain ⟨out, hout⟩ := hlogged.extends (c.inside name attrs front)
      rw [hbody] at hout
      refine ⟨out, hout, ?_⟩
      rw [← Context.text_inside, ← hout]
      exact htext

/-- An option is three pieces, and leaves no element open. -/
theorem on_writeOption (s : Selection) (c : Context) :
    (writeOption s).on c = (.ok (), c.pushAll (optionPieces (some s))) := by
  rw [writeOption, Render.on_bind_of_ok (on_openTag optionElement (optionAttributes s) c)]
  exact (Render.on_bind_of_ok rfl).trans (on_closeTag_of_open rfl)

/-- The option comes right behind the start tag; after it the body runs, in the open element. -/
theorem on_emit_of_around {op : Operation} {call : Call} {body : Option Block} {name : String}
    {attrs : Attributes} {scope : Scope} {option : Option Selection}
    (h : op.form call body.isSome = .ok (.around name attrs scope option)) (c : Context) :
    (op.emit call body).on c =
      (do
        runBody scope body
        closeTag name : Render Unit).on (c.inside name attrs (optionPieces option)) := by
  rw [Operation.emit, h]
  change (element name attrs (some (content option body)) scope).on c = _
  unfold element
  rw [Render.on_bind_of_ok (on_openTag name attrs c)]
  cases option with
  | none => rfl
  | some s =>
    have hoption := on_writeOption s
      { c.push (.startTag name attrs) with openElements := name :: c.openElements }
    have hcontent : (runBody scope (some (content (some s) body))).on
        { c.push (.startTag name attrs) with openElements := name :: c.openElements } =
        (runBody scope body).on (c.inside name attrs (optionPieces (some s))) :=
      Render.on_bind_of_ok hoption
    rw [Render.on_bind, hcontent, Render.on_bind]

/-- **Operations that take a body run it once.** -/
theorem runsOnce_of_around {op : Operation} {call : Call} {name : String} {attrs : Attributes}
    {scope : Scope} {option : Option Selection}
    (h : ∀ hasBody, op.form call hasBody = .ok (.around name attrs scope option)) :
    RunsOnce (op.emit call) name attrs (optionPieces option) scope :=
  runsOnce_of_run fun _ => on_emit_of_around (h _)

/-! ### What the loops settle -/

namespace Loop

/-- The arguments that a loop over a collection understands. -/
def itemsArgs : List String := ["items", "var"]

/-- The arguments that a loop over options understands. -/
def optionsArgs : List String := ["items", "field", "selected", "var", "value"]

variable {call : Call} {items selected : String}

/-- The attributes of a loop: nothing that is left of the call replaces the variable or the
collection. -/
theorem entries_attributes (var items : String) {rest : Call} (hvar : rest.get? "var" = none)
    (hitems : rest.get? "items" = none) :
    (attributes var items rest).entries =
      ("var", var) :: ("items", items) :: rest.args.entries := by
  have hvarKey : "var" ∉ "items" :: rest.args.keys :=
    List.not_mem_cons_of_ne_of_not_mem (by decide) (Entries.find_eq_none_iff.1 hvar)
  have hitemsKey : "items" ∉ rest.args.keys := Entries.find_eq_none_iff.1 hitems
  have hkeys : ("var" :: "items" :: rest.args.keys).Nodup :=
    List.nodup_cons.2 ⟨hvarKey, List.nodup_cons.2 ⟨hitemsKey, rest.args.keys_nodup⟩⟩
  exact OrderedMap.entries_insertAll (m := (Attributes.single "var" var).insert "items" items) hkeys

/-- What is left of a call that has taken the variable and the collection is written behind them. -/
theorem entries_attributes_without (call : Call) (var items : String) {names : List String}
    (hvar : "var" ∈ names) (hitems : "items" ∈ names) :
    (attributes var items (call.without names)).entries =
      ("var", var) :: ("items", items) :: call.args.entries.filter fun e => e.1 ∉ names := by
  refine entries_attributes var items ?_ ?_
  · rw [Call.get?_without, if_pos hvar]
  · rw [Call.get?_without, if_pos hitems]

/-- The loop over a collection: what it declares is what it gives to its body. -/
theorem overItems_eq (hitems : call.get? "items" = some items) :
    overItems call =
      let var := (call.get? "var").getD Expression.loopVar
      .ok (.around element (attributes var (Expression.collection items) (call.without itemsArgs))
        ⟨some var⟩ none) := by
  unfold overItems
  rw [Call.require_eq hitems]
  simp only [bind, Except.bind, Call.takeOr_without (show "var" ∉ ["items"] by decide)]
  rfl

/-- The loop over options, too. -/
theorem overOptions_eq (hitems : call.get? "items" = some items)
    (hselected : selectedOf (call.get? "selected") (call.get? "field") = .ok selected) :
    overOptions call =
      let var := (call.get? "var").getD Expression.optionVar
      let value := (call.get? "value").getD Expression.optionValue
      .ok (.around element (attributes var (Expression.collection items) (call.without optionsArgs))
        ⟨some var⟩ (some (Selection.of items selected var value))) := by
  unfold overOptions
  rw [Call.require_eq hitems]
  simp only [bind, Except.bind, Call.take_without (show "field" ∉ ["items"] by decide),
    List.cons_append, List.nil_append,
    Call.take_without (show "selected" ∉ ["items", "field"] by decide), hselected,
    Call.takeOr_without (show "var" ∉ ["items", "field", "selected"] by decide),
    Call.takeOr_without (show "value" ∉ ["items", "field", "selected", "var"] by decide)]
  rfl

/-- A selected value or a field is enough. -/
theorem exists_selectedOf {explicit field : Option String} (h : explicit ≠ none ∨ field ≠ none) :
    ∃ selected, selectedOf explicit field = .ok selected := by
  cases explicit with
  | some s => exact ⟨_, rfl⟩
  | none =>
    obtain ⟨f, rfl⟩ := Option.ne_none_iff_exists'.1 (h.resolve_left fun hnone => hnone rfl)
    exact ⟨f, rfl⟩

end Loop

/-! ### The law of loops -/

/-- **The law of loops.**  Both loops write one element, and run their body once in it, with the
variable that the element declares.  The attributes of the element are the variable, the collection
and what is left of the call, in its order. -/
theorem loop_runs_body (call : Call) {items : String} (hitems : call.get? "items" = some items) :
    (∃ attrs : Attributes,
      let var := (call.get? "var").getD "it"
      attrs.keys.Nodup ∧
      attrs.entries = ("var", var) :: ("items", Expression.collection items) ::
        (call.args.entries.filter fun e => e.1 ∉ ["items", "var"]) ∧
      RunsOnce (Operation.forEach.emit call) "j:forEach" attrs [] ⟨some var⟩) ∧
    (call.get? "selected" ≠ none ∨ call.get? "field" ≠ none →
      ∃ (attrs : Attributes) (selected : String),
        let var := (call.get? "var").getD "option"
        let property := (call.get? "value").getD "name"
        Loop.selectedOf (call.get? "selected") (call.get? "field") = .ok selected ∧
        attrs.keys.Nodup ∧
        attrs.entries = ("var", var) :: ("items", Expression.collection items) ::
          (call.args.entries.filter fun e =>
            e.1 ∉ ["items", "field", "selected", "var", "value"]) ∧
        RunsOnce (Operation.optionsFor.emit call) "j:forEach" attrs
          (optionPieces (some (Selection.of items selected var property))) ⟨some var⟩) := by
  have hoverItems (hasBody : Bool) : Operation.forEach.form call hasBody = .ok _ :=
    Loop.overItems_eq hitems
  refine ⟨⟨_, OrderedMap.keys_nodup _, ?_, runsOnce_of_around hoverItems⟩, fun h => ?_⟩
  · exact Loop.entries_attributes_without call _ _ (by decide) (by decide)
  · obtain ⟨selected, hselected⟩ := Loop.exists_selectedOf h
    have hoverOptions (hasBody : Bool) : Operation.optionsFor.form call hasBody = .ok _ :=
      Loop.overOptions_eq hitems hselected
    refine ⟨_, selected, hselected, OrderedMap.keys_nodup _, ?_,
      runsOnce_of_around hoverOptions⟩
    exact Loop.entries_attributes_without call _ _ (by decide) (by decide)

/-- A call that names the variable, and has an argument that only loops over options understand. -/
def overRows : Call := Call.ofList [("selected", "x"), ("var", "row"), ("items", "$\x7brows\x7d")]

/-- A call with a field, and with one more argument. -/
def overSizes : Call := Call.ofList [("field", "size"), ("id", "s"), ("items", "sizes")]

/-- A loop over options in a loop: each body is given the variable of its own loop. -/
theorem loop_runs_body_nested :
    let inner := blockOf Registry.standard (some [.appendVar])
    let outer := blockOf Registry.standard
      (some [.appendVar, .emit "options_for" overSizes (some [.appendVar]), .appendVar])
    RunsOnce (Operation.optionsFor.emit overSizes) "j:forEach"
      (OrderedMap.ofList
        [("var", "option"), ("items", "$\x7bdescriptor.sizes\x7d"), ("id", "s")])
      (optionPieces (some (Selection.of "sizes" "size" "option" "name"))) ⟨some "option"⟩ ∧
    ∃ c c' : Context, (Operation.forEach.emit overRows outer).on Context.empty = (.ok (), c) ∧
      (Operation.optionsFor.emit overSizes inner).on Context.empty = (.ok (), c') ∧
      c'.text = "<j:forEach var=\"option\" items=\"$\x7bdescriptor.sizes\x7d\" id=\"s\">" ++
        "<f:option selected=\"$\x7boption.name == instance.size\x7d\">$\x7boption.name\x7d" ++
        "</f:option>option</j:forEach>" ∧
      c.text = "<j:forEach var=\"row\" items=\"$\x7brows\x7d\" selected=\"x\">row" ++
        c'.text ++ "row</j:forEach>" := by
  intro inner outer
  obtain ⟨⟨attrs, -, hattrs, hrows⟩, -⟩ := @loop_runs_body overRows "$\x7brows\x7d" rfl
  obtain ⟨-, hlaw⟩ := @loop_runs_body overSizes "sizes" rfl
  obtain ⟨attrs', selected, hselected, -, hattrs', hsizes⟩ := hlaw (by decide)
  obtain rfl : selected = "size" := (Except.ok.inj hselected).symm
  obtain rfl : attrs = OrderedMap.ofList
      [("var", "row"), ("items", "$\x7brows\x7d"), ("selected", "x")] :=
    OrderedMap.ext (hattrs.trans (by decide))
  obtain rfl : attrs' = OrderedMap.ofList
      [("var", "option"), ("items", "$\x7bdescriptor.sizes\x7d"), ("id", "s")] :=
    OrderedMap.ext (hattrs'.trans (by decide))
  refine ⟨hsizes, _, _, (hrows.run outer Context.empty).trans rfl,
    (hsizes.run inner Context.empty).trans rfl, ?_, ?_⟩
  · decide +kernel
  · decide +kernel

end Tag

end JellyViews
