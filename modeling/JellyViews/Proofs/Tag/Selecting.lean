/-
**The selected option of a choice.**

A loop over options marks one of them as selected, by comparing a property of each with a selected
value.  An explicit value is given with markers or without, and it is compared as it is, whatever
field the call names besides.  There is one exception: an empty value leaves nothing between the
markers, so that they no longer make an expression, and what is compared is looked up under
`instance`.

Main definitions:

* `Tag.Loop.leftOver` — the arguments of a loop over options that are written as attributes;
* `Tag.optionMarkup` — an option as it is written.

Main results:

* `Tag.Loop.overOptions_of_explicit` — the form of a loop with an explicit value;
* `Tag.Loop.selected_of_explicit` — what is compared;
* `Tag.emit_of_option` — the option comes right behind the start tag, and before the body;
* `Tag.option_of_explicit` — **what is written for an explicit value**;
* `Tag.option_of_explicit_fragments` — marker fragments and the empty text as values.
-/

import JellyViews.Proofs.Tag.Looping

set_option relaxedAutoImplicit false
set_option autoImplicit false

namespace JellyViews

namespace Tag

open Markup

/-! ### Settling the loop -/

namespace Loop

/-- The arguments of a loop over options that are written as attributes. -/
def leftOver (call : Call) : Call :=
  ⟨((((call.args.erase "items").erase "field").erase "selected").erase "var").erase "value"⟩

variable {call : Call} {items s : String}

theorem leftOver_eq (call : Call) : leftOver call = call.without optionsArgs := by
  unfold leftOver
  simp only [OrderedMap.erase_eq_without, OrderedMap.without_without]
  rfl

/-- The form of a loop with an explicit value: the field does not count. -/
theorem overOptions_of_explicit (hitems : call.get? "items" = some items)
    (hselected : call.get? "selected" = some s) :
    overOptions call =
      let var := (call.get? "var").getD Expression.optionVar
      let value := (call.get? "value").getD Expression.optionValue
      .ok (.around element (attributes var (Expression.collection items) (leftOver call)) ⟨some var⟩
        (some (Selection.of items (Expression.wrap (Expression.stripMarkers s)) var value))) := by
  rw [leftOver_eq]
  refine overOptions_eq hitems ?_
  rw [hselected]
  rfl

/-- What is compared with an explicit value: the value without its markers, unless it is empty. -/
theorem selected_of_explicit (items s var value : String) :
    (Selection.of items (Expression.wrap (Expression.stripMarkers s)) var value).selected =
      if s = "" then "instance.$\x7b\x7d" else Expression.stripMarkers s := by
  by_cases hs : s = ""
  · subst hs
    have hbare : Expression.unwrap? (Expression.wrap (Expression.stripMarkers "")) = none :=
      Expression.unwrap?_wrap_empty
    simp only [Selection.of, hbare, if_true]
    rfl
  · have hunwrap := Expression.unwrap?_wrap (mt Expression.stripMarkers_eq_empty_iff.1 hs)
    simp only [Selection.of, hunwrap, if_neg hs]

end Loop

/-! ### Writing the option -/

/-- An option as it is written: it is selected if the property of the variable is equal to the
value, and it shows the property. -/
def optionMarkup (var property value : String) : String :=
  "<f:option selected=\"$\x7b" ++ var ++ "." ++ property ++ " == " ++ value ++ "\x7d\">$\x7b" ++
    var ++ "." ++ property ++ "\x7d</f:option>"

theorem optionMarkup_inj {var property x y : String} :
    optionMarkup var property x = optionMarkup var property y ↔ x = y := by
  unfold optionMarkup
  simp only [String.append_left_inj, String.append_right_inj]

/-- The start tag of an element with one attribute. -/
theorem text_startTag_single (name key value : String) :
    (Piece.startTag name (Attributes.single key value)).text =
      "<" ++ (name ++ " " ++ (key ++ "=\"" ++ value ++ "\"")) ++ ">" := by
  have hentries : (Attributes.single key value).entries = [(key, value)] := rfl
  simp [Piece.text, tagInside, Attributes.encode, Attributes.encodeEntry, hentries]

/-- The tags of an option and what is between them. -/
theorem text_optionPieces (selection : Selection) {var property : String}
    (h : selection.option = var ++ "." ++ property) :
    joined ((optionPieces (some selection)).map Piece.text) =
      optionMarkup var property selection.selected := by
  have hjoined : joined ((optionPieces (some selection)).map Piece.text) =
      (Piece.startTag optionElement (optionAttributes selection)).text ++ selection.label ++
        (Piece.endTag optionElement).text := by
    simp [joined, optionPieces, Piece.text]
  rw [hjoined]
  have hfront : "<f:option selected=\"$\x7b" =
      "<" ++ optionElement ++ " " ++ "selected" ++ "=\"" ++ Expression.openMarker := by decide
  have hmid : "\x7d\">$\x7b" =
      Expression.closeMarker ++ "\"" ++ ">" ++ Expression.openMarker := by decide
  have hend : "\x7d</f:option>" = Expression.closeMarker ++ "</" ++ optionElement ++ ">" := by
    decide
  unfold optionMarkup
  rw [optionAttributes, text_startTag_single, hfront, hmid, hend]
  unfold Selection.test Selection.label Expression.wrap Piece.text
  rw [h]
  dsimp only
  -- only the order of the pieces counts
  generalize Expression.openMarker = o
  generalize Expression.closeMarker = c
  generalize optionElement = e
  simp only [String.append_assoc]

/-- The option comes right behind the start tag, and before the body. -/
theorem emit_of_option (op : Operation) {call : Call} (body : Option Block) {name : String}
    {attrs : Attributes} {scope : Scope} {selection : Selection} {var property : String}
    (hform : op.form call body.isSome = .ok (.around name attrs scope (some selection)))
    (h : selection.option = var ++ "." ++ property) (c : Context) :
    ∃ c', c'.text = c.text ++ (Piece.startTag name attrs).text ++
        optionMarkup var property selection.selected ∧
      c'.openElements = name :: c.openElements ∧
      (op.emit call body).on c =
        (do
          runBody scope body
          closeTag name : Render Unit).on c' := by
  refine ⟨c.inside name attrs (optionPieces (some selection)), ?_, rfl, on_emit_of_around hform c⟩
  rw [Context.text_inside, text_optionPieces selection h]

/-- **What is written for an explicit value.**  Whatever else the call says, the loop writes one
option, which is compared with the value without its markers; only the empty value is compared as
`instance.${}`. -/
theorem option_of_explicit {call : Call} {items s x : String}
    (hitems : call.get? "items" = some items) (hselected : call.get? "selected" = some s)
    (hx : Expression.Unmarked s x) :
    let var := (call.get? "var").getD "option"
    let property := (call.get? "value").getD "name"
    let start := (Piece.startTag "j:forEach"
      (Loop.attributes var (Expression.collection items) (Loop.leftOver call))).text
    let option := optionMarkup var property (if s = "" then "instance.$\x7b\x7d" else x)
    (∀ (c : Context) (body : Option Block), ∃ c', c'.text = c.text ++ start ++ option ∧
      c'.openElements = "j:forEach" :: c.openElements ∧
      (Operation.optionsFor.emit call body).on c =
        (do
          runBody ⟨some var⟩ body
          closeTag "j:forEach" : Render Unit).on c') ∧
    (∀ c : Context, ∃ c', (Operation.optionsFor.emit call none).on c = (.ok (), c') ∧
      c'.text = c.text ++ start ++ option ++ "</j:forEach>" ∧
      c'.openElements = c.openElements) ∧
    (option = optionMarkup var property x ↔ s ≠ "") := by
  intro var property start option
  obtain rfl := Expression.unmarked_iff.1 hx
  have hbody (c : Context) (body : Option Block) :=
    emit_of_option .optionsFor body (Loop.overOptions_of_explicit hitems hselected) rfl c
  simp only [Loop.selected_of_explicit] at hbody
  refine ⟨hbody, fun c => ?_, ?_⟩
  · obtain ⟨c', htext, hopen, hemit⟩ := hbody c none
    have hdone : (runBody ⟨some var⟩ none).on c' = (.ok (), c') := rfl
    have hclose : (closeTag "j:forEach").on c' =
        (.ok (), { c'.push (.endTag "j:forEach") with openElements := c.openElements }) := by
      rw [on_closeTag, hopen]
      simp [Loop.element]
    refine ⟨_, hemit.trans ((Render.on_bind_of_ok hdone).trans hclose), ?_, rfl⟩
    change (c'.push (.endTag "j:forEach")).text = _
    rw [Context.text_push, htext]
    rfl
  · rw [optionMarkup_inj]
    by_cases hs : s = ""
    · subst hs
      exact iff_of_false (by decide) (by simp)
    · simp [hs]

/-- A call with a field and with an explicit value that is `s`. -/
def choice (s : String) : Call :=
  Call.ofList [("items", "sizes"), ("field", "size"), ("selected", s), ("var", "o")]

/-- Markers around nothing are a bare text, which is compared as it is; the empty text is not. -/
theorem option_of_explicit_fragments :
    (∃ c', (Operation.optionsFor.emit (choice "$\x7b\x7d") none).on Context.empty = (.ok (), c') ∧
      c'.text = "<j:forEach var=\"o\" items=\"$\x7bdescriptor.sizes\x7d\">" ++
        "<f:option selected=\"$\x7bo.name == $\x7b\x7d\x7d\">$\x7bo.name\x7d</f:option>" ++
        "</j:forEach>") ∧
    ∃ c', (Operation.optionsFor.emit (choice "") none).on Context.empty = (.ok (), c') ∧
      c'.text = "<j:forEach var=\"o\" items=\"$\x7bdescriptor.sizes\x7d\">" ++
        "<f:option selected=\"$\x7bo.name == instance.$\x7b\x7d\x7d\">$\x7bo.name\x7d" ++
        "</f:option></j:forEach>" := by
  have hmarkers := @option_of_explicit (choice "$\x7b\x7d") "sizes" "$\x7b\x7d" "$\x7b\x7d" rfl rfl
    (Expression.unmarked_iff.2 (by decide))
  have hempty := @option_of_explicit (choice "") "sizes" "" "" rfl rfl
    (Expression.unmarked_iff.2 (by decide))
  obtain ⟨c, hc, hctext, -⟩ := hmarkers.2.1 Context.empty
  obtain ⟨d, hd, hdtext, -⟩ := hempty.2.1 Context.empty
  exact ⟨⟨c, hc, hctext.trans (by decide +kernel)⟩, d, hd, hdtext.trans (by decide +kernel)⟩

end Tag

end JellyViews
