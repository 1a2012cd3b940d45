/-
**Bodies as data.**

A block is a function.  A script describes one: it is a list of actions on the context, which may
nest scripts as the bodies of elements and calls, and may recover from an error.  Every script is
finite, so running it ends.

Main definitions:

* `Tag.Action` — one step, with the scripts it holds;
* `Tag.Action.run`, `Tag.runScript` — running actions with a registry;
* `Tag.blockOf` — the block of a script that may be absent.
-/

import JellyViews.Tag.Registry

set_option relaxedAutoImplicit false
set_option autoImplicit false

namespace JellyViews

namespace Tag

open Markup

/-! ### Actions -/

/-- One step of a body. -/
inductive Action where
  /-- Writes a text. -/
  | append (text : String)
  /-- Writes the variable of the scope, or `(none)`. -/
  | appendVar
  /-- Records the variable of the scope. -/
  | trace
  /-- Opens an element. -/
  | openTag (element : String) (attrs : Attributes)
  /-- Closes an element. -/
  | closeTag (element : String)
  /-- Writes an element without content. -/
  | voidTag (element : String) (attrs : Attributes)
  /-- Writes an element around a script, which is given the variable. -/
  | element (name : String) (attrs : Attributes) (body : Option (List Action))
      (var : Option String)
  /-- Writes a call into the context. -/
  | emit (name : String) (call : Call) (body : Option (List Action))
  /-- Turns a call into a text and writes the text. -/
  | express (name : String) (call : Call) (body : Option (List Action))
  /-- Runs one block several times. -/
  | repeated (body : Option (List Action)) (times : Nat)
  /-- Runs a script up to its first error, which is recorded. -/
  | attempt (script : List Action)

/-- Runs a step so many times. -/
def times : Nat → Render Unit → Render Unit
  | 0, _ => pure ()
  | n + 1, step => do
    step
    times n step

/-- Runs a step and records its error. -/
def recovered (step : Render Unit) : Render Unit :=
  tryCatch step fun e => record fun depth => .caught e depth

/-- Writes the text of a call, and passes on what its body recorded. -/
def writeExpressed : Except TagError String × Array Note → Render Unit
  | (result, notes) => do
    modify fun c => { c with notes := c.notes ++ notes }
    match result with
    | .ok text => append text
    | .error e => throw e

/-! ### Running -/

mutual

/-- Runs one action in a scope. -/
def Action.run (r : Registry) : Action → Block
  | .append text, _ => Markup.append text
  | .appendVar, scope => Markup.append (scope.var.getD "(none)")
  | .trace, scope => record fun depth => .scope scope.var depth
  | .openTag element attrs, _ => Markup.openTag element attrs
  | .closeTag element, _ => Markup.closeTag element
  | .voidTag element attrs, _ => Markup.voidTag element attrs
  | .element name attrs body var, _ => Markup.element name attrs (blockOf r body) ⟨var⟩
  | .emit name call body, _ => r.emit name call (blockOf r body)
  | .express name call body, _ => writeExpressed (r.express name call (blockOf r body))
  | .repeated body n, scope => times n (runBody scope (blockOf r body))
  | .attempt script, scope => recovered (runScript r script scope)

/-- Runs the actions in order, up to the first error. -/
def runScript (r : Registry) : List Action → Block
  | [], _ => pure ()
  | a :: as, scope => do
    a.run r scope
    runScript r as scope

/-- The block of a script that may be absent. -/
def blockOf (r : Registry) : Option (List Action) → Option Block
  | none => none
  | some script => some (runScript r script)

end

end Tag

end JellyViews
