/-
**The arguments of a tag.**

A call names its arguments.  An operation takes the arguments that it understands, one after the
other; what is left over is written as explicit attributes, in the order of the call.

Main definitions:

* `Tag.Call` — the arguments;
* `Tag.Call.take`, `Tag.Call.takeOr`, `Tag.Call.require` — taking an argument out of a call.
-/

import JellyViews.Markup.Attributes
import JellyViews.Tag.Error

set_option relaxedAutoImplicit false
set_option autoImplicit false

namespace JellyViews

namespace Tag

/-- The arguments of a call that nobody has taken yet. -/
structure Call where
  args : Attributes
deriving DecidableEq

namespace Call

/-- A call without arguments. -/
def empty : Call := ⟨∅⟩

instance : EmptyCollection Call := ⟨empty⟩

/-- The call with one more argument, or with another value for an argument it has. -/
def arg (c : Call) (key value : String) : Call := ⟨c.args.insert key value⟩

/-- The call of a list of arguments. -/
def ofList (args : List (String × String)) : Call := ⟨OrderedMap.ofList args⟩

/-- The value of an argument. -/
def get? (c : Call) (key : String) : Option String := c.args.get? key

/-- The value of an argument, and the call without it. -/
def take (c : Call) (key : String) : Option String × Call :=
  let (value, rest) := c.args.extract key
  (value, ⟨rest⟩)

/-- Like `take`, with a value for an argument that is absent. -/
def takeOr (c : Call) (key fallback : String) : String × Call :=
  let (value, rest) := c.take key
  (value.getD fallback, rest)

/-- Like `take`, for an argument that the tag cannot do without. -/
def require (c : Call) (tag key : String) : Except TagError (String × Call) :=
  match c.take key with
  | (some value, rest) => .ok (value, rest)
  | (none, _) => .error (.missingArgument tag key)

theorem take_eq_erase (c : Call) (key : String) :
    c.take key = (c.get? key, ⟨c.args.erase key⟩) := by
  rw [take, OrderedMap.extract_eq]
  rfl

@[simp] theorem take_fst (c : Call) (key : String) : (c.take key).1 = c.get? key := by
  rw [take_eq_erase]

@[simp] theorem args_take (c : Call) (key : String) :
    (c.take key).2.args = c.args.erase key := by
  rw [take_eq_erase]

theorem takeOr_eq_erase (c : Call) (key fallback : String) :
    c.takeOr key fallback = ((c.get? key).getD fallback, ⟨c.args.erase key⟩) := by
  rw [takeOr, take_eq_erase]

@[simp] theorem args_takeOr (c : Call) (key fallback : String) :
    (c.takeOr key fallback).2.args = c.args.erase key := by
  rw [takeOr_eq_erase]

theorem require_of_some {c : Call} {tag key value : String} (h : c.get? key = some value) :
    c.require tag key = .ok (value, ⟨c.args.erase key⟩) := by
  rw [require, take_eq_erase, h]

theorem require_of_none {c : Call} {tag key : String} (h : c.get? key = none) :
    c.require tag key = .error (.missingArgument tag key) := by
  rw [require, take_eq_erase, h]

end Call

end Tag

end JellyViews
