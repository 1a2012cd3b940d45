/-
**Templates as data.**

A template is text with tags in it.  An output tag holds a term, whose value is written; a section
applies a filter to the text of what it encloses.  These are the tags of templates that do no more
than write; those that decide, repeat, assign, define or include are not among the nodes.

Main definitions:

* `Template.Operator`, `Template.Relation`, `Template.Connective` — what stands between two terms;
* `Template.Term` — what is evaluated;
* `Template.Node` — the parts of a template.
-/

set_option relaxedAutoImplicit false
set_option autoImplicit false

namespace JellyViews

namespace Template

/-- The operators of arithmetic. -/
inductive Operator where
  | plus
  | minus
  | times
  | divided
  | modulo
deriving DecidableEq

/-- The comparisons of two values. -/
inductive Relation where
  | equal
  | different
  | less
  | atMost
  | greater
  | atLeast
deriving DecidableEq

/-- The ways to connect two conditions. -/
inductive Connective where
  | both
  | either
deriving DecidableEq

/-- A term of the template language.  The names of arguments are distinct. -/
inductive Term where
  | text (s : String)
  | int (n : Int)
  | float (x : Float)
  | bool (b : Bool)
  | variable (path : String)
  /-- A function and its named arguments. -/
  | call (name : String) (args : List (String × Term))
  /-- A function that another template would have to define. -/
  | foreign (space name : String)
  /-- The texts of the parts, one after the other. -/
  | joined (parts : List Term)
  | arithmetic (op : Operator) (l r : Term)
  | compared (rel : Relation) (l r : Term)
  | connected (c : Connective) (l r : Term)
  /-- Whether `l` is a part of `r`, or, if `absent` holds, whether it is none. -/
  | member (absent : Bool) (l r : Term)
  /-- A test of a variable, with its arguments, or the opposite of the test. -/
  | tested (path : String) (opposite : Bool) (test : String) (args : List Term)
  | array (items : List Term)
  /-- A filter, its named arguments, and the term to which it is applied. -/
  | filtered (t : Term) (name : String) (args : List (String × Term))
  | negated (t : Term)

/-- The term without the negation at its front. -/
def Term.withoutNegation : Term → Term
  | .negated t => t
  | t => t

/-- A part of a template. -/
inductive Node where
  | text (s : String)
  | output (t : Term)
  /-- A filter, its named arguments, and the parts to whose text it is applied. -/
  | section (filter : String) (args : List (String × Term)) (body : List Node)

end Template

end JellyViews
