/-
**Commands.**

A command looks at the tree of files, and `compile` changes it.  The command line asks for a
command, or for nothing that could be done.

Main definitions:

* `Command.Request.perform` — the answer to a request, and the tree behind it;
* `Command.run` — the output of a command line, and the tree behind it.
-/

import JellyViews.Command.Output

set_option relaxedAutoImplicit false
set_option autoImplicit false

namespace JellyViews

namespace Command

namespace Request

/-- The answer for a run that was given up. -/
def givenUp (what : String) (root : Path) (causes : List String) : Answer :=
  .failed (what ++ " '" ++ root.text ++ "'") causes

/-- Does what is requested. -/
def perform (t : FileTree) : Request → FileTree × Answer
  | compile root options json =>
    match Compile.compile t root options with
    | (t', .ok report) => (t', .compiled report json)
    | (t', .error e) => (t', givenUp "compile failed for" root e.causes)
  | diff root suffix =>
    match Compile.preview t root suffix with
    | .ok preview => (t, .previewed preview)
    | .error e => (t, givenUp "diff failed for" root e.causes)
  | tags none json => (t, .listed Tag.Registry.standard json)
  | tags (some root) json =>
    match Extension.registryFor t root with
    | .ok registry => (t, .listed registry json)
    | .error e => (t, givenUp "cannot load tags for" root e.causes)

end Request

/-- Runs a command line. -/
def run (style : Style) (t : FileTree) (words : List String) : FileTree × Output :=
  match request words with
  | .error stop => (t, stop.output)
  | .ok r => ((r.perform t).1, (r.perform t).2.output style)

end Command

end JellyViews
