/-
**What commands print.**

A command answers with data; this module turns answers into the text for standard output, the text
for standard error, and the exit code.  Marks may be coloured, and a report for programs carries the
times at which the run began and ended.

Main definitions:

* `Command.Answer` — what a command found out;
* `Command.Style`, `Command.Output` — how to print, and what is printed;
* `Command.Answer.output` — printing an answer;
* `Command.Stop.output` — printing why there is no request.
-/

import JellyViews.Command.Arguments
import JellyViews.Command.Table
import JellyViews.Compile.Preview
import JellyViews.Json.Value

set_option relaxedAutoImplicit false
set_option autoImplicit false

namespace JellyViews

namespace Command

open Compile (Status Result Failure Report Preview Change)
open Tag (Operation Registry)

/-! ### Answers -/

/-- What a command found out. -/
inductive Answer where
  /-- What a run did; programs can read it if asked for. -/
  | compiled (report : Report) (json : Bool)
  /-- What a run would change. -/
  | previewed (preview : Preview)
  /-- The operations that templates may call. -/
  | listed (registry : Registry) (json : Bool)
  /-- The command failed as a whole; the causes are listed from the outermost in. -/
  | failed (summary : String) (causes : List String)

/-- How to print. -/
structure Style where
  colored : Bool
  /-- When the run began. -/
  started : String
  /-- When the run ended. -/
  finished : String

/-- What is printed. -/
structure Output where
  code : Nat
  stdout : String
  stderr : String
deriving DecidableEq

/-- Lines, each with its break. -/
def linesText (lines : List String) : String := String.join (lines.map (· ++ "\n"))

/-! ### Colours -/

/-- The text in a colour, given as the codes that switch it on. -/
def painted (style : Style) (codes text : String) : String :=
  if style.colored then "\x1b[" ++ codes ++ "m" ++ text ++ "\x1b[0m" else text

/-- The mark of a success. -/
def successMark : String := "✓"

/-- The mark of a failure. -/
def failureMark : String := "✗"

/-! ### Reports on runs -/

/-- The mark of a result. -/
def statusMark : Status → String
  | .written => "✎"
  | .wouldWrite => "~"
  | .unchanged => "·"

/-- The path without the root in front. -/
def shortPath (root p : Path) : String := (p.relativeTo root).text

/-- What a dry run puts in front of its first line. -/
def dryMark (r : Report) : String := if r.dryRun then "[dry-run] " else ""

/-- The line that sums up a run. -/
def summaryLine (style : Style) (r : Report) : String :=
  dryMark r ++
    (if r.isSuccess then painted style "1;32" successMark else painted style "1;31" failureMark) ++
    " '" ++ r.root.text ++ "' compiled (" ++ Decimal.digitsOf r.writtenCount ++ " written, " ++
    Decimal.digitsOf r.unchangedCount ++ " unchanged, " ++ Decimal.digitsOf r.failedCount ++
    " failed)"

/-- The line of a result. -/
def resultLine (r : Report) (x : Result) : String :=
  "  " ++ statusMark x.status ++ "  " ++ shortPath r.root x.path

/-- The line of a failure. -/
def failureLine (style : Style) (r : Report) (f : Failure) : String :=
  "  " ++ painted style "31" failureMark ++ "  " ++ shortPath r.root f.source ++ " (" ++
    f.kind.text ++ "): " ++ f.message

/-- The line of a run that stopped early. -/
def abortedLine (style : Style) : String :=
  painted style "33" "stopped after the first failure (--fail-fast)"

/-- The lines of a report. -/
def reportLines (style : Style) (r : Report) : List String :=
  if r.discovered = 0 then
    [dryMark r ++ successMark ++ " '" ++ r.root.text ++ "' — no templates found"]
  else
    summaryLine style r :: r.results.map (resultLine r) ++ r.failures.map (failureLine style r) ++
      (if r.aborted then [abortedLine style] else [])

/-- A result for programs. -/
def resultJson (x : Result) : Json :=
  .object [("status", .string x.status.key), ("path", .string x.path.text)]

/-- A failure for programs. -/
def failureJson (f : Failure) : Json :=
  .object
    [("source", .string f.source.text), ("kind", .string f.kind.key),
     ("message", .string f.message)]

/-- A report for programs. -/
def reportJson (style : Style) (r : Report) : Json :=
  .object
    [("root", .string r.root.text), ("started_at", .string style.started),
     ("finished_at", .string style.finished), ("discovered", .int r.discovered),
     ("dry_run", .bool r.dryRun), ("aborted", .bool r.aborted),
     ("results", .array (r.results.map resultJson)),
     ("failures", .array (r.failures.map failureJson))]

/-! ### Failed commands -/

/-- A cause behind its number, or without one; further lines are indented as far. -/
def causeText (number : Option Nat) (cause : String) : String :=
  match number with
  | some n => "    " ++ Decimal.digitsOf n ++ ": " ++ cause.replace "\n" "\n       "
  | none => "    " ++ cause.replace "\n" "\n    "

/-- The lines of causes, which are numbered if there are several. -/
def causeLines : List String → List String
  | [] => []
  | [cause] => ["", "Caused by:", causeText none cause]
  | causes => "" :: "Caused by:" :: causes.mapIdx fun i cause => causeText (some i) cause

/-- The text of a failed command. -/
def errorText (summary : String) (causes : List String) : String :=
  linesText (("Error: " ++ summary) :: causeLines causes)

/-- What a command prints, with an error if its result was not good. -/
def Output.of (stdout stderr : String) (failure : Option String) : Output :=
  match failure with
  | none => ⟨0, stdout, stderr⟩
  | some summary => ⟨1, stdout, stderr ++ errorText summary []⟩

/-! ### Compiling -/

/-- The output of a run. -/
def compiledOutput (style : Style) (r : Report) (json : Bool) : Output :=
  .of
    (if json then linesText [(reportJson style r).laidOut] else linesText (reportLines style r)) ""
    (if r.isSuccess then none
     else some (Decimal.digitsOf r.failedCount ++ " of " ++ Decimal.digitsOf r.discovered ++
      " template(s) failed"))

/-! ### Previews -/

/-- The text with a break at its end. -/
def withBreak (s : String) : String :=
  if s.toList.getLast? = some '\n' then s else s ++ "\n"

/-- The line of a template whose change is not known. -/
def unknownLine (f : Failure) : String :=
  f.source.text ++ " (" ++ f.kind.text ++ "): " ++ f.message

/-- The output of a preview. -/
def previewedOutput (p : Preview) : Output :=
  if p.changes.isEmpty && p.failures.isEmpty then
    .of (linesText ["No differences for '" ++ p.root.text ++ "'."]) "" none
  else
    .of (String.join (p.changes.map fun c => withBreak c.diff))
      (linesText (p.failures.map unknownLine))
      (if p.failures.isEmpty then none
       else some (Decimal.digitsOf p.failures.length ++ " template(s) could not be rendered"))

/-! ### Lists of operations -/

/-- An operation for programs. -/
def operationJson (op : Operation) : Json :=
  .object
    [("name", .string op.name), ("element", .string op.elementName),
     ("shape", .string op.shape.text)]

/-- The cells of an operation. -/
def operationCells (op : Operation) : List String := [op.name, op.elementName, op.shape.text]

/-- The table of operations. -/
def operationTable (r : Registry) : Table := ⟨["tag", "element", "shape"], r.ops.map operationCells⟩

/-- The output of a list of operations. -/
def listedOutput (r : Registry) (json : Bool) : Output :=
  .of
    (if json then linesText [(Json.array (r.ops.map operationJson)).laidOut]
     else (operationTable r).render)
    "" none

/-! ### Printing -/

/-- Prints an answer. -/
def Answer.output (style : Style) : Answer → Output
  | compiled report json => compiledOutput style report json
  | previewed preview => previewedOutput preview
  | listed registry json => listedOutput registry json
  | failed summary causes => ⟨1, "", errorText summary causes⟩

/-- How to use the program. -/
def usage : String :=
  linesText
    ["Compile tag-builder templates into Jelly views",
     "",
     "Usage:",
     "  jellyforge [-v] compile <ROOT> [--suffix <SUFFIX>] [--dry-run] [--fail-fast] [--json]",
     "  jellyforge [-v] diff <ROOT> [--suffix <SUFFIX>]",
     "  jellyforge [-v] tags [--root <ROOT>] [--json]"]

/-- Prints why there is no request. -/
def Stop.output : Stop → Output
  | help => ⟨0, usage, ""⟩
  | version => ⟨0, linesText [Template.generator], ""⟩
  | misuse m => ⟨2, "", "error: " ++ m.message ++ "\n\n" ++ usage⟩

end Command

end JellyViews
