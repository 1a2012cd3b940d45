/-
**Filters on texts.**

Main definitions:

* `Template.cut` — a text cut off behind so many characters;
* `Template.textFilters` — the filters by name.
-/

import JellyViews.Template.Filter.Basic
import JellyViews.Text.Escape
import JellyViews.Text.Lines
import JellyViews.Text.Tags
import JellyViews.Text.WidthClass
import JellyViews.Text.Word

set_option relaxedAutoImplicit false
set_option autoImplicit false

namespace JellyViews

namespace Template

/-! ### Functions on texts as filters -/

/-- The filter that a function on texts makes. -/
def onText (filter : String) (f : String → String) : String × Filter :=
  (filter, onForm filter .text fun s => .string (f s))

/-- The filter that a function on texts with a mark makes. -/
def onMarked (filter : String) (f : String → String → Json) : String × Filter :=
  (filter, fun v args => do
    let s ← wantValue filter .text v
    let mark ← requireArgument filter .text args "pat" (.expected filter "pat")
    return f (unescaped mark) s)

/-! ### Cutting texts -/

/-- Whether the character is shown together with the one before it. -/
def continues (before c : Char) : Bool :=
  if before == '\r' then c == '\n'
  else before != '\n' && (CodeRange.covers Text.zeroRanges c || c == '\u200d')

/-- The first `n` characters, each with those that are shown together with it; what is behind them
is told apart. -/
def cutChars : Nat → Option Char → List Char → List Char × List Char
  | _, _, [] => ([], [])
  | n, before, c :: cs =>
    if before.any fun b => continues b c then
      let (kept, rest) := cutChars n (some c) cs
      (c :: kept, rest)
    else
      match n with
      | 0 => ([], c :: cs)
      | n + 1 =>
        let (kept, rest) := cutChars n (some c) cs
        (c :: kept, rest)

/-- The text, cut off behind `n` characters and ended by `ending` if there are more. -/
def cut (n : Nat) (ending s : String) : String :=
  match cutChars n none s.toList with
  | (_, []) => s
  | (kept, _ :: _) => String.ofList kept ++ ending

/-- The filter that cuts texts off. -/
def truncate : Filter := fun v args => do
  let s ← wantValue "truncate" .text v
  let n ← wantArgument "truncate" .count args "length"
  let ending ← wantArgument "truncate" .text args "end"
  return .string (cut (n.getD 255) (ending.getD "\u2026") s)

/-! ### Other filters -/

/-- The filter that replaces one text by another. -/
def replacing : Filter := fun v args => do
  let s ← wantValue "replace" .text v
  let old ← requireArgument "replace" .text args "from" (.expected "replace" "from")
  let new ← requireArgument "replace" .text args "to" (.expected "replace" "to")
  return .string (Text.replace old new s)

/-- The filter that indents lines. -/
def indenting : Filter := fun v args => do
  let s ← wantValue "indent" .text v
  let lead ← wantArgument "indent" .text args "prefix"
  let first ← wantArgument "indent" .truth args "first"
  let blank ← wantArgument "indent" .truth args "blank"
  return .string (Text.indented (lead.getD "    ") (first.getD false) (blank.getD false) s)

/-- The text with a break in the place of every line end. -/
def withBreaks (s : String) : String :=
  Text.replace "\n" "<br>" (Text.replace "\r\n" "<br>" s)

/-- The filters on texts. -/
def textFilters : List (String × Filter) :=
  [onText "upper" Text.upperText,
   onText "lower" Text.lowerText,
   onText "trim" Text.trim,
   onText "trim_start" Text.trimStart,
   onText "trim_end" Text.trimEnd,
   onMarked "trim_start_matches" fun mark s => .string (Text.trimStartOf mark s),
   onMarked "trim_end_matches" fun mark s => .string (Text.trimEndOf mark s),
   onMarked "split" fun mark s => .array ((Text.split mark s).map .string),
   ("truncate", truncate),
   ("wordcount", onForm "wordcount" .text fun s => .int (Text.words s).length),
   ("replace", replacing),
   onText "capitalize" Text.capitalized,
   onText "title" Text.titled,
   onText "linebreaksbr" withBreaks,
   ("indent", indenting),
   onText "striptags" Text.withoutTags,
   onText "spaceless" Text.withoutGaps,
   onText "urlencode" (Text.percentEncoded Text.isPathChar),
   onText "urlencode_strict" (Text.percentEncoded Char.isAlphanum),
   onText "escape" (Text.escapedBy Text.markupEscapes),
   onText "escape_xml" (Text.escapedBy Text.dataEscapes),
   onText "slugify" Text.slug,
   onText "addslashes" (Text.escapedBy Text.slashEscapes)]

end Template

end JellyViews
