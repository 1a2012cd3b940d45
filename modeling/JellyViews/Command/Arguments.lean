/-
**The words of the command line.**

The first word that is no option names the command; the words behind it are its options and
operands.  A word with two hyphens in front is an option with a long name, which may hold its
value behind `=`; letters behind one hyphen are options with short names.  Behind a lone `--`
every word is an operand.  No option may be repeated.  A word that asks for help or for the
version counts at once, and so does one that is out of place.

Main definitions:

* `Command.Request` — what is to be done;
* `Command.Misuse`, `Command.Stop` — why a command line asks for nothing to be done;
* `Command.Form`, `Command.scan` — the options of a command, and reading its words;
* `Command.request` — the request of a command line.
-/

import JellyViews.Compile.Report

set_option relaxedAutoImplicit false
set_option autoImplicit false

namespace JellyViews

namespace Command

open Compile (Options defaultSuffix)

/-! ### Requests -/

/-- What is to be done. -/
inductive Request where
  /-- Compiles the templates below a root. -/
  | compile (root : Path) (options : Options) (json : Bool)
  /-- Shows what compiling would change. -/
  | diff (root : Path) (suffix : String)
  /-- Lists the operations that templates may call. -/
  | tags (root : Option Path) (json : Bool)

/-- What is wrong with a command line. -/
inductive Misuse where
  | noCommand
  | unknownCommand (word : String)
  | unexpected (word : String)
  | noValue (option : String)
  | emptyValue (name : String)
  | needlessValue (option : String)
  | repeated (option : String)
  | noOperand (name : String)
deriving DecidableEq

/-- The text of a misuse. -/
def Misuse.message : Misuse → String
  | noCommand => "a command is required"
  | unknownCommand word => "unrecognized subcommand '" ++ word ++ "'"
  | unexpected word => "unexpected argument '" ++ word ++ "' found"
  | noValue option => "a value is required for '" ++ option ++ "' but none was supplied"
  | emptyValue name => "a value is required for '" ++ name ++ "' but none was supplied"
  | needlessValue option => "unexpected value for '" ++ option ++ "' found"
  | repeated option => "the argument '" ++ option ++ "' cannot be used multiple times"
  | noOperand name => "the following required arguments were not provided: " ++ name

/-- Why nothing is to be done. -/
inductive Stop where
  | help
  | version
  | misuse (m : Misuse)
deriving DecidableEq

/-! ### Words -/

/-- What a word looks like. -/
inductive Word where
  /-- The mark behind which every word is an operand. -/
  | separator
  /-- A long name, and the value behind `=`. -/
  | long (name : String) (value : Option String)
  /-- Short names. -/
  | short (letters : List Char)
  | operand (text : String)
deriving DecidableEq

/-- The text in front of the first `=`, and the text behind it. -/
def splitValue (cs : List Char) : String × Option String :=
  match cs.dropWhile (· ≠ '=') with
  | _ :: value => (String.ofList (cs.takeWhile (· ≠ '=')), some (String.ofList value))
  | [] => (String.ofList cs, none)

/-- What a word looks like; a hyphen alone is an operand. -/
def Word.of (s : String) : Word :=
  match s.toList with
  | ['-', '-'] => .separator
  | '-' :: '-' :: cs => .long (splitValue cs).1 (splitValue cs).2
  | '-' :: c :: cs => .short (c :: cs)
  | _ => .operand s

/-- Whether the word can be the value of the option in front of it. -/
def canBeValue (s : String) : Bool :=
  match Word.of s with
  | .operand _ => true
  | _ => false

/-- The name of the option for more messages. -/
def verboseOption : String := "verbose"

/-- The options of a command. -/
structure Form where
  /-- The long names of options without a value. -/
  flags : List String
  /-- The long names of options with a value. -/
  valued : List String
  /-- The number of operands that the command takes. -/
  operands : Nat
  /-- Whether the command answers with the version. -/
  versioned : Bool

/-- What was given to a command. -/
structure Given where
  flags : List String
  values : List (String × String)
  operands : List String

namespace Given

/-- No options and no operands. -/
def nothing : Given := ⟨[], [], []⟩

/-- Adds an option without a value. -/
def addFlag (g : Given) (name : String) : Except Stop Given :=
  if g.flags.contains name then throw (.misuse (.repeated ("--" ++ name)))
  else return { g with flags := g.flags ++ [name] }

/-- Adds an option with its value. -/
def addValue (g : Given) (name value : String) : Except Stop Given :=
  if (g.values.lookup name).isSome then throw (.misuse (.repeated ("--" ++ name)))
  else return { g with values := g.values ++ [(name, value)] }

/-- Adds an operand, unless there are enough. -/
def addOperand (form : Form) (g : Given) (word : String) : Except Stop Given :=
  if g.operands.length < form.operands then return { g with operands := g.operands ++ [word] }
  else throw (.misuse (.unexpected word))

/-- Adds several operands. -/
def addOperands (form : Form) (g : Given) (words : List String) : Except Stop Given :=
  words.foldlM (addOperand form) g

end Given

/-- Adds an option by its short name. -/
def addLetter (form : Form) (g : Given) (c : Char) : Except Stop Given :=
  if c = 'v' then g.addFlag verboseOption
  else if c = 'h' then throw .help
  else if c = 'V' ∧ form.versioned then throw .version
  else throw (.misuse (.unexpected (String.ofList ['-', c])))

/-- Adds an option without a value by its long name; its value, if there is one, is out of place. -/
def addLong (form : Form) (g : Given) (name : String) (value : Option String) :
    Except Stop Given :=
  if name = "help" ∧ value = none then throw .help
  else if name = "version" ∧ value = none ∧ form.versioned then throw .version
  else if name = verboseOption ∨ form.flags.contains name then
    if value.isSome then throw (.misuse (.needlessValue ("--" ++ name))) else g.addFlag name
  else throw (.misuse (.unexpected ("--" ++ name)))

/-- Reads the words of a command. -/
def scan (form : Form) (g : Given) : List String → Except Stop Given
  | [] => .ok g
  | word :: words =>
    match Word.of word with
    | .separator => g.addOperands form words
    | .short letters => do scan form (← letters.foldlM (addLetter form) g) words
    | .operand text => do scan form (← g.addOperand form text) words
    | .long name (some value) =>
      if form.valued.contains name then do scan form (← g.addValue name value) words
      else do scan form (← addLong form g name (some value)) words
    | .long name none =>
      if form.valued.contains name then
        match words with
        | value :: rest =>
          if canBeValue value then do scan form (← g.addValue name value) rest
          else throw (.misuse (.noValue ("--" ++ name)))
        | [] => throw (.misuse (.noValue ("--" ++ name)))
      else do scan form (← addLong form g name none) words

/-! ### Commands -/

/-- The options in front of the command. -/
def generalForm : Form := ⟨[], [], 0, true⟩

/-- The options of `compile`. -/
def compileForm : Form := ⟨["dry-run", "fail-fast", "json"], ["suffix"], 1, false⟩

/-- The options of `diff`. -/
def diffForm : Form := ⟨[], ["suffix"], 1, false⟩

/-- The options of `tags`. -/
def tagsForm : Form := ⟨["json"], ["root"], 0, false⟩

/-- A path that is not empty. -/
def pathOf (name value : String) : Except Stop Path :=
  if value = "" then throw (.misuse (.emptyValue name)) else return ⟨value⟩

/-- The root that was given. -/
def Given.root (g : Given) : Except Stop Path :=
  match g.operands with
  | [] => throw (.misuse (.noOperand "<ROOT>"))
  | word :: _ => pathOf "<ROOT>" word

/-- The suffix that was given. -/
def Given.suffix (g : Given) : String := (g.values.lookup "suffix").getD defaultSuffix

/-- The request of `compile`. -/
def compileRequest (g : Given) : Except Stop Request := do
  let root ← g.root
  let options : Options :=
    { suffix := g.suffix
      dryRun := g.flags.contains "dry-run"
      failFast := g.flags.contains "fail-fast" }
  return .compile root options (g.flags.contains "json")

/-- The request of `diff`. -/
def diffRequest (g : Given) : Except Stop Request := return .diff (← g.root) g.suffix

/-- The request of `tags`. -/
def tagsRequest (g : Given) : Except Stop Request := do
  let root ← (g.values.lookup "root").mapM (pathOf "--root <ROOT>")
  return .tags root (g.flags.contains "json")

/-- The names of the commands. -/
def commands : List String := ["compile", "diff", "tags", "help"]

/-- What `help` answers about a command: the commands themselves have none below them. -/
def helpStop : List String → Stop
  | [] => .help
  | word :: words =>
    if commands.contains word then
      match words with
      | [] => .help
      | next :: _ => .misuse (.unknownCommand next)
    else .misuse (.unknownCommand word)

/-- The request of a command and its words. -/
def commandRequest (name : String) (words : List String) : Except Stop Request :=
  if name = "compile" then do compileRequest (← scan compileForm .nothing words)
  else if name = "diff" then do diffRequest (← scan diffForm .nothing words)
  else if name = "tags" then do tagsRequest (← scan tagsForm .nothing words)
  else if name = "help" then throw (helpStop words)
  else throw (.misuse (.unknownCommand name))

/-- The options in front of the command, the command, and the words behind it. -/
def splitCommand : List String → List String × Option (String × List String)
  | [] => ([], none)
  | word :: words =>
    match Word.of word with
    | .operand name => ([], some (name, words))
    | .separator => (word :: words, none)
    | _ => (word :: (splitCommand words).1, (splitCommand words).2)

/-- The request of a command line. -/
def request (words : List String) : Except Stop Request := do
  let (front, command) := splitCommand words
  let _ ← scan generalForm .nothing front
  match command with
  | some (name, rest) => commandRequest name rest
  | none => throw (.misuse .noCommand)

end Command

end JellyViews
