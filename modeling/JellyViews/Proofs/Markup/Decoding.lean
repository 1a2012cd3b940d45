/-
**Reading markup back.**

Nothing is escaped in what a context writes, and still it can be read in one way only, as long as
names, values and texts keep clear of the characters that end them: an element name of blanks,
slashes and angle brackets, the name of an attribute of the equals sign, its value of the quotation
mark, and a text of the start of a tag.  A decoder finds the elements and their attributes again by
looking at one character at a time, with the open elements on a stack.  It cannot know how a text
was cut into pieces, nor that an empty one was written.

Main definitions:

* `Markup.Forest` — texts, void elements and elements around forests;
* `Markup.Forest.markup`, `Markup.Forest.isLegible` — how it is written, and where that is clear;
* `Markup.Forest.merged` — the forest with texts that stand side by side made one;
* `Markup.Writes` — the steps that write a forest;
* `Markup.Decoder.step`, `Markup.decode` — the decoder.

Main results:

* `Markup.Decoder.run_tagInside`, `Markup.Decoder.run_markup` — reading a tag, and a forest;
* `Markup.decode_markup` — **the decoder finds the forest again**;
* `Markup.markup_eq_iff` — hence legible forests are written alike only if they are alike;
* `Markup.decode_written` — **whatever steps wrote a forest, their text is decoded to it**;
* `Markup.decode_written_entry` — nested elements with unusual attributes.
-/

import JellyViews.Naming
import JellyViews.Proofs.Markup.Steps
import JellyViews.Proofs.OrderedMap

set_option relaxedAutoImplicit false
set_option autoImplicit false

namespace JellyViews

namespace Markup

/-! ### Forests -/

/-- A row of texts, void elements, and elements around rows of their own. -/
inductive Forest where
  | nil
  | text (s : String) (rest : Forest)
  | void (name : String) (attrs : Attributes) (rest : Forest)
  | element (name : String) (attrs : Attributes) (children rest : Forest)
deriving DecidableEq

/-- Whether a tag with this name and these attributes can be read back. -/
def isLegibleTag (name : String) (attrs : Attributes) : Bool :=
  Naming.isElementName name &&
    attrs.entries.all fun e => !e.1.toList.contains '=' && !e.2.toList.contains '"'

namespace Forest

/-- One row behind another. -/
def append : Forest → Forest → Forest
  | nil, g => g
  | text s rest, g => text s (rest.append g)
  | void name attrs rest, g => void name attrs (rest.append g)
  | element name attrs children rest, g => element name attrs children (rest.append g)

/-- The forest as it is written. -/
def markup : Forest → String
  | nil => ""
  | text s rest => s ++ rest.markup
  | void name attrs rest => (Piece.voidTag name attrs).text ++ rest.markup
  | element name attrs children rest =>
    (Piece.startTag name attrs).text ++ children.markup ++ (Piece.endTag name).text ++ rest.markup

/-- Whether names, values and texts keep clear of the characters that end them. -/
def isLegible : Forest → Bool
  | nil => true
  | text s rest => !s.toList.contains '<' && rest.isLegible
  | void name attrs rest => isLegibleTag name attrs && rest.isLegible
  | element name attrs children rest =>
    isLegibleTag name attrs && children.isLegible && rest.isLegible

/-- A text alone; an empty one is nothing. -/
def leaf (s : String) : Forest := if s = "" then nil else text s nil

/-- The forest behind a text, with texts that stand side by side made one. -/
def mergedBehind (s : String) : Forest → Forest
  | nil => leaf s
  | text s' rest => mergedBehind (s ++ s') rest
  | void name attrs rest => (leaf s).append (void name attrs (mergedBehind "" rest))
  | element name attrs children rest =>
    (leaf s).append (element name attrs (mergedBehind "" children) (mergedBehind "" rest))

/-- The forest with texts that stand side by side made one, and without empty texts. -/
def merged (f : Forest) : Forest := mergedBehind "" f

@[simp] theorem append_nil (f : Forest) : f.append nil = f := by
  induction f with
  | nil => rfl
  | text s rest ih | void name attrs rest ih | element name attrs children rest _ ih =>
    simp [append, ih]

theorem append_assoc (f g h : Forest) : (f.append g).append h = f.append (g.append h) := by
  induction f with
  | nil => rfl
  | text s rest ih | void name attrs rest ih | element name attrs children rest _ ih =>
    simp [append, ih]

theorem markup_append (f g : Forest) : (f.append g).markup = f.markup ++ g.markup := by
  induction f with
  | nil => simp [append, markup]
  | text s rest ih | void name attrs rest ih | element name attrs children rest _ ih =>
    simp [append, markup, ih, String.append_assoc]

@[simp] theorem leaf_empty : leaf "" = nil := rfl

theorem markup_leaf (s : String) : (leaf s).markup = s := by
  by_cases h : s = ""
  · simp [h, markup]
  · simp [leaf, h, markup]

theorem markup_mergedBehind (s : String) (f : Forest) :
    (mergedBehind s f).markup = s ++ f.markup := by
  induction f generalizing s with
  | nil => simp [mergedBehind, markup_leaf, markup]
  | text s' rest ih => rw [mergedBehind, ih, markup, String.append_assoc]
  | void name attrs rest ih =>
    simp [mergedBehind, markup_append, markup_leaf, markup, ih]
  | element name attrs children rest ihchildren ih =>
    simp [mergedBehind, markup_append, markup_leaf, markup, ihchildren, ih]

/-- Making texts one does not change how the forest is written. -/
theorem markup_merged (f : Forest) : f.merged.markup = f.markup := by
  simp [merged, markup_mergedBehind]

end Forest

/-! ### Writing a forest -/

/-- The steps that write a forest: texts, void tags, elements with a body or without one, single
start and end tags, one after the other. -/
inductive Writes : Forest → Render Unit → Prop where
  | nothing : Writes .nil (pure ())
  | text (s : String) : Writes (.text s .nil) (append s)
  | void (name : String) (attrs : Attributes) :
      Writes (.void name attrs .nil) (voidTag name attrs)
  | element (name : String) (attrs : Attributes) {children : Forest} {body : Block}
      {scope : Scope} (h : Writes children (body scope)) :
      Writes (.element name attrs children .nil) (element name attrs (some body) scope)
  | childless (name : String) (attrs : Attributes) (scope : Scope) :
      Writes (.element name attrs .nil .nil) (element name attrs none scope)
  | tags (name : String) (attrs : Attributes) {children : Forest} {step : Render Unit}
      (h : Writes children step) :
      Writes (.element name attrs children .nil) (do
        openTag name attrs
        step
        closeTag name)
  | next {f g : Forest} {step step' : Render Unit} (h : Writes f step) (h' : Writes g step') :
      Writes (f.append g) (do
        step
        step')

/-- All of them write the same text. -/
theorem Writes.gives {f : Forest} {step : Render Unit} (h : Writes f step) :
    step.Gives (some f.markup) := by
  have hmarkup (name : String) (attrs : Attributes) (children : Forest) :
      (Forest.element name attrs children .nil).markup =
        (Piece.startTag name attrs).text ++ children.markup ++ (Piece.endTag name).text := by
    simp [Forest.markup]
  induction h with
  | nothing => exact Render.gives_pure
  | text s => simpa [Forest.markup] using Render.gives_append s
  | void name attrs => simpa [Forest.markup] using Render.gives_voidTag name attrs
  | element name attrs h ih =>
    rw [hmarkup]
    exact Render.gives_around name attrs ih
  | childless name attrs scope =>
    rw [hmarkup]
    exact Render.gives_around name attrs Render.gives_pure
  | tags name attrs h ih =>
    rw [hmarkup]
    exact Render.gives_around name attrs ih
  | next h h' ih ih' =>
    rw [Forest.markup_append]
    exact Render.gives_bind ih ih'

/-! ### The decoder -/

namespace Decoder

/-- What the next character belongs to. -/
inductive Mode where
  /-- A text, of which this much was read. -/
  | text (s : String)
  /-- A tag that has just begun. -/
  | tag
  /-- The name of an element. -/
  | name (s : String)
  /-- The name in an end tag. -/
  | closing (s : String)
  /-- The name of an attribute, behind other attributes. -/
  | key (name : String) (attrs : Attributes) (s : String)
  /-- The quotation mark in front of a value. -/
  | mark (name : String) (attrs : Attributes) (key : String)
  /-- The value of an attribute. -/
  | value (name : String) (attrs : Attributes) (key s : String)
  /-- The part of a tag that is behind a value. -/
  | next (name : String) (attrs : Attributes)
  /-- The end of a void tag. -/
  | slash (name : String) (attrs : Attributes)
deriving DecidableEq

/-- An open element, and what was read before it in the same row. -/
structure Frame where
  before : Forest
  name : String
  attrs : Attributes
deriving DecidableEq

/-- What was read so far: the open elements, innermost first, and the last row. -/
structure State where
  frames : List Frame
  row : Forest
  mode : Mode
deriving DecidableEq

/-- Goes on behind a name or a value in a tag. -/
def stepInside (frames : List Frame) (row : Forest) (name : String) (attrs : Attributes)
    (c : Char) : Option State :=
  if c = ' ' then some ⟨frames, row, .key name attrs ""⟩
  else if c = '/' then some ⟨frames, row, .slash name attrs⟩
  else if c = '>' then some ⟨⟨row, name, attrs⟩ :: frames, .nil, .text ""⟩
  else none

/-- Closes the innermost open element. -/
def close (frames : List Frame) (row : Forest) (name : String) : Option State :=
  match frames with
  | [] => none
  | ⟨before, opened, attrs⟩ :: outer =>
    if opened = name then
      some ⟨outer, before.append (.element name attrs row .nil), .text ""⟩
    else none

/-- Reads a character. -/
def step : State → Char → Option State
  | ⟨frames, row, .text s⟩, c =>
    if c = '<' then some ⟨frames, row.append (.leaf s), .tag⟩
    else some ⟨frames, row, .text (s.push c)⟩
  | ⟨frames, row, .tag⟩, c =>
    if c = '/' then some ⟨frames, row, .closing ""⟩
    else some ⟨frames, row, .name ("".push c)⟩
  | ⟨frames, row, .name s⟩, c =>
    if c = ' ' ∨ c = '/' ∨ c = '>' then stepInside frames row s ∅ c
    else some ⟨frames, row, .name (s.push c)⟩
  | ⟨frames, row, .closing s⟩, c =>
    if c = '>' then close frames row s
    else some ⟨frames, row, .closing (s.push c)⟩
  | ⟨frames, row, .key name attrs s⟩, c =>
    if c = '=' then some ⟨frames, row, .mark name attrs s⟩
    else some ⟨frames, row, .key name attrs (s.push c)⟩
  | ⟨frames, row, .mark name attrs key⟩, c =>
    if c = '"' then some ⟨frames, row, .value name attrs key ""⟩ else none
  | ⟨frames, row, .value name attrs key s⟩, c =>
    if c = '"' then some ⟨frames, row, .next name (attrs.insert key s)⟩
    else some ⟨frames, row, .value name attrs key (s.push c)⟩
  | ⟨frames, row, .next name attrs⟩, c => stepInside frames row name attrs c
  | ⟨frames, row, .slash name attrs⟩, c =>
    if c = '>' then some ⟨frames, row.append (.void name attrs .nil), .text ""⟩ else none

/-- Reads characters one after the other. -/
def run (s : State) (cs : List Char) : Option State := cs.foldlM step s

/-- The forest, if every element is closed and no tag has begun. -/
def State.finish : State → Option Forest
  | ⟨[], row, .text s⟩ => some (row.append (.leaf s))
  | _ => none

end Decoder

/-- The forest that a text was written for, if there is one. -/
def decode (text : String) : Option Forest :=
  (Decoder.run ⟨[], .nil, .text ""⟩ text.toList).bind Decoder.State.finish

namespace Decoder

section

variable {frames : List Frame} {row : Forest} {name s : String} {attrs : Attributes}

/-! ### Reading names, values and texts -/

theorem run_append {st st' : State} {cs : List Char} (h : run st cs = some st') (ds : List Char) :
    run st (cs ++ ds) = run st' ds := by
  rw [run, List.foldlM_append, ← run, h]
  rfl

theorem run_cons {st st' : State} {c : Char} (h : step st c = some st') (cs : List Char) :
    run st (c :: cs) = run st' cs := by
  rw [run, List.foldlM_cons, h]
  rfl

theorem run_singleton (st : State) (c : Char) : run st [c] = step st c := by
  rw [run, List.foldlM_cons]
  cases step st c <;> rfl

/-- Characters that do not end what is read become a part of it. -/
theorem run_scan (mode : String → Mode) {cs : List Char} (s : String)
    (h : ∀ s, ∀ c ∈ cs, step ⟨frames, row, mode s⟩ c = some ⟨frames, row, mode (s.push c)⟩) :
    run ⟨frames, row, mode s⟩ cs = some ⟨frames, row, mode (s ++ String.ofList cs)⟩ := by
  induction cs generalizing s with
  | nil => simp [run]
  | cons c cs ih =>
    rw [run_cons (h s c List.mem_cons_self), ih _ fun s d hd => h s d (List.mem_cons_of_mem _ hd)]
    have happend : s.push c ++ String.ofList cs = s ++ String.ofList (c :: cs) := by
      apply String.toList_inj.1
      simp
    rw [happend]

theorem run_text {t : String} (ht : '<' ∉ t.toList) :
    run ⟨frames, row, .text s⟩ t.toList = some ⟨frames, row, .text (s ++ t)⟩ := by
  have hscan : run ⟨frames, row, .text s⟩ t.toList = _ := run_scan .text s fun s c hc => by
    have hne : c ≠ '<' := fun heq => ht (heq ▸ hc)
    simp [step, hne]
  simpa using hscan

/-- What does not end the name of an element. -/
theorem of_isElementName (h : Naming.isElementName name = true) :
    name.toList ≠ [] ∧ ∀ c ∈ name.toList, c ≠ ' ' ∧ c ≠ '/' ∧ c ≠ '>' := by
  unfold Naming.isElementName at h
  cases hname : name.toList with
  | nil => simp [hname] at h
  | cons d ds =>
    refine ⟨by simp, fun c hc => ?_⟩
    simp only [hname, Bool.and_eq_true, Bool.not_eq_true', List.any_eq_false] at h
    have hbreaks := h.2 c hc
    refine ⟨?_, ?_, ?_⟩ <;> rintro rfl <;> exact hbreaks rfl

theorem run_name (h : Naming.isElementName name = true) :
    run ⟨frames, row, .tag⟩ name.toList = some ⟨frames, row, .name name⟩ := by
  obtain ⟨hne, hchars⟩ := of_isElementName h
  obtain ⟨c, cs, hname⟩ := List.exists_cons_of_ne_nil hne
  rw [hname] at hchars
  have hfirst : step ⟨frames, row, .tag⟩ c = some ⟨frames, row, .name ("".push c)⟩ := by
    simp [step, (hchars c List.mem_cons_self).2.1]
  have hrest : run ⟨frames, row, .name ("".push c)⟩ cs = _ := run_scan .name _ fun s d hd => by
    simp [step, hchars d (List.mem_cons_of_mem _ hd)]
  have hjoin : "".push c ++ String.ofList cs = name := by
    apply String.toList_inj.1
    simp [hname]
  rw [hname, run_cons hfirst, hrest, hjoin]

theorem run_closing (h : Naming.isElementName name = true) :
    run ⟨frames, row, .closing ""⟩ name.toList = some ⟨frames, row, .closing name⟩ := by
  have hscan : run ⟨frames, row, .closing ""⟩ name.toList = _ :=
    run_scan .closing "" fun s c hc => by simp [step, ((of_isElementName h).2 c hc).2.2]
  simpa using hscan

theorem run_key {key : String} (h : '=' ∉ key.toList) :
    run ⟨frames, row, .key name attrs ""⟩ key.toList =
      some ⟨frames, row, .key name attrs key⟩ := by
  have hscan : run ⟨frames, row, .key name attrs ""⟩ key.toList = _ :=
    run_scan (.key name attrs) "" fun s c hc => by
      have hne : c ≠ '=' := fun heq => h (heq ▸ hc)
      simp [step, hne]
  simpa using hscan

theorem run_value {key value : String} (h : '"' ∉ value.toList) :
    run ⟨frames, row, .value name attrs key ""⟩ value.toList =
      some ⟨frames, row, .value name attrs key value⟩ := by
  have hscan : run ⟨frames, row, .value name attrs key ""⟩ value.toList = _ :=
    run_scan (.value name attrs key) "" fun s c hc => by
      have hne : c ≠ '"' := fun heq => h (heq ▸ hc)
      simp [step, hne]
  simpa using hscan

/-! ### Reading tags -/

/-- An attribute ends behind the second quotation mark. -/
theorem run_encodeEntry {e : String × String} (hkey : '=' ∉ e.1.toList)
    (hvalue : '"' ∉ e.2.toList) :
    run ⟨frames, row, .key name attrs ""⟩ (Attributes.encodeEntry e).toList =
      some ⟨frames, row, .next name (attrs.insert e.1 e.2)⟩ := by
  have hequals : step ⟨frames, row, .key name attrs e.1⟩ '=' =
      some ⟨frames, row, .mark name attrs e.1⟩ := rfl
  have hopen : step ⟨frames, row, .mark name attrs e.1⟩ '"' =
      some ⟨frames, row, .value name attrs e.1 ""⟩ := rfl
  have hclose : step ⟨frames, row, .value name attrs e.1 e.2⟩ '"' =
      some ⟨frames, row, .next name (attrs.insert e.1 e.2)⟩ := rfl
  have htext : (Attributes.encodeEntry e).toList =
      e.1.toList ++ '=' :: '"' :: (e.2.toList ++ ['"']) := by
    simp [Attributes.encodeEntry]
  rw [htext, run_append (run_key hkey), run_cons hequals, run_cons hopen,
    run_append (run_value hvalue), run_singleton, hclose]

/-- A space between attributes is told from one in a key, as it is behind a value. -/
theorem run_entries {e : String × String} {es : List (String × String)}
    (h : ∀ e' ∈ e :: es, '=' ∉ e'.1.toList ∧ '"' ∉ e'.2.toList) :
    run ⟨frames, row, .key name attrs ""⟩
        (String.intercalate " " ((e :: es).map Attributes.encodeEntry)).toList =
      some ⟨frames, row, .next name (attrs.insertAll (e :: es))⟩ := by
  have hfirst : run ⟨frames, row, .key name attrs ""⟩ (Attributes.encodeEntry e).toList = _ :=
    run_encodeEntry (h e List.mem_cons_self).1 (h e List.mem_cons_self).2
  induction es generalizing e attrs with
  | nil =>
    rw [List.map_singleton, String.intercalate_singleton]
    exact hfirst
  | cons e' es ih =>
    have hspace : step ⟨frames, row, .next name (attrs.insert e.1 e.2)⟩ ' ' =
        some ⟨frames, row, .key name (attrs.insert e.1 e.2) ""⟩ := rfl
    have hrest : ∀ e'' ∈ e' :: es, '=' ∉ e''.1.toList ∧ '"' ∉ e''.2.toList :=
      fun e'' he => h e'' (List.mem_cons_of_mem _ he)
    have htext : (String.intercalate " " ((e :: e' :: es).map Attributes.encodeEntry)).toList =
        (Attributes.encodeEntry e).toList ++
          ' ' :: (String.intercalate " " ((e' :: es).map Attributes.encodeEntry)).toList := by
      simp [String.intercalate_cons_cons]
    rw [htext, run_append hfirst, run_cons hspace,
      ih hrest (run_encodeEntry (hrest e' List.mem_cons_self).1 (hrest e' List.mem_cons_self).2)]
    rfl

/-- **Behind its name and its attributes a tag goes on as it has to.** -/
theorem run_tagInside (h : isLegibleTag name attrs = true) {c : Char} (hc : c = '/' ∨ c = '>') :
    run ⟨frames, row, .tag⟩ ((tagInside name attrs).toList ++ [c]) =
      stepInside frames row name attrs c := by
  simp only [isLegibleTag, Bool.and_eq_true, List.all_eq_true, Bool.not_eq_true',
    List.contains_eq_mem, decide_eq_false_iff_not] at h
  obtain ⟨hname, hentries⟩ := h
  have hofList := OrderedMap.ofList_entries attrs
  unfold tagInside
  cases hes : attrs.entries with
  | nil =>
    have hempty : attrs = ∅ := OrderedMap.ext hes
    rw [if_pos rfl, run_append (run_name hname), hempty]
    rw [run_singleton, step, if_pos (Or.inr hc)]
  | cons e es =>
    rw [hes] at hentries hofList
    have hspace : step ⟨frames, row, .name name⟩ ' ' = some ⟨frames, row, .key name ∅ ""⟩ := rfl
    have htext : (name ++ " " ++ attrs.encode).toList ++ [c] = name.toList ++ (' ' ::
        ((String.intercalate " " ((e :: es).map Attributes.encodeEntry)).toList ++ [c])) := by
      simp [Attributes.encode, hes]
    rw [if_neg (by simp), htext, run_append (run_name hname), run_cons hspace,
      run_append (run_entries hentries)]
    have hattrs : OrderedMap.insertAll ∅ (e :: es) = attrs := hofList
    rw [hattrs, run_singleton, step]

theorem run_startTag (h : isLegibleTag name attrs = true) :
    run ⟨frames, row, .text s⟩ (Piece.startTag name attrs).text.toList =
      some ⟨⟨row.append (.leaf s), name, attrs⟩ :: frames, .nil, .text ""⟩ := by
  have hopen : step ⟨frames, row, .text s⟩ '<' = some ⟨frames, row.append (.leaf s), .tag⟩ := rfl
  have htext : (Piece.startTag name attrs).text.toList =
      '<' :: ((tagInside name attrs).toList ++ ['>']) := by simp [Piece.text]
  rw [htext, run_cons hopen, run_tagInside h (Or.inr rfl)]
  rfl

theorem run_voidTag (h : isLegibleTag name attrs = true) :
    run ⟨frames, row, .text s⟩ (Piece.voidTag name attrs).text.toList =
      some ⟨frames, (row.append (.leaf s)).append (.void name attrs .nil), .text ""⟩ := by
  have hopen : step ⟨frames, row, .text s⟩ '<' = some ⟨frames, row.append (.leaf s), .tag⟩ := rfl
  have hslash : run ⟨frames, row.append (.leaf s), .tag⟩ ((tagInside name attrs).toList ++ ['/']) =
      some ⟨frames, row.append (.leaf s), .slash name attrs⟩ := run_tagInside h (Or.inl rfl)
  have htext : (Piece.voidTag name attrs).text.toList =
      '<' :: ((tagInside name attrs).toList ++ ['/'] ++ ['>']) := by simp [Piece.text]
  rw [htext, run_cons hopen, run_append hslash, run_singleton, step, if_pos rfl]

/-- An end tag closes the element that was opened under its name. -/
theorem run_endTag (before : Forest) (h : Naming.isElementName name = true) :
    run ⟨⟨before, name, attrs⟩ :: frames, row, .text s⟩ (Piece.endTag name).text.toList =
      some ⟨frames, before.append (.element name attrs (row.append (.leaf s)) .nil),
        .text ""⟩ := by
  have hopen : step ⟨⟨before, name, attrs⟩ :: frames, row, .text s⟩ '<' =
      some ⟨⟨before, name, attrs⟩ :: frames, row.append (.leaf s), .tag⟩ := rfl
  have hslash : step ⟨⟨before, name, attrs⟩ :: frames, row.append (.leaf s), .tag⟩ '/' =
      some ⟨⟨before, name, attrs⟩ :: frames, row.append (.leaf s), .closing ""⟩ := rfl
  have hclose : step ⟨⟨before, name, attrs⟩ :: frames, row.append (.leaf s), .closing name⟩ '>' =
      some ⟨frames, before.append (.element name attrs (row.append (.leaf s)) .nil),
        .text ""⟩ := by
    simp [step, close]
  have htext : (Piece.endTag name).text.toList = '<' :: '/' :: (name.toList ++ ['>']) := by
    simp [Piece.text]
  rw [htext, run_cons hopen, run_cons hslash, run_append (run_closing h), run_singleton, hclose]

/-! ### Reading forests -/

/-- **A forest is read behind what was read before**, up to a text that may not be at its end. -/
theorem run_markup (frames : List Frame) (row : Forest) (s : String) {f : Forest}
    (h : f.isLegible = true) :
    ∃ row' s', run ⟨frames, row, .text s⟩ f.markup.toList = some ⟨frames, row', .text s'⟩ ∧
      row'.append (.leaf s') = row.append (f.mergedBehind s) := by
  -- the stack grows over the children of an element, and is the same again behind its end tag
  induction f generalizing frames row s with
  | nil => exact ⟨row, s, by simp [run, Forest.markup], rfl⟩
  | text t rest ih =>
    simp only [Forest.isLegible, Bool.and_eq_true, Bool.not_eq_true', List.contains_eq_mem,
      decide_eq_false_iff_not] at h
    obtain ⟨row', s', hrun, heq⟩ := ih frames row (s ++ t) h.2
    refine ⟨row', s', ?_, heq⟩
    rw [Forest.markup, String.toList_append, run_append (run_text h.1), hrun]
  | void name attrs rest ih =>
    obtain ⟨htag, hrest⟩ := Bool.and_eq_true_iff.1 h
    obtain ⟨row', s', hrun, heq⟩ := ih frames
      ((row.append (.leaf s)).append (.void name attrs .nil)) "" hrest
    refine ⟨row', s', ?_, ?_⟩
    · rw [Forest.markup, String.toList_append, run_append (run_voidTag htag), hrun]
    · rw [heq, Forest.mergedBehind, Forest.append_assoc, Forest.append_assoc]
      rfl
  | element name attrs children rest ihchildren ih =>
    simp only [Forest.isLegible, Bool.and_eq_true] at h
    obtain ⟨⟨htag, hchildren⟩, hrest⟩ := h
    have hname : Naming.isElementName name = true := (Bool.and_eq_true_iff.1 htag).1
    obtain ⟨inner, s₁, hinner, heq₁⟩ := ihchildren
      (⟨row.append (.leaf s), name, attrs⟩ :: frames) .nil "" hchildren
    obtain ⟨row', s', hrun, heq⟩ := ih frames
      ((row.append (.leaf s)).append (.element name attrs (inner.append (.leaf s₁)) .nil)) "" hrest
    refine ⟨row', s', ?_, ?_⟩
    · rw [Forest.markup, String.toList_append, String.toList_append, String.toList_append,
        List.append_assoc, List.append_assoc, run_append (run_startTag htag), run_append hinner,
        run_append (run_endTag _ hname), hrun]
    · rw [heq, heq₁, Forest.mergedBehind, Forest.append_assoc, Forest.append_assoc]
      rfl

end

end Decoder

/-- **The decoder finds a legible forest again.** -/
theorem decode_markup {f : Forest} (h : f.isLegible = true) : decode f.markup = some f.merged := by
  obtain ⟨row, s, hrun, heq⟩ := Decoder.run_markup [] .nil "" h
  rw [decode, hrun]
  exact congrArg some heq

/-- **Legible forests are written alike only if they are alike**, but for how texts are cut. -/
theorem markup_eq_iff {f g : Forest} (hf : f.isLegible = true) (hg : g.isLegible = true) :
    f.markup = g.markup ↔ f.merged = g.merged := by
  constructor
  · intro h
    have hdecode := decode_markup hf
    rw [h, decode_markup hg] at hdecode
    exact (Option.some.inj hdecode).symm
  · intro h
    rw [← Forest.markup_merged f, h, Forest.markup_merged]

/-- **If steps wrote a legible forest on a new context, the text is decoded to the forest.** -/
theorem decode_written {f : Forest} {step : Render Unit} (hf : f.isLegible = true)
    (h : Writes f step) :
    ∃ c text, step.on Context.empty = (.ok (), c) ∧ c.finish = .ok text ∧
      decode text = some f.merged := by
  obtain ⟨c, hstep, htext, hopen⟩ := h.gives Context.empty
  refine ⟨c, c.text, hstep, ?_, ?_⟩
  · simp [Context.finish, hopen]
  · rw [htext, Context.text_empty, String.empty_append, decode_markup hf]

/-- Attributes whose names and values have the characters that end other parts of a tag. -/
def oddAttributes : Attributes :=
  OrderedMap.ofList [("a \"b\" />", "1 = <2>"), ("", ""), ("c", "</f:entry>")]

/-- Texts, elements within each other, and one without content, all written into `f:entry`. -/
def writeOdd : Render Unit := do
  openTag "f:entry" oddAttributes
  do
    append "1 > 0"
    do
      append "\"/>"
      element "f:block" oddAttributes (some fun _ => voidTag "f:textbox" ∅) .plain
      element "f:block" ∅ none .plain
  closeTag "f:entry"

/-- Elements with odd attributes are decoded, and the two texts between them come out as one. -/
theorem decode_written_entry :
    ∃ c text, writeOdd.on Context.empty = (.ok (), c) ∧ c.finish = .ok text ∧
      decode text = some (.element "f:entry" oddAttributes (.text "1 > 0\"/>"
        (.element "f:block" oddAttributes (.void "f:textbox" ∅ .nil)
          (.element "f:block" ∅ .nil .nil))) .nil) := by
  have hwrites : Writes (.element "f:entry" oddAttributes (.text "1 > 0" (.text "\"/>"
      (.element "f:block" oddAttributes (.void "f:textbox" ∅ .nil)
        (.element "f:block" ∅ .nil .nil)))) .nil) writeOdd := by
    have hblock : Writes _ (element "f:block" oddAttributes
        (some fun _ => voidTag "f:textbox" ∅) .plain) :=
      Writes.element "f:block" oddAttributes (Writes.void "f:textbox" ∅)
    exact Writes.tags "f:entry" oddAttributes (Writes.next (Writes.text "1 > 0")
      (Writes.next (Writes.text "\"/>") (Writes.next hblock
        (Writes.childless "f:block" ∅ .plain))))
  exact decode_written (by decide +kernel) hwrites

end Markup

end JellyViews
