/-
**Writing steps in other contexts.**

A step writes on top of what a context holds already.  What it does in a context of its own it also
does on top of any text and any open elements, if it succeeds: it never looks below the elements
that it opened.  A step that closes what it opens does not even need to succeed, as no context can
make it fail or save it from failing.

Main definitions:

* `Markup.Context.pushAll` — a context after some pieces;
* `Markup.Render.Lifts` — what succeeds in a context succeeds on top of every other one;
* `Markup.Render.Steady` — the outcome is the same in all contexts, and no element is left open;
* `Markup.Render.Gives` — steps that append a text, or fail, whatever the context;
* `Markup.Compositional` — properties of steps that elements keep.

Main results:

* `Markup.on_closeTag_eq_ok_iff` — an end tag succeeds exactly on an element of its name;
* `Markup.compositional_lifts`, `Markup.compositional_steady` — **both properties are passed on from
  bodies to elements**;
* `Markup.Render.lifts_openTag`, `Markup.Render.lifts_closeTag` — the first one also holds of single
  start and end tags;
* `Markup.Render.gives_bind`, `Markup.Render.gives_around` — texts of steps in a row, and of steps
  between tags.
-/

import JellyViews.Markup.Context

set_option relaxedAutoImplicit false
set_option autoImplicit false

namespace JellyViews

namespace Markup

/-! ### Running steps -/

namespace Render

variable {α β : Type}

@[simp] theorem on_pure (a : α) (c : Context) : Render.on (pure a) c = (.ok a, c) := rfl

@[simp] theorem on_throw (e : TagError) (c : Context) :
    Render.on (throw e : Render α) c = (.error e, c) := rfl

@[simp] theorem on_modify (f : Context → Context) (c : Context) :
    Render.on (modify f : Render Unit) c = (.ok (), f c) := rfl

/-- Steps run one after the other, up to the first error. -/
theorem on_bind (step : Render α) (next : α → Render β) (c : Context) :
    Render.on (step >>= next) c =
      match step.on c with
      | (.ok a, c') => (next a).on c'
      | (.error e, c') => (.error e, c') := by
  have h : (step >>= next).on c =
      match step.on c with
      | (r, c') => StateT.run (ExceptT.bindCont next r) c' := rfl
  rw [h]
  rcases step.on c with ⟨e | a, c'⟩ <;> rfl

theorem on_bind_of_ok {step : Render α} {next : α → Render β} {c c' : Context} {a : α}
    (h : step.on c = (.ok a, c')) : (step >>= next).on c = (next a).on c' := by
  rw [on_bind, h]

theorem on_bind_of_error {step : Render α} {c c' : Context} {e : TagError}
    (h : step.on c = (.error e, c')) (next : α → Render β) :
    (step >>= next).on c = (.error e, c') := by
  rw [on_bind, h]

end Render

theorem on_openTag (name : String) (attrs : Attributes) (c : Context) :
    (openTag name attrs).on c =
      (.ok (), { c.push (.startTag name attrs) with openElements := name :: c.openElements }) :=
  rfl

theorem on_closeTag (name : String) (c : Context) :
    (closeTag name).on c =
      match c.openElements with
      | top :: rest =>
        if top = name then (.ok (), { c.push (.endTag name) with openElements := rest })
        else (.error (.unbalancedClose (some top) name), c)
      | [] => (.error (.unbalancedClose none name), c) := by
  have hget : (get : Render Context).on c = (.ok c, c) := rfl
  rw [closeTag, Render.on_bind, hget]
  dsimp only
  cases c.openElements with
  | nil => rfl
  | cons top rest =>
    dsimp only
    split <;> rfl

/-- An end tag finds its element on top. -/
theorem on_closeTag_of_open {name : String} {c : Context} {rest : List String}
    (h : c.openElements = name :: rest) :
    (closeTag name).on c = (.ok (), { c.push (.endTag name) with openElements := rest }) := by
  rw [on_closeTag, h]
  exact if_pos rfl

/-- An end tag succeeds only there. -/
theorem on_closeTag_eq_ok_iff {name : String} {c c' : Context} :
    (closeTag name).on c = (.ok (), c') ↔
      ∃ rest, c.openElements = name :: rest ∧
        { c.push (.endTag name) with openElements := rest } = c' := by
  constructor
  · intro h
    rw [on_closeTag] at h
    cases hopen : c.openElements with
    | nil => simp [hopen] at h
    | cons top rest =>
      rw [hopen] at h
      dsimp only at h
      split at h
      · rename_i htop
        exact ⟨rest, by rw [htop], (Prod.mk.inj h).2⟩
      · simp at h
  · rintro ⟨rest, hopen, rfl⟩
    exact on_closeTag_of_open hopen

/-- An end tag that does not fit fails, and leaves the context as it is. -/
theorem on_closeTag_of_unbalanced {name : String} {c : Context}
    (h : c.openElements.head? ≠ some name) :
    (closeTag name).on c = (.error (.unbalancedClose c.openElements.head? name), c) := by
  rw [on_closeTag]
  cases hopen : c.openElements with
  | nil => rfl
  | cons top rest =>
    have htop : top ≠ name := fun heq => h (by rw [hopen, heq, List.head?_cons])
    exact if_neg htop

/-! ### Several pieces -/

namespace Context

/-- The context after some pieces are written. -/
def pushAll (c : Context) (ps : List Piece) : Context := ps.foldl push c

theorem text_pushAll (c : Context) (ps : List Piece) :
    (c.pushAll ps).text = c.text ++ joined (ps.map Piece.text) := by
  have hpush : (c.pushAll ps).text = (ps.map Piece.text).foldl (· ++ ·) c.text := by
    induction ps generalizing c with
    | nil => rfl
    | cons p ps ih =>
      have hcons := ih (c.push p)
      rwa [text_push] at hcons
  have hjoined : (ps.map Piece.text).foldl (· ++ ·) (c.text ++ "") =
      c.text ++ (ps.map Piece.text).foldl (· ++ ·) "" := List.foldl_assoc
  rw [hpush, joined, ← hjoined, String.append_empty]

end Context

/-! ### Steps on top of a context -/

/-- The context `d` holds what `c` holds on top of a text and of open elements. -/
structure Context.Over (front : String) (base : List String) (c d : Context) : Prop where
  text : d.text = front ++ c.text
  openElements : d.openElements = c.openElements ++ base

namespace Context.Over

variable {front : String} {base : List String} {c d : Context}

/-- Writing the same piece in both contexts, which then have the elements open that are given. -/
theorem push_with (h : Over front base c d) (p : Piece) (es : List String) :
    Over front base { c.push p with openElements := es }
      { d.push p with openElements := es ++ base } where
  text := by
    change (d.push p).text = front ++ (c.push p).text
    rw [text_push, text_push, h.text, String.append_assoc]
  openElements := rfl

theorem push (h : Over front base c d) (p : Piece) : Over front base (c.push p) (d.push p) := by
  have hpush := h.push_with p c.openElements
  rwa [← h.openElements] at hpush

end Context.Over

namespace Render

/-- What succeeds in a context succeeds on top of every other one, and writes the same there. -/
def Lifts (step : Render Unit) : Prop :=
  ∀ ⦃front : String⦄ ⦃base : List String⦄ ⦃c d c' : Context⦄, Context.Over front base c d →
    step.on c = (.ok (), c') → ∃ d', step.on d = (.ok (), d') ∧ Context.Over front base c' d'

theorem lifts_modify {f : Context → Context}
    (h : ∀ {front base c d}, Context.Over front base c d → Context.Over front base (f c) (f d)) :
    Lifts (modify f) := by
  intro front base c d c' hover hstep
  obtain rfl : f c = c' := by simpa using hstep
  exact ⟨f d, rfl, h hover⟩

theorem lifts_openTag (name : String) (attrs : Attributes) : Lifts (openTag name attrs) :=
  lifts_modify fun {front base c d} h => by
    have hpush := h.push_with (.startTag name attrs) (name :: c.openElements)
    rwa [List.cons_append, ← h.openElements] at hpush

/-- An end tag closes an element that was opened in the context. -/
theorem lifts_closeTag (name : String) : Lifts (closeTag name) := by
  intro front base c d c' hover hstep
  obtain ⟨rest, hopen, rfl⟩ := on_closeTag_eq_ok_iff.1 hstep
  have hbase : d.openElements = name :: (rest ++ base) := by
    rw [hover.openElements, hopen, List.cons_append]
  exact ⟨_, on_closeTag_of_open hbase, hover.push_with (.endTag name) rest⟩

theorem lifts_bind {step step' : Render Unit} (h : step.Lifts) (h' : step'.Lifts) :
    Lifts (step >>= fun _ => step') := by
  intro front base c d c' hover hstep
  rw [on_bind] at hstep ⊢
  rcases hc : step.on c with ⟨e | u, c₁⟩
  · simp [hc] at hstep
  · rw [hc] at hstep
    obtain ⟨d₁, hd, hover₁⟩ := h hover hc
    rw [hd]
    exact h' hover₁ hstep

/-! ### Steps that do not depend on the context -/

/-- The outcome is the same in all contexts, and where it is a success no element is left open. -/
def Steady (step : Render Unit) : Prop :=
  ∃ result : Except TagError Unit, ∀ c, (step.on c).1 = result ∧
    (result = .ok () → (step.on c).2.openElements = c.openElements)

theorem steady_modify {f : Context → Context} (h : ∀ c, (f c).openElements = c.openElements) :
    Steady (modify f) :=
  ⟨.ok (), fun c => ⟨rfl, fun _ => h c⟩⟩

theorem steady_bind {step step' : Render Unit} (h : step.Steady) (h' : step'.Steady) :
    Steady (step >>= fun _ => step') := by
  obtain ⟨result, h⟩ := h
  obtain ⟨result', h'⟩ := h'
  cases result with
  | error e =>
    refine ⟨.error e, fun c => ?_⟩
    obtain ⟨hc, -⟩ := h c
    rw [on_bind]
    -- the second step is not reached
    rcases hstep : step.on c with ⟨e' | u, c₁⟩ <;> simp_all
  | ok u =>
    refine ⟨result', fun c => ?_⟩
    obtain ⟨hc, hopen⟩ := h c
    rw [on_bind]
    rcases hstep : step.on c with ⟨e' | u', c₁⟩
    · simp [hstep] at hc
    · rw [hstep] at hopen
      obtain ⟨hc', hopen'⟩ := h' c₁
      exact ⟨hc', fun hok => (hopen' hok).trans (hopen rfl)⟩

/-- A step between a start tag and its end tag. -/
theorem steady_around (name : String) (attrs : Attributes) {step : Render Unit} (h : step.Steady) :
    Steady (do
      openTag name attrs
      step
      closeTag name) := by
  obtain ⟨result, h⟩ := h
  refine ⟨result, fun c => ?_⟩
  rw [on_bind, on_openTag]
  dsimp only
  rw [on_bind]
  obtain ⟨hc, hopen⟩ := h { c.push (.startTag name attrs) with
    openElements := name :: c.openElements }
  cases result with
  | error e => rcases hstep : step.on _ with ⟨e' | u, c₁⟩ <;> simp_all
  | ok u =>
    rcases hstep : step.on _ with ⟨e' | u', c₁⟩
    · simp [hstep] at hc
    · rw [hstep] at hopen
      dsimp only at hopen ⊢
      -- the end tag finds the element on top again
      rw [on_closeTag_of_open (hopen rfl)]
      simp

/-! ### Steps that give a text -/

/-- Whatever the context, the step appends this text and leaves the same elements open; or it fails,
if there is no text. -/
def Gives (step : Render Unit) : Option String → Prop
  | some t => ∀ c : Context, ∃ c', step.on c = (.ok (), c') ∧ c'.text = c.text ++ t ∧
      c'.openElements = c.openElements
  | none => ∀ c : Context, ∃ e c', step.on c = (.error e, c')

theorem gives_pure : Gives (pure ()) (some "") := fun c => ⟨c, rfl, by simp, rfl⟩

theorem gives_throw (e : TagError) : Gives (throw e) none := fun c => ⟨e, c, rfl⟩

theorem gives_append (text : String) : Gives (append text) (some text) :=
  fun c => ⟨c.push (.literal text), rfl, by simp [Piece.text], rfl⟩

theorem gives_voidTag (name : String) (attrs : Attributes) :
    Gives (voidTag name attrs) (some (Piece.voidTag name attrs).text) :=
  fun c => ⟨c.push (.voidTag name attrs), rfl, by simp, rfl⟩

theorem gives_bind {step step' : Render Unit} {x y : Option String} (h : step.Gives x)
    (h' : step'.Gives y) :
    Gives (step >>= fun _ => step') (x.bind fun t => y.map fun u => t ++ u) := by
  cases x with
  | none =>
    intro c
    obtain ⟨e, c', hc⟩ := h c
    exact ⟨e, c', on_bind_of_error hc _⟩
  | some t =>
    cases y with
    | none =>
      intro c
      obtain ⟨c', hc, -⟩ := h c
      obtain ⟨e, c'', hc'⟩ := h' c'
      exact ⟨e, c'', (on_bind_of_ok hc).trans hc'⟩
    | some u =>
      intro c
      obtain ⟨c', hc, htext, hopen⟩ := h c
      obtain ⟨c'', hc', htext', hopen'⟩ := h' c'
      refine ⟨c'', (on_bind_of_ok hc).trans hc', ?_, hopen'.trans hopen⟩
      rw [htext', htext, String.append_assoc]

/-- A step between a start tag and its end tag. -/
theorem gives_around (name : String) (attrs : Attributes) {step : Render Unit} {x : Option String}
    (h : step.Gives x) :
    Gives (do
      openTag name attrs
      step
      closeTag name)
      (x.map fun t => (Piece.startTag name attrs).text ++ t ++ (Piece.endTag name).text) := by
  cases x with
  | none =>
    intro c
    obtain ⟨e, c', hc⟩ := h { c.push (.startTag name attrs) with
      openElements := name :: c.openElements }
    exact ⟨e, c', (on_bind_of_ok (on_openTag name attrs c)).trans (on_bind_of_error hc _)⟩
  | some t =>
    intro c
    obtain ⟨c', hc, htext, hopen⟩ := h { c.push (.startTag name attrs) with
      openElements := name :: c.openElements }
    -- the end tag finds the element on top again
    have hclose := on_closeTag_of_open hopen
    refine ⟨_, (on_bind_of_ok (on_openTag name attrs c)).trans ((on_bind_of_ok hc).trans hclose),
      ?_, rfl⟩
    calc (c'.push (.endTag name)).text
        = (c.push (.startTag name attrs)).text ++ t ++ (Piece.endTag name).text := by
          rw [Context.text_push, htext]
          rfl
      _ = _ := by simp [String.append_assoc]

end Render

/-! ### Properties that elements keep -/

/-- A property of steps that is passed on from bodies to elements. -/
structure Compositional (P : Render Unit → Prop) : Prop where
  done : P (pure ())
  fail (e : TagError) : P (throw e)
  append (text : String) : P (append text)
  voidTag (name : String) (attrs : Attributes) : P (voidTag name attrs)
  notes (f : Context → Array Note) : P (modify fun c => { c with notes := f c })
  next {step step' : Render Unit} : P step → P step' → P (step >>= fun _ => step')
  around (name : String) (attrs : Attributes) {step : Render Unit} : P step →
    P (do
      openTag name attrs
      step
      closeTag name)

theorem compositional_lifts : Compositional Render.Lifts where
  done front base c d c' hover hstep := by
    obtain rfl : c = c' := by simpa using hstep
    exact ⟨d, rfl, hover⟩
  fail e front base c d c' hover hstep := by simp at hstep
  append text := Render.lifts_modify fun h => h.push (.literal text)
  voidTag name attrs := Render.lifts_modify fun h => h.push (.voidTag name attrs)
  notes f := Render.lifts_modify fun h => ⟨h.text, h.openElements⟩
  next := Render.lifts_bind
  around name attrs step h := Render.lifts_bind (Render.lifts_openTag name attrs)
    (Render.lifts_bind h (Render.lifts_closeTag name))

theorem compositional_steady : Compositional Render.Steady where
  done := ⟨.ok (), fun c => ⟨rfl, fun _ => rfl⟩⟩
  fail e := ⟨.error e, fun c => ⟨rfl, by simp⟩⟩
  append text := Render.steady_modify fun c => rfl
  voidTag name attrs := Render.steady_modify fun c => rfl
  notes f := Render.steady_modify fun c => rfl
  next := Render.steady_bind
  around name attrs step h := Render.steady_around name attrs h

end Markup

end JellyViews
