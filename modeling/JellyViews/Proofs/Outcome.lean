/-
**Outcomes.**

A step that may fail ends in a value or in an error.

Main results:

* `bind_eq_ok`, `bind_eq_error`, `append_eq_error` — how steps in a row end.
-/

set_option relaxedAutoImplicit false
set_option autoImplicit false

namespace JellyViews

variable {ε α β : Type} {x : Except ε α}

theorem eq_ok_of_toOption {a : α} (h : x.toOption = some a) : x = .ok a := by
  cases x with
  | error e => simp [Except.toOption] at h
  | ok b => simpa [Except.toOption] using h

/-- Steps in a row give a value if each of them does. -/
theorem bind_eq_ok {f : α → Except ε β} {b : β} (h : x >>= f = .ok b) :
    ∃ a, x = .ok a ∧ f a = .ok b := by
  cases x with
  | error e => simp [bind, Except.bind] at h
  | ok a => exact ⟨a, rfl, h⟩

/-- They end in the error of the first one that fails. -/
theorem bind_eq_error {f : α → Except ε β} {e : ε} (h : x >>= f = .error e) :
    x = .error e ∨ ∃ a, x = .ok a ∧ f a = .error e := by
  cases x with
  | error e' =>
    cases h
    exact .inl rfl
  | ok a => exact .inr ⟨a, rfl, h⟩

/-- Where one step is made for each item of a list, an item whose step fails ends them all, if the
items before it have values. -/
theorem append_eq_error {ι γ : Type} {all : List ι → Except ε β} (step : ι → Except ε γ)
    (glue : ι → γ → β → β)
    (hcons : ∀ i is, all (i :: is) = step i >>= fun c => all is >>= fun b => .ok (glue i c b))
    {before after : List ι} {i : ι} {b : β} {e : ε} (hbefore : all before = .ok b)
    (h : step i = .error e) : all (before ++ i :: after) = .error e := by
  induction before generalizing b with
  | nil =>
    rw [List.nil_append, hcons, h]
    rfl
  | cons j before ih =>
    rw [hcons] at hbefore
    obtain ⟨c, hc, hrest⟩ := bind_eq_ok hbefore
    obtain ⟨b', hb', -⟩ := bind_eq_ok hrest
    rw [List.cons_append, hcons, hc, ih hb']
    rfl

end JellyViews
