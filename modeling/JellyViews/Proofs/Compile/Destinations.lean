/-
**Destinations.**

The output of a template goes next to it, under its name without a dot and the suffix at the end.
Templates are told by their names alone, and different templates of a directory have different
destinations.  What is left of the name is a name again, with two exceptions: a template whose name
begins with one or two dots may be left with nothing but these dots, which name the directory itself
or the one above it.

Main results:

* `Compile.destinationFor_eq_some_iff`, `Compile.destinationFor_eq_none_iff` — which paths are
  templates, and where their output goes;
* `Compile.destination_beside` — **where the output stands in relation to the template**;
* `Compile.destination_beside_dots` — a template whose output would be its own directory.
-/

import JellyViews.Proofs.Compile.Finding
import JellyViews.Proofs.Path.Siblings

set_option relaxedAutoImplicit false
set_option autoImplicit false

namespace JellyViews

namespace Compile

variable {p d : Path} {suffix stem : String}

theorem destinationFor_eq_some_iff :
    destinationFor p suffix = some d ↔
      ∃ stem, stem ≠ "" ∧ p.fileName? = some (stem ++ ("." ++ suffix)) ∧
        d = p.withFileName stem := by
  unfold destinationFor
  cases hname : p.fileName? with
  | none => simp
  | some n =>
    cases hstem : stemOf? suffix n with
    | none =>
      have hno : ∀ s, ¬ (n = s ++ ("." ++ suffix) ∧ s ≠ "") := by
        intro s hs
        rw [stemOf?_eq_some.2 hs] at hstem
        cases hstem
      have hnone : ¬ ∃ stem, stem ≠ "" ∧ some n = some (stem ++ ("." ++ suffix)) ∧
          d = p.withFileName stem := by
        rintro ⟨s, hne, hs, -⟩
        exact hno s ⟨Option.some.inj hs, hne⟩
      simpa [hstem] using hnone
    | some stem =>
      obtain ⟨rfl, hne⟩ := stemOf?_eq_some.1 hstem
      constructor
      · intro h
        have hd : p.withFileName stem = d := by simpa [hstem] using h
        exact ⟨stem, hne, rfl, hd.symm⟩
      · rintro ⟨s, hs, hname', rfl⟩
        have hstem' := stemOf?_eq_some.2 ⟨Option.some.inj hname', hs⟩
        obtain rfl : stem = s := Option.some.inj (hstem.symm.trans hstem')
        simp [hstem]

/-- Everything else is no template. -/
theorem destinationFor_eq_none_iff :
    destinationFor p suffix = none ↔
      ∀ stem, stem ≠ "" → p.fileName? ≠ some (stem ++ ("." ++ suffix)) := by
  rw [Option.eq_none_iff_forall_ne_some]
  constructor
  · intro h stem hne hname
    exact h _ (destinationFor_eq_some_iff.2 ⟨stem, hne, hname, rfl⟩)
  · intro h d hd
    obtain ⟨stem, hne, hname, -⟩ := destinationFor_eq_some_iff.1 hd
    exact h stem hne hname

/-- No slash stands in what is left of a name. -/
theorem slash_not_mem_stem (h : p.fileName? = some (stem ++ ("." ++ suffix))) :
    '/' ∉ stem.toList := by
  have hslash := (Path.isName_of_fileName? h).noSlash
  rw [String.toList_append, List.mem_append, not_or] at hslash
  exact hslash.1

theorem stem_ne (stem suffix : String) : stem ≠ stem ++ ("." ++ suffix) := by
  intro h
  have hlength := congrArg String.length h
  simp at hlength

/-- What is left of a name is a name, unless it is one dot or two. -/
theorem isName_stem_iff (hne : stem ≠ "") (h : p.fileName? = some (stem ++ ("." ++ suffix))) :
    Path.IsName stem ↔ stem ≠ "." ∧ stem ≠ ".." := by
  simp [Path.IsName, slash_not_mem_stem h, Path.isIdle, hne]

/-- A template and its destination are different paths. -/
theorem components_destination_ne (h : destinationFor p suffix = some d) :
    d.components ≠ p.components := by
  obtain ⟨stem, hne, hname, rfl⟩ := destinationFor_eq_some_iff.1 h
  rw [Path.components_withFileName hname (slash_not_mem_stem hname) hne,
    Path.components_eq_parent hname]
  split
  · split
    · rename_i htop
      simp [htop]
    · simp
  · intro hsame
    have hcomp := (List.cons.inj (List.append_cancel_left hsame)).1
    rw [← (Path.isName_of_fileName? hname).componentOf_eq] at hcomp
    exact stem_ne stem suffix (Path.componentOf_injective hcomp)

/-- Different templates of a directory have different destinations. -/
theorem components_eq_of_destination {q d' : Path} (h : destinationFor p suffix = some d)
    (h' : destinationFor q suffix = some d')
    (hparent : p.parent.components = q.parent.components)
    (hsame : d.components = d'.components) : p.components = q.components := by
  obtain ⟨stem, hne, hname, rfl⟩ := destinationFor_eq_some_iff.1 h
  obtain ⟨stem', hne', hname', rfl⟩ := destinationFor_eq_some_iff.1 h'
  obtain rfl : stem = stem' := Path.eq_of_components_withFileName hname hname'
    ⟨slash_not_mem_stem hname, hne⟩ ⟨slash_not_mem_stem hname', hne'⟩ hparent hsame
  rw [Path.components_eq_parent hname, Path.components_eq_parent hname', hparent]

/-- **Where the output stands in relation to the template.**  The template has a name that is a stem
with a dot and the suffix behind it, and there is no output for any other path.  The output stands
in the directory of the template and is named by the stem, except if the stem is one dot or two.  It
is never the template, and no two templates of a directory have the same output. -/
theorem destination_beside (p : Path) (suffix : String) :
    (destinationFor p suffix = none ↔
      ∀ stem, stem ≠ "" → p.fileName? ≠ some (stem ++ ("." ++ suffix))) ∧
    ∀ d, destinationFor p suffix = some d →
      (∃ stem, stem ≠ "" ∧ p.fileName? = some (stem ++ ("." ++ suffix)) ∧
        d = p.withFileName stem ∧
        (d.parent = p.parent ∧ d.fileName? = some stem ↔ stem ≠ "." ∧ stem ≠ "..")) ∧
      d.components ≠ p.components ∧
      ∀ q d', destinationFor q suffix = some d' → p.parent.components = q.parent.components →
        d.components = d'.components → p.components = q.components := by
  refine ⟨destinationFor_eq_none_iff, fun d hd => ⟨?_, components_destination_ne hd, ?_⟩⟩
  · obtain ⟨stem, hne, hname, rfl⟩ := destinationFor_eq_some_iff.1 hd
    exact ⟨stem, hne, hname, rfl, (Path.isSibling_iff hname).trans (isName_stem_iff hne hname)⟩
  · intro q d' hd' hparent hsame
    exact components_eq_of_destination hd hd' hparent hsame

/-- A template whose name begins with two dots: what is left is a dot, and the output would be the
directory of the template.  With one more dot it would be the directory above. -/
theorem destination_beside_dots :
    let d : Path := ⟨"root/."⟩
    destinationFor ⟨"root/..tera"⟩ "tera" = some d ∧
    destinationFor ⟨"root/...tera"⟩ "tera" = some ⟨"root/.."⟩ ∧
    ¬ (d.parent = Path.parent ⟨"root/..tera"⟩ ∧ d.fileName? = some ".") ∧
    d.components = Path.components ⟨"root"⟩ := by
  intro d
  have hd : destinationFor ⟨"root/..tera"⟩ "tera" = some d := by decide +kernel
  obtain ⟨stem, hne, hname, -, hiff⟩ :=
    ((destination_beside ⟨"root/..tera"⟩ "tera").2 d hd).1
  have hdots : Path.fileName? ⟨"root/..tera"⟩ = some ("." ++ ("." ++ "tera")) := by
    decide +kernel
  obtain rfl : "." = stem :=
    String.append_left_inj ("." ++ "tera") |>.1 (Option.some.inj (hdots.symm.trans hname))
  exact ⟨hd, by decide +kernel, fun h => (hiff.1 h).1 rfl, by decide +kernel⟩

end Compile

end JellyViews
