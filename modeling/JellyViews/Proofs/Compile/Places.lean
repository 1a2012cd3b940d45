/-
**Where a run reads and writes.**

A template has three locations, all in one directory: its source, its output, and the temporary file
of its output.  Two templates share no source and no output.  The order of a run keeps an output
from being the source of a template that comes later; but it may be the source of one that came
before, and a temporary file may be anything.

Main definitions:

* `Compile.Denotes` — a path that stands for a name in a directory below the root.

Main results:

* `Compile.Denotes.components_eq_iff` — such paths stand for one location exactly if they are equal
  as paths;
* `Compile.Sited.ne_of_components_ne` — different templates have different outputs;
* `Compile.Sited.output_ne_source_of_precedes` — **no output is the source of a later template**.
-/

import JellyViews.Proofs.Compile.Finding
import JellyViews.Proofs.Compile.Replacing

set_option relaxedAutoImplicit false
set_option autoImplicit false

namespace JellyViews

namespace Compile

open FileTree

variable {t : FileTree} {root p q : Path} {top : Location} {suffix : String} {job job' : Job}
  {names names' : List String} {s s' stem stem' : String}

/-! ### Locations -/

theorem location_eq_iff :
    top ++ names ++ [s] = top ++ names' ++ [s'] ↔ names = names' ∧ s = s' := by
  constructor
  · intro h
    obtain ⟨hfront, hlast⟩ := List.append_inj' h rfl
    exact ⟨List.append_cancel_left hfront, by simpa using hlast⟩
  · rintro ⟨rfl, rfl⟩
    rfl

/-! ### Paths of one location -/

/-- The path stands for a name in the directory to which names below the root lead. -/
structure Denotes (t : FileTree) (root : Path) (top : Location) (p : Path) (names : List String)
    (s : String) : Prop where
  leads : t.Leads p (top ++ names) s
  isIdle : Path.isIdle s = false
  ne_up : s ≠ ".."
  components : p.components = root.components ++ names.map .name ++ [.name s]
  /-- Two ways to write the path, of which the second is not the longer one. -/
  segments : p.segments = (root.below names).inside ++ [s] ∨
    p.segments = Path.trimmed (root.below names).inside ++ [s]

namespace Denotes

/-- Paths below the root have the same components exactly if they stand for the same name in the
same directory. -/
theorem components_eq_iff (hp : Denotes t root top p names s)
    (hq : Denotes t root top q names' s') :
    p.components = q.components ↔ names = names' ∧ s = s' := by
  rw [hp.components, hq.components]
  constructor
  · intro h
    obtain ⟨hfront, hlast⟩ := List.append_inj' h rfl
    have hnames : names.map Path.Component.name = names'.map Path.Component.name :=
      List.append_cancel_left hfront
    refine ⟨(List.map_inj_right fun a b hab => ?_).1 hnames, by simpa using hlast⟩
    simpa using hab
  · rintro ⟨rfl, rfl⟩
    rfl

theorem of_sameFrame {t' : FileTree} (hframe : SameFrame t t')
    (h : Denotes t root top p names s) : Denotes t' root top p names s :=
  ⟨h.leads.of_sameFrame hframe, h.isIdle, h.ne_up, h.components, h.segments⟩

/-- What a path stands for is found at the location. -/
theorem entry_eq (h : Denotes t root top p names s) (hlink : t.UnlinkedBelow top)
    (hfits : Fits p s) : t.entry p = t.entryAt (top ++ names ++ [s]) := by
  rw [h.leads.entry_of_name h.isIdle h.ne_up ?_, if_pos hfits]
  rw [List.append_assoc]
  exact hlink _ (by simp)

theorem fileName?_eq (h : Denotes t root top p names s) : p.fileName? = some s := by
  simp [Path.fileName?, h.components]

end Denotes

theorem front_components (hroot : root.text ≠ "") (hnames : ∀ n ∈ names, Path.IsName n) :
    Path.frontComponents (root.below names).inside = root.components ++ names.map .name := by
  rw [Path.frontComponents_inside (Path.text_below_ne_empty hroot names),
    Path.components_below hroot hnames]

theorem Met.denotes (h : Met t root top p names s) (hroot : root.text ≠ "") :
    Denotes t root top p names s where
  leads := h.leads
  isIdle := h.isName_last.notIdle
  ne_up := h.isName_last.2.2
  components := by
    rw [Path.components_of_segments h.segments_eq h.isName_last.notIdle,
      h.isName_last.componentOf_eq,
      front_components hroot fun n hn => h.isName n (List.mem_append_left _ hn)]
  segments := Or.inl h.segments_eq

/-! ### The locations of a template -/

namespace Sited

theorem noSlash (h : Sited t root top suffix job names stem) : '/' ∉ stem.toList := by
  have hname := h.met.isName_last.noSlash
  rw [String.toList_append, List.mem_append, not_or] at hname
  exact hname.1

theorem segments_destination (h : Sited t root top suffix job names stem) :
    job.destination.segments = Path.trimmed (root.below names).inside ++ [stem] := by
  rw [h.destination]
  exact Path.segments_withFileName h.met.segments_eq h.met.isName_last.notIdle h.noSlash

theorem leads_destination (h : Sited t root top suffix job names stem) :
    t.Leads job.destination (top ++ names) stem := by
  rw [h.destination]
  exact h.met.leads.withFileName h.met.isName_last.notIdle h.noSlash

theorem denotes_source (h : Sited t root top suffix job names stem) (hroot : root.text ≠ "") :
    Denotes t root top job.source names (stem ++ ("." ++ suffix)) :=
  h.met.denotes hroot

/-- A path next to the source that is written like the output. -/
theorem denotes_of_segments (h : Sited t root top suffix job names stem) (hroot : root.text ≠ "")
    (hleads : t.Leads p (top ++ names) s) (hidle : Path.isIdle s = false) (hup : s ≠ "..")
    (hp : p.segments = Path.trimmed (root.below names).inside ++ [s]) :
    Denotes t root top p names s where
  leads := hleads
  isIdle := hidle
  ne_up := hup
  components := by
    rw [Path.components_of_segments hp hidle, Path.frontComponents_trimmed, Path.componentOf,
      if_neg hup, front_components hroot fun n hn => h.met.isName n (List.mem_append_left _ hn)]
  segments := Or.inr hp

theorem denotes_destination (h : Sited t root top suffix job names stem) (hroot : root.text ≠ "")
    (hidle : Path.isIdle stem = false) (hup : stem ≠ "..") :
    Denotes t root top job.destination names stem :=
  h.denotes_of_segments hroot h.leads_destination hidle hup h.segments_destination

theorem segments_temporary (h : Sited t root top suffix job names stem) :
    (temporaryFor job.destination).segments =
      Path.trimmed (root.below names).inside ++ [temporaryName stem] :=
  Path.segmentsOf_append slash_not_mem_temporarySuffix h.segments_destination

theorem denotes_temporary (h : Sited t root top suffix job names stem) (hroot : root.text ≠ "") :
    Denotes t root top (temporaryFor job.destination) names (temporaryName stem) :=
  h.denotes_of_segments hroot (leads_temporaryFor h.leads_destination)
    (isIdle_temporaryName stem) (temporaryName_ne_up stem) h.segments_temporary

/-- The path of the temporary file is the shortest one for its location. -/
theorem fits_temporary (h : Sited t root top suffix job names stem)
    (hp : Denotes t root top p names (temporaryName stem)) (hfits : Fits p (temporaryName stem)) :
    Fits (temporaryFor job.destination) (temporaryName stem) := by
  refine ⟨Nat.le_trans ?_ hfits.1, hfits.2⟩
  rcases hp.segments with hseg | hseg
  · exact Path.utf8ByteSize_le_of_trimmed h.segments_temporary hseg
  · obtain rfl := Path.ext_segments (h.segments_temporary.trans hseg.symm)
    exact Nat.le_refl _

/-! ### Two templates -/

/-- Templates with the same stem in the same directory have the same source. -/
theorem ne_of_components_ne (h : Sited t root top suffix job names stem)
    (h' : Sited t root top suffix job' names' stem') (hroot : root.text ≠ "")
    (hne : job.source.components ≠ job'.source.components) : ¬ (names = names' ∧ stem = stem') := by
  rintro ⟨rfl, rfl⟩
  exact hne (((h.denotes_source hroot).components_eq_iff (h'.denotes_source hroot)).2 ⟨rfl, rfl⟩)

/-- **No output is the source of a template that comes later**: the source whose name goes on behind
the name of another source comes after it. -/
theorem output_ne_source_of_precedes (h : Sited t root top suffix job names stem)
    (h' : Sited t root top suffix job' names' stem') (hroot : root.text ≠ "")
    (hprecedes : job.source.precedes job'.source = true) :
    ¬ (names = names' ∧ stem = stem' ++ ("." ++ suffix)) := by
  rintro ⟨rfl, hstem⟩
  have hlt : stem < stem ++ ("." ++ suffix) := Path.lt_append stem (by
    intro hnil
    simpa using congrArg String.toList hnil)
  have hne : Path.Component.name (stem ++ ("." ++ suffix)) ≠ .name stem := by
    intro heq
    rw [Path.Component.name.inj heq] at hlt
    exact String.lt_irrefl stem hlt
  rw [Path.precedes, (h.denotes_source hroot).components, (h'.denotes_source hroot).components,
    Path.componentsPrecede_append_left, ← hstem, Path.componentsPrecede, if_neg hne,
    Path.Component.precedes_name] at hprecedes
  exact String.lt_irrefl _ (String.lt_trans hlt hprecedes)

end Sited

end Compile

end JellyViews
