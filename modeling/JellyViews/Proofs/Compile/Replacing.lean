/-
**Replacing a text, seen at two locations.**

Replacing the text of a file is a matter of two locations of one directory: that of the file and
that of its temporary file.  Whatever happens, the temporary file is gone in the end; the file is
replaced only if nothing went wrong.

Main definitions:

* `Compile.temporaryName` — the name of the temporary file;
* `Compile.replacedAt` — what becomes of the two locations, and what is reported;
* `Compile.Persisted` — the possible outcomes, with the reasons for them.

Main results:

* `Compile.replaceText_of_leads` — replacing is a change of the two locations;
* `Compile.persisted_persist` — **all that can become of a text that is persisted**;
* `Compile.persist_unchanged_iff` — a text is unchanged exactly if it can be read already;
* `Compile.Persisted.sameFrame` — persisting leaves directories and links alone.
-/

import JellyViews.Compile.Persist
import JellyViews.Proofs.FileTree.Changes

set_option relaxedAutoImplicit false
set_option autoImplicit false

namespace JellyViews

namespace Compile

open FileTree

/-! ### Temporary names -/

/-- The name of the temporary file of a name. -/
def temporaryName (s : String) : String := s ++ temporarySuffix

theorem slash_not_mem_temporarySuffix : '/' ∉ temporarySuffix.toList := by decide

theorem length_lt_temporaryName (s : String) :
    s.utf8ByteSize + 2 < (temporaryName s).utf8ByteSize := by
  rw [temporaryName, String.utf8ByteSize_append]
  have h : 2 < temporarySuffix.utf8ByteSize := by decide
  omega

theorem temporaryName_ne (s : String) : temporaryName s ≠ s := by
  intro h
  have hlength := length_lt_temporaryName s
  rw [h] at hlength
  omega

theorem isIdle_temporaryName (s : String) : Path.isIdle (temporaryName s) = false := by
  have hlength := length_lt_temporaryName s
  have hempty : temporaryName s ≠ "" := by
    intro h
    simp [h] at hlength
  have hhere : temporaryName s ≠ "." := by
    intro h
    rw [h] at hlength
    have hone : ".".utf8ByteSize = 1 := by decide
    omega
  simp [Path.isIdle, hempty, hhere]

theorem temporaryName_ne_up (s : String) : temporaryName s ≠ ".." := by
  intro h
  have hlength := length_lt_temporaryName s
  rw [h] at hlength
  have htwo : "..".utf8ByteSize = 2 := by decide
  omega

theorem leads_temporaryFor {t : FileTree} {p : Path} {dir : Location} {s : String}
    (h : t.Leads p dir s) : t.Leads (temporaryFor p) dir (temporaryName s) :=
  h.append slash_not_mem_temporarySuffix

theorem fits_of_temporaryFor {p : Path} {s : String}
    (h : Fits (temporaryFor p) (temporaryName s)) : Fits p s := by
  obtain ⟨hpath, hname⟩ := h
  rw [temporaryFor, String.utf8ByteSize_append] at hpath
  have hlength := length_lt_temporaryName s
  exact ⟨by omega, by omega⟩

/-! ### Replacing -/

/-- What becomes of the tree, and what is reported, when the text of `s` in a directory is replaced;
`fits` tells whether the path of the temporary file can be followed. -/
def replacedAt (t : FileTree) (dir : Location) (s text : String) (fits : Prop) [Decidable fits] :
    FileTree × Except FileError Unit :=
  let file := dir ++ [s]
  let temporary := dir ++ [temporaryName s]
  if ¬ fits then (t, .error .nameTooLong)
  else if t.isDirectory temporary then (t, .error .isDirectory)
  else if Path.isIdle s ∨ s = ".." then (t.drop temporary, .error .busy)
  else if t.isDirectory file then (t.drop temporary, .error .isDirectory)
  else ((t.drop temporary).put file (.file (encode text)), .ok ())

theorem replaceText_of_leads {t : FileTree} {p : Path} {dir : Location} {s : String}
    (h : t.Leads p dir s) (hs : s ≠ "") (hlink : t.Unlinked (dir ++ [temporaryName s]))
    (text : String) :
    replaceText t p text =
      replacedAt t dir s text (Fits (temporaryFor p) (temporaryName s)) := by
  have htemp := leads_temporaryFor h
  have hidle := isIdle_temporaryName s
  have hup := temporaryName_ne_up s
  have hne : dir ++ [temporaryName s] ≠ [] := by simp
  unfold replaceText replacedAt
  rw [htemp.writeText_of_name hidle hup hlink, htemp.unlink_of_name hidle hup]
  by_cases hfits : Fits (temporaryFor p) (temporaryName s)
  · by_cases hdir : t.isDirectory (dir ++ [temporaryName s]) = true
    · simp [hfits, hdir]
    · have hdir : t.isDirectory (dir ++ [temporaryName s]) = false := by simpa using hdir
      have hframe := SameFrame.put_file hne hdir hlink (encode text)
      have hget : (t.put (dir ++ [temporaryName s]) (.file (encode text))).get?
          (dir ++ [temporaryName s]) = some (.file (encode text)) := by
        rw [get?_put _ _ _ _ hne, if_pos rfl]
      simp only [hfits, hdir, if_true, not_true, if_false, Bool.false_eq_true]
      -- the temporary file is there now, and moved or removed again
      rw [(htemp.of_sameFrame hframe).rename_of_name hidle hup hfits hget
        (h.of_sameFrame hframe) hs (fits_of_temporaryFor hfits),
        (htemp.of_sameFrame hframe).unlink_of_name hidle hup, drop_put, hframe.directory,
        hframe.directory]
      by_cases hspecial : Path.isIdle s = true ∨ s = ".."
      · simp [hspecial, hfits, hdir]
      · cases t.isDirectory (dir ++ [s]) <;> simp [hspecial, hfits, hdir]
  · simp [hfits]

/-! ### Persisting -/

/-- A text is unchanged exactly if it can be read already. -/
theorem persist_unchanged_iff (t : FileTree) (p : Path) (text : String) (dryRun : Bool) :
    (persist t p text dryRun).2 = .ok .unchanged ↔ t.readText p = .ok text := by
  rw [← holds_iff, persist]
  cases holds t p text with
  | true => simp
  | false =>
    cases dryRun with
    | true => simp
    | false => rcases replaceText t p text with ⟨t', e | u⟩ <;> simp

/-- Nothing is written if the name of the temporary file is too long. -/
theorem persist_of_not_fits {t : FileTree} {p : Path} {dir : Location} {s : String}
    (h : t.Leads p dir s) (hs : s ≠ "") (hlink : t.Unlinked (dir ++ [temporaryName s]))
    (hfits : ¬ Fits (temporaryFor p) (temporaryName s)) {text : String}
    (hread : t.readText p ≠ .ok text) :
    persist t p text false = (t, .error .nameTooLong) := by
  rw [persist, if_neg fun hholds => hread (holds_iff.1 hholds), if_neg (by simp),
    replaceText_of_leads h hs hlink, replacedAt, if_pos hfits]

/-- What can become of the tree, and be reported, when the text of `s` in a directory is persisted
under a path. -/
inductive Persisted (t : FileTree) (p : Path) (dir : Location) (s text : String) :
    Bool → FileTree × Except FileError Status → Prop where
  | unchanged (dryRun : Bool) (h : t.readText p = .ok text) :
      Persisted t p dir s text dryRun (t, .ok .unchanged)
  | dry (h : t.readText p ≠ .ok text) : Persisted t p dir s text true (t, .ok .wouldWrite)
  /-- The temporary file cannot be written. -/
  | refused (e : FileError) (h : t.readText p ≠ .ok text)
      (hwhy : Fits (temporaryFor p) (temporaryName s) →
        t.isDirectory (dir ++ [temporaryName s]) = true) :
      Persisted t p dir s text false (t, .error e)
  /-- The temporary file was written, and cannot be renamed. -/
  | undone (e : FileError) (h : t.readText p ≠ .ok text)
      (htemp : t.isDirectory (dir ++ [temporaryName s]) = false) :
      Persisted t p dir s text false (t.drop (dir ++ [temporaryName s]), .error e)
  | written (h : t.readText p ≠ .ok text)
      (htemp : t.isDirectory (dir ++ [temporaryName s]) = false)
      (hfile : t.isDirectory (dir ++ [s]) = false)
      (hname : Path.isIdle s = false ∧ s ≠ "..")
      (hfits : Fits (temporaryFor p) (temporaryName s)) :
      Persisted t p dir s text false
        ((t.drop (dir ++ [temporaryName s])).put (dir ++ [s]) (.file (encode text)),
          .ok .written)

/-- **Persisting changes two locations at most.** -/
theorem persisted_persist {t : FileTree} {p : Path} {dir : Location} {s : String}
    (h : t.Leads p dir s) (hs : s ≠ "") (hlink : t.Unlinked (dir ++ [temporaryName s]))
    (text : String) (dryRun : Bool) :
    Persisted t p dir s text dryRun (persist t p text dryRun) := by
  unfold persist
  by_cases hread : t.readText p = .ok text
  · rw [if_pos (holds_iff.2 hread)]
    exact .unchanged dryRun hread
  · rw [if_neg fun hholds => hread (holds_iff.1 hholds)]
    cases dryRun with
    | true => exact .dry hread
    | false =>
      rw [if_neg (by simp), replaceText_of_leads h hs hlink]
      unfold replacedAt
      by_cases hfits : Fits (temporaryFor p) (temporaryName s)
      · rw [if_neg (by simpa using hfits)]
        by_cases htemp : t.isDirectory (dir ++ [temporaryName s]) = true
        · rw [if_pos htemp]
          exact .refused _ hread fun _ => htemp
        · rw [if_neg htemp]
          have htemp := Bool.eq_false_iff.2 htemp
          by_cases hspecial : Path.isIdle s = true ∨ s = ".."
          · rw [if_pos hspecial]
            exact .undone _ hread htemp
          · rw [if_neg hspecial]
            by_cases hfile : t.isDirectory (dir ++ [s]) = true
            · rw [if_pos hfile]
              exact .undone _ hread htemp
            · rw [if_neg hfile]
              have hname : Path.isIdle s = false ∧ s ≠ ".." := by simpa using hspecial
              exact .written hread htemp (Bool.eq_false_iff.2 hfile) hname hfits
      · rw [if_pos hfits]
        exact .refused _ hread fun h => absurd h hfits

/-- Persisting leaves directories and links alone. -/
theorem Persisted.sameFrame {t : FileTree} {p : Path} {dir : Location} {s text : String}
    {dryRun : Bool} {r : FileTree × Except FileError Status}
    (h : Persisted t p dir s text dryRun r) (hlink : t.Unlinked (dir ++ [s]))
    (hlink' : t.Unlinked (dir ++ [temporaryName s])) : SameFrame t r.1 := by
  have hne (x : String) : dir ++ [x] ≠ [] := by simp
  cases h with
  | unchanged => exact .refl t
  | dry => exact .refl t
  | refused => exact .refl t
  | undone e hread htemp => exact .drop (hne _) htemp hlink'
  | written hread htemp hfile =>
    have hdrop : SameFrame t (t.drop (dir ++ [temporaryName s])) := .drop (hne _) htemp hlink'
    refine hdrop.trans (.put_file (hne _) ?_ (hdrop.unlinked hlink) _)
    rw [hdrop.directory, hfile]

end Compile

end JellyViews
