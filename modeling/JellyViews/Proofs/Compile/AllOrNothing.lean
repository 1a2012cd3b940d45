/-
**Persisting changes one location, or nothing.**

If nothing stands where the temporary file would go, persisting a text has one of two effects.  It
leaves the tree as it was, whatever has gone wrong: the temporary file may have been refused, or
renaming it may have failed.  Or it puts a file with the text where the path ends, and no other
location changes.  If there was a link, the file takes the place of the link, and what the link led
to is not touched.

The text can then be read under the path, and is found to be there if it is persisted again.  There
is one exception: a path may reach its directory over the very link that it replaces, and then it
cannot be followed any more.

Main definitions:

* `FileTree.Vacant` — whether nothing stands where a path ends;
* `Compile.Replaced` — the effect of persisting a text that was written.

Main results:

* `Compile.replaced_of_rename` — what renaming the temporary file does;
* `Compile.replaceText_of_vacant` — replacing puts the file where the path ends, or fails without
  an effect;
* `Compile.Replaced.readText_iff` — when the text can be read afterwards;
* `Compile.persist_of_vacant` — **persisting is all or nothing**;
* `Compile.persist_of_vacant_linked` — a link that is replaced;
* `Compile.persist_looped` — a path over the link that it replaces.
-/

import JellyViews.Proofs.Compile.Replacing
import JellyViews.Proofs.Outcome

set_option relaxedAutoImplicit false
set_option autoImplicit false

namespace JellyViews

/-! ### Vacant paths -/

namespace FileTree

/-- Whether nothing stands where the path ends; a link at the end is not followed. -/
def Vacant (t : FileTree) (p : Path) : Prop :=
  ∀ dir s, t.ending p = .ok (.name dir s) → t.get? (dir ++ [s]) = none

section

variable {t t' : FileTree} {p q : Path}

theorem vacant_iff : t.Vacant p ↔
    (match t.ending p with
      | .ok (.name dir s) => (t.get? (dir ++ [s])).isNone
      | _ => true) = true := by
  unfold Vacant
  split
  · rename_i dir s hending
    simp [hending]
  · rename_i hother
    exact iff_of_true (fun dir s hending => absurd hending (hother dir s)) rfl

instance (t : FileTree) (p : Path) : Decidable (t.Vacant p) := decidable_of_iff _ vacant_iff.symm

/-- Where there is nothing, nothing is taken away. -/
theorem unlink_of_vacant (h : t.Vacant p) : t.unlink p = t := by
  unfold unlink
  split
  · rename_i dir s hending
    have hget := h dir s hending
    rw [drop_of_get?_eq_none (by simp) hget, ite_self]
  · rfl

/-- What can be renamed stands where its path ends, and goes where the other path ends. -/
theorem rename_eq_ok (h : t.rename p q = .ok t') :
    ∃ dir s dir' s' e, t.ending p = .ok (.name dir s) ∧ t.ending q = .ok (.name dir' s') ∧
      t.get? (dir ++ [s]) = some e ∧ t.isDirectory (dir' ++ [s']) = false ∧
      t' = (t.drop (dir ++ [s])).put (dir' ++ [s']) e := by
  unfold rename at h
  cases hp : t.ending p with
  | error e => simp [hp, bind, Except.bind] at h
  | ok fromEnd =>
    cases hq : t.ending q with
    | error e => simp [hp, hq, bind, Except.bind] at h
    | ok toEnd =>
      simp only [hp, hq, bind, Except.bind, throw, throwThe, MonadExceptOf.throw] at h
      cases fromEnd with
      | name dir s =>
        cases toEnd with
        | name dir' s' =>
          cases hget : t.get? (dir ++ [s]) with
          | none => simp [hget] at h
          | some e =>
            cases hdir : t.isDirectory (dir' ++ [s']) with
            | true => cases e <;> simp [hget, hdir] at h
            | false =>
              refine ⟨dir, s, dir', s', e, rfl, rfl, hget, hdir, ?_⟩
              cases e <;> simp_all [pure, Except.pure]
        | slashed dir' s' => simp at h
        | special => simp at h
      | slashed dir s => cases toEnd <;> simp at h
      | special => simp at h

end

end FileTree

namespace Compile

open FileTree

section

variable {t final : FileTree} {p : Path} {text : String} {dryRun : Bool}

/-! ### Replacing -/

/-- The tree after the text was persisted: the file stands where the path ends, and no other
location has changed. -/
structure Replaced (t final : FileTree) (p : Path) (text : String) (dir : Location) (s : String) :
    Prop where
  ending : t.ending p = .ok (.name dir s)
  notDirectory : t.isDirectory (dir ++ [s]) = false
  get? (l : Location) : final.get? l =
    if l = dir ++ [s] then some (.file (encode text)) else t.get? l
  home : final.home = t.home
  /-- Nothing is left at the name of the temporary file. -/
  temporary : final.get? (dir ++ [temporaryName s]) = none

/-- A temporary file that was written stands next to the file. -/
theorem leads_of_writeText {written : FileTree}
    (h : t.writeText (temporaryFor p) text = .ok written) :
    ∃ dir s, t.Leads (temporaryFor p) dir (temporaryName s) ∧
      Fits (temporaryFor p) (temporaryName s) := by
  obtain ⟨A, s, hseg⟩ := (List.eq_nil_or_concat p.segments).resolve_left p.segments_ne_nil
  rw [List.concat_eq_append] at hseg
  have htemp : (temporaryFor p).segments = A ++ [temporaryName s] :=
    Path.segmentsOf_append slash_not_mem_temporarySuffix hseg
  cases hcheck : checkText (temporaryFor p).text with
  | error e => simp [writeText, writingSpot, hcheck, bind, Except.bind] at h
  | ok u =>
    cases hspot : t.writingSpot (temporaryFor p) with
    | error e => simp [writeText, hspot, bind, Except.bind] at h
    | ok spot =>
      rw [writingSpot_eq_walk hcheck] at hspot
      obtain ⟨dir, hleads, hlong⟩ :=
        Leads.of_walk htemp (isIdle_temporaryName s) (temporaryName_ne_up s) hspot
      exact ⟨dir, s, hleads, checkText_eq_ok hcheck, hlong⟩

/-- A vacant place is neither a link nor a directory, and dropping what is put there leaves the tree
as it was. -/
theorem vacant_place {l : Location} (hl : l ≠ []) (hnone : t.get? l = none) (content : ByteArray) :
    t.Unlinked l ∧ t.isDirectory l = false ∧ (t.put l (.file content)).drop l = t := by
  refine ⟨by simp [Unlinked, hnone], by simp [isDirectory, hnone], ?_⟩
  rw [drop_put, drop_of_get?_eq_none hl hnone]

/-- Renaming a temporary file replaces what stands where the path ends. -/
theorem replaced_of_rename {dir : Location} {s : String}
    (htemp : t.Leads (temporaryFor p) dir (temporaryName s))
    (hfits : Fits (temporaryFor p) (temporaryName s))
    (hnone : t.get? (dir ++ [temporaryName s]) = none)
    (hrename : (t.put (dir ++ [temporaryName s]) (.file (encode text))).rename (temporaryFor p) p =
      .ok final) : ∃ s, Replaced t final p text dir s := by
  have hne (x : String) : dir ++ [x] ≠ [] := by simp
  obtain ⟨hlink, hdir, hgone⟩ := vacant_place (hne _) hnone (encode text)
  have hframe := SameFrame.put_file (hne _) hdir hlink (encode text)
  obtain ⟨dir₁, n, dir', s', e, hsource, htarget, hget, hfile, hfinal⟩ := rename_eq_ok hrename
  obtain ⟨rfl, rfl⟩ : dir = dir₁ ∧ temporaryName s = n := by
    simpa [(htemp.of_sameFrame hframe).ending_of_name (isIdle_temporaryName s)
      (temporaryName_ne_up s), hfits] using hsource
  obtain rfl : .file (encode text) = e := by simpa [get?_put _ _ _ _ (hne _)] using hget
  obtain ⟨hp, hfits', hidle, hup⟩ := Leads.of_ending htarget
  have hp := hp.of_sameFrame hframe.symm
  obtain ⟨rfl, hname⟩ := htemp.unique (leads_temporaryFor hp)
  rw [hgone] at hfinal
  have hget (l : Location) : final.get? l =
      if l = dir ++ [s'] then some (.file (encode text)) else t.get? l := by
    simp only [hfinal, get?_put _ _ _ _ (hne _), eq_comm]
  refine ⟨s', ?_⟩
  constructor
  case ending => rw [hp.ending_of_name hidle hup, if_pos hfits']
  case notDirectory => rw [← hframe.directory, hfile]
  case get? => exact hget
  case home => rw [hfinal]; rfl
  case temporary => rw [hget, if_neg (by simp [temporaryName_ne]), ← hname, hnone]

/-- **Replacing puts a file where the path ends, or fails without an effect.** -/
theorem replaceText_of_vacant (h : t.Vacant (temporaryFor p)) (text : String) :
    (∃ e, replaceText t p text = (t, .error e)) ∨
      ∃ final dir s, replaceText t p text = (final, .ok ()) ∧ Replaced t final p text dir s := by
  cases hwrite : t.writeText (temporaryFor p) text with
  | error e =>
    left
    exact ⟨e, by simp only [replaceText, hwrite, unlink_of_vacant h]⟩
  | ok written =>
    obtain ⟨dir, s, htemp, hfits⟩ := leads_of_writeText hwrite
    have hidle := isIdle_temporaryName s
    have hup := temporaryName_ne_up s
    have hnone : t.get? (dir ++ [temporaryName s]) = none :=
      h _ _ (by rw [htemp.ending_of_name hidle hup, if_pos hfits])
    obtain ⟨hlink, hdir, hgone⟩ := vacant_place (by simp) hnone (encode text)
    obtain rfl : t.put (dir ++ [temporaryName s]) (.file (encode text)) = written := by
      simpa [htemp.writeText_of_name hidle hup hlink, hfits, hdir] using hwrite
    cases hrename : (t.put (dir ++ [temporaryName s]) (.file (encode text))).rename
        (temporaryFor p) p with
    | error e =>
      -- without the temporary file, the tree is as it was
      left
      have hframe := SameFrame.put_file (by simp) hdir hlink (encode text)
      refine ⟨e, ?_⟩
      simp only [replaceText, hwrite, hrename]
      rw [(htemp.of_sameFrame hframe).unlink_of_name hidle hup,
        if_pos ⟨hfits, by rw [hframe.directory, hdir]⟩, hgone]
    | ok final =>
      right
      obtain ⟨s', hreplaced⟩ := replaced_of_rename htemp hfits hnone hrename
      exact ⟨final, dir, s', by simp only [replaceText, hwrite, hrename], hreplaced⟩

end

/-! ### After replacing -/

namespace Replaced

variable {t final : FileTree} {p : Path} {text : String} {dir : Location} {s : String}

/-- The file comes to a place from which everything was taken away. -/
theorem sameFrame (h : Replaced t final p text dir s) :
    SameFrame (t.drop (dir ++ [s])) final where
  home := h.home
  directory l := by
    rw [isDirectory_drop t (by simp), isDirectory, h.get?]
    by_cases hl : l = dir ++ [s]
    · simp [hl, Entry.isDirectory]
    · simp [hl, Ne.symm hl, isDirectory]
  link l target := by
    rw [get?_drop _ _ _ (by simp), h.get?]
    by_cases hl : l = dir ++ [s]
    · simp [hl]
    · simp [hl, Ne.symm hl]

/-- What leads somewhere without the old entry did so with it. -/
theorem leads_of_drop {q : Path} {d : Location} {n : String}
    (hq : (t.drop (dir ++ [s])).Leads q d n) : t.Leads q d n := by
  have hentries : ∀ l e, (t.drop (dir ++ [s])).get? l = some e → t.get? l = some e := by
    intro l e hget
    rw [get?_drop _ _ _ (by simp)] at hget
    split at hget
    · simp at hget
    · exact hget
  exact hq.mono hentries rfl

/-- **The text can be read exactly if the path reaches its directory without the old entry.** -/
theorem readText_iff (h : Replaced t final p text dir s) :
    final.readText p = .ok text ↔ (t.drop (dir ++ [s])).Leads p dir s := by
  obtain ⟨hp, hfits, hidle, hup⟩ := Leads.of_ending h.ending
  have hfile : final.get? (dir ++ [s]) = some (.file (encode text)) := by rw [h.get?, if_pos rfl]
  constructor
  · intro hread
    obtain ⟨-, A, hseg, -⟩ := hp
    cases hresolve : final.resolve p with
    | error e => simp [readText, entry, hresolve, bind, Except.bind] at hread
    | ok l =>
      obtain ⟨d, hleads, -⟩ := Leads.of_walk hseg hidle hup (walk_of_resolve hresolve).2
      have hleads := hleads.of_sameFrame h.sameFrame.symm
      obtain ⟨rfl, -⟩ := (leads_of_drop hleads).unique (Leads.of_ending h.ending).1
      exact hleads
  · intro hleads
    rw [(hleads.of_sameFrame h.sameFrame).readText_of_name hidle hup (by simp [Unlinked, hfile]),
      if_pos hfits, textAt, hfile]
    exact decode_encode text

/-- If the old entry was no link, the path reaches its directory without it. -/
theorem leads_of_unlinked (h : Replaced t final p text dir s) (hlink : t.Unlinked (dir ++ [s])) :
    (t.drop (dir ++ [s])).Leads p dir s :=
  (Leads.of_ending h.ending).1.of_sameFrame (.drop (by simp) h.notDirectory hlink)

/-- Nothing is left under the path of the temporary file. -/
theorem vacant (h : Replaced t final p text dir s) : final.Vacant (temporaryFor p) := by
  intro d n hending
  have htemp := (Leads.of_ending hending).1.of_sameFrame h.sameFrame.symm
  obtain ⟨rfl, rfl⟩ :=
    (leads_of_drop htemp).unique (leads_temporaryFor (Leads.of_ending h.ending).1)
  exact h.temporary

end Replaced

/-! ### Persisting -/

section

variable {t : FileTree} {p : Path}

/-- **Persisting is all or nothing.**  Unless the text was written, the tree is the same; and if it
was, only the entry at the path has changed, and repeating it changes nothing, provided that the
path reaches its directory without the old entry. -/
theorem persist_of_vacant (h : t.Vacant (temporaryFor p)) (text : String) (dryRun : Bool) :
    ((persist t p text dryRun).2 = .ok .unchanged ↔ t.readText p = .ok text) ∧
      ((persist t p text dryRun).2 ≠ .ok .written → (persist t p text dryRun).1 = t) ∧
      ((persist t p text dryRun).2 = .ok .written → ∃ final dir s,
        (persist t p text dryRun).1 = final ∧ Replaced t final p text dir s ∧
        final.Vacant (temporaryFor p) ∧
        ((t.drop (dir ++ [s])).Leads p dir s ↔ final.readText p = .ok text) ∧
        ((t.drop (dir ++ [s])).Leads p dir s →
          ∀ dryRun', persist final p text dryRun' = (final, .ok .unchanged)) ∧
        (t.Unlinked (dir ++ [s]) → (t.drop (dir ++ [s])).Leads p dir s)) := by
  refine ⟨persist_unchanged_iff t p text dryRun, ?_⟩
  unfold persist
  by_cases hholds : holds t p text = true
  · simp [hholds]
  · rw [if_neg hholds]
    cases dryRun with
    | true => simp
    | false =>
      rcases replaceText_of_vacant h text with ⟨e, he⟩ | ⟨final, dir, s, hfinal, hreplaced⟩
      · simp [he]
      · have hread := hreplaced.readText_iff
        simp only [hfinal]
        exact ⟨by simp, fun _ => ⟨final, dir, s, rfl, hreplaced, hreplaced.vacant, hread.symm,
          fun hleads dryRun' => persist_of_readText (hread.2 hleads) dryRun',
          hreplaced.leads_of_unlinked⟩⟩

/-- A link to a file next to it. -/
def linked : FileTree :=
  ⟨.ofList [(["root"], .directory), (["root", "old"], .file (encode "one")),
    (["root", "out"], .link "old")], []⟩

/-- The link of `linked` is replaced, and the file that it led to keeps its text. -/
theorem persist_of_vacant_linked :
    linked.Vacant (temporaryFor ⟨"root/out"⟩) ∧
      ∃ final, persist linked ⟨"root/out"⟩ "two" false = (final, .ok .written) ∧
        final.readText ⟨"root/out"⟩ = .ok "two" ∧ final.readText ⟨"root/old"⟩ = .ok "one" ∧
        persist final ⟨"root/out"⟩ "two" false = (final, .ok .unchanged) := by
  have hvacant : linked.Vacant (temporaryFor ⟨"root/out"⟩) :=
    by decide +kernel
  have hwritten : (persist linked ⟨"root/out"⟩ "two" false).2 = .ok .written :=
    eq_ok_of_toOption (by decide +kernel)
  obtain ⟨final, dir, s, hfinal, hreplaced, -, hread, hrepeat, -⟩ :=
    (persist_of_vacant hvacant "two" false).2.2 hwritten
  have htext : final.readText ⟨"root/out"⟩ = .ok "two" := by
    rw [← hfinal]
    exact eq_ok_of_toOption (by decide +kernel)
  have hkept : final.readText ⟨"root/old"⟩ = .ok "one" := by
    rw [← hfinal]
    exact eq_ok_of_toOption (by decide +kernel)
  exact ⟨hvacant, final, Prod.ext hfinal hwritten, htext, hkept, hrepeat (hread.2 htext) false⟩

/-- A link to the directory in which it stands. -/
def looped : FileTree := ⟨.ofList [(["root"], .directory), (["root", "x"], .link ".")], []⟩

/-- The path `root/x/x` leads over the link of `looped` to this link, and cannot be followed any
more when a file has taken its place. -/
theorem persist_looped :
    ¬ ∀ (t : FileTree) (p : Path) (text : String) (dryRun : Bool),
      t.Vacant (temporaryFor p) → (persist t p text dryRun).2 = .ok .written →
        (persist t p text dryRun).1.readText p = .ok text ∧
          (persist (persist t p text dryRun).1 p text dryRun).2 = .ok .unchanged := by
  intro h
  have hvacant : looped.Vacant (temporaryFor ⟨"root/x/x"⟩) :=
    by decide +kernel
  obtain ⟨hread, -⟩ := h looped ⟨"root/x/x"⟩ "new" false hvacant
    (eq_ok_of_toOption (by decide +kernel))
  exact ne_ok_of_isOk (by decide +kernel) "new" hread

end

end Compile

end JellyViews
