/-
**Compiling templates one by one, or each by itself.**

In a run each template reads the tree that the ones before it left.  Below a root without links, and
without names of temporary files, this makes no difference: every template fares as if it were the
only one, and the outputs it writes are all that the run changes.  For no earlier template can touch
the source, the output or the temporary file of a later one.

Main definitions:

* `Compile.Plain` — trees without links and without names of temporary files;
* `Compile.Plan.output?` — what a template changes if it is compiled by itself;
* `Compile.Plan.Separate` — a run in which every template fares as if it were the only one.

Main results:

* `Compile.Plan.compileJob_eq_separate` — one template in a tree that earlier ones have changed;
* `Compile.Plan.runAll_eq_separate` — templates in a row;
* `Compile.compile_separate` — **a run in a plain tree is the sum of its templates**;
* `Compile.compile_separate_chained` — also if a template is the output of another one.
-/

import JellyViews.Proofs.Compile.Single

set_option relaxedAutoImplicit false
set_option autoImplicit false

namespace JellyViews

/-! ### Trees with other files -/

namespace FileTree

/-- The tree with files of these texts, put at these locations one after the other. -/
def withFiles (t : FileTree) (files : List (Location × String)) : FileTree :=
  files.foldl (fun acc f => acc.put f.1 (.file (encode f.2))) t

@[simp] theorem withFiles_nil (t : FileTree) : t.withFiles [] = t := rfl

@[simp] theorem withFiles_cons (t : FileTree) (f : Location × String)
    (files : List (Location × String)) :
    t.withFiles (f :: files) = (t.put f.1 (.file (encode f.2))).withFiles files := rfl

theorem withFiles_append (t : FileTree) (files files' : List (Location × String)) :
    t.withFiles (files ++ files') = (t.withFiles files).withFiles files' :=
  List.foldl_append

/-- Locations without a new file are left alone. -/
theorem get?_withFiles_of_not_mem {t : FileTree} {files : List (Location × String)}
    (hne : ∀ f ∈ files, f.1 ≠ []) {l : Location} (hl : l ∉ files.map Prod.fst) :
    (t.withFiles files).get? l = t.get? l := by
  induction files generalizing t with
  | nil => rfl
  | cons f files ih =>
    have hf : f.1 ≠ l := fun h => hl (h ▸ List.mem_cons_self)
    rw [withFiles_cons, ih (fun g hg => hne g (List.mem_cons_of_mem _ hg))
      (fun h => hl (List.mem_cons_of_mem _ h)), get?_put _ _ _ _ (hne f List.mem_cons_self),
      if_neg hf]

/-- A new file has its text, if no other one is put at the same location. -/
theorem get?_withFiles_of_mem {t : FileTree} {files : List (Location × String)}
    (hne : ∀ f ∈ files, f.1 ≠ []) (hnodup : (files.map Prod.fst).Nodup) {l : Location}
    {text : String} (h : (l, text) ∈ files) :
    (t.withFiles files).get? l = some (.file (encode text)) := by
  induction files generalizing t with
  | nil => simp at h
  | cons f files ih =>
    have hne' : ∀ g ∈ files, g.1 ≠ [] := fun g hg => hne g (List.mem_cons_of_mem _ hg)
    obtain ⟨hhead, htail⟩ := List.nodup_cons.1 hnodup
    rcases List.mem_cons.1 h with rfl | h
    · rw [withFiles_cons, get?_withFiles_of_not_mem hne' hhead,
        get?_put _ _ _ _ (hne (l, text) List.mem_cons_self), if_pos rfl]
    · exact ih hne' htail h

/-- New files are no directories. -/
theorem directories_withFiles {t : FileTree} {files : List (Location × String)}
    (hne : ∀ f ∈ files, f.1 ≠ []) (hdir : ∀ f ∈ files, t.isDirectory f.1 = false) :
    (t.withFiles files).directories = t.directories := by
  induction files generalizing t with
  | nil => rfl
  | cons f files ih =>
    have hf := hne f List.mem_cons_self
    have hnotdir := hdir f List.mem_cons_self
    have hrest : ∀ g ∈ files, (t.put f.1 (.file (encode f.2))).isDirectory g.1 = false := by
      intro g hg
      rw [isDirectory_put t hf]
      split
      · rfl
      · exact hdir g (List.mem_cons_of_mem _ hg)
    rw [withFiles_cons, ih (fun g hg => hne g (List.mem_cons_of_mem _ hg)) hrest,
      directories_put_file hf hnotdir]

end FileTree

namespace Compile

open FileTree

/-! ### Plain trees -/

/-- Whether a text ends like the name of a temporary file. -/
def IsTemporary (s : String) : Prop := temporarySuffix.toList <:+ s.toList

instance (s : String) : Decidable (IsTemporary s) := inferInstanceAs (Decidable (_ <:+ _))

theorem isTemporary_temporaryName (s : String) : IsTemporary (temporaryName s) := by
  simp [IsTemporary, temporaryName]

/-- Below the root there are files and directories only, no name is one of a temporary file, and no
template has an output with such a name. -/
structure Plain (t : FileTree) (root : Path) (suffix : String) : Prop where
  unlinked {top : Location} (htop : t.resolve root = .ok top) : t.UnlinkedBelow top
  names {top : Location} (htop : t.resolve root = .ok top) {names : List String} {n : String}
    (h : t.get? (top ++ names ++ [n]) ≠ none) : ¬ IsTemporary n
  destinations {d : Discovery} (h : discover t root suffix = .ok d) :
    ∀ job ∈ d.jobs, ¬ IsTemporary job.destination.text

/-- Whether a tree is plain can be seen from its entries and its templates. -/
theorem plain_of_entries {t : FileTree} {root : Path} {suffix : String} {d : Discovery}
    (hentries : ∀ e ∈ t.entries.entries, e.2.isLink = false ∧ ∀ s ∈ e.1, ¬ IsTemporary s)
    (hd : discover t root suffix = .ok d)
    (hjobs : ∀ job ∈ d.jobs, ¬ IsTemporary job.destination.text) : Plain t root suffix where
  unlinked {top} _ := unlinkedBelow_of_entries (fun e he => (hentries e he).1) top
  names {top} _ {names n} hget := by
    obtain ⟨e, he⟩ := Option.ne_none_iff_exists'.1 hget
    exact (hentries _ (mem_entries_of_get? (by simp) he)).2 n (by simp)
  destinations {d'} hd' := by
    obtain rfl : d = d' := by simpa [hd] using hd'
    exact hjobs

/-! ### One template -/

namespace Plan

/-- What becomes of a template that is compiled by itself. -/
def separate (plan : Plan) (dryRun : Bool) (t : FileTree) (job : Job) : Except Failure Result :=
  (plan.compileJob dryRun t job).2

/-- The location and the text of the output that a template writes when it is compiled by itself. -/
def output? (plan : Plan) (dryRun : Bool) (t : FileTree) (job : Job) : Option (Location × String) :=
  match plan.separate dryRun t job, plan.render t job, t.ending job.destination with
  | .ok ⟨.written, _⟩, .ok text, .ok (.name dir s) => some (dir ++ [s], text)
  | _, _, _ => none

end Plan

/-! ### A template in a tree that others have changed -/

/-- Replacing a text where no temporary file is in the way. -/
theorem replacedAt_of_absent {t : FileTree} {dir : Location} {s : String}
    (htemp : t.get? (dir ++ [temporaryName s]) = none) (text : String) (fits : Prop)
    [Decidable fits] :
    replacedAt t dir s text fits =
      if ¬ fits then (t, .error .nameTooLong)
      else if Path.isIdle s ∨ s = ".." then (t, .error .busy)
      else if t.isDirectory (dir ++ [s]) then (t, .error .isDirectory)
      else (t.put (dir ++ [s]) (.file (encode text)), .ok ()) := by
  have hdir : t.isDirectory (dir ++ [temporaryName s]) = false := by simp [isDirectory, htemp]
  simp only [replacedAt, hdir, drop_of_get?_eq_none (by simp) htemp, Bool.false_eq_true, if_false]

section

variable {t cur : FileTree} {root : Path} {top : Location} {suffix : String} {job : Job}
  {names : List String} {stem : String}

/-- What a template needs to fare in a tree as it does in the one where it was found: source and
output are the same, and there is no temporary file. -/
structure Undisturbed (t cur : FileTree) (top : Location) (suffix : String) (names : List String)
    (stem : String) : Prop where
  source : cur.get? (top ++ names ++ [stem ++ ("." ++ suffix)]) =
    t.get? (top ++ names ++ [stem ++ ("." ++ suffix)])
  output : cur.get? (top ++ names ++ [stem]) = t.get? (top ++ names ++ [stem])
  temporary : cur.get? (top ++ names ++ [temporaryName stem]) = none

/-- **A template that is not disturbed fares as if it were the only one**, and changes its output at
most. -/
theorem Sited.compileJob_eq_separate (h : Sited t root top suffix job names stem)
    (hwell : t.WellFormed) (hlink : t.UnlinkedBelow top) (hframe : SameFrame t cur)
    (hcur : Undisturbed t cur top suffix names stem)
    (htemp : t.get? (top ++ names ++ [temporaryName stem]) = none) (plan : Plan) (dryRun : Bool) :
    plan.compileJob dryRun cur job =
      (cur.withFiles (plan.output? dryRun t job).toList, plan.separate dryRun t job) := by
  have hrender := h.render_eq hlink hframe plan hcur.source
  unfold Plan.output? Plan.separate
  cases hsource : plan.render t job with
  | error f =>
    rw [hsource] at hrender
    rw [Plan.compileJob_of_error hrender, Plan.compileJob_of_error hsource]
    rfl
  | ok text =>
    rw [hsource] at hrender
    rw [Plan.compileJob_of_ok hrender, Plan.compileJob_of_ok hsource]
    have hlink' := unlinked_concat hlink names (temporaryName stem)
    have hleads := h.leads_destination
    unfold persist
    -- whatever persisting asks about the tree has the same answer in both
    rw [h.holds_eq hlink hframe hwell hcur.output,
      replaceText_of_leads hleads h.stem_ne hlink',
      replaceText_of_leads (hleads.of_sameFrame hframe) h.stem_ne (hframe.unlinked hlink'),
      replacedAt_of_absent htemp, replacedAt_of_absent hcur.temporary, hframe.directory,
      hleads.ending_eq h.stem_ne]
    cases holds t job.destination text with
    | true => simp [Plan.reportOf]
    | false =>
      cases dryRun with
      | true => simp [Plan.reportOf]
      | false =>
        by_cases hfits : Fits (temporaryFor job.destination) (temporaryName stem)
        · obtain ⟨hpath, hname⟩ := fits_of_temporaryFor hfits
          by_cases hspecial : Path.isIdle stem = true ∨ stem = ".."
          · simp [Plan.reportOf, hfits, hspecial]
          · cases t.isDirectory (top ++ names ++ [stem]) <;>
              simp [Plan.reportOf, hfits, hspecial, Leads.endingAt, hpath, hname,
                -List.append_assoc]
        · simp [Plan.reportOf, hfits]

/-! ### What a template writes -/

/-- An output that is written by a template alone. -/
theorem Sited.output?_eq_some (h : Sited t root top suffix job names stem) {plan : Plan}
    {dryRun : Bool} {l : Location} {text : String}
    (hout : plan.output? dryRun t job = some (l, text)) :
    l = top ++ names ++ [stem] ∧ plan.render t job = .ok text ∧
      plan.separate dryRun t job = .ok ⟨.written, job.destination⟩ ∧
      Path.isIdle stem = false ∧ stem ≠ ".." ∧ Fits job.destination stem := by
  unfold Plan.output? at hout
  split at hout
  · rename_i p text' dir s hseparate hrender hending
    obtain ⟨rfl, rfl⟩ : dir ++ [s] = l ∧ text' = text := by simpa using hout
    have hp : p = job.destination := by
      rw [Plan.separate, Plan.compileJob_of_ok hrender] at hseparate
      exact (Plan.reportOf_eq_ok.1 hseparate).2
    rw [h.leads_destination.ending_eq h.stem_ne, Leads.endingAt] at hending
    split at hending
    · rename_i hpath
      split at hending
      · simp at hending
      · rename_i hspecial
        split at hending
        · rename_i hname
          obtain ⟨rfl, rfl⟩ : top ++ names = dir ∧ stem = s := by simpa using hending
          obtain ⟨hidle, hup⟩ := not_or.1 hspecial
          exact ⟨rfl, hrender, hp ▸ hseparate, by simpa using hidle, hup, hpath, hname⟩
        · simp at hending
    · simp at hending
  · simp at hout

/-- A template alone that reports to have written has an output. -/
theorem Sited.exists_output? (h : Sited t root top suffix job names stem)
    (hlink : t.UnlinkedBelow top) {plan : Plan} {dryRun : Bool} {p : Path}
    (hwritten : plan.separate dryRun t job = .ok ⟨.written, p⟩) :
    ∃ text, plan.output? dryRun t job = some (top ++ names ++ [stem], text) := by
  have hcases := h.compiled hlink (.refl t) plan dryRun
  generalize hr : plan.compileJob dryRun t job = r at hcases
  rw [Plan.separate, hr] at hwritten
  cases hcases with
  | unrendered f hrender => simp at hwritten
  | persisted text r hrender hpersist =>
    cases hpersist with
    | written hread htemp hfile hname hfits =>
      obtain ⟨hpath, hlong⟩ := fits_of_temporaryFor hfits
      have hspecial : ¬ (Path.isIdle stem = true ∨ stem = "..") := by simp [hname]
      refine ⟨text, ?_⟩
      simp [Plan.output?, Plan.separate, hr, hrender, Plan.reportOf,
        h.leads_destination.ending_eq h.stem_ne, Leads.endingAt, hpath, hlong, hspecial,
        -List.append_assoc]
    | unchanged | dry | refused | undone => simp [Plan.reportOf] at hwritten

/-! ### Templates in a row -/

theorem Undisturbed.put {names' : List String} {stem' : String}
    (h : Undisturbed t cur top suffix names' stem') (e : Entry)
    (hsource : ¬ (names = names' ∧ stem = stem' ++ ("." ++ suffix)))
    (houtput : ¬ (names = names' ∧ stem = stem')) (htemp : stem ≠ temporaryName stem') :
    Undisturbed t (cur.put (top ++ names ++ [stem]) e) top suffix names' stem' := by
  have hget (s : String) (hs : ¬ (names = names' ∧ stem = s)) :
      (cur.put (top ++ names ++ [stem]) e).get? (top ++ names' ++ [s]) =
        cur.get? (top ++ names' ++ [s]) := by
    rw [get?_put _ _ _ _ (by simp), if_neg fun heq => hs (location_eq_iff.1 heq)]
  exact ⟨(hget _ hsource).trans h.source, (hget _ houtput).trans h.output,
    (hget _ fun heq => htemp heq.2).trans h.temporary⟩

end

/-- **Templates in a row fare as if each were the only one**, if they are in the order of their
paths and no temporary file is around. -/
theorem Plan.runAll_eq_separate {t : FileTree} {root : Path} {top : Location} {suffix : String}
    (hwell : t.WellFormed) (hlink : t.UnlinkedBelow top) (hroot : root.text ≠ "") {jobs : List Job}
    (hjobs : ∀ job ∈ jobs, ∃ names stem, Sited t root top suffix job names stem)
    (hplain : ∀ job ∈ jobs, ∀ names stem, Sited t root top suffix job names stem →
      ¬ IsTemporary stem ∧ t.get? (top ++ names ++ [temporaryName stem]) = none)
    (hpairwise : jobs.Pairwise fun a b =>
      a.source.precedes b.source = true ∧ a.source.components ≠ b.source.components)
    (plan : Plan) (options : Options) (hfast : options.failFast = false) {cur : FileTree}
    (hframe : SameFrame t cur)
    (hcur : ∀ job ∈ jobs, ∀ names stem, Sited t root top suffix job names stem →
      Undisturbed t cur top suffix names stem) :
    plan.runAll options cur jobs =
      (cur.withFiles (jobs.filterMap (plan.output? options.dryRun t)),
        { results := jobs.filterMap fun job => resultOf? (plan.separate options.dryRun t job)
          failures := jobs.filterMap fun job => failureOf? (plan.separate options.dryRun t job)
          untried := [] }) := by
  -- what is written is no temporary file, no output of a template that is still to come, and no
  -- source of one, as this would come before it
  induction jobs generalizing cur with
  | nil => rfl
  | cons job jobs ih =>
    obtain ⟨names, stem, h⟩ := hjobs job List.mem_cons_self
    obtain ⟨htemp, habsent⟩ := hplain job List.mem_cons_self names stem h
    obtain ⟨hhead, htail⟩ := List.pairwise_cons.1 hpairwise
    have hstep := h.compileJob_eq_separate hwell hlink hframe
      (hcur job List.mem_cons_self names stem h) habsent plan options.dryRun
    have hframe' := h.sameFrame_compileJob hlink hframe plan options.dryRun
    rw [hstep] at hframe'
    have hcur' : ∀ job' ∈ jobs, ∀ names' stem', Sited t root top suffix job' names' stem' →
        Undisturbed t (cur.withFiles (plan.output? options.dryRun t job).toList) top suffix
          names' stem' := by
      intro job' hjob' names' stem' h'
      obtain ⟨hprecedes, hne⟩ := hhead job' hjob'
      have hbefore := hcur job' (List.mem_cons_of_mem _ hjob') names' stem' h'
      cases hout : plan.output? options.dryRun t job with
      | none => exact hbefore
      | some f =>
        obtain ⟨l, text⟩ := f
        obtain ⟨rfl, -⟩ := h.output?_eq_some hout
        refine hbefore.put _ (h.output_ne_source_of_precedes h' hroot hprecedes)
          (h.ne_of_components_ne h' hroot hne) ?_
        rintro rfl
        exact htemp (isTemporary_temporaryName _)
    have hrest := ih (fun j hj => hjobs j (List.mem_cons_of_mem _ hj))
      (fun j hj => hplain j (List.mem_cons_of_mem _ hj)) htail hframe' hcur'
    simp only [runAll, hstep]
    cases hseparate : plan.separate options.dryRun t job with
    | ok x =>
      simp only [hrest, ← withFiles_append]
      cases hout : plan.output? options.dryRun t job <;>
        simp [hout, hseparate, resultOf?, failureOf?, Progress.underResult]
    | error f =>
      simp only [hrest, hfast, ← withFiles_append]
      cases hout : plan.output? options.dryRun t job <;>
        simp [hout, hseparate, resultOf?, failureOf?, Progress.underFailure]

/-! ### The run -/

/-- A run in which every template fares as if it were the only one: `final` is the tree after the
run, and `top` the location of the root. -/
structure Plan.RunsSeparately (plan : Plan) (dryRun : Bool) (t final : FileTree) (top : Location)
    (report : Report) : Prop where
  results : report.results =
    plan.discovery.jobs.filterMap fun job => resultOf? (plan.separate dryRun t job)
  failures : report.failures = plan.discovery.unreadable ++
    plan.discovery.jobs.filterMap fun job => failureOf? (plan.separate dryRun t job)
  complete : report.aborted = false
  tree : final = t.withFiles (plan.discovery.jobs.filterMap (plan.output? dryRun t))
  nodup : ((plan.discovery.jobs.filterMap (plan.output? dryRun t)).map Prod.fst).Nodup
  written : ∀ job ∈ plan.discovery.jobs,
    plan.separate dryRun t job = .ok ⟨.written, job.destination⟩ →
      ∃ text, plan.render t job = .ok text ∧ final.readText job.destination = .ok text
  dry : dryRun = true → final = t
  temporary {names : List String} {n : String} :
    final.get? (top ++ names ++ [n]) ≠ none → ¬ IsTemporary n

theorem isTemporary_append {a s : String} (h : IsTemporary s) : IsTemporary (a ++ s) := by
  rw [IsTemporary, String.toList_append]
  exact List.suffix_append_of_suffix h

theorem IsTemporary.of_append {a s : String} (h : IsTemporary (a ++ s)) :
    s.toList <:+ temporarySuffix.toList ∨ IsTemporary s := by
  rw [IsTemporary, String.toList_append] at h
  exact List.suffix_or_suffix_of_suffix (List.suffix_append _ _) h

/-- The path of the output ends with its stem. -/
theorem Sited.isTemporary_destination {t : FileTree} {root : Path} {top : Location}
    {suffix : String} {job : Job} {names : List String} {stem : String}
    (h : Sited t root top suffix job names stem) (hstem : IsTemporary stem) :
    IsTemporary job.destination.text := by
  have htext : job.destination.text =
      String.intercalate "/" (Path.trimmed (root.below names).inside ++ [stem]) := by
    rw [← h.segments_destination]
    exact (Path.intercalate_segmentsOf _).symm
  rw [htext]
  by_cases hnil : Path.trimmed (root.below names).inside = []
  · rw [hnil, List.nil_append, String.intercalate_singleton]
    exact hstem
  · rw [String.intercalate_append_of_ne_nil hnil (by simp), String.intercalate_singleton]
    exact isTemporary_append hstem

/-- In a dry run nothing is written. -/
theorem Plan.outputs_dryRun (plan : Plan) (t : FileTree) (jobs : List Job) :
    jobs.filterMap (plan.output? true t) = [] := by
  refine List.filterMap_eq_nil_iff.2 fun job _ => ?_
  unfold output?
  split
  · rename_i p text dir s hseparate hrender hending
    rw [separate, compileJob_of_ok hrender, persist] at hseparate
    split at hseparate <;> simp [reportOf] at hseparate
  · rfl

section

variable {t : FileTree} {root : Path} {top : Location} {suffix : String} {jobs : List Job}

/-- No output is written twice. -/
theorem Plan.nodup_outputs (hroot : root.text ≠ "")
    (hjobs : ∀ job ∈ jobs, ∃ names stem, Sited t root top suffix job names stem)
    (hne : jobs.Pairwise fun a b => a.source.components ≠ b.source.components) (plan : Plan)
    (dryRun : Bool) : ((jobs.filterMap (plan.output? dryRun t)).map Prod.fst).Nodup := by
  have hlocations : jobs.Pairwise fun a b => ∀ f, plan.output? dryRun t a = some f →
      ∀ g, plan.output? dryRun t b = some g → f.1 ≠ g.1 := by
    refine hne.imp_of_mem ?_
    rintro a b ha hb hab ⟨l, text⟩ hf ⟨m, text'⟩ hg rfl
    obtain ⟨names, stem, h⟩ := hjobs a ha
    obtain ⟨names', stem', h'⟩ := hjobs b hb
    have heq := (h.output?_eq_some hf).1.symm.trans (h'.output?_eq_some hg).1
    exact h.ne_of_components_ne h' hroot hab (location_eq_iff.1 heq)
  exact List.pairwise_map.2 (hlocations.filterMap _ fun a b hab f hf g hg => hab f hf g hg)

theorem Plan.outputs_ne_nil
    (hjobs : ∀ job ∈ jobs, ∃ names stem, Sited t root top suffix job names stem) {plan : Plan}
    {dryRun : Bool} : ∀ f ∈ jobs.filterMap (plan.output? dryRun t), f.1 ≠ [] := by
  rintro ⟨l, text⟩ hf
  obtain ⟨job, hjob, hout⟩ := List.mem_filterMap.1 hf
  obtain ⟨names, stem, h⟩ := hjobs job hjob
  obtain ⟨rfl, -⟩ := h.output?_eq_some hout
  simp

/-- An output that is written has the text of its template after the run. -/
theorem Plan.readText_of_written (hlink : t.UnlinkedBelow top) (hroot : root.text ≠ "")
    (hjobs : ∀ job ∈ jobs, ∃ names stem, Sited t root top suffix job names stem)
    (hne : jobs.Pairwise fun a b => a.source.components ≠ b.source.components) {plan : Plan}
    {dryRun : Bool} (hframe : SameFrame t (t.withFiles (jobs.filterMap (plan.output? dryRun t))))
    {job : Job} (hjob : job ∈ jobs)
    (hwritten : plan.separate dryRun t job = .ok ⟨.written, job.destination⟩) :
    ∃ text, plan.render t job = .ok text ∧
      (t.withFiles (jobs.filterMap (plan.output? dryRun t))).readText job.destination =
        .ok text := by
  obtain ⟨names, stem, h⟩ := hjobs job hjob
  obtain ⟨text, hout⟩ := h.exists_output? hlink hwritten
  obtain ⟨-, hrender, -, hidle, hup, hfits⟩ := h.output?_eq_some hout
  refine ⟨text, hrender, ?_⟩
  rw [(h.leads_destination.of_sameFrame hframe).readText_of_name hidle hup
      (hframe.unlinked (unlinked_concat hlink names stem)), if_pos hfits, textAt,
    get?_withFiles_of_mem (Plan.outputs_ne_nil hjobs) (plan.nodup_outputs hroot hjobs hne dryRun)
      (List.mem_filterMap.2 ⟨job, hjob, hout⟩)]
  exact decode_encode text

/-- Outputs do not have names of temporary files. -/
theorem Plan.not_isTemporary_of_get?
    (hjobs : ∀ job ∈ jobs, ∃ names stem, Sited t root top suffix job names stem ∧
      ¬ IsTemporary stem)
    (hnames : ∀ names n, t.get? (top ++ names ++ [n]) ≠ none → ¬ IsTemporary n) {plan : Plan}
    {dryRun : Bool} {names : List String} {n : String}
    (hget : (t.withFiles (jobs.filterMap (plan.output? dryRun t))).get? (top ++ names ++ [n]) ≠
      none) : ¬ IsTemporary n := by
  have hjobs' : ∀ job ∈ jobs, ∃ names stem, Sited t root top suffix job names stem := by
    intro job hjob
    obtain ⟨names, stem, h, -⟩ := hjobs job hjob
    exact ⟨names, stem, h⟩
  by_cases hmem : top ++ names ++ [n] ∈
      (jobs.filterMap (plan.output? dryRun t)).map Prod.fst
  · obtain ⟨⟨l, text⟩, hf, hl⟩ := List.mem_map.1 hmem
    obtain ⟨job, hjob, hout⟩ := List.mem_filterMap.1 hf
    obtain ⟨names', stem, h, hstem⟩ := hjobs job hjob
    obtain ⟨-, rfl⟩ := location_eq_iff.1 ((h.output?_eq_some hout).1.symm.trans hl)
    exact hstem
  · rw [get?_withFiles_of_not_mem (Plan.outputs_ne_nil hjobs') hmem] at hget
    exact hnames names n hget

end

/-- **A run in a plain tree is the sum of its templates.** -/
theorem compile_separate {t : FileTree} {root : Path} {suffix : String} {dryRun : Bool}
    (hwell : t.WellFormed) (hplain : Plain t root suffix) {report : Report}
    (h : (compile t root ⟨suffix, dryRun, false⟩).2 = .ok report) :
    ∃ plan top, prepare t root suffix = .ok plan ∧ t.resolve root = .ok top ∧
      plan.RunsSeparately dryRun t (compile t root ⟨suffix, dryRun, false⟩).1 top report := by
  unfold compile at h ⊢
  cases hprepare : prepare t root suffix with
  | error e => simp [hprepare] at h
  | ok plan =>
    obtain ⟨hdiscover, -⟩ := prepare_eq_ok hprepare
    obtain ⟨top, htop, hroot, hjobs, hpairwise⟩ :=
      sited_of_prepare hwell (fun top => hplain.unlinked) hprepare
    have hlink := hplain.unlinked htop
    have hstems : ∀ job ∈ plan.discovery.jobs, ∀ names stem,
        Sited t root top suffix job names stem → ¬ IsTemporary stem :=
      fun job hjob names stem hsited hstem =>
        hplain.destinations hdiscover job hjob (hsited.isTemporary_destination hstem)
    have habsent : ∀ names stem, t.get? (top ++ names ++ [temporaryName stem]) = none :=
      fun names stem => Classical.byContradiction fun hget =>
        hplain.names htop hget (isTemporary_temporaryName stem)
    have hrun := plan.runAll_eq_separate hwell hlink hroot hjobs
      (fun job hjob names stem hsited => ⟨hstems job hjob names stem hsited, habsent names stem⟩)
      hpairwise ⟨suffix, dryRun, false⟩ rfl (.refl t)
      (fun job hjob names stem hsited => ⟨rfl, rfl, habsent names stem⟩)
    have hframe := sameFrame_runAll hjobs hlink (.refl t) plan ⟨suffix, dryRun, false⟩
    have hne := hpairwise.imp fun hab => hab.2
    rw [hrun] at hframe
    simp only [hprepare, Plan.run, hrun, Bool.false_and, Bool.false_eq_true, if_false,
      Except.ok.injEq] at h ⊢
    subst h
    exact ⟨plan, top, rfl, htop,
      { results := rfl
        failures := rfl
        complete := rfl
        tree := rfl
        nodup := plan.nodup_outputs hroot hjobs hne dryRun
        written := fun job hjob => Plan.readText_of_written hlink hroot hjobs hne hframe hjob
        dry := by
          rintro rfl
          rw [plan.outputs_dryRun, withFiles_nil]
        temporary := Plan.not_isTemporary_of_get?
          (fun job hjob => by
            obtain ⟨names, stem, hsited⟩ := hjobs job hjob
            exact ⟨names, stem, hsited, hstems job hjob names stem hsited⟩)
          fun names n => hplain.names htop }⟩

/-! ### A chain of templates -/

/-- A directory with two templates, of which the first is the output of the second. -/
def chained : FileTree :=
  ⟨.ofList [(["root"], .directory), (["root", "x.tera"], .file (encode "one")),
    (["root", "x.tera.tera"], .file (encode "two"))], []⟩

/-- The templates of `chained`. -/
def chainedJobs : List Job :=
  [⟨⟨"root/x.tera"⟩, ⟨"root/x"⟩⟩, ⟨⟨"root/x.tera.tera"⟩, ⟨"root/x.tera"⟩⟩]

theorem discover_chained : discover chained ⟨"root"⟩ "tera" = .ok ⟨chainedJobs, []⟩ :=
  discover_of_isFile rfl (by decide +kernel) (by decide +kernel) (by decide +kernel)
    (by decide +kernel) (by decide +kernel)

/-- The first template is rendered from its own text, although the second one replaces it. -/
theorem compile_separate_chained :
    ∃ (report : Report) (plan : Plan) (top : Location),
      (compile chained ⟨"root"⟩ ⟨"tera", false, false⟩).2 = .ok report ∧
        report.results = [⟨.written, ⟨"root/x"⟩⟩, ⟨.written, ⟨"root/x.tera"⟩⟩] ∧
        plan.RunsSeparately false chained (compile chained ⟨"root"⟩ ⟨"tera", false, false⟩).1 top
          report := by
  have hprepare := prepare_of_isFile discover_chained (by decide +kernel)
  have hcompile : compile chained ⟨"root"⟩ ⟨"tera", false, false⟩ = _ :=
    compile_of_prepare hprepare
  have hreport := congrArg Prod.snd hcompile
  obtain ⟨plan, top, -, -, hruns⟩ := compile_separate (wellFormed_of_entries (by decide +kernel))
    (plain_of_entries (by decide +kernel) discover_chained (by decide +kernel)) hreport
  exact ⟨_, plan, top, hreport, by decide +kernel, hruns⟩

end Compile

end JellyViews
