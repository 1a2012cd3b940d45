/-
**Changes of one location.**

A change of a file, or of a place without entry, leaves all directories and links alone.

Main definitions:

* `FileTree.WellFormed` — trees of files as they occur: names are names, and what has a name stands
  in a directory;
* `FileTree.UnlinkedBelow` — locations below which there are files and directories only.

Main results:

* `FileTree.drop_put`, `FileTree.drop_of_get?_eq_none` — what goes again leaves no trace;
* `FileTree.SameFrame.put_file`, `FileTree.SameFrame.drop` — **files come and go without changing
  directories and links**;
* `FileTree.WellFormed.put_file`, `FileTree.WellFormed.drop` — and the tree stays well-formed;
* `FileTree.WellFormed.of_resolve` — paths lead to directories and files;
* `FileTree.Leads.rename_of_name` — renaming a file.
-/

import JellyViews.Proofs.FileTree.Names

set_option relaxedAutoImplicit false
set_option autoImplicit false

namespace JellyViews

/-- Whether an entry is a link. -/
def Entry.isLink : Entry → Bool
  | link _ => true
  | file _ => false
  | directory => false

namespace FileTree

variable {t : FileTree} {l : Location}

/-! ### Trees as they occur -/

/-- The tree is one of files as they occur: names are names, and what has a name stands in a
directory. -/
structure WellFormed (t : FileTree) : Prop where
  isName {l : Location} (h : t.get? l ≠ none) : ∀ s ∈ l, Path.IsName s
  above {l : Location} (hl : l ≠ []) (h : t.get? l ≠ none) : t.isDirectory l.dropLast = true

/-- Below a location there are files and directories only. -/
def UnlinkedBelow (t : FileTree) (l : Location) : Prop :=
  ∀ names : List String, names ≠ [] → t.Unlinked (l ++ names)

theorem mem_entries_of_get? {e : Entry} (hl : l ≠ []) (h : t.get? l = some e) :
    (l, e) ∈ t.entries.entries := by
  rw [get?, if_neg hl] at h
  exact Entries.mem_of_find h

/-- Whether a tree is well-formed can be seen from its entries. -/
theorem wellFormed_of_entries
    (h : ∀ e ∈ t.entries.entries,
      (∀ s ∈ e.1, Path.IsName s) ∧ t.isDirectory e.1.dropLast = true) : t.WellFormed where
  isName {l} hget := by
    by_cases hl : l = []
    · simp [hl]
    · obtain ⟨e, he⟩ := Option.ne_none_iff_exists'.1 hget
      exact (h _ (mem_entries_of_get? hl he)).1
  above {l} hl hget := by
    obtain ⟨e, he⟩ := Option.ne_none_iff_exists'.1 hget
    exact (h _ (mem_entries_of_get? hl he)).2

/-- Whether there are links can be seen from the entries of a tree. -/
theorem unlinkedBelow_of_entries (h : ∀ e ∈ t.entries.entries, e.2.isLink = false)
    (l : Location) : t.UnlinkedBelow l := by
  intro names hnames target hget
  have hmem := mem_entries_of_get? (by simp [hnames]) hget
  exact absurd (h _ hmem) (by simp [Entry.isLink])

/-! ### What goes again -/

theorem drop_put (t : FileTree) (l : Location) (e : Entry) : (t.put l e).drop l = t.drop l := by
  simp [put, drop, OrderedMap.erase_insert_self]

theorem drop_of_get?_eq_none (hl : l ≠ []) (h : t.get? l = none) : t.drop l = t := by
  rw [get?, if_neg hl] at h
  simp [drop, OrderedMap.erase_of_get?_eq_none h]

/-! ### Directories and links -/

theorem isDirectory_of_file {content : ByteArray} (h : t.get? l = some (.file content)) :
    t.isDirectory l = false := by
  simp [isDirectory, h, Entry.isDirectory]

theorem isDirectory_put (t : FileTree) {l : Location} (hl : l ≠ []) (e : Entry) (a : Location) :
    (t.put l e).isDirectory a = if l = a then e.isDirectory else t.isDirectory a := by
  simp only [isDirectory, get?_put t l a e hl]
  split <;> rfl

theorem isDirectory_drop (t : FileTree) {l : Location} (hl : l ≠ []) (a : Location) :
    (t.drop l).isDirectory a = if l = a then false else t.isDirectory a := by
  simp only [isDirectory, get?_drop t l a hl]
  split <;> rfl

theorem entryAt_put (t : FileTree) {l : Location} (hl : l ≠ []) (e : Entry) (a : Location) :
    (t.put l e).entryAt a = if l = a then .ok e else t.entryAt a := by
  rw [entryAt, get?_put t l a e hl]
  by_cases h : l = a <;> simp [entryAt, h]

theorem entryAt_drop (t : FileTree) {l : Location} (hl : l ≠ []) (a : Location) :
    (t.drop l).entryAt a = if l = a then .error .missing else t.entryAt a := by
  rw [entryAt, get?_drop t l a hl]
  by_cases h : l = a <;> simp [entryAt, h]

/-- Files do not count among the directories. -/
theorem directories_put_file (hl : l ≠ []) (hdir : t.isDirectory l = false)
    (content : ByteArray) : (t.put l (.file content)).directories = t.directories := by
  unfold directories
  congr 2
  refine Entries.filter_put rfl fun e he => ?_
  have hget : t.get? l = some e := by
    rw [get?, if_neg hl]
    exact OrderedMap.mem_entries_iff.1 he
  have he : e.isDirectory = false := by simpa [isDirectory, hget] using hdir
  simp [he]

namespace SameFrame

/-- Putting a file where there is neither a directory nor a link. -/
theorem put_file (hl : l ≠ []) (hdir : t.isDirectory l = false) (hlink : t.Unlinked l)
    (content : ByteArray) : SameFrame t (t.put l (.file content)) where
  home := rfl
  directory a := by
    rw [isDirectory_put t hl]
    split
    · rename_i h
      rw [← h, hdir]
      rfl
    · rfl
  link a target := by
    rw [get?_put t l a _ hl]
    split
    · rename_i h
      rw [← h]
      simp [hlink target]
    · rfl

/-- Taking away what is neither a directory nor a link. -/
theorem drop (hl : l ≠ []) (hdir : t.isDirectory l = false) (hlink : t.Unlinked l) :
    SameFrame t (t.drop l) where
  home := rfl
  directory a := by
    rw [isDirectory_drop t hl]
    split
    · rename_i h
      rw [← h, hdir]
    · rfl
  link a target := by
    rw [get?_drop t l a hl]
    split
    · rename_i h
      rw [← h]
      simp [hlink target]
    · rfl

theorem unlinked {t' : FileTree} (h : SameFrame t t') (hlink : t.Unlinked l) : t'.Unlinked l :=
  fun target hget => hlink target ((h.link l target).1 hget)

end SameFrame

/-! ### Well-formed trees -/

namespace WellFormed

/-- A file with a name may be put into a directory, where there is no directory. -/
theorem put_file {dir : Location} {s : String} (h : t.WellFormed) (hdir : t.isDirectory dir = true)
    (hs : Path.IsName s) (hfile : t.isDirectory (dir ++ [s]) = false) (content : ByteArray) :
    (t.put (dir ++ [s]) (.file content)).WellFormed where
  isName {a} hget := by
    rw [get?_put _ _ _ _ (by simp)] at hget
    split at hget
    · rename_i ha
      subst ha
      intro n hn
      rcases List.mem_append.1 hn with hn | hn
      · exact h.isName (by simp [isDirectory_iff.1 hdir]) n hn
      · rwa [List.mem_singleton.1 hn]
    · exact h.isName hget
  above {a} ha hget := by
    rw [get?_put _ _ _ _ (by simp)] at hget
    rw [isDirectory_put t (by simp)]
    have habove : t.isDirectory a.dropLast = true := by
      split at hget
      · rename_i heq
        rwa [← heq, List.dropLast_concat]
      · exact h.above ha hget
    rw [if_neg, habove]
    rintro heq
    simp [heq, habove] at hfile

/-- What is no directory may be taken away. -/
theorem drop (h : t.WellFormed) (hl : l ≠ []) (hdir : t.isDirectory l = false) :
    (t.drop l).WellFormed where
  isName {a} hget := by
    rw [get?_drop _ _ _ hl] at hget
    split at hget
    · exact absurd rfl hget
    · exact h.isName hget
  above {a} ha hget := by
    rw [get?_drop _ _ _ hl] at hget
    split at hget
    · exact absurd rfl hget
    · have habove := h.above ha hget
      rw [isDirectory_drop t hl, if_neg, habove]
      rintro rfl
      simp [habove] at hdir

/-- The directory above a directory is one, and the top is its own. -/
theorem isDirectory_dropLast (h : t.WellFormed) (hl : t.isDirectory l = true) :
    t.isDirectory l.dropLast = true := by
  by_cases htop : l = []
  · simp [htop, isDirectory_iff]
  · exact h.above htop (by simp [isDirectory_iff.1 hl])

/-- Ways that start in a directory lead to directories and files. -/
theorem of_follows (h : t.WellFormed) {links : Nat} {here l : Location} {ss : List String}
    (hway : Follows t links here ss l) (hhere : t.isDirectory here = true) :
    t.isDirectory l = true ∨ ∃ content, t.get? l = some (.file content) := by
  induction hway with
  | done links here => exact .inl hhere
  | idle _ _ _ ih => exact ih hhere
  | up _ _ ih => exact ih (h.isDirectory_dropLast hhere)
  | @name links here l s rest e _ _ _ _ he hlink hrest ih =>
    cases e with
    | directory => exact ih (isDirectory_iff.2 he)
    | link target => exact absurd rfl (hlink target)
    | file content =>
      -- nothing stands in a file, so the way ends here
      cases rest with
      | nil =>
        cases hrest
        exact .inr ⟨content, he⟩
      | cons r rs =>
        have hdir := isDirectory_of_follows_cons hrest
        simp [isDirectory_iff, he] at hdir
  | @link links here l s target rest _ _ _ _ _ _ ih =>
    refine ih ?_
    unfold startOf
    split
    · rfl
    · exact hhere

/-- Paths lead to directories and files. -/
theorem of_resolve (h : t.WellFormed) {p : Path} (hp : t.resolve p = .ok l) :
    t.isDirectory l = true ∨ ∃ content, t.get? l = some (.file content) := by
  have hway := follows_of_walk (walk_of_resolve hp).2
  obtain ⟨s, rest, hss⟩ := List.exists_cons_of_ne_nil p.segments_ne_nil
  have hstart : t.isDirectory (startOf p.text t.home) = true := by
    rw [hss] at hway
    exact isDirectory_of_follows_cons hway
  exact h.of_follows hway hstart

end WellFormed

/-! ### Renaming -/

/-- Renaming a file to another name puts it there, unless there is a directory; a path that ends
with `.` or `..` is no name. -/
theorem Leads.rename_of_name {p q : Path} {dir dir' : Location} {s s' : String}
    {content : ByteArray} (hp : t.Leads p dir s) (hidle : Path.isIdle s = false) (hup : s ≠ "..")
    (hfits : Fits p s) (hget : t.get? (dir ++ [s]) = some (.file content))
    (hq : t.Leads q dir' s') (hs' : s' ≠ "") (hfits' : Fits q s') :
    t.rename p q =
      if Path.isIdle s' ∨ s' = ".." then .error .busy
      else if t.isDirectory (dir' ++ [s']) then .error .isDirectory
      else .ok ((t.drop (dir ++ [s])).put (dir' ++ [s']) (.file content)) := by
  unfold rename
  rw [hp.ending_of_name hidle hup, if_pos hfits, hq.ending_eq hs', if_pos hfits'.1, endingAt]
  split
  · rfl
  · rw [if_pos hfits'.2]
    simp only [bind, Except.bind, hget]
    cases t.isDirectory (dir' ++ [s']) <;> rfl

end FileTree

end JellyViews
