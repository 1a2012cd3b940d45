/-
**Operations at a name in a directory.**

A path that ends with a name stands for one location, the name in its directory, as long as the
path and the name are short enough and the name is no link.  Reading, writing, renaming and removing
by path are then operations at this location; a path or a name that is too long fails in all of them
alike.

Main definitions:

* `FileTree.Fits` — paths and names that are short enough;
* `FileTree.entryAt`, `FileTree.textAt` — what stands at a location, and its text.

Main results:

* `FileTree.Leads.spots_of_name`, `FileTree.Leads.ending_eq` — where following and looking up end;
* `FileTree.Leads.of_walk`, `FileTree.Leads.of_ending` — paths for which they end at a name lead
  there;
* `FileTree.Leads.resolve_of_name`, `FileTree.Leads.entry_of_name`,
  `FileTree.Leads.readText_of_name` — **reading by path is reading at the location**;
* `FileTree.Leads.writeText_of_name`, `FileTree.Leads.unlink_of_name` — writing and removing;
* `FileTree.Leads.readText_special` — `.` and `..` have no text;
* `FileTree.mem_names`, `FileTree.nodup_names` — a directory lists what stands in it, once;
* `FileTree.mem_directories`, `FileTree.nodup_directories` — all directories, each of them once.
-/

import JellyViews.Proofs.FileTree.Following
import JellyViews.Proofs.OrderedMap

set_option relaxedAutoImplicit false
set_option autoImplicit false

namespace JellyViews

namespace FileTree

variable {t : FileTree} {p : Path} {dir : Location} {s : String}

/-! ### Lengths -/

/-- Whether a path, and the name it ends with, are short enough to be followed. -/
def Fits (p : Path) (s : String) : Prop :=
  p.text.utf8ByteSize ≤ pathLimit ∧ s.utf8ByteSize ≤ nameLimit

instance (p : Path) (s : String) : Decidable (Fits p s) := inferInstanceAs (Decidable (_ ∧ _))

/-- The name of the segments in front of which a path leads to a directory is not empty. -/
theorem Leads.text_ne_empty (h : t.Leads p dir s) (hs : s ≠ "") : p.text ≠ "" := by
  obtain ⟨-, A, hseg, -⟩ := h
  intro htext
  have hone : p.segments = [""] := by rw [Path.segments, htext, Path.segmentsOf_empty]
  rw [hone] at hseg
  cases A with
  | nil => exact hs (by simpa using hseg.symm)
  | cons a A => simp at hseg

theorem Leads.checkText_eq (h : t.Leads p dir s) (hs : s ≠ "") :
    checkText p.text =
      if p.text.utf8ByteSize ≤ pathLimit then .ok () else .error .nameTooLong := by
  rw [checkText, if_neg (h.text_ne_empty hs)]
  by_cases hlong : pathLimit < p.text.utf8ByteSize
  · rw [if_pos hlong, if_neg (by omega)]
  · rw [if_neg hlong, if_pos (by omega)]

/-! ### Texts -/

/-- The text of the bytes of a text. -/
theorem decode_encode (text : String) : decode (encode text) = .ok text := by
  have h : String.fromUTF8? (encode text) = some text := dif_pos text.isValidUTF8
  rw [decode, h]

/-- What is no success has no value. -/
theorem ne_ok_of_isOk {ε α : Type} {x : Except ε α} (h : x.isOk = false) (a : α) : x ≠ .ok a := by
  rintro rfl
  simp [Except.isOk, Except.toBool] at h

/-! ### Following -/

/-- The entry at a location. -/
def entryAt (t : FileTree) (l : Location) : Except FileError Entry :=
  match t.get? l with
  | some e => .ok e
  | none => .error .missing

/-- The text of the file at a location. -/
def textAt (t : FileTree) (l : Location) : Except FileError String :=
  match t.get? l with
  | some (.file content) => decode content
  | some .directory => .error .isDirectory
  | some (.link _) => .error .tooManyLinks
  | none => .error .missing

/-- Whether there is no link at the location. -/
def Unlinked (t : FileTree) (l : Location) : Prop := ∀ target, t.get? l ≠ some (.link target)

/-- Where following a name ends that is no link. -/
def spotAt (t : FileTree) (l : Location) : Spot := if (t.get? l).isSome then .taken l else .vacant l

namespace Leads

/-- Following a name in a directory looks it up there. -/
theorem walk_of_name (hdir : t.isDirectory dir = true) (hidle : Path.isIdle s = false)
    (hup : s ≠ "..") (hlink : t.Unlinked (dir ++ [s])) (w : Bool) (n : Nat) :
    t.walk w n dir [s] =
      if s.utf8ByteSize ≤ nameLimit then .ok (t.spotAt (dir ++ [s])) else .error .nameTooLong := by
  by_cases hlong : s.utf8ByteSize ≤ nameLimit
  · rw [walk_name hdir hidle hup rfl hlong, if_pos hlong, spotAt]
    cases hget : t.get? (dir ++ [s]) with
    | none => rfl
    | some e =>
      cases e with
      | link target => exact absurd hget (hlink target)
      | file content => simp
      | directory => simp
  · rw [walk_cons, if_pos hdir, if_neg (by simp [hidle]), if_neg hup,
      if_neg (by simp [endsInSlash]), if_pos (by omega), if_neg hlong]

/-- Following a path to a name that is no link, for reading or for writing. -/
theorem spots_of_name (h : t.Leads p dir s) (hidle : Path.isIdle s = false) (hup : s ≠ "..")
    (hlink : t.Unlinked (dir ++ [s])) :
    t.spot p = (if Fits p s then .ok (t.spotAt (dir ++ [s])) else .error .nameTooLong) ∧
      t.writingSpot p =
        if Fits p s then .ok (t.spotAt (dir ++ [s])) else .error .nameTooLong := by
  have hs : s ≠ "" := Path.ne_empty_of_notIdle hidle
  have hcheck := h.checkText_eq hs
  obtain ⟨hdir, A, hseg, hway⟩ := h
  by_cases hlong : p.text.utf8ByteSize ≤ pathLimit
  · rw [if_pos hlong] at hcheck
    obtain ⟨n, hn⟩ := hway.walk_append false hs
    obtain ⟨m, hm⟩ := hway.walk_append true hs
    rw [spot_eq_walk hcheck, writingSpot_eq_walk hcheck, hseg, hn, hm,
      walk_of_name hdir hidle hup hlink, walk_of_name hdir hidle hup hlink]
    simp [Fits, hlong]
  · rw [if_neg hlong] at hcheck
    have hfits : ¬ Fits p s := fun hfits => hlong hfits.1
    rw [if_neg hfits]
    exact ⟨by simp only [spot, hcheck]; rfl, by simp only [writingSpot, hcheck]; rfl⟩

theorem resolve_of_name (h : t.Leads p dir s) (hidle : Path.isIdle s = false) (hup : s ≠ "..")
    (hlink : t.Unlinked (dir ++ [s])) :
    t.resolve p =
      if Fits p s then (t.entryAt (dir ++ [s])).map fun _ => dir ++ [s]
      else .error .nameTooLong := by
  unfold resolve
  rw [(h.spots_of_name hidle hup hlink).1]
  split
  · cases hget : t.get? (dir ++ [s]) <;> simp [spotAt, entryAt, hget] <;> rfl
  · rfl

theorem entry_of_name (h : t.Leads p dir s) (hidle : Path.isIdle s = false) (hup : s ≠ "..")
    (hlink : t.Unlinked (dir ++ [s])) :
    t.entry p = if Fits p s then t.entryAt (dir ++ [s]) else .error .nameTooLong := by
  unfold entry
  rw [h.resolve_of_name hidle hup hlink]
  split
  · cases hget : t.get? (dir ++ [s]) with
    | none =>
      simp only [entryAt, hget]
      rfl
    | some e =>
      simp only [entryAt, hget, Except.map, bind, Except.bind]
      rfl
  · rfl

/-- Reading by path is reading at the location. -/
theorem readText_of_name (h : t.Leads p dir s) (hidle : Path.isIdle s = false) (hup : s ≠ "..")
    (hlink : t.Unlinked (dir ++ [s])) :
    t.readText p = if Fits p s then t.textAt (dir ++ [s]) else .error .nameTooLong := by
  unfold readText
  rw [h.entry_of_name hidle hup hlink]
  split
  · cases hget : t.get? (dir ++ [s]) with
    | none =>
      simp only [entryAt, textAt, hget]
      rfl
    | some e => cases e <;> simp only [entryAt, textAt, hget, bind, Except.bind] <;> rfl
  · rfl

/-- Writing by path puts a file at the location, unless there is a directory. -/
theorem writeText_of_name (h : t.Leads p dir s) (hidle : Path.isIdle s = false) (hup : s ≠ "..")
    (hlink : t.Unlinked (dir ++ [s])) (text : String) :
    t.writeText p text =
      if Fits p s then
        if t.isDirectory (dir ++ [s]) then .error .isDirectory
        else .ok (t.put (dir ++ [s]) (.file (encode text)))
      else .error .nameTooLong := by
  unfold writeText
  rw [(h.spots_of_name hidle hup hlink).2]
  split
  · cases hget : t.get? (dir ++ [s]) with
    | none =>
      have hdir : t.isDirectory (dir ++ [s]) = false := by simp [isDirectory, hget]
      simp only [spotAt, hget, hdir]
      rfl
    | some e =>
      simp only [spotAt, hget, bind, Except.bind]
      cases hdir : t.isDirectory (dir ++ [s]) <;> simp [hdir] <;> rfl
  · rfl

/-! ### Looking up the last name -/

/-- What a path ends with, if it is short enough. -/
def endingAt (dir : Location) (s : String) : Except FileError Ending :=
  if Path.isIdle s ∨ s = ".." then .ok .special
  else if s.utf8ByteSize ≤ nameLimit then .ok (.name dir s)
  else .error .nameTooLong

/-- The ending of a path is its last segment, in the directory to which the others lead. -/
theorem ending_eq (h : t.Leads p dir s) (hs : s ≠ "") :
    t.ending p =
      if p.text.utf8ByteSize ≤ pathLimit then endingAt dir s else .error .nameTooLong := by
  have hcheck := h.checkText_eq hs
  obtain ⟨hdir, A, hseg, hway⟩ := h
  unfold ending
  rw [hcheck]
  split
  · have hsplit : splitSlash p.segments = (A ++ [s], false) := by
      simp [splitSlash, hseg, hs]
    have hwalk : t.walk false linkLimit (startOf p.text t.home) A = .ok (.taken dir) :=
      follows_iff_walk.1 hway
    simp only [hsplit, List.getLast?_concat, List.dropLast_concat, hwalk]
    simp only [bind, Except.bind, pure, Except.pure, hdir]
    rw [if_neg (by simp), endingAt]
    split
    · rfl
    · by_cases hlong : s.utf8ByteSize ≤ nameLimit
      · rw [if_neg (by omega), if_pos hlong]
        rfl
      · rw [if_pos (by omega), if_neg hlong]
        rfl
  · rfl

/-- A path that can be followed to a name, found or not, leads to it. -/
theorem of_walk {w : Bool} {A : List String} {spot : Spot} (hseg : p.segments = A ++ [s])
    (hidle : Path.isIdle s = false) (hup : s ≠ "..")
    (h : t.walk w linkLimit (startOf p.text t.home) p.segments = .ok spot) :
    ∃ dir, t.Leads p dir s ∧ s.utf8ByteSize ≤ nameLimit := by
  rw [hseg] at h
  obtain ⟨dir, hdir, hway, hlong⟩ := follows_of_walk_concat hidle hup h
  exact ⟨dir, ⟨hdir, A, hseg, hway⟩, hlong⟩

/-- So does a path whose last name can be looked up. -/
theorem of_ending (h : t.ending p = .ok (.name dir s)) :
    t.Leads p dir s ∧ Fits p s ∧ Path.isIdle s = false ∧ s ≠ ".." := by
  cases hcheck : checkText p.text with
  | error e => simp [ending, hcheck, bind, Except.bind] at h
  | ok u =>
    unfold ending at h
    simp only [hcheck, bind, Except.bind] at h
    rcases hsplit : splitSlash p.segments with ⟨core, slash⟩
    simp only [hsplit] at h
    cases hlast : core.getLast? with
    | none => simp [hlast, pure, Except.pure] at h
    | some x =>
      simp only [hlast] at h
      rcases hwalk : t.walk false linkLimit (startOf p.text t.home) core.dropLast with e | l | l
      · simp [hwalk] at h
      · simp only [hwalk, pure, Except.pure, throw, throwThe, MonadExceptOf.throw] at h
        by_cases hdir : t.isDirectory l = true
        · by_cases hspecial : Path.isIdle x = true ∨ x = ".."
          · simp [hdir, hspecial] at h
          · by_cases hlong : nameLimit < x.utf8ByteSize
            · simp [hdir, hspecial, hlong] at h
            · rw [if_neg (by simp [hdir]), if_neg hspecial, if_neg hlong] at h
              cases slash with
              | true => simp at h
              | false =>
                obtain ⟨rfl, rfl⟩ : l = dir ∧ x = s := by simpa using h
                obtain rfl := eq_of_splitSlash hsplit
                obtain ⟨A, hseg⟩ := List.getLast?_eq_some_iff.1 hlast
                rw [hseg, List.dropLast_concat] at hwalk
                have hway := follows_of_walk hwalk
                obtain ⟨hidle, hup⟩ := not_or.1 hspecial
                exact ⟨⟨hdir, A, hseg, hway⟩, ⟨checkText_eq_ok hcheck, by omega⟩,
                  by simpa using hidle, hup⟩
        · simp [hdir] at h
      · simp [hwalk, throw, throwThe, MonadExceptOf.throw] at h
/-- The ending of a path to a name. -/
theorem ending_of_name (h : t.Leads p dir s) (hidle : Path.isIdle s = false) (hup : s ≠ "..") :
    t.ending p = if Fits p s then .ok (.name dir s) else .error .nameTooLong := by
  have hname : ¬ (Path.isIdle s = true ∨ s = "..") := by simp [hidle, hup]
  rw [h.ending_eq (Path.ne_empty_of_notIdle hidle)]
  by_cases hp : p.text.utf8ByteSize ≤ pathLimit
  · rw [if_pos hp, endingAt, if_neg hname]
    simp [Fits, hp]
  · simp [Fits, hp]

/-- Removing by path takes away what stands at the location, unless it is a directory. -/
theorem unlink_of_name (h : t.Leads p dir s) (hidle : Path.isIdle s = false) (hup : s ≠ "..") :
    t.unlink p =
      if Fits p s ∧ t.isDirectory (dir ++ [s]) = false then t.drop (dir ++ [s]) else t := by
  unfold unlink
  rw [h.ending_of_name hidle hup]
  by_cases hfits : Fits p s
  · cases hdir : t.isDirectory (dir ++ [s]) <;> simp [hfits, hdir]
  · simp [hfits]

/-! ### `.` and `..` -/

/-- Neither `.` nor `..` leads to a file, as the directory above a directory is one. -/
theorem readText_special (h : t.Leads p dir s) (hs : s ≠ "") (hspecial : Path.isIdle s ∨ s = "..")
    (habove : t.isDirectory dir.dropLast = true) (text : String) : t.readText p ≠ .ok text := by
  have hcheck := h.checkText_eq hs
  obtain ⟨hdir, A, hseg, hway⟩ := h
  by_cases hlong : p.text.utf8ByteSize ≤ pathLimit
  · rw [if_pos hlong] at hcheck
    obtain ⟨n, hn⟩ := hway.walk_append false hs
    obtain ⟨l, hl, hwalk⟩ : ∃ l, t.isDirectory l = true ∧
        t.walk false n dir [s] = .ok (.taken l) := by
      by_cases hidle : Path.isIdle s = true
      · exact ⟨dir, hdir, by rw [walk_idle hdir hidle, walk_nil]⟩
      · obtain rfl := hspecial.resolve_left hidle
        exact ⟨dir.dropLast, habove, by rw [walk_up hdir, walk_nil]⟩
    have hresolve : t.resolve p = .ok l := by
      unfold resolve
      rw [spot_eq_walk hcheck, hseg, hn, hwalk]
      rfl
    have hread : t.readText p = .error .isDirectory := by
      simp only [readText, entry, hresolve, bind, Except.bind, isDirectory_iff.1 hl]
      rfl
    simp [hread]
  · rw [if_neg hlong] at hcheck
    have hread : t.readText p = .error .nameTooLong := by
      simp only [readText, entry, resolve, spot, hcheck]
      rfl
    simp [hread]

end Leads

/-! ### The names in a directory -/

theorem nameIn_eq_some {l k : Location} {n : String} : nameIn l k = some n ↔ k = l ++ [n] := by
  unfold nameIn
  constructor
  · intro h
    split at h
    · rename_i hl
      obtain ⟨ys, rfl⟩ := List.getLast?_eq_some_iff.1 h
      rw [← hl, List.dropLast_concat]
    · simp at h
  · rintro rfl
    simp

/-- A name is listed exactly if there is something at it. -/
theorem mem_names {t : FileTree} {l : Location} {n : String} :
    n ∈ t.names l ↔ t.get? (l ++ [n]) ≠ none := by
  rw [names, List.mem_mergeSort, List.mem_filterMap, get?, if_neg (by simp),
    ← OrderedMap.mem_keys_iff]
  simp [nameIn_eq_some]

/-- Names that are in order already are listed as they are. -/
theorem names_of_pairwise {t : FileTree} {l : Location}
    (h : (t.entries.keys.filterMap (nameIn l)).Pairwise fun a b => a ≤ b) :
    t.names l = t.entries.keys.filterMap (nameIn l) :=
  List.mergeSort_of_pairwise (h.imp fun hab => by simpa using hab)

theorem nodup_names (t : FileTree) (l : Location) : (t.names l).Nodup := by
  rw [names, (List.mergeSort_perm _ _).nodup_iff]
  refine List.Pairwise.filterMap _ ?_ t.entries.keys_nodup
  intro k k' hne n hn m hm hnm
  rw [nameIn_eq_some] at hn hm
  exact hne (by rw [hn, hm, hnm])

theorem pairwise_names (t : FileTree) (l : Location) : (t.names l).Pairwise fun a b => a ≤ b := by
  have htrans : ∀ a b c : String, decide (a ≤ b) = true → decide (b ≤ c) = true →
      decide (a ≤ c) = true := fun a b c hab hbc =>
    decide_eq_true (String.le_trans (of_decide_eq_true hab) (of_decide_eq_true hbc))
  have htotal : ∀ a b : String, (decide (a ≤ b) || decide (b ≤ a)) = true := fun a b => by
    simpa using String.le_total a b
  exact (List.pairwise_mergeSort htrans htotal _).imp fun hab => of_decide_eq_true hab

/-- A directory that only gets new names keeps the old ones in their order. -/
theorem names_eq_filter {t t' : FileTree} {l : Location}
    (h : ∀ n, t.get? (l ++ [n]) ≠ none → t'.get? (l ++ [n]) ≠ none) :
    t.names l = (t'.names l).filter fun n => (t.get? (l ++ [n])).isSome := by
  have hnodup := (nodup_names t' l).filter fun n => (t.get? (l ++ [n])).isSome
  have hperm := (List.perm_ext_iff_of_nodup (nodup_names t l) hnodup).2 fun n => by
    rw [List.mem_filter, mem_names, mem_names, Option.isSome_iff_ne_none]
    exact ⟨fun hn => ⟨h n hn, hn⟩, fun hn => hn.2⟩
  exact hperm.eq_of_pairwise (fun a b _ _ hab hba => String.le_antisymm hab hba)
    (pairwise_names t l) ((pairwise_names t' l).filter _)

/-! ### All directories -/

theorem mem_directories {t : FileTree} {l : Location} :
    l ∈ t.directories ↔ t.isDirectory l = true := by
  by_cases hl : l = []
  · simp [directories, hl, isDirectory_iff]
  · have hmem : l ∈ t.directories ↔ ∃ e, (l, e) ∈ t.entries.entries ∧ e.isDirectory = true := by
      simp [directories, hl]
    rw [hmem, isDirectory_iff, get?, if_neg hl, ← OrderedMap.mem_entries_iff]
    simp [Entry.isDirectory_iff]

/-- The top is listed apart from the other directories, and they have different keys. -/
theorem nodup_directories (t : FileTree) : t.directories.Nodup := by
  rw [directories, List.nodup_cons]
  constructor
  · simp
  · exact t.entries.nodup.sublist (List.filter_sublist.map _)

end FileTree

end JellyViews
