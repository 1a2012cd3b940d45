/-
**Following a path to a name in a directory.**

A path that ends with a name is followed in two parts: what stands in front of the name leads to a
directory, and the name is looked up there.  The first part meets directories and links only, so it
leads to the same place in every tree that differs in its files alone.

Main definitions:

* `FileTree.Follows` — the ways on which segments lead from one location to another;
* `FileTree.Begins` — the first steps of walks that end;
* `FileTree.SameFrame` — trees that differ in their files alone;
* `FileTree.Leads` — a path that ends with a segment, looked up in a directory.

Main results:

* `FileTree.begins_of_walk` — a walk that ends begins with such a step;
* `FileTree.follows_iff_walk` — following finds a location exactly if there is a way to it;
* `FileTree.Follows.walk_append` — **following goes on from where the first segments lead**;
* `FileTree.Follows.of_sameFrame` — the way to a directory depends on directories and links only;
* `FileTree.Leads.join`, `FileTree.Leads.withFileName`, `FileTree.Leads.append` — new names in the
  same directory;
* `FileTree.Leads.of_sameFrame` — a path keeps its directory.
-/

import JellyViews.FileTree.Files
import JellyViews.Proofs.Path.Segments

set_option relaxedAutoImplicit false
set_option autoImplicit false

namespace JellyViews

namespace FileTree

/-! ### One segment -/

/-- Goes on behind a link, if any more links may be followed. -/
def followLink (t : FileTree) (writing : Bool) :
    (links : Nat) → Location → List String → Except FileError Spot
  | 0, _, _ => .error .tooManyLinks
  | links + 1, here, ss => t.walk writing links here ss

@[simp] theorem walk_nil (t : FileTree) (w : Bool) (links : Nat) (here : Location) :
    t.walk w links here [] = .ok (.taken here) := by
  cases links <;> rfl

theorem walk_cons (t : FileTree) (w : Bool) (links : Nat) (here : Location) (s : String)
    (rest : List String) :
    t.walk w links here (s :: rest) =
      if t.isDirectory here then
        if Path.isIdle s then t.walk w links here rest
        else if s = ".." then t.walk w links here.dropLast rest
        else if w ∧ endsInSlash rest then .error .isDirectory
        else if nameLimit < s.utf8ByteSize then .error .nameTooLong
        else
          match t.get? (here ++ [s]) with
          | none => if rest = [] then .ok (.vacant (here ++ [s])) else .error .missing
          | some (.link target) =>
            t.followLink w links (startOf target here) (Path.segmentsOf target ++ rest)
          | some _ => t.walk w links (here ++ [s]) rest
      else .error .notDirectory := by
  cases links <;> rfl

theorem walk_idle {t : FileTree} {w : Bool} {links : Nat} {here : Location} {s : String}
    {rest : List String} (hdir : t.isDirectory here = true) (hs : Path.isIdle s = true) :
    t.walk w links here (s :: rest) = t.walk w links here rest := by
  rw [walk_cons, if_pos hdir, if_pos hs]

theorem walk_up {t : FileTree} {w : Bool} {links : Nat} {here : Location} {rest : List String}
    (hdir : t.isDirectory here = true) :
    t.walk w links here (".." :: rest) = t.walk w links here.dropLast rest := by
  rw [walk_cons, if_pos hdir, if_neg (by decide), if_pos rfl]

/-- A name is looked up; if it is the last one, `rest` has no segment. -/
theorem walk_name {t : FileTree} {w : Bool} {links : Nat} {here : Location} {s : String}
    {rest : List String} (hdir : t.isDirectory here = true) (hidle : Path.isIdle s = false)
    (hup : s ≠ "..") (hslash : endsInSlash rest = false) (hlong : s.utf8ByteSize ≤ nameLimit) :
    t.walk w links here (s :: rest) =
      match t.get? (here ++ [s]) with
      | none => if rest = [] then .ok (.vacant (here ++ [s])) else .error .missing
      | some (.link target) =>
        t.followLink w links (startOf target here) (Path.segmentsOf target ++ rest)
      | some _ => t.walk w links (here ++ [s]) rest := by
  rw [walk_cons, if_pos hdir, if_neg (by simp [hidle]), if_neg hup, if_neg (by simp [hslash]),
    if_neg (by omega)]

theorem endsInSlash_concat (rest : List String) {s : String} (hs : s ≠ "") :
    endsInSlash (rest ++ [s]) = false := by
  have hall : (rest ++ [s]).all (· == "") = false := by simp [hs]
  simp [endsInSlash, hall]

/-- A path that can be followed is short enough. -/
theorem checkText_eq_ok {text : String} (h : checkText text = .ok ()) :
    text.utf8ByteSize ≤ pathLimit := by
  unfold checkText at h
  split at h
  · simp at h
  · split at h
    · simp at h
    · omega

/-- Segments that do not end in a slash are left as they are. -/
theorem eq_of_splitSlash {ss core : List String} (h : splitSlash ss = (core, false)) :
    core = ss := by
  simp only [splitSlash, Prod.mk.injEq, decide_eq_false_iff_not] at h
  obtain ⟨rfl, hlength⟩ := h
  have hsuffix : ss.reverse.dropWhile (fun s => s == "") <:+ ss.reverse := List.dropWhile_suffix _
  have heq := hsuffix.eq_of_length (by
    have := hsuffix.length_le
    simp at hlength this ⊢
    omega)
  rw [heq, List.reverse_reverse]

/-! ### Ways -/

/-- The segments lead from `here` to a location, over so many links at most. -/
inductive Follows (t : FileTree) : Nat → Location → List String → Location → Prop where
  | done (links : Nat) (here : Location) : Follows t links here [] here
  | idle {links : Nat} {here l : Location} {s : String} {rest : List String}
      (hdir : t.isDirectory here = true) (hs : Path.isIdle s = true) :
      Follows t links here rest l → Follows t links here (s :: rest) l
  | up {links : Nat} {here l : Location} {rest : List String} (hdir : t.isDirectory here = true) :
      Follows t links here.dropLast rest l → Follows t links here (".." :: rest) l
  | name {links : Nat} {here l : Location} {s : String} {rest : List String} {e : Entry}
      (hdir : t.isDirectory here = true) (hidle : Path.isIdle s = false) (hup : s ≠ "..")
      (hlong : s.utf8ByteSize ≤ nameLimit) (he : t.get? (here ++ [s]) = some e)
      (hlink : ∀ target, e ≠ .link target) :
      Follows t links (here ++ [s]) rest l → Follows t links here (s :: rest) l
  | link {links : Nat} {here l : Location} {s target : String} {rest : List String}
      (hdir : t.isDirectory here = true) (hidle : Path.isIdle s = false) (hup : s ≠ "..")
      (hlong : s.utf8ByteSize ≤ nameLimit) (he : t.get? (here ++ [s]) = some (.link target)) :
      Follows t links (startOf target here) (Path.segmentsOf target ++ rest) l →
      Follows t (links + 1) here (s :: rest) l

/-- The first step of a walk that ends: over the segment `s`, and from there over all others. -/
inductive Begins (t : FileTree) (w : Bool) (spot : Spot) :
    Nat → Location → String → List String → Prop where
  | idle {links : Nat} {here : Location} {s : String} {rest : List String}
      (hdir : t.isDirectory here = true) (hs : Path.isIdle s = true)
      (h : t.walk w links here rest = .ok spot) : Begins t w spot links here s rest
  | up {links : Nat} {here : Location} {rest : List String} (hdir : t.isDirectory here = true)
      (h : t.walk w links here.dropLast rest = .ok spot) : Begins t w spot links here ".." rest
  | vacant {links : Nat} {here : Location} {s : String} {rest : List String}
      (hdir : t.isDirectory here = true) (hlong : s.utf8ByteSize ≤ nameLimit) (hrest : rest = [])
      (hspot : spot = .vacant (here ++ [s])) : Begins t w spot links here s rest
  | name {links : Nat} {here : Location} {s : String} {rest : List String} {e : Entry}
      (hdir : t.isDirectory here = true) (hidle : Path.isIdle s = false) (hup : s ≠ "..")
      (hlong : s.utf8ByteSize ≤ nameLimit) (he : t.get? (here ++ [s]) = some e)
      (hlink : ∀ target, e ≠ .link target) (h : t.walk w links (here ++ [s]) rest = .ok spot) :
      Begins t w spot links here s rest
  | link {links : Nat} {here : Location} {s target : String} {rest : List String}
      (hdir : t.isDirectory here = true) (hidle : Path.isIdle s = false) (hup : s ≠ "..")
      (hlong : s.utf8ByteSize ≤ nameLimit) (he : t.get? (here ++ [s]) = some (.link target))
      (h : t.walk w links (startOf target here) (Path.segmentsOf target ++ rest) = .ok spot) :
      Begins t w spot (links + 1) here s rest

theorem begins_of_walk {t : FileTree} {w : Bool} {spot : Spot} {links : Nat} {here : Location}
    {s : String} {rest : List String} (h : t.walk w links here (s :: rest) = .ok spot) :
    Begins t w spot links here s rest := by
  rw [walk_cons] at h
  split at h
  · rename_i hdir
    split at h
    · rename_i hidle
      exact .idle hdir hidle h
    · rename_i hidle
      have hidle : Path.isIdle s = false := by simpa using hidle
      split at h
      · rename_i hup
        subst hup
        exact .up hdir h
      · rename_i hup
        split at h
        · simp at h
        · split at h
          · simp at h
          · rename_i hlong
            have hlong : s.utf8ByteSize ≤ nameLimit := by omega
            split at h
            · split at h
              · rename_i hrest
                exact .vacant hdir hlong hrest (Except.ok.inj h).symm
              · simp at h
            · rename_i target he
              cases links with
              | zero => simp [followLink] at h
              | succ links => exact .link hdir hidle hup hlong he h
            · rename_i e hlink he
              exact .name hdir hidle hup hlong he hlink h
  · simp at h

/-- Following ends where there is a way to. -/
theorem follows_of_walk {t : FileTree} {links : Nat} {here l : Location} {ss : List String}
    (h : t.walk false links here ss = .ok (.taken l)) : Follows t links here ss l := by
  -- a link uses up one of the links, any other segment leaves a shorter list
  induction links using Nat.strongRecOn generalizing here ss with
  | _ links ihlinks =>
    induction ss generalizing here with
    | nil =>
      rw [walk_nil] at h
      obtain rfl : here = l := by simpa using h
      exact .done links here
    | cons s rest ih =>
      cases begins_of_walk h with
      | idle hdir hs h => exact .idle hdir hs (ih h)
      | up hdir h => exact .up hdir (ih h)
      | vacant hdir hlong hrest hspot => simp at hspot
      | name hdir hidle hup hlong he hlink h => exact .name hdir hidle hup hlong he hlink (ih h)
      | link hdir hidle hup hlong he h =>
        exact .link hdir hidle hup hlong he (ihlinks _ (Nat.lt_succ_self _) h)

/-- **Following goes on from where the first segments lead**, with some of the links used up. -/
theorem Follows.walk_append {t : FileTree} {links : Nat} {here l : Location} {A : List String}
    (h : Follows t links here A l) (w : Bool) {s : String} (hs : s ≠ "") :
    ∃ n, t.walk w links here (A ++ [s]) = t.walk w n l [s] := by
  have hslash : ∀ rest : List String, endsInSlash (rest ++ [s]) = false := fun rest =>
    endsInSlash_concat rest hs
  -- the slash counts only at the end, which the last segment keeps off
  induction h with
  | done links here => exact ⟨links, rfl⟩
  | idle hdir hs' _ ih =>
    obtain ⟨n, hn⟩ := ih
    exact ⟨n, by rw [List.cons_append, walk_idle hdir hs', hn]⟩
  | up hdir _ ih =>
    obtain ⟨n, hn⟩ := ih
    exact ⟨n, by rw [List.cons_append, walk_up hdir, hn]⟩
  | @name _ _ _ _ _ e hdir hidle hup hlong he hlink _ ih =>
    obtain ⟨n, hn⟩ := ih
    refine ⟨n, ?_⟩
    rw [List.cons_append, walk_name hdir hidle hup (hslash _) hlong, he]
    cases e with
    | link target => exact absurd rfl (hlink target)
    | file content => exact hn
    | directory => exact hn
  | link hdir hidle hup hlong he _ ih =>
    obtain ⟨n, hn⟩ := ih
    refine ⟨n, ?_⟩
    rw [List.cons_append, walk_name hdir hidle hup (hslash _) hlong, he, ← hn, List.append_assoc]
    rfl

/-- Where a name is found, or found to be vacant, the segments in front of it lead to a
directory. -/
theorem follows_of_walk_concat {t : FileTree} {w : Bool} {links : Nat} {here : Location}
    {A : List String} {n : String} {spot : Spot} (hidle : Path.isIdle n = false) (hup : n ≠ "..")
    (h : t.walk w links here (A ++ [n]) = .ok spot) :
    ∃ dir, t.isDirectory dir = true ∧ Follows t links here A dir ∧
      n.utf8ByteSize ≤ nameLimit := by
  -- the name stays at the end, also where the segments of a link come in front of it
  induction links using Nat.strongRecOn generalizing here A with
  | _ links ihlinks =>
    induction A generalizing here with
    | nil =>
      cases begins_of_walk h with
      | idle hdir hs h => simp [hidle] at hs
      | up hdir h => exact absurd rfl hup
      | vacant hdir hlong hrest hspot => exact ⟨here, hdir, .done links here, hlong⟩
      | name hdir hidle hup hlong he hlink h => exact ⟨here, hdir, .done links here, hlong⟩
      | link hdir hidle hup hlong he h => exact ⟨here, hdir, .done _ here, hlong⟩
    | cons s rest ih =>
      rw [List.cons_append] at h
      cases begins_of_walk h with
      | idle hdir hs h =>
        obtain ⟨dir, hdir', hway, hlong⟩ := ih h
        exact ⟨dir, hdir', .idle hdir hs hway, hlong⟩
      | up hdir h =>
        obtain ⟨dir, hdir', hway, hlong⟩ := ih h
        exact ⟨dir, hdir', .up hdir hway, hlong⟩
      | vacant hdir hlong hrest hspot => simp at hrest
      | name hdir hs hsup hlimit he hlink h =>
        obtain ⟨dir, hdir', hway, hlong⟩ := ih h
        exact ⟨dir, hdir', .name hdir hs hsup hlimit he hlink hway, hlong⟩
      | link hdir hs hsup hlimit he h =>
        rw [← List.append_assoc] at h
        obtain ⟨dir, hdir', hway, hlong⟩ := ihlinks _ (Nat.lt_succ_self _) h
        exact ⟨dir, hdir', .link hdir hs hsup hlimit he hway, hlong⟩

/-- There is a way exactly where following ends. -/
theorem follows_iff_walk {t : FileTree} {links : Nat} {here l : Location} {ss : List String} :
    Follows t links here ss l ↔ t.walk false links here ss = .ok (.taken l) := by
  refine ⟨fun h => ?_, follows_of_walk⟩
  induction h with
  | done links here => exact walk_nil t false links here
  | idle hdir hs _ ih => rw [walk_idle hdir hs, ih]
  | up hdir _ ih => rw [walk_up hdir, ih]
  | @name _ _ _ _ _ e hdir hidle hup hlong he hlink _ ih =>
    rw [walk_cons, if_pos hdir, if_neg (by simp [hidle]), if_neg hup, if_neg (by simp),
      if_neg (by omega), he]
    cases e with
    | link target => exact absurd rfl (hlink target)
    | file content => exact ih
    | directory => exact ih
  | link hdir hidle hup hlong he _ ih =>
    rw [walk_cons, if_pos hdir, if_neg (by simp [hidle]), if_neg hup, if_neg (by simp),
      if_neg (by omega), he, ← ih]
    rfl

/-- A way over a list of segments goes over the first ones first. -/
theorem Follows.of_append {t : FileTree} {links : Nat} {here l : Location} {A B : List String}
    (h : Follows t links here (A ++ B) l) :
    ∃ n m, Follows t links here A m ∧ Follows t n m B l := by
  -- along the way; where the first segments are used up, all that is left leads over the others
  generalize hss : A ++ B = ss at h
  induction h generalizing A with
  | done links here =>
    obtain ⟨rfl, rfl⟩ := List.append_eq_nil_iff.1 hss
    exact ⟨links, here, .done links here, .done links here⟩
  | @idle links here l s rest hdir hs h ih =>
    cases A with
    | nil =>
      subst hss
      exact ⟨links, here, .done links here, .idle hdir hs h⟩
    | cons a A =>
      obtain ⟨rfl, rfl⟩ := List.cons.inj hss
      obtain ⟨n, m, hA, hB⟩ := ih rfl
      exact ⟨n, m, .idle hdir hs hA, hB⟩
  | @up links here l rest hdir h ih =>
    cases A with
    | nil =>
      subst hss
      exact ⟨links, here, .done links here, .up hdir h⟩
    | cons a A =>
      obtain ⟨rfl, rfl⟩ := List.cons.inj hss
      obtain ⟨n, m, hA, hB⟩ := ih rfl
      exact ⟨n, m, .up hdir hA, hB⟩
  | @name links here l s rest e hdir hidle hup hlong he hlink h ih =>
    cases A with
    | nil =>
      subst hss
      exact ⟨links, here, .done links here, .name hdir hidle hup hlong he hlink h⟩
    | cons a A =>
      obtain ⟨rfl, rfl⟩ := List.cons.inj hss
      obtain ⟨n, m, hA, hB⟩ := ih rfl
      exact ⟨n, m, .name hdir hidle hup hlong he hlink hA, hB⟩
  | @link links here l s target rest hdir hidle hup hlong he h ih =>
    cases A with
    | nil =>
      subst hss
      exact ⟨links + 1, here, .done _ here, .link hdir hidle hup hlong he h⟩
    | cons a A =>
      obtain ⟨rfl, rfl⟩ := List.cons.inj hss
      obtain ⟨n, m, hA, hB⟩ := ih (List.append_assoc _ _ _)
      exact ⟨n, m, .link hdir hidle hup hlong he hA, hB⟩

/-- Idle segments lead nowhere else. -/
theorem Follows.eq_of_idle {t : FileTree} {links : Nat} {here l : Location} {ss : List String}
    (h : Follows t links here ss l) (hidle : ∀ s ∈ ss, Path.isIdle s = true) : l = here := by
  induction h with
  | done => rfl
  | idle _ _ _ ih => exact ih fun s hs => hidle s (List.mem_cons_of_mem _ hs)
  | up _ _ _ => exact absurd (hidle ".." List.mem_cons_self) (by decide)
  | name _ hs _ _ _ _ _ _ => exact absurd (hidle _ List.mem_cons_self) (by simp [hs])
  | link _ hs _ _ _ _ _ => exact absurd (hidle _ List.mem_cons_self) (by simp [hs])

/-- Idle segments at the end may be left out. -/
theorem Follows.of_append_idle {t : FileTree} {links : Nat} {here l : Location}
    {A idle : List String} (h : Follows t links here (A ++ idle) l)
    (hidle : ∀ s ∈ idle, Path.isIdle s = true) : Follows t links here A l := by
  obtain ⟨n, m, hA, hB⟩ := h.of_append
  rwa [hB.eq_of_idle hidle]

/-- More entries leave the ways that there are. -/
theorem Follows.mono {t t' : FileTree} (h : ∀ l e, t.get? l = some e → t'.get? l = some e)
    {links : Nat} {here l : Location} {ss : List String} (hway : Follows t links here ss l) :
    Follows t' links here ss l := by
  have hdirectory {l : Location} (hl : t.isDirectory l = true) : t'.isDirectory l = true :=
    isDirectory_iff.2 (h _ _ (isDirectory_iff.1 hl))
  induction hway with
  | done links here => exact .done links here
  | idle hdir hs _ ih => exact .idle (hdirectory hdir) hs ih
  | up hdir _ ih => exact .up (hdirectory hdir) ih
  | name hdir hidle hup hlong he hlink _ ih =>
    exact .name (hdirectory hdir) hidle hup hlong (h _ _ he) hlink ih
  | link hdir hidle hup hlong he _ ih =>
    exact .link (hdirectory hdir) hidle hup hlong (h _ _ he) ih

/-! ### Trees that differ in their files -/

/-- The trees have the same directories and the same links, and relative paths start in the same
directory. -/
structure SameFrame (t t' : FileTree) : Prop where
  home : t'.home = t.home
  directory (l : Location) : t'.isDirectory l = t.isDirectory l
  link (l : Location) (target : String) :
    t'.get? l = some (.link target) ↔ t.get? l = some (.link target)

namespace SameFrame

theorem refl (t : FileTree) : SameFrame t t := ⟨rfl, fun _ => rfl, fun _ _ => Iff.rfl⟩

theorem symm {t t' : FileTree} (h : SameFrame t t') : SameFrame t' t :=
  ⟨h.home.symm, fun l => (h.directory l).symm, fun l target => (h.link l target).symm⟩

theorem trans {t t' t'' : FileTree} (h : SameFrame t t') (h' : SameFrame t' t'') :
    SameFrame t t'' :=
  ⟨h'.home.trans h.home, fun l => (h'.directory l).trans (h.directory l),
    fun l target => (h'.link l target).trans (h.link l target)⟩

end SameFrame

theorem isDirectory_of_follows_cons {t : FileTree} {links : Nat} {here l : Location} {s : String}
    {rest : List String} (h : Follows t links here (s :: rest) l) : t.isDirectory here = true := by
  cases h <;> assumption

/-- The way to a directory depends on directories and links only. -/
theorem Follows.of_sameFrame {t t' : FileTree} (hframe : SameFrame t t') {links : Nat}
    {here l : Location} {ss : List String} (h : Follows t links here ss l)
    (hl : t.isDirectory l = true) : Follows t' links here ss l := by
  induction h with
  | done links here => exact .done links here
  | idle hdir hs _ ih => exact .idle (by rwa [hframe.directory]) hs (ih hl)
  | up hdir _ ih => exact .up (by rwa [hframe.directory]) (ih hl)
  | @name links here l s rest e hdir hidle hup hlong he hlink hrest ih =>
    -- the name stands for a directory: following goes on behind it, or ends there
    have hsub : t.isDirectory (here ++ [s]) = true := by
      cases rest with
      | nil =>
        cases hrest
        exact hl
      | cons r rs => exact isDirectory_of_follows_cons hrest
    have hsub' : t'.get? (here ++ [s]) = some .directory := by
      rw [← isDirectory_iff, hframe.directory]
      exact hsub
    exact .name (by rwa [hframe.directory]) hidle hup hlong hsub' (by simp) (ih hl)
  | link hdir hidle hup hlong he _ ih =>
    exact .link (by rwa [hframe.directory]) hidle hup hlong ((hframe.link _ _).2 he) (ih hl)

/-! ### Paths that end with a segment -/

theorem isAbsolute_append {a : String} (h : a ≠ "") (b : String) :
    isAbsolute (a ++ b) = isAbsolute a := by
  cases ha : a.toList with
  | nil => exact absurd (by simpa using ha) h
  | cons c cs => simp [isAbsolute, ha]

theorem isAbsolute_of_not_mem {s : String} (h : '/' ∉ s.toList) : isAbsolute s = false := by
  cases hs : s.toList with
  | nil => simp [isAbsolute, hs]
  | cons c cs =>
    have hc : c ≠ '/' := by
      rintro rfl
      exact h (by simp [hs])
    simp [isAbsolute, hs, hc]

/-- A path with segments in front of its last one starts at the top if the first of them is
empty. -/
theorem isAbsolute_of_segments {p : Path} {A : List String} {s : String}
    (h : p.segments = A ++ [s]) : isAbsolute p.text = (A.head? == some "") := by
  have hslash : ∀ x ∈ A ++ [s], '/' ∉ x.toList := fun x hx =>
    Path.slash_not_mem_of_mem_segments (h ▸ hx)
  have htext : p.text = String.intercalate "/" (A ++ [s]) := by
    rw [← h]
    exact (Path.intercalate_segmentsOf p.text).symm
  cases A with
  | nil =>
    rw [htext, List.nil_append, String.intercalate_singleton]
    exact isAbsolute_of_not_mem (hslash s (by simp))
  | cons a A =>
    rw [htext, List.cons_append, String.intercalate_cons_of_ne_nil (by simp)]
    cases ha : a.toList with
    | nil =>
      obtain rfl : a = "" := by simpa using ha
      simp [isAbsolute]
    | cons c cs =>
      have hc : c ≠ '/' := by
        rintro rfl
        exact hslash a (by simp) (by simp [ha])
      have hne : a ≠ "" := by
        rintro rfl
        simp at ha
      simp [isAbsolute, ha, beq_false_of_ne hc, beq_false_of_ne hne]

/-- The path ends with a segment, and what stands in front of it leads to a directory. -/
def Leads (t : FileTree) (p : Path) (dir : Location) (s : String) : Prop :=
  t.isDirectory dir = true ∧
    ∃ A, p.segments = A ++ [s] ∧ Follows t linkLimit (startOf p.text t.home) A dir

theorem spot_eq_walk {t : FileTree} {p : Path} (h : checkText p.text = .ok ()) :
    t.spot p = t.walk false linkLimit (startOf p.text t.home) p.segments := by
  simp only [spot, h]
  rfl

theorem writingSpot_eq_walk {t : FileTree} {p : Path} (h : checkText p.text = .ok ()) :
    t.writingSpot p = t.walk true linkLimit (startOf p.text t.home) p.segments := by
  simp only [writingSpot, h]
  rfl

/-- A path that leads to a location is followed segment by segment. -/
theorem walk_of_resolve {t : FileTree} {p : Path} {l : Location} (h : t.resolve p = .ok l) :
    checkText p.text = .ok () ∧
      t.walk false linkLimit (startOf p.text t.home) p.segments = .ok (.taken l) := by
  cases hcheck : checkText p.text with
  | error e => simp [resolve, spot, hcheck, bind, Except.bind] at h
  | ok u =>
    refine ⟨rfl, ?_⟩
    rw [← spot_eq_walk hcheck]
    unfold resolve at h
    cases hspot : t.spot p with
    | error e => simp [hspot, bind, Except.bind] at h
    | ok s =>
      cases s with
      | taken m => simp_all [bind, Except.bind, pure, Except.pure]
      | vacant m => simp [hspot, bind, Except.bind, throw, throwThe, MonadExceptOf.throw] at h

/-- A path to a directory leads there in every tree with the same directories and links. -/
theorem resolve_of_sameFrame {t t' : FileTree} {p : Path} {l : Location} (hframe : SameFrame t t')
    (h : t.resolve p = .ok l) (hl : t.isDirectory l = true) : t'.resolve p = .ok l := by
  obtain ⟨hcheck, hwalk⟩ := walk_of_resolve h
  have hway := (follows_of_walk hwalk).of_sameFrame hframe hl
  rw [← hframe.home] at hway
  simp only [resolve, spot_eq_walk hcheck, follows_iff_walk.1 hway]
  rfl

theorem ne_empty_of_checkText {text : String} (h : checkText text = .ok ()) : text ≠ "" := by
  rintro rfl
  simp [checkText] at h

theorem isAbsolute_join {p : Path} (h : p.text ≠ "") (n : String) :
    isAbsolute (p.join n).text = isAbsolute p.text := by
  unfold Path.join
  rw [if_neg h]
  split
  · exact isAbsolute_append h n
  · rw [String.append_assoc]
    exact isAbsolute_append h _

namespace Leads

theorem of_sameFrame {t t' : FileTree} {p : Path} {dir : Location} {s : String}
    (hframe : SameFrame t t') (h : t.Leads p dir s) : t'.Leads p dir s := by
  obtain ⟨hdir, A, hseg, hway⟩ := h
  exact ⟨by rwa [hframe.directory], A, hseg, hframe.home ▸ hway.of_sameFrame hframe hdir⟩

/-- A path has one last segment, and one directory in which it is looked up. -/
theorem unique {t : FileTree} {p : Path} {dir dir' : Location} {s s' : String}
    (h : t.Leads p dir s) (h' : t.Leads p dir' s') : dir = dir' ∧ s = s' := by
  obtain ⟨-, A, hseg, hway⟩ := h
  obtain ⟨-, A', hseg', hway'⟩ := h'
  obtain ⟨rfl, hs⟩ := List.append_inj' (hseg.symm.trans hseg') rfl
  have hwalk := (follows_iff_walk.1 hway).symm.trans (follows_iff_walk.1 hway')
  exact ⟨by simpa using hwalk, by simpa using hs⟩

theorem mono {t t' : FileTree} {p : Path} {dir : Location} {s : String}
    (h : ∀ l e, t.get? l = some e → t'.get? l = some e) (hhome : t'.home = t.home)
    (hp : t.Leads p dir s) : t'.Leads p dir s := by
  obtain ⟨hdir, A, hseg, hway⟩ := hp
  exact ⟨isDirectory_iff.2 (h _ _ (isDirectory_iff.1 hdir)), A, hseg, hhome ▸ hway.mono h⟩

/-- A path that leads to a directory leads to every name that is joined to it. -/
theorem join {t : FileTree} {p : Path} {dir : Location} {n : String}
    (h : t.resolve p = .ok dir) (hdir : t.isDirectory dir = true) (hn : '/' ∉ n.toList) :
    t.Leads (p.join n) dir n := by
  obtain ⟨hcheck, hwalk⟩ := walk_of_resolve h
  have hway : Follows t linkLimit (startOf p.text t.home) p.inside dir := by
    rcases p.segments_eq_inside with hin | hin
    · exact follows_of_walk (hin ▸ hwalk)
    · exact (follows_of_walk (hin ▸ hwalk)).of_append_idle (by simp [Path.isIdle])
  refine ⟨hdir, p.inside, p.segments_join hn, ?_⟩
  rwa [startOf, isAbsolute_join (ne_empty_of_checkText hcheck)]

/-- Another name at the end of the path is looked up in the same directory. -/
theorem withFileName {t : FileTree} {p : Path} {dir : Location} {s x : String}
    (h : t.Leads p dir s) (hs : Path.isIdle s = false) (hx : '/' ∉ x.toList) :
    t.Leads (p.withFileName x) dir x := by
  obtain ⟨hdir, A, hseg, hway⟩ := h
  have hnew := Path.segments_withFileName hseg hs hx
  refine ⟨hdir, Path.trimmed A, hnew, ?_⟩
  have hstart : startOf (p.withFileName x).text t.home = startOf p.text t.home := by
    rw [startOf, startOf, isAbsolute_of_segments hnew, isAbsolute_of_segments hseg,
      Path.head?_trimmed]
  obtain ⟨idle, hidle, hA⟩ := Path.exists_trimmed_append A
  rw [hA] at hway
  rw [hstart]
  exact hway.of_append_idle hidle

/-- A longer name is looked up in the same directory. -/
theorem append {t : FileTree} {p : Path} {dir : Location} {s x : String}
    (h : t.Leads p dir s) (hx : '/' ∉ x.toList) : t.Leads ⟨p.text ++ x⟩ dir (s ++ x) := by
  obtain ⟨hdir, A, hseg, hway⟩ := h
  have hnew : (Path.mk (p.text ++ x)).segments = A ++ [s ++ x] := Path.segmentsOf_append hx hseg
  refine ⟨hdir, A, hnew, ?_⟩
  rwa [startOf, isAbsolute_of_segments hnew, ← isAbsolute_of_segments hseg]

end Leads

end FileTree

end JellyViews
