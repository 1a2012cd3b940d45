/-
**Paths as lists of segments.**

A path is its segments with slashes between them, and nothing is lost on the way there or back.  Of
interest are paths that end with a name: joining a name to a directory, replacing the last name and
lengthening it change the last segment, and in front of it at most drop segments that name nothing.

Main definitions:

* `Path.IsName` — texts that can name an entry of a directory;
* `Path.inside` — the segments in front of a name that is joined to a path;
* `Path.trimmed` — segments without idle ones behind the first;
* `Path.frontComponents` — the components of the segments in front of a name.

Main results:

* `Path.segmentsOf_intercalate`, `Path.intercalate_segmentsOf` — segments and texts;
* `Path.segments_join`, `Path.segments_withFileName`, `Path.segmentsOf_append` — **a new last name
  changes the last segment**;
* `Path.components_join` — joining a name adds one component;
* `Path.utf8ByteSize_le_of_trimmed` — replacing a name never makes what is in front of it longer.
-/

import JellyViews.Path

set_option relaxedAutoImplicit false
set_option autoImplicit false

namespace JellyViews

namespace Path

/-! ### Texts and their segments -/

/-- Splitting at slashes is the library's splitting of lists. -/
theorem splitChars_eq_splitOn (cs : List Char) : splitChars cs = cs.splitOn '/' := by
  induction cs with
  | nil => rfl
  | cons c cs ih =>
    rw [List.splitOn_cons_eq_if_modifyHead, ← ih, splitChars]
    by_cases h : c = '/'
    · simp [h]
    · cases hcs : splitChars cs with
      | nil => exact absurd hcs (splitChars_ne_nil cs)
      | cons part parts => simp [h]

theorem not_mem_of_mem_splitChars {cs part : List Char} (h : part ∈ splitChars cs) :
    '/' ∉ part := by
  induction cs generalizing part with
  | nil => simp_all [splitChars]
  | cons c cs ih =>
    unfold splitChars at h
    split at h
    · rcases List.mem_cons.1 h with rfl | h
      · simp
      · exact ih h
    · rename_i hc
      split at h
      · rename_i part' parts heq
        rcases List.mem_cons.1 h with rfl | h
        · have hpart : '/' ∉ part' := ih (heq ▸ List.mem_cons_self)
          simp only [List.mem_cons, not_or]
          exact ⟨fun h => hc h.symm, hpart⟩
        · exact ih (heq ▸ List.mem_cons_of_mem _ h)
      · rename_i heq
        exact absurd heq (splitChars_ne_nil cs)

/-- No slash stands in a segment. -/
theorem slash_not_mem_of_mem_segmentsOf {text s : String} (h : s ∈ segmentsOf text) :
    '/' ∉ s.toList := by
  obtain ⟨part, hpart, rfl⟩ := List.mem_map.1 h
  simpa using not_mem_of_mem_splitChars hpart

theorem slash_not_mem_of_mem_segments {p : Path} {s : String} (h : s ∈ p.segments) :
    '/' ∉ s.toList :=
  slash_not_mem_of_mem_segmentsOf h

theorem segmentsOf_of_not_mem {s : String} (h : '/' ∉ s.toList) : segmentsOf s = [s] := by
  simp [segmentsOf, splitChars_eq_splitOn, List.splitOn_eq_singleton h]

/-- A slash divides the segments. -/
theorem segmentsOf_append_slash (a b : String) :
    segmentsOf (a ++ "/" ++ b) = segmentsOf a ++ segmentsOf b := by
  have h : (a ++ "/" ++ b).toList = a.toList ++ '/' :: b.toList := by simp
  rw [segmentsOf, h, splitChars_eq_splitOn, List.splitOn_append_cons_self, List.map_append]
  simp [segmentsOf, splitChars_eq_splitOn]

@[simp] theorem segmentsOf_empty : segmentsOf "" = [""] := rfl

/-- A slash at the end leaves an empty segment. -/
theorem segmentsOf_slash (a : String) : segmentsOf (a ++ "/") = segmentsOf a ++ [""] := by
  have h := segmentsOf_append_slash a ""
  rwa [String.append_empty, segmentsOf_empty] at h

/-- A text is its segments with slashes between them. -/
theorem intercalate_segmentsOf (text : String) :
    String.intercalate "/" (segmentsOf text) = text := by
  rw [← String.toList_inj, String.toList_intercalate, segmentsOf, List.map_map,
    splitChars_eq_splitOn]
  have hid : (List.map (String.toList ∘ String.ofList) (text.toList.splitOn '/')) =
      text.toList.splitOn '/' := by simp [Function.comp_def]
  rw [hid]
  exact List.intercalate_splitOn '/'

/-- Segments without slashes are the segments of the text that joins them. -/
theorem segmentsOf_intercalate {ss : List String} (hne : ss ≠ [])
    (h : ∀ s ∈ ss, '/' ∉ s.toList) : segmentsOf (String.intercalate "/" ss) = ss := by
  have hsep : ("/" : String).toList = ['/'] := rfl
  have hparts : ∀ part ∈ ss.map String.toList, '/' ∉ part := by
    intro part hpart
    obtain ⟨s, hs, rfl⟩ := List.mem_map.1 hpart
    exact h s hs
  rw [segmentsOf, String.toList_intercalate, hsep, splitChars_eq_splitOn,
    List.splitOn_intercalate '/' hparts (by simpa using hne), List.map_map]
  simp [Function.comp_def]

/-- Two paths with the same segments are the same path. -/
theorem ext_segments {p q : Path} (h : p.segments = q.segments) : p = q := by
  cases p with
  | mk a =>
    cases q with
    | mk b =>
      have htext : a = b := by
        rw [← intercalate_segmentsOf a, ← intercalate_segmentsOf b]
        exact congrArg _ h
      rw [htext]

/-- What is appended to a text without a slash goes to the last segment. -/
theorem segmentsOf_append {a b s : String} {A : List String} (hb : '/' ∉ b.toList)
    (h : segmentsOf a = A ++ [s]) : segmentsOf (a ++ b) = A ++ [s ++ b] := by
  have hseg : ∀ x ∈ A ++ [s ++ b], '/' ∉ x.toList := by
    intro x hx
    rcases List.mem_append.1 hx with hx | hx
    · exact slash_not_mem_of_mem_segmentsOf (h ▸ List.mem_append_left _ hx)
    · have hs : s ∈ segmentsOf a := by simp [h]
      rw [List.mem_singleton.1 hx, String.toList_append, List.mem_append, not_or]
      exact ⟨slash_not_mem_of_mem_segmentsOf hs, hb⟩
  have htext : a ++ b = String.intercalate "/" (A ++ [s ++ b]) := by
    rw [← intercalate_segmentsOf a, h]
    cases A with
    | nil => simp
    | cons x xs =>
      rw [String.intercalate_append_of_ne_nil (by simp) (by simp),
        String.intercalate_append_of_ne_nil (by simp) (by simp)]
      simp [String.append_assoc]
  rw [htext, segmentsOf_intercalate (by simp) hseg]

/-! ### Names -/

/-- Whether a text can name an entry of a directory. -/
def IsName (s : String) : Prop := '/' ∉ s.toList ∧ isIdle s = false ∧ s ≠ ".."

instance (s : String) : Decidable (IsName s) := inferInstanceAs (Decidable (_ ∧ _ ∧ _))

namespace IsName

theorem noSlash {s : String} (h : IsName s) : '/' ∉ s.toList := h.1

theorem notIdle {s : String} (h : IsName s) : isIdle s = false := h.2.1

theorem componentOf_eq {s : String} (h : IsName s) : componentOf s = .name s := by
  simp [componentOf, h.2.2]

end IsName

theorem ne_empty_of_notIdle {s : String} (h : isIdle s = false) : s ≠ "" := by
  rintro rfl
  simp [isIdle] at h

/-! ### Joining a name -/

/-- The segments in front of a name that is joined to the path. -/
def inside (p : Path) : List String :=
  if p.segments.getLast? = some "" then p.segments.dropLast else p.segments

theorem eq_append_slash {text : String} (h : text.toList.getLast? = some '/') :
    ∃ a : String, text = a ++ "/" := by
  refine ⟨String.ofList text.toList.dropLast, ?_⟩
  have hlist : text.toList.dropLast ++ ['/'] = text.toList := by
    obtain ⟨ys, hys⟩ := List.getLast?_eq_some_iff.1 h
    simp [hys]
  rw [← String.toList_inj, String.toList_append, String.toList_ofList]
  exact hlist.symm

/-- A path with a slash behind it, or without any text, ends with an empty segment. -/
theorem getLast?_segments_eq_empty {p : Path} :
    p.segments.getLast? = some "" ↔ p.text = "" ∨ p.text.toList.getLast? = some '/' := by
  constructor
  · intro h
    obtain ⟨A, hA⟩ := List.getLast?_eq_some_iff.1 h
    have htext : p.text = String.intercalate "/" (A ++ [""]) := by
      rw [← hA]
      exact (intercalate_segmentsOf p.text).symm
    cases A with
    | nil => exact Or.inl (by simpa using htext)
    | cons x xs =>
      refine Or.inr ?_
      rw [htext, String.intercalate_append_of_ne_nil (by simp) (by simp)]
      simp
  · rintro (h | h)
    · simp [segments, h]
    · obtain ⟨a, ha⟩ := eq_append_slash h
      simp [segments, ha, segmentsOf_slash]

/-- Joining a text adds its segments. -/
theorem segments_join_text (p : Path) (text : String) :
    (p.join text).segments = p.inside ++ segmentsOf text := by
  unfold join inside
  split
  · rename_i h
    simp [segments, h]
  · rename_i h
    split
    · rename_i hs
      rw [if_pos (getLast?_segments_eq_empty.2 (Or.inr hs))]
      obtain ⟨a, ha⟩ := eq_append_slash hs
      simp only [segments]
      rw [ha, segmentsOf_append_slash, segmentsOf_slash, List.dropLast_concat]
    · rename_i hs
      rw [if_neg fun hlast => (getLast?_segments_eq_empty.1 hlast).elim h hs]
      rw [segments, segmentsOf_append_slash]
      rfl

/-- Joining a name adds it as the last segment. -/
theorem segments_join (p : Path) {n : String} (hn : '/' ∉ n.toList) :
    (p.join n).segments = p.inside ++ [n] := by
  rw [segments_join_text, segmentsOf_of_not_mem hn]

/-- Only the path without any text has nothing in front of a joined name. -/
theorem inside_ne_nil {p : Path} (h : p.text ≠ "") : p.inside ≠ [] := by
  unfold inside
  split
  · rename_i hlast
    obtain ⟨A, hA⟩ := List.getLast?_eq_some_iff.1 hlast
    rw [hA, List.dropLast_concat]
    rintro rfl
    have htext : p.text = String.intercalate "/" [""] := by
      rw [← intercalate_segmentsOf p.text]
      exact congrArg _ hA
    exact h (by simpa using htext)
  · exact p.segments_ne_nil

/-- What is in front of a joined name does not end with an empty segment, except at the top. -/
theorem segments_eq_inside (p : Path) : p.segments = p.inside ∨ p.segments = p.inside ++ [""] := by
  unfold inside
  split
  · rename_i hlast
    obtain ⟨A, hA⟩ := List.getLast?_eq_some_iff.1 hlast
    exact Or.inr (by rw [hA, List.dropLast_concat])
  · exact Or.inl rfl

/-! ### Replacing the last name -/

/-- Segments without idle ones behind the first. -/
def trimmed : List String → List String
  | [] => []
  | s :: ss => s :: trimIdleEnd ss

theorem trimIdleEnd_concat {ss : List String} {s : String} (h : isIdle s = false) :
    trimIdleEnd (ss ++ [s]) = ss ++ [s] := by
  simp [trimIdleEnd, h]

/-- Idle segments at the end are all that trimming drops. -/
theorem exists_trimIdleEnd_append (ss : List String) :
    ∃ idle, (∀ s ∈ idle, isIdle s = true) ∧ ss = trimIdleEnd ss ++ idle := by
  refine ⟨(ss.reverse.takeWhile isIdle).reverse, ?_, ?_⟩
  · intro s hs
    exact List.all_eq_true.1 List.all_takeWhile s (List.mem_reverse.1 hs)
  · rw [trimIdleEnd, ← List.reverse_append, List.takeWhile_append_dropWhile, List.reverse_reverse]

theorem exists_trimmed_append (A : List String) :
    ∃ idle, (∀ s ∈ idle, isIdle s = true) ∧ A = trimmed A ++ idle := by
  cases A with
  | nil => exact ⟨[], by simp, rfl⟩
  | cons a A =>
    obtain ⟨idle, hidle, h⟩ := exists_trimIdleEnd_append A
    exact ⟨idle, hidle, by rw [trimmed, List.cons_append, ← h]⟩

theorem head?_trimmed (A : List String) : (trimmed A).head? = A.head? := by
  cases A <;> rfl

theorem trimIdleEnd_cons {a : String} (h : isIdle a = false) (ss : List String) :
    trimIdleEnd (a :: ss) = a :: trimIdleEnd ss := by
  rw [trimIdleEnd, List.reverse_cons, List.dropWhile_append]
  split
  · rename_i hnil
    rw [List.isEmpty_iff] at hnil
    simp [trimIdleEnd, hnil, h]
  · simp [trimIdleEnd]

theorem notIdle_of_getLast?_trimIdleEnd {ss : List String} {s : String}
    (h : (trimIdleEnd ss).getLast? = some s) : isIdle s = false := by
  rw [trimIdleEnd, List.getLast?_reverse] at h
  have hidle := List.head?_dropWhile_not isIdle ss.reverse
  rw [h] at hidle
  simpa using hidle

theorem getLast?_trimIdleEnd_ne {ss : List String} : (trimIdleEnd ss).getLast? ≠ some "" := by
  intro h
  have hidle := notIdle_of_getLast?_trimIdleEnd h
  simp [isIdle] at hidle

theorem trimIdleEnd_append_idle {ss idle : List String} (h : ∀ s ∈ idle, isIdle s = true) :
    trimIdleEnd (ss ++ idle) = trimIdleEnd ss := by
  have hidle : ∀ s ∈ idle.reverse, isIdle s = true := fun s hs => h s (List.mem_reverse.1 hs)
  rw [trimIdleEnd, List.reverse_append, List.dropWhile_append_of_pos hidle, ← trimIdleEnd]

theorem getLast?_trimmed_ne {a : String} {ss : List String} (h : a ≠ "" ∨ trimIdleEnd ss ≠ []) :
    (trimmed (a :: ss)).getLast? ≠ some "" := by
  rw [trimmed]
  cases hss : trimIdleEnd ss with
  | nil => simpa [hss] using h
  | cons b bs =>
    rw [List.getLast?_cons_cons, ← hss]
    exact getLast?_trimIdleEnd_ne

/-- Joining a name to segments that do not end with an empty one. -/
theorem segments_join_ofSegments {B : List String} {x : String} (hne : B ≠ [])
    (hB : ∀ s ∈ B, '/' ∉ s.toList) (hlast : B.getLast? ≠ some "") (hx : '/' ∉ x.toList) :
    ((ofSegments B).join x).segments = B ++ [x] := by
  have hseg : (ofSegments B).segments = B := segmentsOf_intercalate hne hB
  rw [segments_join _ hx, inside, hseg, if_neg hlast]

theorem mem_of_mem_trimmed {A : List String} {s : String} (h : s ∈ trimmed A) : s ∈ A := by
  obtain ⟨idle, -, hA⟩ := exists_trimmed_append A
  rw [hA]
  exact List.mem_append_left _ h

/-- What the segments in front of a name begin with. -/
def frontLead : List String → Lead
  | "" :: _ => .root
  | "." :: _ => .here
  | _ => .none

/-- The segments in front of a name, behind their lead. -/
def frontBody : List String → List String
  | "" :: ss => ss
  | "." :: ss => ss
  | ss => ss

theorem splitLead_eq_front {ss : List String} (h : ss ≠ [""]) :
    splitLead ss = (frontLead ss, frontBody ss) := by
  cases ss with
  | nil => rfl
  | cons a ss =>
    by_cases hroot : a = ""
    · subst hroot
      cases ss with
      | nil => exact absurd rfl h
      | cons b ss => rfl
    · by_cases hdot : a = "."
      · subst hdot
        rfl
      · unfold splitLead frontLead frontBody
        split <;> simp_all

/-- A name that is not idle, and what follows it, stands behind the lead. -/
theorem splitLead_append (A : List String) {s : String} (hs : isIdle s = false)
    (rest : List String) :
    splitLead (A ++ s :: rest) = (frontLead A, frontBody A ++ s :: rest) := by
  have hne : A ++ s :: rest ≠ [""] := by
    intro h
    cases A <;> simp_all [isIdle]
  rw [splitLead_eq_front hne]
  cases A with
  | nil =>
    unfold frontLead frontBody
    split <;> simp_all [isIdle]
  | cons a A =>
    unfold frontLead frontBody
    split <;> simp_all

theorem splitLead_concat (A : List String) {s : String} (hs : isIdle s = false) :
    splitLead (A ++ [s]) = (frontLead A, frontBody A ++ [s]) :=
  splitLead_append A hs []

theorem parent_of_segments {p : Path} {A : List String} {s : String}
    (h : p.segments = A ++ [s]) (hs : isIdle s = false) :
    p.parent = ofLead (frontLead A) (trimIdleEnd (frontBody A)) := by
  simp only [parent, h, splitLead_concat A hs, trimIdleEnd_concat hs, List.dropLast_concat]

/-- A lead and the segments behind it, in the form of one list. -/
theorem ofLead_front (A : List String) (h : trimmed A ≠ [""]) :
    ofLead (frontLead A) (trimIdleEnd (frontBody A)) = ofSegments (trimmed A) := by
  cases A with
  | nil => rfl
  | cons a A =>
    by_cases hroot : a = ""
    · subst hroot
      have hA : trimIdleEnd A ≠ [] := fun hA => h (by rw [trimmed, hA])
      change Path.mk ("/" ++ String.intercalate "/" (trimIdleEnd A)) = _
      rw [ofSegments, trimmed, String.intercalate_cons_of_ne_nil hA, String.empty_append]
    · by_cases hdot : a = "."
      · subst hdot
        rfl
      · have ha : isIdle a = false := by simp [isIdle, hroot, hdot]
        have hfront : frontLead (a :: A) = .none ∧ frontBody (a :: A) = a :: A := by
          unfold frontLead frontBody
          split <;> simp_all
        rw [hfront.1, hfront.2, trimIdleEnd_cons ha]
        rfl

/-- Replacing the name at the end of a path replaces the last segment; idle segments in front of it
are dropped. -/
theorem segments_withFileName {p : Path} {A : List String} {s x : String}
    (h : p.segments = A ++ [s]) (hs : isIdle s = false) (hx : '/' ∉ x.toList) :
    (p.withFileName x).segments = trimmed A ++ [x] := by
  have hslash : ∀ y ∈ trimmed A, '/' ∉ y.toList := fun y hy =>
    slash_not_mem_of_mem_segments (h ▸ List.mem_append_left _ (mem_of_mem_trimmed hy))
  rw [withFileName, parent_of_segments h hs]
  by_cases htop : trimmed A = [""]
  · -- the parent is the top, the only parent that is written with a slash behind it
    cases A with
    | nil => simp [trimmed] at htop
    | cons a A =>
      obtain ⟨rfl, hA⟩ : a = "" ∧ trimIdleEnd A = [] := by simpa [trimmed] using htop
      rw [htop, segments_join _ hx]
      change inside ⟨"/" ++ String.intercalate "/" (trimIdleEnd A)⟩ ++ [x] = _
      rw [hA]
      rfl
  · rw [ofLead_front A htop]
    cases A with
    | nil =>
      rw [segments_join _ hx]
      rfl
    | cons a A =>
      refine segments_join_ofSegments (by simp [trimmed]) hslash (getLast?_trimmed_ne ?_) hx
      by_cases ha : a = ""
      · exact Or.inr fun hA => htop (by rw [trimmed, ha, hA])
      · exact Or.inl ha

/-! ### Components -/

/-- The components of the segments in front of a name. -/
def frontComponents (A : List String) : List Component :=
  (frontLead A).components ++ bodyComponents (frontBody A)

/-- A name at the end of a path is its last component. -/
theorem components_of_segments {p : Path} {A : List String} {s : String}
    (h : p.segments = A ++ [s]) (hs : isIdle s = false) :
    p.components = frontComponents A ++ [componentOf s] := by
  simp only [components, h, splitLead_concat A hs]
  simp [frontComponents, bodyComponents, hs]

theorem bodyComponents_append_idle {ss idle : List String}
    (h : ∀ s ∈ idle, isIdle s = true) : bodyComponents (ss ++ idle) = bodyComponents ss := by
  have hnil : idle.filter (fun s => !isIdle s) = [] := by
    rw [List.filter_eq_nil_iff]
    intro s hs
    simp [h s hs]
  rw [bodyComponents, List.filter_append, hnil, List.append_nil]
  rfl

/-- What follows the first segment adds its components. -/
theorem frontComponents_append {A : List String} (hA : A ≠ []) (B : List String) :
    frontComponents (A ++ B) = frontComponents A ++ bodyComponents B := by
  cases A with
  | nil => exact absurd rfl hA
  | cons a A =>
    have hfront : frontLead (a :: A ++ B) = frontLead (a :: A) ∧
        frontBody (a :: A ++ B) = frontBody (a :: A) ++ B := by
      unfold frontLead frontBody
      split <;> simp_all
    rw [frontComponents, hfront.1, hfront.2]
    simp [frontComponents, bodyComponents]

theorem frontComponents_append_idle {A idle : List String} (hA : A ≠ [])
    (h : ∀ s ∈ idle, isIdle s = true) : frontComponents (A ++ idle) = frontComponents A := by
  have hnil : bodyComponents ([] ++ idle) = bodyComponents [] := bodyComponents_append_idle h
  rw [List.nil_append] at hnil
  rw [frontComponents_append hA, hnil]
  exact List.append_nil _

/-- Trimming changes no component. -/
theorem frontComponents_trimmed (A : List String) :
    frontComponents (trimmed A) = frontComponents A := by
  cases A with
  | nil => rfl
  | cons a A =>
    obtain ⟨idle, hidle, h⟩ := exists_trimmed_append (a :: A)
    calc frontComponents (trimmed (a :: A))
        = frontComponents (trimmed (a :: A) ++ idle) :=
          (frontComponents_append_idle (by simp [trimmed]) hidle).symm
      _ = frontComponents (a :: A) := by rw [← h]

/-- Every path but the one without any text is the front of the names in it. -/
theorem components_eq_front {p : Path} (h : p.text ≠ "") :
    p.components = frontComponents p.segments := by
  have hne : p.segments ≠ [""] := by
    intro hseg
    have htext : p.text = String.intercalate "/" [""] := by
      rw [← intercalate_segmentsOf p.text]
      exact congrArg _ hseg
    exact h (by simpa using htext)
  simp only [components, splitLead_eq_front hne, frontComponents]

/-- The components in front of a joined name are those of the directory. -/
theorem frontComponents_inside {p : Path} (h : p.text ≠ "") :
    frontComponents p.inside = p.components := by
  rw [components_eq_front h]
  rcases p.segments_eq_inside with hin | hin
  · rw [hin]
  · rw [hin]
    exact (frontComponents_append_idle (inside_ne_nil h) (by simp [isIdle])).symm

/-- Joining a name adds it as a component. -/
theorem components_join {p : Path} {n : String} (h : p.text ≠ "") (hn : IsName n) :
    (p.join n).components = p.components ++ [.name n] := by
  rw [components_of_segments (segments_join p hn.noSlash) hn.notIdle, frontComponents_inside h,
    hn.componentOf_eq]

theorem fileName?_join {p : Path} {n : String} (hn : IsName n) :
    (p.join n).fileName? = some n := by
  rw [fileName?, components_of_segments (segments_join p hn.noSlash) hn.notIdle,
    hn.componentOf_eq]
  simp

/-! ### Names below a path -/

/-- The path of names, each inside of the one before. -/
def below (p : Path) (names : List String) : Path := names.foldl join p

@[simp] theorem below_nil (p : Path) : p.below [] = p := rfl

theorem below_concat (p : Path) (names : List String) (n : String) :
    p.below (names ++ [n]) = (p.below names).join n := by
  simp [below]

theorem text_join_ne_empty {p : Path} (h : p.text ≠ "") (n : String) : (p.join n).text ≠ "" := by
  unfold join
  rw [if_neg h]
  split <;> simp [h]

theorem text_below_ne_empty {p : Path} (h : p.text ≠ "") (names : List String) :
    (p.below names).text ≠ "" := by
  induction names generalizing p with
  | nil => exact h
  | cons n names ih => exact ih (text_join_ne_empty h n)

/-- Names below a path are components behind those of the path. -/
theorem components_below {p : Path} (h : p.text ≠ "") {names : List String}
    (hnames : ∀ n ∈ names, IsName n) :
    (p.below names).components = p.components ++ names.map .name := by
  induction names generalizing p with
  | nil => simp
  | cons n names ih =>
    have hn : IsName n := hnames n List.mem_cons_self
    have hrest := ih (text_join_ne_empty h n) fun m hm => hnames m (List.mem_cons_of_mem _ hm)
    rw [components_join h hn] at hrest
    simpa [below] using hrest

/-! ### Lengths -/

/-- Fewer segments make a shorter text. -/
theorem utf8ByteSize_intercalate_le (A B : List String) {C : List String} (hC : C ≠ []) :
    (String.intercalate "/" (A ++ C)).utf8ByteSize ≤
      (String.intercalate "/" (A ++ (B ++ C))).utf8ByteSize := by
  induction A with
  | nil =>
    cases B with
    | nil => exact Nat.le_refl _
    | cons b bs =>
      rw [List.nil_append, List.nil_append,
        String.intercalate_append_of_ne_nil (by simp) hC]
      simp only [String.utf8ByteSize_append]
      omega
  | cons a A ih =>
    rw [List.cons_append, List.cons_append, String.intercalate_cons_of_ne_nil (by simp [hC]),
      String.intercalate_cons_of_ne_nil (by simp [hC])]
    simp only [String.utf8ByteSize_append]
    omega

/-- A path with the segments of another, except for idle ones in front of its name, is no longer. -/
theorem utf8ByteSize_le_of_trimmed {p q : Path} {A : List String} {x : String}
    (hp : p.segments = trimmed A ++ [x]) (hq : q.segments = A ++ [x]) :
    p.text.utf8ByteSize ≤ q.text.utf8ByteSize := by
  obtain ⟨idle, -, hA⟩ := exists_trimmed_append A
  have hq' : q.segments = trimmed A ++ (idle ++ [x]) := by
    rw [hq, ← List.append_assoc, ← hA]
  rw [← intercalate_segmentsOf p.text, ← intercalate_segmentsOf q.text]
  change (String.intercalate "/" p.segments).utf8ByteSize ≤
    (String.intercalate "/" q.segments).utf8ByteSize
  rw [hp, hq']
  exact utf8ByteSize_intercalate_le _ _ (by simp)

end Path

end JellyViews
