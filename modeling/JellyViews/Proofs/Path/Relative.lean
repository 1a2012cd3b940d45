/-
**Names below a directory.**

The path of names below a directory, taken relative to the directory, is these names again, with
slashes between them; and looked up from the directory, they lead back to the path.  Nothing of this
holds of a text in which backslashes were turned into slashes, since a name may have backslashes in
it.

Main definitions:

* `Path.lookedUp` — the path that a text means in a directory.

Main results:

* `Path.segments_below` — the segments of names below a directory;
* `Path.relativeTo_below` — **they are what is left relative to the directory**;
* `Path.lookedUp_relativeTo_below` — **and they lead back from there**;
* `Path.lookedUp_slashed_iff` — but not if a backslash in them is turned into a slash.
-/

import JellyViews.Proofs.Path.Segments

set_option relaxedAutoImplicit false
set_option autoImplicit false

namespace JellyViews

namespace Path

variable {p : Path} {names : List String}

/-! ### Segments of names -/

theorem inside_join (p : Path) {n : String} (hn : IsName n) :
    (p.join n).inside = p.inside ++ [n] := by
  have hlast : (p.join n).segments.getLast? ≠ some "" := by
    rw [segments_join p hn.noSlash]
    simpa using ne_empty_of_notIdle hn.notIdle
  rw [inside, if_neg hlast, segments_join p hn.noSlash]

/-- Names below a directory are segments behind those of the directory. -/
theorem segments_below (p : Path) (hne : names ≠ []) (hnames : ∀ n ∈ names, IsName n) :
    (p.below names).segments = p.inside ++ names := by
  induction names generalizing p with
  | nil => exact absurd rfl hne
  | cons n names ih =>
    have hn : IsName n := hnames n List.mem_cons_self
    change ((p.join n).below names).segments = _
    cases names with
    | nil => exact segments_join p hn.noSlash
    | cons m names =>
      have hrest := ih (p.join n) (by simp) fun k hk => hnames k (List.mem_cons_of_mem n hk)
      rw [hrest, inside_join p hn, List.append_assoc]
      rfl

/-- Joining the names at once, or one after the other. -/
theorem join_intercalate (p : Path) (hne : names ≠ []) (hnames : ∀ n ∈ names, IsName n) :
    p.join (String.intercalate "/" names) = p.below names := by
  apply ext_segments
  rw [segments_join_text, segmentsOf_intercalate hne fun n hn => (hnames n hn).noSlash,
    segments_below p hne hnames]

/-- A text that is joined adds the components of its segments. -/
theorem components_join_text (hp : p.text ≠ "") (text : String) :
    (p.join text).components = p.components ++ bodyComponents (segmentsOf text) := by
  rw [components_eq_front (text_join_ne_empty hp text), segments_join_text,
    frontComponents_append (inside_ne_nil hp), frontComponents_inside hp]

/-! ### Relative paths -/

theorem dropComponents_zero (ss : List String) : dropComponents 0 ss = ss := by
  cases ss <;> rfl

/-- Taking off the components of some segments leaves what stands behind them, and idle segments in
front of it. -/
theorem dropWhile_dropComponents (ss rest : List String) :
    (dropComponents (bodyComponents ss).length (ss ++ rest)).dropWhile isIdle =
      rest.dropWhile isIdle := by
  induction ss with
  | nil => rw [bodyComponents, List.filter_nil, List.map_nil, List.length_nil,
      dropComponents_zero, List.nil_append]
  | cons s ss ih =>
    by_cases hs : isIdle s = true
    · have hbody : bodyComponents (s :: ss) = bodyComponents ss := by simp [bodyComponents, hs]
      rw [hbody]
      cases hcount : (bodyComponents ss).length with
      | zero =>
        rw [hcount, dropComponents_zero] at ih
        rw [dropComponents_zero, List.cons_append, List.dropWhile_cons_of_pos hs, ih]
      | succ n =>
        rw [hcount] at ih
        rw [List.cons_append, dropComponents, if_pos hs, ih]
    · have hbody : bodyComponents (s :: ss) = componentOf s :: bodyComponents ss := by
        simp [bodyComponents, hs]
      rw [hbody, List.length_cons, List.cons_append, dropComponents, if_neg hs, ih]

/-- The components of a text are its names and what it begins with. -/
theorem components_ne_nil (h : p.text ≠ "") : p.components ≠ [] := by
  rw [components_eq_front h]
  obtain ⟨s, ss, hseg⟩ := List.exists_cons_of_ne_nil p.segments_ne_nil
  rw [hseg]
  unfold frontComponents frontLead frontBody bodyComponents
  split <;> simp_all [Lead.components, isIdle]

/-- Behind the components of the directory there are the names. -/
theorem segmentsBehind_below (hp : p.text ≠ "") (hne : names ≠ [])
    (hnames : ∀ n ∈ names, IsName n) :
    (segmentsBehind p.components.length (p.below names)).dropWhile isIdle = names := by
  obtain ⟨n, rest, rfl⟩ := List.exists_cons_of_ne_nil hne
  have hn : isIdle n = false := (hnames n List.mem_cons_self).notIdle
  have hlength : p.components.length =
      (frontLead p.inside).components.length + (bodyComponents (frontBody p.inside)).length := by
    rw [← frontComponents_inside hp, frontComponents, List.length_append]
  have hbehind := dropWhile_dropComponents (frontBody p.inside) (n :: rest)
  rw [List.dropWhile_cons_of_neg (by simp [hn])] at hbehind
  unfold segmentsBehind
  rw [segments_below p hne hnames, splitLead_append p.inside hn, hlength]
  cases hlead : frontLead p.inside with
  | none => simpa [Lead.components, hlead] using hbehind
  | root => simpa [Lead.components, hlead] using hbehind
  | here => simpa [Lead.components, hlead] using hbehind

/-- **What is left of names below a directory** are the names. -/
theorem relativeTo_below (hp : p.text ≠ "") (hne : names ≠ []) (hnames : ∀ n ∈ names, IsName n) :
    (p.below names).relativeTo p = ofSegments names := by
  have hprefix : p.components.isPrefixOf (p.below names).components = true := by
    rw [components_below hp hnames]
    simp
  have htrim : trimIdleEnd names = names := by
    rcases List.eq_nil_or_concat names with hnil | ⟨front, n, rfl⟩
    · exact absurd hnil hne
    · rw [List.concat_eq_append] at hnames ⊢
      exact trimIdleEnd_concat (hnames n (by simp)).notIdle
  unfold relativeTo stripPrefix?
  rw [if_pos hprefix]
  cases hcount : p.components.length with
  | zero => exact absurd (List.length_eq_zero_iff.1 hcount) (components_ne_nil hp)
  | succ k =>
    have hbehind := segmentsBehind_below hp hne hnames
    rw [hcount] at hbehind
    dsimp only
    rw [hbehind, htrim]
    rfl

/-! ### Texts that are looked up -/

/-- The path that a text means in a directory: a text that begins with a slash means the same
everywhere. -/
def lookedUp (p : Path) (text : String) : Path :=
  if text.toList.head? = some '/' then ⟨text⟩ else p.join text

/-- **The names lead back** from the directory. -/
theorem lookedUp_relativeTo_below (hp : p.text ≠ "") (hne : names ≠ [])
    (hnames : ∀ n ∈ names, IsName n) :
    p.lookedUp ((p.below names).relativeTo p).text = p.below names := by
  obtain ⟨n, rest, rfl⟩ := List.exists_cons_of_ne_nil hne
  have hn := hnames n List.mem_cons_self
  rw [relativeTo_below hp hne hnames]
  have hhead : (String.intercalate "/" (n :: rest)).toList.head? ≠ some '/' := by
    obtain ⟨c, cs, hc⟩ : ∃ c cs, n.toList = c :: cs :=
      List.exists_cons_of_ne_nil (by simpa using ne_empty_of_notIdle hn.notIdle)
    have hslash : c ≠ '/' := by
      rintro rfl
      exact hn.noSlash (by simp [hc])
    cases rest with
    | nil => simpa [hc] using hslash
    | cons m ms =>
      rw [String.intercalate_cons_of_ne_nil (by simp)]
      simpa [hc] using hslash
  rw [lookedUp, ofSegments, if_neg hhead, join_intercalate p hne hnames]

/-! ### Backslashes -/

theorem backslash_not_mem_slashed (s : String) : '\\' ∉ (slashed s).toList := by
  rw [slashed, String.toList_ofList, List.mem_map]
  rintro ⟨c, -, hc⟩
  split at hc
  · cases hc
  · rename_i hne
    exact hne hc

/-- Texts without a backslash stay as they are. -/
theorem slashed_eq_self {s : String} (h : '\\' ∉ s.toList) : slashed s = s := by
  have hturn : s.toList.map (fun c => if c = '\\' then '/' else c) = s.toList.map id :=
    List.map_congr_left fun c hc => if_neg fun heq : c = '\\' => h (heq ▸ hc)
  rw [slashed, hturn, List.map_id, String.ofList_toList]

theorem exists_mem_splitChars {c : Char} (hc : c ≠ '/') (cs : List Char) :
    (∃ part ∈ splitChars cs, c ∈ part) ↔ c ∈ cs := by
  induction cs with
  | nil => simp [splitChars]
  | cons d cs ih =>
    unfold splitChars
    split
    · rename_i hd
      simp [ih, hd, hc]
    · cases hsplit : splitChars cs with
      | nil => exact absurd hsplit (splitChars_ne_nil cs)
      | cons part parts =>
        rw [hsplit] at ih
        simp only [List.mem_cons, exists_eq_or_imp] at ih ⊢
        rw [← ih, or_assoc]

/-- Characters other than slashes stand in one of the segments. -/
theorem exists_mem_segmentsOf {c : Char} (hc : c ≠ '/') (text : String) :
    (∃ s ∈ segmentsOf text, c ∈ s.toList) ↔ c ∈ text.toList := by
  rw [← exists_mem_splitChars hc]
  constructor
  · rintro ⟨s, hs, hmem⟩
    obtain ⟨part, hpart, rfl⟩ := List.mem_map.1 hs
    exact ⟨part, hpart, by simpa using hmem⟩
  · rintro ⟨part, hpart, hmem⟩
    exact ⟨String.ofList part, List.mem_map_of_mem hpart, by simpa using hmem⟩

theorem mem_of_name_mem_bodyComponents {ss : List String} {s : String}
    (h : Component.name s ∈ bodyComponents ss) : s ∈ ss := by
  obtain ⟨r, hr, heq⟩ := List.mem_map.1 h
  unfold componentOf at heq
  split at heq
  · cases heq
  · exact Component.name.inj heq ▸ (List.mem_filter.1 hr).1

/-- The names in a path are segments of it. -/
theorem mem_segments_of_name_mem {s : String} (h : Component.name s ∈ p.components) :
    s ∈ p.segments := by
  by_cases htext : p.text = ""
  · rw [show p = ⟨""⟩ from congrArg Path.mk htext] at h
    cases h
  · rw [components_eq_front htext, frontComponents, List.mem_append] at h
    rcases h with hlead | hbody
    · unfold Lead.components at hlead
      split at hlead <;> simp at hlead
    · have hmem := mem_of_name_mem_bodyComponents hbody
      unfold frontBody at hmem
      split at hmem <;> simp_all

/-- **A backslash in a name is lost**: what the text means is not the path of the names, unless no
backslash stands in them. -/
theorem lookedUp_slashed_iff (hp : p.text ≠ "") (hne : names ≠ [])
    (hnames : ∀ n ∈ names, IsName n) :
    (p.lookedUp (slashed ((p.below names).relativeTo p).text)).components =
      (p.below names).components ↔ '\\' ∉ ((p.below names).relativeTo p).text.toList := by
  constructor
  · intro hsame hmem
    have hslash : '\\' ≠ '/' := by decide
    have hseg : segmentsOf (String.intercalate "/" names) = names :=
      segmentsOf_intercalate hne fun n hn => (hnames n hn).noSlash
    rw [relativeTo_below hp hne hnames] at hsame hmem
    obtain ⟨n, hn, hback⟩ := (exists_mem_segmentsOf hslash _).2 hmem
    rw [ofSegments, hseg] at hn
    -- this name would have to stand in a text without a backslash
    have hturned (hmem : n ∈ segmentsOf (slashed (ofSegments names).text)) : False :=
      backslash_not_mem_slashed _ ((exists_mem_segmentsOf hslash _).1 ⟨n, hmem, hback⟩)
    rw [components_below hp hnames, lookedUp] at hsame
    have hname : Component.name n ∈ names.map Component.name := List.mem_map_of_mem hn
    split at hsame
    · exact hturned (mem_segments_of_name_mem (hsame ▸ List.mem_append_right _ hname))
    · rw [components_join_text hp] at hsame
      rw [← List.append_cancel_left hsame] at hname
      exact hturned (mem_of_name_mem_bodyComponents hname)
  · intro h
    rw [slashed_eq_self h, lookedUp_relativeTo_below hp hne hnames]

end Path

end JellyViews
