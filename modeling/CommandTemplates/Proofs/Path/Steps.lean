/-
The steps of a path, and what cutting off the last one leaves.

Paths are kept as they are written, so that the same steps have many spellings.  What is
said about steps holds for all of them; what is said about texts, only for names with one
slash between each two.

* `Path.segments_eq_splitOn`, `Path.joinSegments_eq_intercalate` — segments are the
  pieces of a list between separators;
* `Path.components_ofSplit` — the steps of a path that is put together from segments;
* `Path.components_parent?`, `WorkspaceItem.components_parent` — the parent of a path has
  all steps but the last, and the empty path stands for the parent where there is none;
* `Path.IsPlain.components_here` — a `./` in front of names is one more step;
* `Path.components_ofNames`, `Path.parent?_ofNames` — names with slashes between them,
  where the parent is known as a text too.
-/
import CommandTemplates.Workspace
import Mathlib.Data.List.DropRight

namespace CommandTemplates

namespace Path

variable {p q : Path} {cs head s : List Char} {tail others : List (List Char)}

/-! ### Segments -/

theorem segments_eq_splitOn (cs : List Char) : segments cs = cs.splitOn '/' := by
  induction cs with
  | nil => rfl
  | cons c cs ih =>
    rw [segments, ih, List.splitOn, List.splitOn, List.splitOnP_cons_eq_if_modifyHead]
    by_cases hc : c = '/'
    · simp [hc]
    · cases hsegments : cs.splitOnP (· == '/') with
      | nil => exact absurd hsegments (List.splitOnP_ne_nil _ cs)
      | cons s ss => simp [hc]

theorem joinSegments_eq_intercalate (ss : List (List Char)) :
    joinSegments ss = ['/'].intercalate ss := by
  induction ss with
  | nil => rfl
  | cons s ss ih =>
    cases ss with
    | nil => simp [joinSegments]
    | cons s' ss => simp [joinSegments, ih, List.intercalate_cons_cons]

theorem segments_ne_nil (cs : List Char) : segments cs ≠ [] := by
  rw [segments_eq_splitOn]
  exact List.splitOnP_ne_nil _ cs

theorem slash_notMem_of_mem_segments (h : s ∈ segments cs) : '/' ∉ s := by
  induction cs generalizing s with
  | nil => simp_all [segments]
  | cons c cs ih =>
    rw [segments] at h
    split at h
    · rcases List.mem_cons.1 h with rfl | h
      · exact List.not_mem_nil
      · exact ih h
    · next hc =>
      split at h
      · next s' ss hsegments =>
        rw [hsegments] at ih
        rcases List.mem_cons.1 h with rfl | h
        · have hs' := ih List.mem_cons_self
          simp [hs', Ne.symm hc]
        · exact ih (List.mem_cons_of_mem _ h)
      · exact absurd ‹_› (segments_ne_nil cs)

theorem segments_joinSegments (hhead : '/' ∉ head) (htail : ∀ s ∈ tail, '/' ∉ s) :
    segments (joinSegments (head :: tail)) = head :: tail := by
  rw [segments_eq_splitOn, joinSegments_eq_intercalate]
  exact List.splitOn_intercalate '/' (List.forall_mem_cons.2 ⟨hhead, htail⟩) (List.cons_ne_nil _ _)

theorem segments_append_slash (h : '/' ∉ s) : segments (s ++ '/' :: cs) = s :: segments cs := by
  have hs : ∀ c ∈ s, (c == '/') = false := by
    intro c hc
    exact beq_eq_false_iff_ne.2 fun heq => h (heq ▸ hc)
  rw [segments_eq_splitOn, segments_eq_splitOn, List.splitOn,
    List.splitOnP_append_cons_of_forall_mem hs '/' (beq_self_eq_true '/')]
  rfl

theorem segments_eq_split (p : Path) : segments p.text.toList = p.split.1 :: p.split.2 := by
  unfold split
  split
  · assumption
  · exact absurd ‹_› (segments_ne_nil _)

theorem split_eq (h : segments p.text.toList = head :: tail) : p.split = (head, tail) := by
  rw [segments_eq_split, List.cons.injEq] at h
  exact Prod.ext h.1 h.2

theorem slash_notMem_head (p : Path) : '/' ∉ p.split.1 :=
  slash_notMem_of_mem_segments (segments_eq_split p ▸ List.mem_cons_self)

theorem slash_notMem_tail (p : Path) : ∀ s ∈ p.split.2, '/' ∉ s := by
  intro s hs
  exact slash_notMem_of_mem_segments (segments_eq_split p ▸ List.mem_cons_of_mem _ hs)

theorem toList_text (p : Path) : p.text.toList = joinSegments (p.split.1 :: p.split.2) := by
  rw [← segments_eq_split, segments_eq_splitOn, joinSegments_eq_intercalate,
    List.intercalate_splitOn]

theorem joinSegments_cons (h : tail ≠ []) :
    joinSegments (head :: tail) = head ++ '/' :: joinSegments tail := by
  cases tail with
  | nil => exact absurd rfl h
  | cons s ss => rfl

theorem joinSegments_concat (h : tail ≠ []) (s : List Char) :
    joinSegments (tail ++ [s]) = joinSegments tail ++ '/' :: s := by
  induction tail with
  | nil => exact absurd rfl h
  | cons s' tail ih =>
    cases tail with
    | nil => rfl
    | cons s'' tail =>
      have hrest := ih (List.cons_ne_nil _ _)
      rw [List.cons_append, joinSegments_cons (by simp), hrest,
        joinSegments_cons (List.cons_ne_nil _ _), List.append_assoc, List.cons_append]

/-- A path starts with a slash if its first segment is empty, unless it is the only one. -/
theorem isAbsolute_iff : p.isAbsolute = true ↔ p.split.1 = [] ∧ p.split.2 ≠ [] := by
  have htext := p.toList_text
  have hslash := p.slash_notMem_head
  unfold isAbsolute
  cases hhead : p.split.1 with
  | nil =>
    cases htail : p.split.2 with
    | nil => simp [htext, hhead, htail, joinSegments]
    | cons s ss => simp [htext, hhead, htail, joinSegments]
  | cons c cs =>
    -- the first character is one of a segment, so no slash
    have hc : c ≠ '/' := fun heq => hslash (by simp [hhead, heq])
    have hfirst : p.text.toList.head? = some c := by
      cases htail : p.split.2 with
      | nil => simp [htext, hhead, htail, joinSegments]
      | cons s ss => simp [htext, hhead, htail, joinSegments]
    split
    · next hfound =>
      rw [hfound] at hfirst
      exact absurd (Option.some.inj hfirst).symm hc
    · simp

/-! ### Idle segments -/

theorem trimIdleEnd_eq_rdropWhile (tail : List (List Char)) :
    trimIdleEnd tail = tail.rdropWhile isIdle :=
  rfl

theorem laterComponent?_eq_none_iff : laterComponent? s = none ↔ isIdle s = true := by
  unfold laterComponent?
  split
  · simp_all
  · split <;> simp_all

theorem filterMap_concat_idle (h : isIdle s = true) :
    (tail ++ [s]).filterMap laterComponent? = tail.filterMap laterComponent? := by
  rw [List.filterMap_append, List.filterMap_cons_none (laterComponent?_eq_none_iff.2 h),
    List.filterMap_nil, List.append_nil]

/-- Idle segments at the end are no steps. -/
theorem filterMap_trimIdleEnd (tail : List (List Char)) :
    (trimIdleEnd tail).filterMap laterComponent? = tail.filterMap laterComponent? := by
  induction tail using List.reverseRecOn with
  | nil => rfl
  | append_singleton tail s ih =>
    rw [trimIdleEnd_eq_rdropWhile, List.rdropWhile_concat]
    split
    · next hidle => rw [← trimIdleEnd_eq_rdropWhile, ih, filterMap_concat_idle hidle]
    · rfl

theorem trimIdleEnd_eq_nil_iff : trimIdleEnd tail = [] ↔ tail.filterMap laterComponent? = [] := by
  rw [trimIdleEnd_eq_rdropWhile, List.rdropWhile_eq_nil_iff, List.filterMap_eq_nil_iff]
  exact forall₂_congr fun _ _ => laterComponent?_eq_none_iff.symm

/-- Without the idle segments at the end, the last segment is the last step. -/
theorem filterMap_dropLast_trimIdleEnd (tail : List (List Char)) :
    (trimIdleEnd tail).dropLast.filterMap laterComponent? =
      (tail.filterMap laterComponent?).dropLast := by
  induction tail using List.reverseRecOn with
  | nil => rfl
  | append_singleton tail s ih =>
    rw [trimIdleEnd_eq_rdropWhile, List.rdropWhile_concat]
    split
    · next hidle => rw [← trimIdleEnd_eq_rdropWhile, ih, filterMap_concat_idle hidle]
    · next hstep =>
      obtain ⟨c, hc⟩ := Option.ne_none_iff_exists'.1 (mt laterComponent?_eq_none_iff.1 hstep)
      rw [List.filterMap_append, List.filterMap_cons_some hc, List.filterMap_nil,
        List.dropLast_concat, List.dropLast_concat]

theorem slash_notMem_trimIdleEnd (h : ∀ s ∈ tail, '/' ∉ s) : ∀ s ∈ trimIdleEnd tail, '/' ∉ s :=
  fun s hs => h s ((List.rdropWhile_prefix isIdle tail).subset hs)

/-! ### Steps -/

theorem components_eq (h : segments p.text.toList = head :: tail) :
    p.components = (firstComponent? head tail).toList ++ tail.filterMap laterComponent? := by
  rw [components, split_eq h]

/-- What the first segment stands for depends on the others only in that there are any. -/
theorem firstComponent?_congr (h : head = [] → (tail = [] ↔ others = [])) :
    firstComponent? head tail = firstComponent? head others := by
  unfold firstComponent?
  by_cases hhead : head = []
  · simp [hhead, h hhead]
  · simp [hhead]

/-- A path that is put together from segments has their steps.  An empty first segment is the root,
even if it is alone. -/
theorem components_ofSplit {absolute : Bool} (habsolute : absolute = true ↔ head = [])
    (hhead : '/' ∉ head) (htail : ∀ s ∈ tail, '/' ∉ s) (hothers : others ≠ []) :
    (ofSplit absolute head tail).components =
      (firstComponent? head others).toList ++ tail.filterMap laterComponent? := by
  -- if the first segment is alone, its text has no slash, unless it is the root
  by_cases hempty : tail = []
  · subst hempty
    by_cases hnil : head = []
    · subst hnil
      rw [ofSplit, habsolute.2 rfl]
      simp [components, split, segments, firstComponent?, hothers, laterComponent?, isIdle]
    · have hsegments : segments (joinSegments [head]) = [head] :=
        segments_joinSegments hhead (List.forall_mem_nil _)
      rw [ofSplit, if_pos rfl, if_neg (fun h => hnil (habsolute.1 h)),
        components_eq (by rwa [String.toList_ofList]),
        firstComponent?_congr (fun h => absurd h hnil)]
  · rw [ofSplit, if_neg hempty, components_eq
      (by rw [String.toList_ofList, segments_joinSegments hhead htail]),
      firstComponent?_congr (fun _ => iff_of_false hempty hothers)]

theorem components_empty : components ⟨""⟩ = [] := by
  decide

theorem firstComponent?_eq_none_iff : firstComponent? head tail = none ↔ head = [] ∧ tail = [] := by
  unfold firstComponent?
  by_cases hhead : head = []
  · by_cases htail : tail = [] <;> simp [hhead, htail]
  · simp only [hhead, if_false, false_and, iff_false]
    split
    · simp
    · split <;> simp

theorem components_eq_nil_iff : p.components = [] ↔ p.text = "" := by
  constructor
  · intro h
    rw [components_eq (segments_eq_split p), List.append_eq_nil_iff, Option.toList_eq_nil_iff,
      firstComponent?_eq_none_iff] at h
    rw [← String.toList_inj, toList_text, h.1.1, h.1.2]
    rfl
  · intro h
    obtain rfl : p = ⟨""⟩ := congrArg Path.mk h
    exact components_empty

/-! ### Parents -/

theorem parent?_of_idle (h : trimIdleEnd p.split.2 = []) :
    p.parent? = if p.split.1 = [] then none else some ⟨""⟩ := by
  unfold parent?
  simp only [h]

theorem parent?_of_kept (h : trimIdleEnd p.split.2 ≠ []) :
    p.parent? = some (ofSplit p.isAbsolute p.split.1
      (trimIdleEnd (trimIdleEnd p.split.2).dropLast)) := by
  unfold parent?
  simp only

/-- The steps of the parent are those of the path but the last. -/
theorem components_parent? (h : p.parent? = some q) : q.components = p.components.dropLast := by
  rw [components_eq (segments_eq_split p)]
  -- behind the first segment there is no step, or the last one goes
  by_cases hidle : trimIdleEnd p.split.2 = []
  · rw [parent?_of_idle hidle] at h
    rw [trimIdleEnd_eq_nil_iff.1 hidle, List.append_nil]
    split at h
    · simp at h
    · obtain rfl := Option.some.inj h
      rw [components_empty]
      cases firstComponent? p.split.1 p.split.2 <;> rfl
  · obtain rfl := Option.some.inj ((parent?_of_kept hidle).symm.trans h)
    have htail : p.split.2 ≠ [] := fun hnil => hidle (by rw [hnil]; rfl)
    have hsteps : p.split.2.filterMap laterComponent? ≠ [] := mt trimIdleEnd_eq_nil_iff.2 hidle
    have hslash : ∀ s ∈ trimIdleEnd (trimIdleEnd p.split.2).dropLast, '/' ∉ s :=
      slash_notMem_trimIdleEnd fun s hs =>
        slash_notMem_trimIdleEnd p.slash_notMem_tail s (List.dropLast_subset _ hs)
    have habsolute : p.isAbsolute = true ↔ p.split.1 = [] := by simp [isAbsolute_iff, htail]
    rw [components_ofSplit habsolute p.slash_notMem_head hslash htail, filterMap_trimIdleEnd,
      filterMap_dropLast_trimIdleEnd, List.dropLast_append_of_ne_nil hsteps]

/-- Only the empty path and the root have no parent. -/
theorem components_of_parent?_eq_none (h : p.parent? = none) :
    p.components = [] ∨ p.components = [.root] := by
  rw [components_eq (segments_eq_split p)]
  by_cases hidle : trimIdleEnd p.split.2 = []
  · rw [parent?_of_idle hidle] at h
    rw [trimIdleEnd_eq_nil_iff.1 hidle, List.append_nil]
    split at h
    · next hhead =>
      rw [hhead, firstComponent?, if_pos rfl]
      split
      · exact .inl rfl
      · exact .inr rfl
    · simp at h
  · rw [parent?_of_kept hidle] at h
    simp at h

/-! ### A leading current folder -/

/-- The path with `./` in front. -/
def here (p : Path) : Path := ⟨"./" ++ p.text⟩

/-- A path of names only, of which there is at least one. -/
structure IsPlain (p : Path) : Prop where
  components_ne_nil : p.components ≠ []
  name_of_mem : ∀ c ∈ p.components, ∃ text, c = .name text

theorem segments_here (p : Path) :
    segments p.here.text.toList = ['.'] :: p.split.1 :: p.split.2 := by
  have htext : p.here.text.toList = ['.'] ++ '/' :: p.text.toList := by simp [here]
  rw [htext, segments_append_slash (by decide), segments_eq_split]

/-- A first segment that is a name would be the same step at any other place. -/
theorem firstComponent?_of_name {text : String}
    (h : firstComponent? head tail = some (.name text)) :
    laterComponent? head = some (.name text) := by
  unfold firstComponent? at h
  unfold laterComponent? isIdle
  by_cases hhead : head = []
  · rw [if_pos hhead] at h
    split at h <;> simp at h
  · by_cases hdot : head = ['.']
    · simp [hdot] at h
    · simpa [hhead, hdot] using h

theorem IsPlain.components_here (h : p.IsPlain) : p.here.components = .here :: p.components := by
  have hsteps := components_eq (segments_eq_split p)
  -- the first segment is a name, so it is the same step behind the `./`
  cases hfirst : firstComponent? p.split.1 p.split.2 with
  | none =>
    rw [hfirst, (firstComponent?_eq_none_iff.1 hfirst).2] at hsteps
    exact absurd hsteps h.components_ne_nil
  | some c =>
    rw [hfirst] at hsteps
    obtain ⟨text, rfl⟩ := h.name_of_mem c (by simp [hsteps])
    rw [components_eq (segments_here p), hsteps,
      List.filterMap_cons_some (firstComponent?_of_name hfirst)]
    rfl

theorem IsPlain.exists_getLast? (h : p.IsPlain) :
    ∃ name, p.components.getLast? = some (.name name) := by
  obtain ⟨name, hname⟩ := h.name_of_mem _ (List.getLast_mem h.components_ne_nil)
  exact ⟨name, by rw [List.getLast?_eq_some_getLast h.components_ne_nil, hname]⟩

theorem IsPlain.getLast?_components_here (h : p.IsPlain) :
    p.here.components.getLast? = p.components.getLast? := by
  rw [h.components_here, List.getLast?_cons_of_ne_nil h.components_ne_nil]

/-! ### Names with slashes between them -/

/-- Whether a text is the name of a file or folder, so that a path may consist of it alone. -/
structure IsName (text : String) : Prop where
  ne_empty : text ≠ ""
  ne_here : text ≠ "."
  ne_up : text ≠ ".."
  slash_notMem : '/' ∉ text.toList

/-- The path whose text is these names, with a slash between each two. -/
def ofNames (names : List String) : Path := ⟨"/".intercalate names⟩

section Names

variable {name : String} {names : List String}

theorem toList_text_ofNames (names : List String) :
    (ofNames names).text.toList = joinSegments (names.map String.toList) := by
  rw [ofNames, String.toList_intercalate, joinSegments_eq_intercalate]
  rfl

theorem text_ofNames_concat (h : names ≠ []) (name : String) :
    (ofNames (names ++ [name])).text = (ofNames names).text ++ "/" ++ name := by
  rw [← String.toList_inj, toList_text_ofNames, List.map_append, List.map_singleton,
    joinSegments_concat (by simpa using h), ← toList_text_ofNames]
  simp

theorem text_ofNames_singleton (name : String) : (ofNames [name]).text = name := by
  rw [← String.toList_inj, toList_text_ofNames]
  rfl

/-- The text of a path has a slash in front of its last name just if there are others. -/
theorem append_slash_name_iff (start : String) (names : List String) (name : String) :
    start ++ (ofNames names).text ++ "/" ++ name = start ++ (ofNames (names ++ [name])).text ↔
      names ≠ [] := by
  by_cases hnames : names = []
  · subst hnames
    have hempty : (ofNames []).text = "" := rfl
    rw [List.nil_append, text_ofNames_singleton, hempty, String.append_empty, String.append_assoc,
      String.append_right_inj]
    refine iff_of_false (fun heq => ?_) (fun hne => hne rfl)
    have hlength := congrArg String.length heq
    simp at hlength
  · rw [text_ofNames_concat hnames]
    refine iff_of_true ?_ hnames
    simp only [String.append_assoc]

theorem IsName.toList_ne (h : IsName name) :
    name.toList ≠ [] ∧ name.toList ≠ ['.'] ∧ name.toList ≠ ['.', '.'] :=
  ⟨fun heq => h.ne_empty (String.toList_inj.1 heq), fun heq => h.ne_here (String.toList_inj.1 heq),
    fun heq => h.ne_up (String.toList_inj.1 heq)⟩

theorem IsName.isIdle (h : IsName name) : isIdle name.toList = false := by
  obtain ⟨hne, hhere, -⟩ := h.toList_ne
  simp [Path.isIdle, hne, hhere]

theorem IsName.laterComponent? (h : IsName name) :
    laterComponent? name.toList = some (.name name) := by
  simp [Path.laterComponent?, h.isIdle, h.toList_ne.2.2]

theorem IsName.firstComponent? (h : IsName name) :
    firstComponent? name.toList tail = some (.name name) := by
  obtain ⟨hne, hhere, hup⟩ := h.toList_ne
  simp only [Path.firstComponent?, hne, hhere, hup, if_false, String.ofList_toList]

theorem filterMap_names (h : ∀ n ∈ names, IsName n) :
    (names.map String.toList).filterMap Path.laterComponent? = names.map .name := by
  rw [List.filterMap_map, ← List.filterMap_eq_map]
  exact List.filterMap_congr fun n hn => (h n hn).laterComponent?

theorem trimIdleEnd_names (h : ∀ n ∈ names, IsName n) :
    trimIdleEnd (names.map String.toList) = names.map String.toList := by
  rw [trimIdleEnd_eq_rdropWhile, List.rdropWhile_eq_self_iff]
  intro hne
  obtain ⟨n, hn, hlast⟩ := List.mem_map.1 (List.getLast_mem hne)
  rw [← hlast, (h n hn).isIdle]
  exact Bool.false_ne_true

theorem segments_ofNames (h : ∀ n ∈ name :: names, IsName n) :
    segments (ofNames (name :: names)).text.toList = name.toList :: names.map String.toList := by
  rw [toList_text_ofNames, List.map_cons]
  refine segments_joinSegments (h name List.mem_cons_self).slash_notMem fun s hs => ?_
  obtain ⟨n, hn, rfl⟩ := List.mem_map.1 hs
  exact (h n (List.mem_cons_of_mem _ hn)).slash_notMem

theorem components_ofNames (h : ∀ n ∈ names, IsName n) :
    (ofNames names).components = names.map .name := by
  cases names with
  | nil => exact components_empty
  | cons name names =>
    obtain ⟨hname, hnames⟩ := List.forall_mem_cons.1 h
    rw [components_eq (segments_ofNames h), hname.firstComponent?, filterMap_names hnames]
    rfl

theorem isAbsolute_ofNames (h : ∀ n ∈ names, IsName n) : (ofNames names).isAbsolute = false := by
  cases names with
  | nil => decide
  | cons name names =>
    have hhead : (ofNames (name :: names)).split.1 ≠ [] := by
      rw [split_eq (segments_ofNames h)]
      exact (h name List.mem_cons_self).toList_ne.1
    rw [← Bool.not_eq_true, isAbsolute_iff]
    exact fun habsolute => hhead habsolute.1

theorem ofSplit_false (head : List Char) (tail : List (List Char)) :
    ofSplit false head tail = ⟨String.ofList (joinSegments (head :: tail))⟩ := by
  unfold ofSplit
  split
  · next htail =>
    subst htail
    rfl
  · rfl

/-- The parent of a path of names is the path of all names but the last. -/
theorem parent?_ofNames (hne : names ≠ []) (h : ∀ n ∈ names, IsName n) :
    (ofNames names).parent? = some (ofNames names.dropLast) := by
  cases names with
  | nil => exact absurd rfl hne
  | cons name names =>
    obtain ⟨hname, hnames⟩ := List.forall_mem_cons.1 h
    have hsplit := split_eq (segments_ofNames h)
    have htrim : trimIdleEnd (ofNames (name :: names)).split.2 = names.map String.toList := by
      rw [hsplit, trimIdleEnd_names hnames]
    by_cases hlast : names = []
    · rw [parent?_of_idle (by rw [htrim, hlast, List.map_nil]), hsplit,
        if_neg hname.toList_ne.1, hlast]
      rfl
    · have hkept : ∀ n ∈ names.dropLast, IsName n :=
        fun n hn => hnames n (List.dropLast_subset _ hn)
      have htext : (ofNames (name :: names.dropLast)).text =
          String.ofList (joinSegments (name.toList :: names.dropLast.map String.toList)) := by
        rw [← String.toList_inj, toList_text_ofNames, String.toList_ofList, List.map_cons]
      rw [parent?_of_kept (by rw [htrim]; simpa using hlast), htrim, hsplit,
        isAbsolute_ofNames h, ← List.map_dropLast, trimIdleEnd_names hkept, ofSplit_false, ← htext,
        List.dropLast_cons_of_ne_nil hlast]

end Names

end Path

namespace WorkspaceItem

/-- The steps of the containing folder are those of the item but the last. -/
theorem components_parent (item : WorkspaceItem) :
    item.parent.path.components = item.path.components.dropLast := by
  rw [parent]
  cases hparent : item.path.parent? with
  | some folder => exact Path.components_parent? hparent
  | none =>
    rcases Path.components_of_parent?_eq_none hparent with h | h
    · rw [h]
      exact Path.components_empty
    · rw [h]
      exact Path.components_empty

end WorkspaceItem

end CommandTemplates
