/-
Joining a path to a folder, and taking the folder off again.

Both cut and paste texts; said in steps they are appending and dropping.

* `Path.components_join` — the steps of a relative path behind those of a folder;
* `Path.components_join_stripPrefix?` — a path from which the steps of a folder were
  taken leads to the same place as before, once it is joined to the folder.
-/
import CommandTemplates.Proofs.Path.Steps

namespace CommandTemplates.Path

variable {base p relative : Path} {cs ds head : List Char} {tail : List (List Char)}

/-! ### Joining -/

theorem segments_append_slash_append (cs ds : List Char) :
    segments (cs ++ '/' :: ds) = segments cs ++ segments ds := by
  rw [segments_eq_splitOn, segments_eq_splitOn, segments_eq_splitOn]
  exact List.splitOnP_append_cons cs ds (beq_self_eq_true '/')

/-- A path that is cut at a slash: what is behind it are later steps, whatever they begin with. -/
theorem components_of_append_slash (hp : p.text.toList = cs ++ '/' :: ds)
    (hcs : segments cs = head :: tail) :
    p.components = (firstComponent? head [[]]).toList ++ tail.filterMap laterComponent? ++
      (segments ds).filterMap laterComponent? := by
  have hsegments : segments p.text.toList = head :: (tail ++ segments ds) := by
    rw [hp, segments_append_slash_append, hcs, List.cons_append]
  have hfirst : firstComponent? head (tail ++ segments ds) = firstComponent? head [[]] :=
    firstComponent?_congr fun _ =>
      iff_of_false (by simp [segments_ne_nil]) (List.cons_ne_nil _ _)
  rw [components_eq hsegments, hfirst, List.filterMap_append, ← List.append_assoc]

theorem toList_text_join (hp : p.isAbsolute = false) (hbase : base.components ≠ []) :
    ∃ cs, (base.join p).text.toList = cs ++ '/' :: p.text.toList ∧
      (base.text.toList = cs ∨ base.text.toList = cs ++ '/' :: []) := by
  rw [join, hp, if_neg Bool.false_ne_true]
  cases hlast : base.text.toList.getLast? with
  | none =>
    have hempty : base.text = "" := by simpa using hlast
    exact absurd (components_eq_nil_iff.2 hempty) hbase
  | some c =>
    -- a slash is put between the two unless the folder has one at its end already
    by_cases hc : c = '/'
    · subst hc
      obtain ⟨cs, hcs⟩ := List.getLast?_eq_some_iff.1 hlast
      exact ⟨cs, by simp [hcs], .inr hcs⟩
    · exact ⟨base.text.toList, by simp [hc], .inl rfl⟩

/-- A relative path behind a folder: an empty path adds nothing, and a `./` in front has no
meaning any more. -/
theorem components_join (hp : p.isAbsolute = false) (hbase : base.components ≠ []) :
    (base.join p).components =
      base.components ++ (segments p.text.toList).filterMap laterComponent? := by
  obtain ⟨cs, hjoin, hcs⟩ := toList_text_join hp hbase
  obtain ⟨head, tail, hsegments⟩ := List.exists_cons_of_ne_nil (segments_ne_nil cs)
  rw [components_of_append_slash hjoin hsegments]
  congr 1
  rcases hcs with hcs | hcs
  · rw [components_eq (hcs ▸ hsegments), firstComponent?_congr]
    intro hhead
    refine iff_of_false (List.cons_ne_nil _ _) fun htail => hbase ?_
    rw [components_eq (hcs ▸ hsegments), hhead, htail]
    rfl
  · rw [components_of_append_slash hcs hsegments]
    exact (List.append_nil _).symm

/-! ### Taking a folder off -/

theorem filterMap_dropSteps (n : Nat) (tail : List (List Char)) :
    (dropSteps n tail).filterMap laterComponent? = (tail.filterMap laterComponent?).drop n := by
  induction tail generalizing n with
  | nil => cases n <;> rfl
  | cons s tail ih =>
    cases n with
    | zero => rfl
    | succ n =>
      rw [dropSteps]
      split
      · next hidle => rw [ih, List.filterMap_cons_none (laterComponent?_eq_none_iff.2 hidle)]
      · next hstep =>
        obtain ⟨c, hc⟩ := Option.ne_none_iff_exists'.1 (mt laterComponent?_eq_none_iff.1 hstep)
        rw [ih, List.filterMap_cons_some hc, List.drop_succ_cons]

theorem filterMap_dropWhile_isIdle (tail : List (List Char)) :
    (tail.dropWhile isIdle).filterMap laterComponent? = tail.filterMap laterComponent? := by
  induction tail with
  | nil => rfl
  | cons s tail ih =>
    rw [List.dropWhile_cons]
    split
    · next hidle => rw [ih, List.filterMap_cons_none (laterComponent?_eq_none_iff.2 hidle)]
    · rfl

theorem dropSteps_suffix (n : Nat) (tail : List (List Char)) : dropSteps n tail <:+ tail := by
  induction tail generalizing n with
  | nil => cases n <;> exact List.suffix_rfl
  | cons s tail ih =>
    cases n with
    | zero => exact List.suffix_rfl
    | succ n =>
      rw [dropSteps]
      split
      · exact (ih (n + 1)).trans (List.suffix_cons s tail)
      · exact (ih n).trans (List.suffix_cons s tail)

/-- The segments that are left after some steps. -/
def restAfter (n : Nat) (tail : List (List Char)) : List (List Char) :=
  trimIdleEnd ((dropSteps n tail).dropWhile isIdle)

theorem filterMap_restAfter (n : Nat) (tail : List (List Char)) :
    (restAfter n tail).filterMap laterComponent? = (tail.filterMap laterComponent?).drop n := by
  rw [restAfter, filterMap_trimIdleEnd, filterMap_dropWhile_isIdle, filterMap_dropSteps]

theorem slash_notMem_restAfter (n : Nat) (h : ∀ s ∈ tail, '/' ∉ s) :
    ∀ s ∈ restAfter n tail, '/' ∉ s := by
  refine slash_notMem_trimIdleEnd fun s hs => h s ?_
  exact ((List.dropWhile_suffix isIdle).trans (dropSteps_suffix n tail)).subset hs

theorem isIdle_head_restAfter {n : Nat} {s : List Char} {ss : List (List Char)}
    (h : restAfter n tail = s :: ss) : isIdle s = false := by
  obtain ⟨more, hmore⟩ : restAfter n tail <+: (dropSteps n tail).dropWhile isIdle :=
    List.rdropWhile_prefix isIdle _
  rw [h, List.cons_append] at hmore
  have hhead := List.head?_dropWhile_not isIdle (dropSteps n tail)
  rw [← hmore] at hhead
  simpa using hhead

/-- The path of such segments is relative, and all of them count as later ones. -/
theorem restAfter_path (n : Nat) (h : ∀ s ∈ tail, '/' ∉ s) :
    let rest : Path := ⟨String.ofList (joinSegments (restAfter n tail))⟩
    rest.isAbsolute = false ∧ (segments rest.text.toList).filterMap laterComponent? =
      (tail.filterMap laterComponent?).drop n := by
  intro rest
  have hslash := slash_notMem_restAfter n h
  rw [← filterMap_restAfter n tail, String.toList_ofList]
  cases hrest : restAfter n tail with
  | nil =>
    have hempty : rest = ⟨""⟩ := by simp [rest, hrest, joinSegments]
    rw [hempty]
    exact ⟨by decide, rfl⟩
  | cons s ss =>
    obtain ⟨hs, hss⟩ := List.forall_mem_cons.1 (hrest ▸ hslash)
    have hsegments : segments (joinSegments (s :: ss)) = s :: ss := segments_joinSegments hs hss
    refine ⟨?_, by rw [hsegments]⟩
    have hsplit : rest.split = (s, ss) := split_eq (by rw [String.toList_ofList, hrest, hsegments])
    rw [← Bool.not_eq_true, isAbsolute_iff, hsplit]
    rintro ⟨rfl, -⟩
    simpa [isIdle] using isIdle_head_restAfter hrest

theorem stripPrefix?_eq {c : Component} {steps : List Component}
    (hbase : base.components = c :: steps) (p : Path) :
    stripPrefix? base p =
      if base.components <+: p.components then
        some ⟨String.ofList (joinSegments (restAfter steps.length p.split.2))⟩
      else none := by
  unfold stripPrefix?
  simp only [hbase, List.isPrefixOf_iff_prefix, List.length_cons]
  rfl

/-- What is left of a path after the steps of a folder is relative, and the folder joined with it is
the path again. -/
theorem components_join_stripPrefix? (hbase : base.components ≠ [])
    (h : stripPrefix? base p = some relative) :
    relative.isAbsolute = false ∧ (base.join relative).components = p.components := by
  obtain ⟨c, steps, hsteps⟩ := List.exists_cons_of_ne_nil hbase
  rw [stripPrefix?_eq hsteps] at h
  split at h
  · next hprefix =>
    obtain rfl := Option.some.inj h
    obtain ⟨hrelative, hrest⟩ := restAfter_path steps.length p.slash_notMem_tail
    refine ⟨hrelative, ?_⟩
    rw [components_join hrelative hbase, hrest]
    -- the first step of the path is that of the folder, so that its tail has the others
    rw [components_eq (segments_eq_split p)] at hprefix ⊢
    cases hfirst : firstComponent? p.split.1 p.split.2 with
    | none =>
      rw [hfirst, hsteps, (firstComponent?_eq_none_iff.1 hfirst).2] at hprefix
      simp at hprefix
    | some c' =>
      rw [hfirst, hsteps, Option.toList_some, List.singleton_append, List.cons_prefix_cons]
        at hprefix
      obtain ⟨rfl, others, hothers⟩ := hprefix
      rw [hsteps, Option.toList_some, List.singleton_append, ← hothers, List.drop_left,
        List.cons_append]
  · simp at h

end CommandTemplates.Path
