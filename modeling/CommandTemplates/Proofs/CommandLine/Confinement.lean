/-
Where the paths lead that a session takes as seen from the root of its workspace.

A path is resolved step by step without looking at any file: `..` takes the name before it
back.  What is left of a relative path then is a number of `..` (`Path.ups`) and names
behind them (`Path.below`).

* `Path.resolve_behind` — the relative path resolved behind a folder: each `..` in front
  takes one name of the folder;
* `CommandLine.workspaceRelative_inside_iff` — which paths a session takes, that they lead
  to the same place from the root, and which of these places are in the workspace.  The
  only test there is compares the steps as they are written, so a `..` leads out.
-/
import CommandTemplates.CommandLine.Session
import CommandTemplates.Proofs.Path.Join

namespace CommandTemplates

namespace Path

/-- Where a step leads from a place, which is given by the steps to it.  Above the root there is
the root again. -/
def advance (place : List Component) : Component → List Component
  | .root => [.root]
  | .here => place
  | .up =>
    match place.getLast? with
    | some (.name _) => place.dropLast
    | some .root => place
    | _ => place ++ [.up]
  | .name text => place ++ [.name text]

/-- The place that steps lead to, as far as their texts tell. -/
def resolve (steps : List Component) : List Component := steps.foldl advance []

/-- How many folders a relative path leads out of. -/
def ups (p : Path) : Nat := ((resolve p.components).takeWhile (· = .up)).length

/-- Where a relative path leads to from the last folder that it reaches on its way out. -/
def below (p : Path) : List Component := (resolve p.components).dropWhile (· = .up)

/-- Whether a path is absolute and goes through names only. -/
def IsNormal (p : Path) : Prop := ∃ folders : List String, p.components = .root :: folders.map .name

variable {root p : Path} {folders names : List String} {steps : List Component} {n : Nat}

/-! ### Resolving -/

/-- The names that are left of some folders after `n` of them were left. -/
def remaining (folders : List String) (n : Nat) : List Component :=
  (folders.take (folders.length - n)).map .name

theorem advance_up_name (place : List Component) (text : String) :
    advance (place ++ [.name text]) .up = place := by
  simp [advance]

theorem advance_up_ups (n : Nat) :
    advance (List.replicate n .up) .up = List.replicate (n + 1) .up := by
  cases n with
  | zero => rfl
  | succ n => simp [advance, List.replicate_succ']

theorem advance_up_remaining (folders : List String) (n : Nat) :
    advance (.root :: remaining folders n) .up = .root :: remaining folders (n + 1) := by
  -- once all folders are left, a further `..` stays at the root
  by_cases hn : folders.length ≤ n
  · have hnil (m : Nat) (hm : folders.length ≤ m) : remaining folders m = [] := by
      simp [remaining, Nat.sub_eq_zero_of_le hm]
    rw [hnil n hn, hnil (n + 1) (Nat.le_succ_of_le hn)]
    rfl
  · obtain ⟨k, hk⟩ : ∃ k, folders.length - n = k + 1 :=
      Nat.exists_eq_add_one_of_ne_zero (by omega)
    have hlt : k < folders.length := by omega
    have hnext : folders.length - (n + 1) = k := by omega
    rw [remaining, remaining, hk, hnext, List.take_succ_eq_append_getElem hlt, List.map_append,
      ← List.cons_append]
    exact advance_up_name _ _

/-- A step of a relative path, from the start and from a folder. -/
theorem advance_behind {c : Component} (hc : c ≠ .root) (folders : List String) (n : Nat)
    (names : List String) :
    ∃ (n' : Nat) (names' : List String),
      advance (List.replicate n .up ++ names.map .name) c =
          List.replicate n' .up ++ names'.map .name ∧
        advance (.root :: remaining folders n ++ names.map .name) c =
          .root :: remaining folders n' ++ names'.map .name := by
  cases c with
  | root => exact absurd rfl hc
  | here => exact ⟨n, names, rfl, rfl⟩
  | name text => exact ⟨n, names ++ [text], by simp [advance], by simp [advance]⟩
  | up =>
    -- a `..` takes the last name back; without a name it leads out of one more folder
    induction names using List.reverseRecOn with
    | nil =>
      refine ⟨n + 1, [], ?_, ?_⟩
      · simpa using advance_up_ups n
      · simpa using advance_up_remaining folders n
    | append_singleton names text =>
      refine ⟨n, names, ?_, ?_⟩
      · rw [List.map_append, List.map_singleton, ← List.append_assoc, advance_up_name]
      · rw [List.map_append, List.map_singleton, ← List.append_assoc, advance_up_name]

/-- Relative steps lead out of a number of folders and then along names, from whichever folders
they start. -/
theorem resolve_behind (hsteps : .root ∉ steps) (folders : List String) :
    ∃ (n : Nat) (names : List String),
      resolve steps = List.replicate n .up ++ names.map .name ∧
      steps.foldl advance (.root :: folders.map .name) =
        .root :: remaining folders n ++ names.map .name := by
  -- from the back, since the last step is the last one taken
  induction steps using List.reverseRecOn with
  | nil => exact ⟨0, [], rfl, by simp [remaining]⟩
  | append_singleton steps c ih =>
    rw [List.mem_append, List.mem_singleton, not_or] at hsteps
    obtain ⟨n, names, hresolve, hbehind⟩ := ih hsteps.1
    obtain ⟨n', names', hresolve', hbehind'⟩ :=
      advance_behind (Ne.symm hsteps.2) folders n names
    refine ⟨n', names', ?_, ?_⟩
    · rw [resolve, List.foldl_concat, ← resolve, hresolve, hresolve']
    · rw [List.foldl_concat, hbehind, hbehind']

theorem resolve_names (folders : List String) :
    resolve (.root :: folders.map .name) = .root :: folders.map .name := by
  induction folders using List.reverseRecOn with
  | nil => rfl
  | append_singleton folders text ih =>
    rw [List.map_append, List.map_singleton, ← List.cons_append, resolve, List.foldl_concat,
      ← resolve, ih]
    rfl

theorem ups_eq (h : resolve p.components = List.replicate n .up ++ names.map .name) :
    p.ups = n := by
  rw [ups, h, List.takeWhile_append_of_pos (by simp), List.length_append, List.length_replicate]
  cases names <;> simp

theorem below_eq (h : resolve p.components = List.replicate n .up ++ names.map .name) :
    p.below = names.map .name := by
  rw [below, h, List.dropWhile_append_of_pos (by simp)]
  cases names <;> simp

/-! ### A relative path behind a folder -/

theorem split_of_relative (hp : p.isAbsolute = false) (hhead : p.split.1 = []) :
    p.split.2 = [] := by
  by_contra htail
  exact Bool.false_ne_true (hp.symm.trans (isAbsolute_iff.2 ⟨hhead, htail⟩))

theorem root_notMem_components (hp : p.isAbsolute = false) : .root ∉ p.components := by
  have hlater (s : List Char) : laterComponent? s ≠ some .root := by
    unfold laterComponent?
    split
    · simp
    · split <;> simp
  have hfirst : firstComponent? p.split.1 p.split.2 ≠ some .root := by
    unfold firstComponent?
    split
    · next hhead => simp [split_of_relative hp hhead]
    · split
      · simp
      · split <;> simp
  rw [components_eq (segments_eq_split p), List.mem_append, not_or]
  refine ⟨fun h => hfirst (Option.mem_toList.1 h), fun h => ?_⟩
  obtain ⟨s, -, hs⟩ := List.mem_filterMap.1 h
  exact hlater s hs

/-- Behind a folder, the first segment is one more segment.  A `./` is lost, which leads nowhere. -/
theorem foldl_advance_segments (hp : p.isAbsolute = false) (place : List Component) :
    ((segments p.text.toList).filterMap laterComponent?).foldl advance place =
      p.components.foldl advance place := by
  rw [components_eq (segments_eq_split p), segments_eq_split]
  by_cases hhead : p.split.1 = []
  · rw [hhead, split_of_relative hp hhead]
    rfl
  · -- only a first segment `.` is a step at the start of a path and none further behind
    by_cases hhere : p.split.1 = ['.']
    · simp [hhere, firstComponent?, laterComponent?, isIdle, advance]
    · have hsame : firstComponent? p.split.1 p.split.2 = laterComponent? p.split.1 := by
        simp [firstComponent?, laterComponent?, isIdle, hhead, hhere]
      rw [hsame, List.filterMap_cons]
      cases laterComponent? p.split.1 <;> rfl

/-- A relative path behind a folder stays in the folder, unless it leads out and does not come back
the way it went. -/
theorem isPrefix_resolve_join_iff (hroot : root.IsNormal) (hp : p.isAbsolute = false) :
    root.components <+: resolve (root.join p).components ↔
      root.components.tail.rtake p.ups <+: p.below := by
  obtain ⟨folders, hfolders⟩ := hroot
  obtain ⟨n, names, hresolve, hbehind⟩ := resolve_behind (root_notMem_components hp) folders
  have hjoin : resolve (root.join p).components =
      .root :: remaining folders n ++ names.map .name := by
    rw [components_join hp (by simp [hfolders]), hfolders, resolve, List.foldl_append, ← resolve,
      resolve_names, foldl_advance_segments hp, hbehind]
  have hcut : folders.map Component.name =
      remaining folders n ++ (folders.map Component.name).rtake n := by
    rw [remaining, List.map_take, List.rtake, List.length_map, List.take_append_drop]
  rw [hjoin, ups_eq hresolve, below_eq hresolve, hfolders, List.tail_cons, List.cons_append,
    List.cons_prefix_cons, and_iff_right rfl]
  conv_lhs => rw [hcut]
  exact List.prefix_append_right_inj _

end Path

namespace CommandLine

variable {root path relative : Path}

theorem workspaceRelative_of_relative (h : path.isAbsolute = false) (root : Path) :
    workspaceRelative root path = .ok path := by
  simp [workspaceRelative, h]

theorem workspaceRelative_of_absolute (h : path.isAbsolute = true) (root : Path) :
    workspaceRelative root path =
      match Path.stripPrefix? root path with
      | some relative => .ok relative
      | none => .error (path.text ++ " is outside the workspace root " ++ root.text) := by
  rw [workspaceRelative, if_pos h]
  rfl

/-- A session refuses the absolute paths whose steps do not begin with those of the root.  Of the
others, a relative one is taken as it is, and an absolute one leads to the same place from the root
as it did before.  This place is in the workspace just if the path comes back through all folders
that it leads out of, and it leads out of none if no `..` takes back more than the names before. -/
theorem workspaceRelative_inside_iff (root path : Path) (hroot : root.IsNormal) :
    (∀ message, workspaceRelative root path = .error message ↔
        path.isAbsolute = true ∧ ¬ root.components <+: path.components ∧
          message = path.text ++ " is outside the workspace root " ++ root.text) ∧
      ∀ relative, workspaceRelative root path = .ok relative →
        (path.isAbsolute = false → relative = path) ∧
          (path.isAbsolute = true → (root.join relative).components = path.components) ∧
          (root.components <+: Path.resolve (root.join relative).components ↔
            root.components.tail.rtake relative.ups <+: relative.below) := by
  cases habsolute : path.isAbsolute with
  | false =>
    rw [workspaceRelative_of_relative habsolute]
    refine ⟨by simp, ?_⟩
    rintro relative ⟨⟩
    exact ⟨fun _ => rfl, by simp, Path.isPrefix_resolve_join_iff hroot habsolute⟩
  | true =>
    rw [workspaceRelative_of_absolute habsolute]
    obtain ⟨folders, hfolders⟩ := hroot
    cases hstrip : Path.stripPrefix? root path with
    | none =>
      rw [Path.stripPrefix?_eq hfolders] at hstrip
      have hbegins : ¬ root.components <+: path.components := by simpa using hstrip
      refine ⟨fun message => ?_, by simp⟩
      simp only [Except.error.injEq, true_and, hbegins, not_false_eq_true]
      exact eq_comm
    | some relative =>
      have hjoin := Path.components_join_stripPrefix? (by simp [hfolders]) hstrip
      rw [Path.stripPrefix?_eq hfolders] at hstrip
      have hbegins : root.components <+: path.components := by
        by_contra hbegins
        simp [hbegins] at hstrip
      refine ⟨by simp [hbegins], ?_⟩
      rintro relative' ⟨⟩
      exact ⟨by simp, fun _ => hjoin.2, Path.isPrefix_resolve_join_iff ⟨folders, hfolders⟩ hjoin.1⟩

/-- A path that leaves the workspace by two folders and comes back through both. -/
theorem workspaceRelative_inside_iff_returning :
    let root : Path := ⟨"/home/vault"⟩
    let path : Path := ⟨"/home//vault/notes/../../../home/./vault/today.md"⟩
    let relative : Path := ⟨"notes/../../../home/./vault/today.md"⟩
    root.IsNormal ∧ workspaceRelative root path = .ok relative ∧ relative.ups = 2 ∧
      (root.join relative).components = path.components ∧
      root.components <+: Path.resolve (root.join relative).components := by
  intro root path relative
  have hroot : root.IsNormal := ⟨["home", "vault"], by decide⟩
  have hok : workspaceRelative root path = .ok relative := by decide
  obtain ⟨-, hjoin, hinside⟩ := (workspaceRelative_inside_iff root path hroot).2 relative hok
  exact ⟨hroot, hok, by decide, hjoin (by decide), hinside.2 (by decide)⟩

/-- An absolute path that begins with the root, and leads out of it by its next step. -/
theorem workspaceRelative_leaves :
    let root : Path := ⟨"/vault"⟩
    root.IsNormal ∧ workspaceRelative root ⟨"/vault/../etc/passwd"⟩ = .ok ⟨"../etc/passwd"⟩ ∧
      Path.resolve (root.join ⟨"../etc/passwd"⟩).components =
        [.root, .name "etc", .name "passwd"] ∧
      ¬ root.components <+: Path.resolve (root.join ⟨"../etc/passwd"⟩).components := by
  intro root
  exact ⟨⟨["vault"], by decide⟩, by decide, by decide, by decide⟩

end CommandLine

end CommandTemplates
