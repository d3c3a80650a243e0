/-
Where the active file is, as variables show it.

The path of the file, its folder's path and the folder's name are each read off the path
in a way of its own, and so the texts fit together only where the ways agree.

* `Builtin.names_of_here` — a `./` in front of the path changes no name of the file, but
  it does change the name of its folder if the file is directly in the workspace, which
  is recognised by the empty path only;
* `Builtin.folder_path_composes` — the folder's path, a slash and the file's name are the
  file's path, unless the file is directly in the workspace: joining the empty path to the
  root has left a slash behind already.
-/
import CommandTemplates.Proofs.Path.Steps
import CommandTemplates.Proofs.Variable.FileName

namespace CommandTemplates

/-- The context with another active file. -/
def Context.withActiveFile (ctx : Context) (p : Path) : Context :=
  { ctx with environment := { ctx.environment with activeFile := some ⟨p⟩ } }

namespace Builtin

variable {ctx : Context} {file folder : WorkspaceItem} {root p : Path} {names : List String}

/-! ### The variables -/

theorem pathText_absolute (item : WorkspaceItem) (root : Path) :
    pathText item root (Dictionary.empty.insert modeParameter.name "absolute") =
      (item.absolute root).text := by
  simp [pathText, modeParameter, Dictionary.get?_insert]

theorem shown?_folderName (h : ctx.environment.activeFile = some file) :
    folderName.shown? [] ctx = some (folderNameText file.parent ctx.environment.root) := by
  rw [Variable.shown?_of_activeFile (v := folderName) (by rw [folderName]) rfl rfl h]

theorem shown?_filePath_absolute (h : ctx.environment.activeFile = some file) :
    filePath.shown? ["absolute"] ctx = some (file.absolute ctx.environment.root).text := by
  rw [Variable.shown?_of_activeFile (v := filePath) (by rw [filePath]) rfl
    (Arguments.bind_of_accepts _ (by decide)) h, pathText_absolute]

theorem shown?_folderPath_absolute (h : ctx.environment.activeFile = some file) :
    folderPath.shown? ["absolute"] ctx = some (file.parent.absolute ctx.environment.root).text := by
  rw [Variable.shown?_of_activeFile (v := folderPath) (by rw [folderPath]) rfl
    (Arguments.bind_of_accepts _ (by decide)) h, pathText_absolute]

/-! ### A leading current folder -/

theorem name_of_getLast? {name : String} (h : file.path.components.getLast? = some (.name name)) :
    file.name = name := by
  rw [WorkspaceItem.name, Path.fileName?, h]
  rfl

/-- The parts of a name depend on nothing but the name. -/
theorem parts_congr {item item' : WorkspaceItem} (h : item.name = item'.name) :
    item.stem = item'.stem ∧ item.extension = item'.extension := by
  unfold WorkspaceItem.stem WorkspaceItem.extension
  rw [h]
  exact ⟨rfl, rfl⟩

theorem folderNameText_of_nil (h : folder.path.components = []) :
    folderNameText folder root = root.fileName?.getD "." := by
  rw [folderNameText, if_pos (Path.components_eq_nil_iff.1 h)]

theorem folderNameText_of_ne_nil (h : folder.path.components ≠ []) :
    folderNameText folder root = folder.name := by
  rw [folderNameText, if_neg (mt Path.components_eq_nil_iff.2 h)]

theorem components_parent_here (h : p.IsPlain) :
    (WorkspaceItem.parent ⟨p.here⟩).path.components = .here :: p.components.dropLast := by
  rw [WorkspaceItem.components_parent, h.components_here,
    List.dropLast_cons_of_ne_nil h.components_ne_nil]

/-- A file in a folder: the last step of the folder's path is the same in both spellings. -/
theorem folderNameText_of_nested (h : p.IsPlain) (hdepth : 2 ≤ p.components.length) :
    ∃ folder, p.components.dropLast.getLast? = some (.name folder) ∧
      folderNameText (WorkspaceItem.parent ⟨p⟩) root = folder ∧
      folderNameText (WorkspaceItem.parent ⟨p.here⟩) root = folder := by
  have hne : p.components.dropLast ≠ [] := by
    rw [Ne, ← List.length_eq_zero_iff, List.length_dropLast]
    omega
  obtain ⟨folder, hfolder⟩ :=
    h.name_of_mem _ (List.dropLast_subset _ (List.getLast_mem hne))
  have hlast : p.components.dropLast.getLast? = some (.name folder) := by
    rw [List.getLast?_eq_some_getLast hne, hfolder]
  have hplain := WorkspaceItem.components_parent ⟨p⟩
  have hhere := components_parent_here h
  refine ⟨folder, hlast, ?_, ?_⟩
  · rw [folderNameText_of_ne_nil (hplain ▸ hne)]
    exact name_of_getLast? (hplain ▸ hlast)
  · rw [folderNameText_of_ne_nil (hhere ▸ List.cons_ne_nil _ _)]
    refine name_of_getLast? ?_
    rw [hhere, List.getLast?_cons_of_ne_nil hne, hlast]

/-- A file directly in the workspace. -/
theorem folderNameText_of_one (h : p.IsPlain) (hdepth : p.components.length = 1) :
    folderNameText (WorkspaceItem.parent ⟨p⟩) root = root.fileName?.getD "." ∧
      folderNameText (WorkspaceItem.parent ⟨p.here⟩) root = "" := by
  -- the folder is the workspace itself, which only the empty path is taken for
  have hnil : p.components.dropLast = [] := by
    rw [← List.length_eq_zero_iff, List.length_dropLast, hdepth]
  have hhere := components_parent_here h
  rw [hnil] at hhere
  refine ⟨folderNameText_of_nil (by rw [WorkspaceItem.components_parent, hnil]), ?_⟩
  rw [folderNameText_of_ne_nil (by rw [hhere]; exact List.cons_ne_nil _ _), WorkspaceItem.name,
    Path.fileName?, hhere]
  rfl

/-- A `./` in front of a path of names makes no difference to the name of the file and to its
parts, and none to the name of its folder if the file is in a folder of the workspace.  If it is
directly in the workspace, its folder has the name of the root, but with the `./` it has none. -/
theorem names_of_here (ctx : Context) (p : Path) (h : p.IsPlain) :
    (∃ name, p.components.getLast? = some (.name name) ∧
        fileName.shown? [] (ctx.withActiveFile p) = some name ∧
        fileName.shown? [] (ctx.withActiveFile p.here) = some name) ∧
      (∀ placeholder ∈ [(title, []), (fileExtension, ["with-dot"]), (fileExtension, ["no-dot"])],
        ∃ text, placeholder.1.shown? placeholder.2 (ctx.withActiveFile p) = some text ∧
          placeholder.1.shown? placeholder.2 (ctx.withActiveFile p.here) = some text) ∧
      (2 ≤ p.components.length →
        ∃ folder, p.components.dropLast.getLast? = some (.name folder) ∧
          folderName.shown? [] (ctx.withActiveFile p) = some folder ∧
          folderName.shown? [] (ctx.withActiveFile p.here) = some folder) ∧
      (p.components.length = 1 →
        folderName.shown? [] (ctx.withActiveFile p) =
            some (ctx.environment.root.fileName?.getD ".") ∧
          folderName.shown? [] (ctx.withActiveFile p.here) = some "") := by
  have hactive : (ctx.withActiveFile p).environment.activeFile = some ⟨p⟩ := rfl
  have hhere : (ctx.withActiveFile p.here).environment.activeFile = some ⟨p.here⟩ := rfl
  obtain ⟨name, hlast⟩ := h.exists_getLast?
  have hname : WorkspaceItem.name ⟨p⟩ = name := name_of_getLast? hlast
  have hname' : WorkspaceItem.name ⟨p.here⟩ = name :=
    name_of_getLast? (h.getLast?_components_here.trans hlast)
  obtain ⟨hstem, hextension⟩ := parts_congr (hname'.trans hname.symm)
  have hshape (shape : String) (hshape : dotParameter.accepts shape = true) :
      ∃ text, fileExtension.shown? [shape] (ctx.withActiveFile p) = some text ∧
        fileExtension.shown? [shape] (ctx.withActiveFile p.here) = some text := by
    refine ⟨_, shown?_fileExtension hactive hshape, ?_⟩
    rw [shown?_fileExtension hhere hshape, extensionText, extensionText, hextension]
  refine ⟨⟨name, hlast, ?_, ?_⟩, ?_, fun hdepth => ?_, fun hdepth => ?_⟩
  · rw [shown?_fileName hactive, hname]
  · rw [shown?_fileName hhere, hname']
  · simp only [List.forall_mem_cons, List.not_mem_nil, false_imp_iff, implies_true, and_true]
    refine ⟨⟨_, shown?_title hactive, ?_⟩, hshape _ (by decide), hshape _ (by decide)⟩
    rw [shown?_title hhere, hstem]
  · obtain ⟨folder, hfolder, hplain, hwritten⟩ := folderNameText_of_nested h hdepth
    exact ⟨folder, hfolder, (shown?_folderName hactive).trans (congrArg some hplain),
      (shown?_folderName hhere).trans (congrArg some hwritten)⟩
  · obtain ⟨hplain, hwritten⟩ := folderNameText_of_one h hdepth
    exact ⟨(shown?_folderName hactive).trans (congrArg some hplain),
      (shown?_folderName hhere).trans (congrArg some hwritten)⟩

/-- A file in a folder below another one, written with blank steps. -/
theorem names_of_here_nested :
    let ctx : Context := { environment := { root := ⟨"/vault"⟩, now := ⟨0, 0, 0⟩ } }
    let p : Path := ⟨"notes//./2024/today.tar.gz"⟩
    p.IsPlain ∧ 2 ≤ p.components.length ∧
      folderName.shown? [] (ctx.withActiveFile p) = some "2024" ∧
      folderName.shown? [] (ctx.withActiveFile p.here) = some "2024" := by
  intro ctx p
  have hcomponents : p.components = [.name "notes", .name "2024", .name "today.tar.gz"] := by decide
  have hplain : p.IsPlain := ⟨by simp [hcomponents], by simp [hcomponents]⟩
  have hdepth : 2 ≤ p.components.length := by simp [hcomponents]
  obtain ⟨folder, hfolder, hshown, hwritten⟩ := (names_of_here ctx p hplain).2.2.1 hdepth
  obtain rfl : "2024" = folder := by simpa [hcomponents] using hfolder
  exact ⟨hplain, hdepth, hshown, hwritten⟩

/-- The folder of a file directly in the workspace has no name if the path starts with `./`. -/
theorem folderName_here_differs :
    let ctx : Context := { environment := { root := ⟨"/vault"⟩, now := ⟨0, 0, 0⟩ } }
    folderName.shown? [] (ctx.withActiveFile ⟨"inbox.md"⟩) = some "vault" ∧
      folderName.shown? [] (ctx.withActiveFile (Path.here ⟨"inbox.md"⟩)) = some "" := by
  intro ctx
  have hshown (p : Path) : folderName.shown? [] (ctx.withActiveFile p) =
      some (folderNameText (WorkspaceItem.parent ⟨p⟩) ⟨"/vault"⟩) := shown?_folderName rfl
  rw [hshown, hshown]
  decide

/-! ### Folder and name -/

/-- What the root puts in front of a path that is joined to it. -/
def leading (root : Path) : String := if root.text = "" then "" else root.text ++ "/"

theorem text_join (hroot : root.text.toList.getLast? ≠ some '/') (hp : p.isAbsolute = false) :
    (root.join p).text = leading root ++ p.text := by
  rw [Path.join, hp, if_neg Bool.false_ne_true, leading]
  cases hlast : root.text.toList.getLast? with
  | none =>
    have hempty : root.text = "" := by simpa using hlast
    simp [hempty]
  | some c =>
    have hc : c ≠ '/' := fun heq => hroot (heq ▸ hlast)
    have hne : root.text ≠ "" := by
      intro hempty
      simp [hempty] at hlast
    simp [hc, hne]

theorem absolute_ofNames (hroot : root.text.toList.getLast? ≠ some '/')
    (h : ∀ n ∈ names, Path.IsName n) :
    (WorkspaceItem.absolute ⟨.ofNames names⟩ root).text =
      leading root ++ (Path.ofNames names).text := by
  rw [WorkspaceItem.absolute, text_join hroot (Path.isAbsolute_ofNames h)]

theorem parent_ofNames (hne : names ≠ []) (h : ∀ n ∈ names, Path.IsName n) :
    WorkspaceItem.parent ⟨.ofNames names⟩ = ⟨.ofNames names.dropLast⟩ := by
  rw [WorkspaceItem.parent, Path.parent?_ofNames hne h]
  rfl

theorem name_ofNames (hne : names ≠ []) (h : ∀ n ∈ names, Path.IsName n) :
    WorkspaceItem.name ⟨.ofNames names⟩ = names.getLast hne := by
  refine name_of_getLast? ?_
  rw [Path.components_ofNames h, List.getLast?_map, List.getLast?_eq_some_getLast hne]
  rfl

/-- Names with slashes between them, in a workspace whose root does not end in a slash: the path of
the folder, a slash and the name of the file are the path of the file just if there is more than one
name.  A file directly in the workspace needs no slash, because its folder's path ends in one. -/
theorem folder_path_composes (ctx : Context) (names : List String)
    (hroot : ctx.environment.root.text.toList.getLast? ≠ some '/') (hne : names ≠ [])
    (hnames : ∀ n ∈ names, Path.IsName n)
    (hfile : ctx.environment.activeFile = some ⟨.ofNames names⟩) :
    ∃ folder file, folderPath.shown? ["absolute"] ctx = some folder ∧
      fileName.shown? [] ctx = some (names.getLast hne) ∧
      filePath.shown? ["absolute"] ctx = some file ∧
      (folder ++ "/" ++ names.getLast hne = file ↔ 2 ≤ names.length) ∧
      (names.length = 1 → folder ++ names.getLast hne = file) := by
  have hfolders : ∀ n ∈ names.dropLast, Path.IsName n :=
    fun n hn => hnames n (List.dropLast_subset _ hn)
  have hfolder := shown?_folderPath_absolute hfile
  have hname := shown?_fileName hfile
  have hpath := shown?_filePath_absolute hfile
  rw [parent_ofNames hne hnames, absolute_ofNames hroot hfolders] at hfolder
  rw [name_ofNames hne hnames] at hname
  rw [absolute_ofNames hroot hnames] at hpath
  -- what is in front of the last name is the path of the folder, and is empty if there is
  -- one name
  obtain ⟨folders, name, rfl⟩ : ∃ folders name, names = folders ++ [name] :=
    ⟨_, _, (List.dropLast_append_getLast hne).symm⟩
  refine ⟨_, _, hfolder, hname, hpath, ?_, fun hone => ?_⟩
  · rw [List.dropLast_concat, List.getLast_concat, Path.append_slash_name_iff, List.length_append,
      List.length_singleton, Ne, ← List.length_eq_zero_iff]
    omega
  · obtain rfl : folders = [] := by simpa using hone
    have hempty : (Path.ofNames []).text = "" := rfl
    rw [List.dropLast_concat, List.getLast_concat, List.nil_append, Path.text_ofNames_singleton,
      hempty, String.append_empty]

/-- Three levels below a root that is given by one name. -/
theorem folder_path_composes_nested :
    let names := ["notes", "2024", "..today."]
    let ctx : Context :=
      { environment :=
          { root := ⟨"vault"⟩, activeFile := some ⟨.ofNames names⟩, now := ⟨0, 0, 0⟩ } }
    ctx.environment.root.text.toList.getLast? ≠ some '/' ∧ names ≠ [] ∧
      (∀ n ∈ names, Path.IsName n) ∧ ctx.environment.activeFile = some ⟨.ofNames names⟩ ∧
      fileName.shown? [] ctx = some "..today." ∧
      ∃ folder, folderPath.shown? ["absolute"] ctx = some folder ∧
        filePath.shown? ["absolute"] ctx = some (folder ++ "/" ++ "..today.") := by
  intro names ctx
  have hroot : ctx.environment.root.text.toList.getLast? ≠ some '/' := by decide
  have hne : names ≠ [] := by simp [names]
  have hnames : ∀ n ∈ names, Path.IsName n := by
    simp only [names, List.forall_mem_cons, List.not_mem_nil, false_imp_iff, implies_true, and_true]
    exact ⟨⟨by decide, by decide, by decide, by decide⟩,
      ⟨by decide, by decide, by decide, by decide⟩, ⟨by decide, by decide, by decide, by decide⟩⟩
  obtain ⟨folder, file, hfolder, hname, hfile, hcomposes, -⟩ :=
    folder_path_composes ctx names hroot hne hnames rfl
  obtain rfl := hcomposes.2 (by simp [names])
  exact ⟨hroot, hne, hnames, rfl, hname, folder, hfolder, hfile⟩

/-- The path of the folder of a file directly in the workspace ends in a slash of its own. -/
theorem folder_path_doubles_slash :
    let ctx : Context :=
      { environment :=
          { root := ⟨"/vault"⟩, activeFile := some ⟨⟨"inbox.md"⟩⟩, now := ⟨0, 0, 0⟩ } }
    folderPath.shown? ["absolute"] ctx = some "/vault/" ∧
      fileName.shown? [] ctx = some "inbox.md" ∧
      filePath.shown? ["absolute"] ctx = some "/vault/inbox.md" ∧
      "/vault/" ++ "/" ++ "inbox.md" ≠ "/vault/inbox.md" := by
  intro ctx
  have hfile : ctx.environment.activeFile = some ⟨⟨"inbox.md"⟩⟩ := rfl
  refine ⟨?_, ?_, ?_, by decide⟩
  · rw [shown?_folderPath_absolute hfile]
    decide
  · rw [shown?_fileName hfile]
    decide
  · rw [shown?_filePath_absolute hfile]
    decide

end Builtin

end CommandTemplates
