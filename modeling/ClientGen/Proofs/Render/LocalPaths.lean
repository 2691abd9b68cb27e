import ClientGen.OutputDirectory
import ClientGen.Proofs.Path
import ClientGen.Proofs.Render.IncludeBlock
/-!
# Generated files below the output directory

Names have no stops in generated paths, so no part of such a path is `..`. All paths but one start
with a directory of their own. The one that does not is the descriptor of a plugin, which lies at
the top under the name of the module: if that name starts with a slash, the path starts at the root
of the file system, and writing stops there.
-/
namespace ClientGen.OutputDirectory

open ClientGen.Render

variable {tree : FileTree} {directory path : String}

theorem writeFile_escaping {file content : String}
    (h : writeFile tree directory file content = .error (.escaping path)) :
    path = file ∧ Path.isLocal path = false := by
  unfold writeFile at h
  split at h
  · rename_i hlocal
    cases h
    exact ⟨rfl, by simpa using hlocal⟩
  · -- the other faults of a file are about its directory and the file itself
    dsimp only at h
    cases hmade : tree.makeDirectories (Path.directory (Path.join directory file)) with
    | error fault =>
      rw [hmade] at h
      cases h
    | ok made =>
      rw [hmade] at h
      change (made.write (Path.join directory file) content).mapError
        (Fault.unwritten file) = _ at h
      cases hwritten : made.write (Path.join directory file) content with
      | error fault =>
        rw [hwritten] at h
        cases h
      | ok written =>
        rw [hwritten] at h
        cases h

/-- A path that is refused while files are written is that of a file which is not local. -/
theorem writeFiles_escaping {cancelled : Bool} {files : List (String × String)} :
    ∀ {tree : FileTree}, (writeFiles cancelled directory tree files).fault? =
        some (.escaping path) → path ∈ files.map (·.1) ∧ Path.isLocal path = false := by
  induction files with
  | nil =>
    intro tree h
    cases h
  | cons file rest ih =>
    intro tree h
    obtain ⟨name, content⟩ := file
    rw [writeFiles] at h
    split at h
    · cases h
    · cases hfile : writeFile tree directory name content with
      | error fault =>
        rw [hfile] at h
        cases h
        obtain ⟨rfl, hlocal⟩ := writeFile_escaping hfile
        exact ⟨List.mem_cons_self, hlocal⟩
      | ok written =>
        rw [hfile] at h
        obtain ⟨hmem, hlocal⟩ := ih h
        exact ⟨List.mem_cons_of_mem _ hmem, hlocal⟩

theorem write_escaping {cancelled keep : Bool} {map : FileMap}
    (h : (write tree cancelled keep directory map).fault? = some (.escaping path)) :
    path ∈ map.paths ∧ Path.isLocal path = false := by
  unfold write at h
  split at h
  · cases h
  · dsimp only at h
    split at h
    · cases h
    · exact writeFiles_escaping h

end ClientGen.OutputDirectory

namespace ClientGen.Render

open ClientGen.Idl

section

variable {r : Renderer}

/-- Where the descriptor of a plugin lies. -/
def Renderer.descriptorPath (r : Renderer) : String := r.plugin ++ ".uplugin"

/-- A path below the directory of the sources. -/
theorem isLocal_below_source {stem : String} (hstem : '.' ∉ stem.toList) (ending : String)
    (hending : Path.SingleStops ending.toList) (hnone : ending ≠ "") :
    Path.isLocal ("Source/" ++ stem ++ ending) = true := by
  have hbelow : '.' ∉ ("Source/" ++ stem).toList := by
    rw [String.toList_append, List.mem_append, not_or]
    exact ⟨by decide, hstem⟩
  have hrelative : Path.isAbsolute ("Source/" ++ stem ++ ending) = false := by
    simp [Path.isAbsolute]
  rw [Path.isLocal_append hbelow hending hnone, hrelative, Bool.not_false]

theorem headerPath_isLocal (hplugin : '.' ∉ r.plugin.toList) {category name : String}
    (hcategory : '.' ∉ category.toList) (hname : '.' ∉ name.toList) :
    Path.isLocal (r.headerPath category name) = true := by
  have hstem : '.' ∉
      (r.plugin ++ "/Public/" ++ r.plugin ++ "/" ++ category ++ "/" ++ name).toList := by
    simp [hplugin, hcategory, hname]
  have hlocal := isLocal_below_source hstem ".h" (by decide) (by decide)
  simpa only [Renderer.headerPath, Renderer.publicRoot, Renderer.header, String.append_assoc]
    using hlocal

theorem sourcePath_isLocal (hplugin : '.' ∉ r.plugin.toList) {category name : String}
    (hcategory : '.' ∉ category.toList) (hname : '.' ∉ name.toList) :
    Path.isLocal (r.sourcePath category name) = true := by
  have hstem : '.' ∉
      (r.plugin ++ "/Private/" ++ r.plugin ++ "/" ++ category ++ "/" ++ name).toList := by
    simp [hplugin, hcategory, hname]
  have hlocal := isLocal_below_source hstem ".cpp" (by decide) (by decide)
  simpa only [Renderer.sourcePath, Renderer.privateRoot, String.append_assoc] using hlocal

theorem programPaths_isLocal (hplugin : '.' ∉ r.plugin.toList) {p : ProgramNode} {path : String}
    (h : path ∈ r.programPaths p) : Path.isLocal path = true := by
  have hname (name : String) : '.' ∉ (Naming.pascal name).toList :=
    Naming.not_mem_pascal (by decide) name
  rw [Renderer.programPaths, List.mem_append, List.mem_append, List.mem_append, List.mem_map,
    List.mem_map, List.mem_map] at h
  obtain ((⟨a, -, rfl⟩ | ⟨d, -, rfl⟩) | ⟨ix, -, rfl⟩) | herrors := h
  · exact headerPath_isLocal hplugin (by decide) (hname a.name)
  · exact headerPath_isLocal hplugin (by decide) (hname d.name)
  · exact headerPath_isLocal hplugin (by decide) (hname ix.name)
  · rw [Renderer.errorPaths] at herrors
    split at herrors
    · cases herrors
    · rw [List.mem_cons, List.mem_singleton] at herrors
      rcases herrors with rfl | rfl
      · exact headerPath_isLocal hplugin (by decide) (hname p.name)
      · exact sourcePath_isLocal hplugin (by decide) (hname p.name)

theorem scaffold_isLocal (hflavor : r.flavor ∈ Flavor.all) (hplugin : '.' ∉ r.plugin.toList)
    {path : String} (h : path ∈ r.flavor.scaffold.map (·.path r.plugin)) :
    Path.isLocal path = true ∨ r.flavor = .unreal5 ∧ path = r.descriptorPath := by
  rw [Flavor.all, List.mem_cons, List.mem_singleton] at hflavor
  rcases hflavor with hflavor | hflavor <;> rw [hflavor] at h ⊢
  · have hall : ∀ file ∈ ["CMakeLists.txt", "vcpkg.json"], Path.isLocal file = true := by
      decide +kernel
    exact .inl (hall path h)
  · rcases List.mem_cons.mp h with hdescriptor | hrules
    · exact .inr ⟨rfl, hdescriptor⟩
    · left
      have hstem : '.' ∉ (r.plugin ++ "/" ++ r.plugin).toList := by simp [hplugin]
      have hlocal := isLocal_below_source hstem ".Build.cs" (by decide) (by decide)
      rw [List.mem_singleton.mp hrules]
      simpa only [String.append_assoc] using hlocal

/-- Among the files of a module, only the descriptor of a plugin may not be local. -/
theorem modulePaths_isLocal (hflavor : r.flavor ∈ Flavor.all) (hplugin : '.' ∉ r.plugin.toList)
    {path : String} (h : path ∈ r.modulePaths) :
    Path.isLocal path = true ∨ r.flavor = .unreal5 ∧ path = r.descriptorPath := by
  have hpublic : '.' ∉ (r.plugin ++ "/Public/" ++ r.plugin).toList := by simp [hplugin]
  have hprivate : '.' ∉ (r.plugin ++ "/Private/" ++ r.plugin).toList := by simp [hplugin]
  rw [Renderer.modulePaths, List.mem_append, List.mem_cons, List.mem_cons, List.mem_singleton] at h
  rcases h with (rfl | hscaffold) | rfl | rfl
  · left
    have hlocal := isLocal_below_source hpublic "/Programs.h" (by decide) (by decide)
    simpa only [Renderer.publicRoot, Renderer.programsHeader, String.append_assoc] using hlocal
  · exact scaffold_isLocal hflavor hplugin hscaffold
  · left
    have hlocal := isLocal_below_source hpublic ".h" (by decide) (by decide)
    simpa only [Renderer.publicRoot, String.append_assoc] using hlocal
  · left
    have hlocal := isLocal_below_source hprivate ".cpp" (by decide) (by decide)
    simpa only [Renderer.privateRoot, String.append_assoc] using hlocal

theorem descriptorPath_isLocal (hplugin : '.' ∉ r.plugin.toList) :
    Path.isLocal r.descriptorPath = !Path.isAbsolute r.plugin := by
  have hroot : Path.isAbsolute r.descriptorPath = Path.isAbsolute r.plugin := by
    unfold Path.isAbsolute Renderer.descriptorPath
    rw [String.toList_append]
    cases r.plugin.toList with
    | nil => decide
    | cons c rest => rfl
  rw [← hroot]
  exact Path.isLocal_append hplugin (by decide) (by decide)

end

/-- The generated paths are local whatever the names are, with one exception: the descriptor of a
plugin, if the name of the module starts with a slash. It is there if any program is exported. So
this is the only path that is refused because it leads out of the output directory. -/
theorem only_descriptor_escapes {o : Options} {r : Renderer} (hr : o.renderer? = some r)
    {root : RootNode} {out : FileMap} (h : (r.render root).files = .ok out) :
    (∀ path ∈ out.paths, Path.isLocal path = false ↔
      r.flavor = .unreal5 ∧ Path.isAbsolute r.plugin = true ∧ path = r.descriptorPath) ∧
    (r.flavor = .unreal5 → r.programsOf root ≠ [] → r.descriptorPath ∈ out.paths) ∧
    ∀ tree cancelled keep directory path,
      (OutputDirectory.write tree cancelled keep directory out).fault? = some (.escaping path) →
        r.flavor = .unreal5 ∧ Path.isAbsolute r.plugin = true ∧ path = r.descriptorPath := by
  have hflavor := Options.flavor_mem_of_renderer? hr
  have hplugin : '.' ∉ r.plugin.toList := by
    rw [Renderer.plugin, (Options.renderer?_eq_some hr).1]
    exact o.not_mem_pluginName (by decide)
  have hperm : out.paths.Perm (r.exportedPaths root) := (render_extends hflavor h).perm
  have hpaths : ∀ path ∈ out.paths, Path.isLocal path = false ↔
      r.flavor = .unreal5 ∧ Path.isAbsolute r.plugin = true ∧ path = r.descriptorPath := by
    intro path hpath
    constructor
    · intro hescapes
      have hexported := hperm.mem_iff.mp hpath
      rw [Renderer.exportedPaths] at hexported
      split at hexported
      · cases hexported
      · rcases List.mem_append.mp hexported with hmodule | hprogram
        · rcases modulePaths_isLocal hflavor hplugin hmodule with hlocal | ⟨hunreal, rfl⟩
          · rw [hlocal] at hescapes
            cases hescapes
          · rw [descriptorPath_isLocal hplugin, Bool.not_eq_false'] at hescapes
            exact ⟨hunreal, hescapes, rfl⟩
        · obtain ⟨p, -, hp⟩ := List.mem_flatMap.mp hprogram
          rw [programPaths_isLocal hplugin hp] at hescapes
          cases hescapes
    · rintro ⟨-, habsolute, rfl⟩
      rw [descriptorPath_isLocal hplugin, habsolute, Bool.not_true]
  refine ⟨hpaths, ?_, ?_⟩
  · intro hunreal hsome
    rw [hperm.mem_iff, Renderer.exportedPaths, List.isEmpty_eq_false_iff.mpr hsome,
      if_neg Bool.false_ne_true, Renderer.modulePaths, hunreal]
    exact List.mem_append_left _
      (List.mem_append_left _ (List.mem_cons_of_mem _ List.mem_cons_self))
  · intro tree cancelled keep directory path hfault
    obtain ⟨hpath, hescapes⟩ := OutputDirectory.write_escaping hfault
    exact (hpaths path hpath).mp hescapes

/-- A module with a plain name: nothing is refused, although the name of the account has slashes and
stops. -/
theorem only_descriptor_escapes_vault :
    let options : Options := ⟨"vault", "", false, false, []⟩
    let program : ProgramNode :=
      { name := "vault", publicKey := "11111111111111111111111111111111", version := "",
        origin := "", docs := [], accounts := [⟨"../../state", [], .struct [], none, none, false⟩],
        instructions := [], definedTypes := [], pdas := [], errors := [], isInternal := false }
    ∃ r out, options.renderer? = some r ∧ (r.render ⟨"", "", program, []⟩).files = .ok out ∧
      (∀ path ∈ out.paths, Path.isLocal path = true) ∧
      ∀ tree cancelled keep directory path,
        (OutputDirectory.write tree cancelled keep directory out).fault? ≠
          some (.escaping path) := by
  intro options program
  have hplugin : options.pluginName = "Vault" := by decide +kernel
  let r : Renderer := ⟨⟨.unreal5, "Vault"⟩, false, false, []⟩
  have hr : options.renderer? = some r := by rw [Options.renderer?_of_standard rfl, hplugin]
  have hok : (r.render ⟨"", "", program, []⟩).files.toBool = true := by decide +kernel
  obtain ⟨out, hout⟩ := Cpp.Generated.exists_ok hok
  obtain ⟨hpaths, -, hwrite⟩ := only_descriptor_escapes hr hout
  have hrelative : Path.isAbsolute r.plugin ≠ true := by decide
  refine ⟨r, out, hr, hout, ?_, ?_⟩
  · intro path hpath
    rw [← Bool.not_eq_false, hpaths path hpath]
    exact fun h => hrelative h.2.1
  · intro tree cancelled keep directory path hfault
    exact hrelative (hwrite tree cancelled keep directory path hfault).2.1

/-- A module whose name starts with a slash: its descriptor lies at the root of the file system, so
writing stops at once. -/
theorem slashed_module_escapes :
    let options : Options := ⟨"/x", "", false, false, []⟩
    let program : ProgramNode :=
      { name := "vault", publicKey := "11111111111111111111111111111111", version := "",
        origin := "", docs := [], accounts := [], instructions := [], definedTypes := [],
        pdas := [], errors := [], isInternal := false }
    ∃ r out, options.renderer? = some r ∧ (r.render ⟨"", "", program, []⟩).files = .ok out ∧
      "/X.uplugin" ∈ out.paths ∧ Path.isLocal "/X.uplugin" = false ∧
      (OutputDirectory.write (.bare []) false false "out" out).fault? =
        some (.escaping "/X.uplugin") := by
  intro options program
  have hplugin : options.pluginName = "/X" := by decide +kernel
  let r : Renderer := ⟨⟨.unreal5, "/X"⟩, false, false, []⟩
  have hr : options.renderer? = some r := by rw [Options.renderer?_of_standard rfl, hplugin]
  have hfault : ((r.render ⟨"", "", program, []⟩).files.toOption.bind fun out =>
      (OutputDirectory.write (.bare []) false false "out" out).fault?) =
        some (.escaping "/X.uplugin") := by decide +kernel
  cases hout : (r.render ⟨"", "", program, []⟩).files with
  | error e =>
    rw [hout] at hfault
    cases hfault
  | ok out =>
    rw [hout] at hfault
    obtain ⟨hpath, hescapes⟩ := OutputDirectory.write_escaping hfault
    exact ⟨r, out, hr, hout, hpath, hescapes, hfault⟩

end ClientGen.Render
