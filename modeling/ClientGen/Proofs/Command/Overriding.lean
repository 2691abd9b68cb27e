import ClientGen.Command.Generate
import ClientGen.Proofs.FileTree
import ClientGen.Proofs.Settings.Layers
/-!
# Flags over a file of settings

A flag that is given wins over what the file says, and what neither of them says has its standard
value. Paths of the file lead from its directory, and so does the standard output directory as soon
as there is a file. A file is refused that is not valid on its own, also if flags would mend it.
-/
namespace ClientGen.Command.GenerateFlags

open ClientGen.Settings

/-- The flags that name a file of settings and say nothing else. -/
def alone (config : String) : GenerateFlags :=
  ⟨config, none, none, none, none, none, none, none, none, none, false⟩

/-- Where a path leads from the directory of the file; without a file it stays as it is. -/
def located (f : GenerateFlags) (path : String) : String :=
  if f.config = "" then path else Settings.resolve (Path.directory f.config) path

/-- What flags and a file come to: the value of the flag, else that of the file, else the standard
one. -/
def effective (f : GenerateFlags) (idl : Option String) (layer : Layer) : Settings where
  idl := (idl.or (layer.idl.map f.located)).getD ""
  output := (f.output.or (layer.output.map f.located)).getD (f.located standardOutput)
  plugin := (f.plugin.or layer.plugin).getD Render.standardPlugin
  flavor := (f.flavor.or layer.flavor).getD Flavor.unreal5.name
  renderParents := (f.renderParents.or layer.renderParents).getD false
  includeInternal := (f.includeInternal.or layer.includeInternal).getD false
  keepOutput := (f.keepOutput.or layer.keepOutput).getD false
  dependencyMap := withDependencies layer.dependencies []
  formatter :=
    ⟨(f.formatCode.or layer.formatter.enabled).getD false,
      (f.formatter.or layer.formatter.command).getD standardFormatter,
      (f.formatterArguments.or layer.formatter.arguments).getD ""⟩

/-- Two files say the same, except about what a flag is given for. -/
structure SameBesides (f : GenerateFlags) (idl : Option String) (layer other : Layer) : Prop where
  idl : idl = none → layer.idl = other.idl
  output : f.output = none → layer.output = other.output
  plugin : f.plugin = none → layer.plugin = other.plugin
  flavor : f.flavor = none → layer.flavor = other.flavor
  renderParents : f.renderParents = none → layer.renderParents = other.renderParents
  includeInternal : f.includeInternal = none → layer.includeInternal = other.includeInternal
  keepOutput : f.keepOutput = none → layer.keepOutput = other.keepOutput
  dependencies : withDependencies layer.dependencies [] = withDependencies other.dependencies []
  enabled : f.formatCode = none → layer.formatter.enabled = other.formatter.enabled
  command : f.formatter = none → layer.formatter.command = other.formatter.command
  arguments : f.formatterArguments = none → layer.formatter.arguments = other.formatter.arguments

variable {f : GenerateFlags} {idl : Option String} {layer other : Layer}

theorem or_congr {α : Type} {given first second : Option α} (h : given = none → first = second) :
    given.or first = given.or second := by
  cases given with
  | none => exact h rfl
  | some v => rfl

/-- What a flag is given for does not matter in a file. -/
theorem SameBesides.effective_eq (h : SameBesides f idl layer other) :
    f.effective idl layer = f.effective idl other := by
  unfold effective
  rw [or_congr fun hnone => congrArg (Option.map f.located) (h.idl hnone),
    or_congr fun hnone => congrArg (Option.map f.located) (h.output hnone), or_congr h.plugin,
    or_congr h.flavor, or_congr h.renderParents, or_congr h.includeInternal, or_congr h.keepOutput,
    h.dependencies, or_congr h.enabled, or_congr h.command, or_congr h.arguments]

theorem getD_located (h : f.config ≠ "") (path? : Option String) (standard : String) :
    (path?.map f.located).getD (f.located standard) =
      Settings.resolve (Path.directory f.config) (path?.getD standard) := by
  rw [Option.getD_map, located, if_neg h]

/-- Overriding what a file says gives the value of each field in turn. -/
theorem override_onto (h : f.config ≠ "") (idl : Option String) (layer : Layer) :
    f.override idl ((layer.onto standard).relativeTo (Path.directory f.config)) =
      f.effective idl layer := by
  have hnone : f.located "" = "" := by
    rw [located, if_neg h]
    rfl
  have hidl := getD_located h layer.idl ""
  rw [hnone] at hidl
  unfold override effective
  simp only [Option.getD_or, hidl, getD_located h]
  rfl

/-- Without a file, flags override the standard settings. -/
theorem override_standard (h : f.config = "") (idl : Option String) :
    f.override idl standard = f.effective idl .blank := by
  unfold override effective
  simp only [Layer.blank, Option.map_none, Option.or_none, located, h, if_true]
  rfl

/-- The settings of the file alone are those that it says, with its paths resolved. -/
theorem effective_alone (h : f.config ≠ "") (layer : Layer) :
    (alone f.config).effective none layer =
      (layer.onto standard).relativeTo (Path.directory f.config) :=
  (override_onto (f := alone f.config) h none layer).symm

theorem settings_without_file (h : f.config = "") (tree : FileTree) (idl : Option String) :
    f.settings tree idl = (f.effective idl .blank).validated.mapError .invalid := by
  have hbase : f.base tree = .ok standard := by
    rw [base, h]
    rfl
  rw [settings, hbase, ← override_standard h]
  rfl

/-- A file is judged on its own before flags are laid over what it says. -/
theorem settings_of_file (h : f.config ≠ "") {tree : FileTree} {text : String}
    (hread : tree.read f.config = .ok text) (hsaid : Says f.config text layer)
    (idl : Option String) :
    f.settings tree idl = (((alone f.config).effective none layer).validated.mapError .invalid >>=
      fun _ => (f.effective idl layer).validated.mapError .invalid) := by
  have hempty : f.config.isEmpty = false := by rwa [Bool.eq_false_iff, Ne, String.isEmpty_iff]
  have hparse : Settings.parse .standard f.config text = .ok (layer.onto standard) := hsaid standard
  have hload : Settings.load tree f.config =
      ((alone f.config).effective none layer).validated.mapError .invalid := by
    rw [Settings.load, hread, effective_alone h]
    change (Settings.parse .standard f.config text >>= _) = _
    rw [hparse]
    rfl
  rw [settings, base, hempty, if_neg Bool.false_ne_true, hload, effective_alone h,
    ← override_onto h]
  unfold Settings.validated
  cases ((layer.onto standard).relativeTo (Path.directory f.config)).fault? with
  | none => rfl
  | some fault => rfl

theorem eq_ok_of_toOption {ε α : Type} {r : Except ε α} {a : α} (h : r.toOption = some a) :
    r = .ok a := by
  cases r with
  | error e => cases h
  | ok b => exact congrArg Except.ok (Option.some.inj h)

theorem validated_eq (s : Settings) : s.validated.mapError LoadFault.invalid =
    match s.fault? with
    | some fault => .error (.invalid fault)
    | none => .ok s := by
  unfold Settings.validated
  cases s.fault? with
  | none => rfl
  | some fault => rfl

/-- Without a file, settings are those of the flags or else the standard ones, unless something is
wrong with them. A text that can be read as a file says values of settings; if these are valid on
their own, a run has the values of the flags or else those of the file or else the standard ones,
unless something is wrong with these. So of two files that are valid, it does not matter what they
say about settings that a flag is given for. -/
theorem flags_win_over_valid_file (f : GenerateFlags) (idl : Option String) :
    (f.config = "" → ∀ tree, f.settings tree idl =
      match (f.effective idl .blank).fault? with
      | some fault => .error (.invalid fault)
      | none => .ok (f.effective idl .blank)) ∧
    (f.config ≠ "" → ∀ tree text, tree.read f.config = .ok text →
      ((∃ s, Settings.parse .standard f.config text = .ok s) ↔ ∃ layer, Says f.config text layer) ∧
      ∀ layer, Says f.config text layer → f.settings tree idl =
        match ((alone f.config).effective none layer).fault? with
        | some fault => .error (.invalid fault)
        | none =>
          match (f.effective idl layer).fault? with
          | some fault => .error (.invalid fault)
          | none => .ok (f.effective idl layer)) ∧
    (f.config ≠ "" → ∀ tree tree' text text' layer layer',
      tree.read f.config = .ok text → Says f.config text layer →
      tree'.read f.config = .ok text' → Says f.config text' layer' →
      ((alone f.config).effective none layer).fault? = none →
      ((alone f.config).effective none layer').fault? = none →
      SameBesides f idl layer layer' → f.settings tree idl = f.settings tree' idl) := by
  have hfile (hconfig : f.config ≠ "") (tree : FileTree) (text : String) (layer : Layer)
      (hread : tree.read f.config = .ok text) (hsaid : Says f.config text layer) :
      f.settings tree idl =
        match ((alone f.config).effective none layer).fault? with
        | some fault => .error (.invalid fault)
        | none =>
          match (f.effective idl layer).fault? with
          | some fault => .error (.invalid fault)
          | none => .ok (f.effective idl layer) := by
    rw [settings_of_file hconfig hread hsaid, validated_eq, validated_eq]
    cases ((alone f.config).effective none layer).fault? with
    | none => rfl
    | some fault => rfl
  refine ⟨fun hconfig tree => ?_, fun hconfig tree text hread => ⟨exists_says_iff, ?_⟩, ?_⟩
  · rw [settings_without_file hconfig, validated_eq]
  · exact fun layer hsaid => hfile hconfig tree text layer hread hsaid
  · intro hconfig tree tree' text text' layer layer' hread hsaid hread' hsaid' hown hown' hsame
    rw [hfile hconfig tree text layer hread hsaid, hfile hconfig tree' text' layer' hread' hsaid',
      hown, hown', hsame.effective_eq]

/-- Two files with different names of the module, and a flag for that name: settings are the same,
with the paths of the file in its directory. -/
theorem flags_win_over_valid_file_plugin :
    let flags : GenerateFlags :=
      { alone "c/a.toml" with plugin := some "Mine", formatCode := some true }
    let tree (text : String) : FileTree := .ofFiles [] [("c/a.toml", text)]
    let first := "plugin = \"A\"\nidl = \"i.json\"\n"
    let second := "idl = \"i.json\"\nplugin = \"B\"\n"
    flags.settings (tree first) none = .ok ⟨"c/i.json", "c/generated", "Mine", "unreal5", false,
        false, false, [], ⟨true, "clang-format", ""⟩⟩ ∧
      flags.settings (tree first) none = flags.settings (tree second) none := by
  intro flags tree first second
  let layer (plugin : String) : Layer :=
    { Layer.blank with plugin := some plugin, idl := some "i.json" }
  have hconfig : flags.config ≠ "" := by decide
  have hread : (tree first).read flags.config = .ok first :=
    eq_ok_of_toOption (by decide +kernel)
  have hread' : (tree second).read flags.config = .ok second :=
    eq_ok_of_toOption (by decide +kernel)
  have hsaid : Says flags.config first (layer "A") :=
    says_of_texts [("plugin", "A"), ("idl", "i.json")] (by decide +kernel) (by decide +kernel)
      fun _ => rfl
  have hsaid' : Says flags.config second (layer "B") :=
    says_of_texts [("idl", "i.json"), ("plugin", "B")] (by decide +kernel) (by decide +kernel)
      fun _ => rfl
  have hown : ((alone flags.config).effective none (layer "A")).fault? = none := by decide +kernel
  have hown' : ((alone flags.config).effective none (layer "B")).fault? = none := by
    decide +kernel
  have hvalid : (flags.effective none (layer "A")).fault? = none := by decide +kernel
  have hsame : SameBesides flags none (layer "A") (layer "B") :=
    ⟨fun _ => rfl, fun _ => rfl, nofun, fun _ => rfl, fun _ => rfl, fun _ => rfl, fun _ => rfl, rfl,
      nofun, fun _ => rfl, fun _ => rfl⟩
  obtain ⟨-, hfile, hlaw⟩ := flags_win_over_valid_file flags none
  refine ⟨?_, hlaw hconfig _ _ first second _ _ hread hsaid hread' hsaid' hown hown' hsame⟩
  rw [(hfile hconfig _ first hread).2 _ hsaid, hown, hvalid]
  exact congrArg Except.ok (by decide +kernel)

/-- A file with a flavor that nobody knows is refused although a flag wins over it, and one with
another flavor is not. Where a file says nothing about the output directory, the standard one lies
in the directory of the file. -/
theorem overridden_file_is_refused :
    let flags : GenerateFlags := { alone "a.toml" with flavor := some "stl20" }
    let tree (text : String) : FileTree := .ofFiles [] [("a.toml", text)]
    let unknown : Layer := { Layer.blank with flavor := some "bogus" }
    Says "a.toml" "flavor = \"bogus\"\n" unknown ∧ (flags.effective none unknown).fault? = none ∧
      (flags.settings (tree "flavor = \"bogus\"\n") none).toBool = false ∧
      (flags.settings (tree "flavor = \"unreal5\"\n") none).toBool = true ∧
      ((alone "c/a.toml").settings (.ofFiles [] [("c/a.toml", "")]) none).toOption =
        some { Settings.standard with output := "c/generated" } := by
  refine ⟨says_of_texts [("flavor", "bogus")] ?_ ?_ fun _ => rfl, ?_⟩
  · decide +kernel
  · decide +kernel
  · decide +kernel

end ClientGen.Command.GenerateFlags
