import ClientGen.Settings
/-!
# What a file says about settings

A file gives a value to some of the settings and adds entries to the dependency map. What it says
does not depend on the settings that it is read on top of: reading lays the same values onto them,
whatever they are, or fails for all of them.
-/
namespace ClientGen

namespace Settings

/-! ### Readings that lay something onto what was there -/

section

variable {S T L M α : Type}

/-- Whatever it starts from, a reading fails, or it lays the same thing onto it. -/
def LaysOnto (onto : L → S → S) (read : S → Option S) : Prop :=
  (∀ s, read s = none) ∨ ∃ l, ∀ s, read s = some (onto l s)

/-- Things of which one may be nothing, and of which two can be laid onto each other. -/
structure IsLayering (onto : L → S → S) : Prop where
  nothing : ∃ l, ∀ s, onto l s = s
  both : ∀ first second, ∃ l, ∀ s, onto l s = onto second (onto first s)

namespace LaysOnto

variable {onto : L → S → S} {inner : M → T → T}

theorem never : LaysOnto onto fun _ => none := .inl fun _ => rfl

theorem nothing (h : IsLayering onto) : LaysOnto onto some := by
  obtain ⟨l, hl⟩ := h.nothing
  exact .inr ⟨l, fun s => congrArg some (hl s).symm⟩

theorem andThen (h : IsLayering onto) {first second : S → Option S} (hfirst : LaysOnto onto first)
    (hsecond : LaysOnto onto second) : LaysOnto onto fun s => first s >>= second := by
  rcases hfirst with hnone | ⟨l, hl⟩
  · refine .inl fun s => ?_
    simp only [hnone]
    rfl
  · rcases hsecond with hnone | ⟨l', hl'⟩
    · refine .inl fun s => ?_
      simp only [hl]
      exact hnone _
    · obtain ⟨both, hboth⟩ := h.both l l'
      refine .inr ⟨both, fun s => ?_⟩
      simp only [hl, hboth]
      exact hl' _

/-- A value, if there is one, is put in its place. -/
theorem value {put : S → α → S} (hput : ∀ v, ∃ l, ∀ s, onto l s = put s v) (v? : Option α) :
    LaysOnto onto fun s => v?.map (put s) := by
  cases v? with
  | none => exact never
  | some v =>
    obtain ⟨l, hl⟩ := hput v
    refine .inr ⟨l, fun s => ?_⟩
    rw [hl]
    rfl

/-- A field that may stand for nothing. -/
theorem field (h : IsLayering onto) {put : S → α → S}
    (hput : ∀ v, ∃ l, ∀ s, onto l s = put s v) (read : Option (Option α)) :
    LaysOnto onto fun s => Yaml.field read s put := by
  cases read with
  | none => exact never
  | some v? =>
    cases v? with
    | none => exact nothing h
    | some v => exact value hput (some v)

/-- A part is read on top of what it was. -/
theorem part {get : S → T} {put : S → T → S} {read : T → Option T}
    (hput : ∀ m, ∃ l, ∀ s, onto l s = put s (inner m (get s))) (hread : LaysOnto inner read) :
    LaysOnto onto fun s => (read (get s)).map (put s) := by
  rcases hread with hnone | ⟨m, hm⟩
  · refine .inl fun s => ?_
    simp only [hnone]
    rfl
  · obtain ⟨l, hl⟩ := hput m
    refine .inr ⟨l, fun s => ?_⟩
    simp only [hm, hl]
    rfl

theorem foldlM (h : IsLayering onto) {step : S → α → Option S}
    (hstep : ∀ a, LaysOnto onto fun s => step s a) (all : List α) :
    LaysOnto onto fun s => all.foldlM step s := by
  induction all with
  | nil => exact nothing h
  | cons a rest ih => exact andThen h (hstep a) ih

theorem readRecord (h : IsLayering onto) {step : S → String → Yaml.Node → Option S}
    (hstep : ∀ name node, LaysOnto onto fun s => step s name node)
    (entries : List (Yaml.Node × Yaml.Node)) :
    LaysOnto onto fun s => Yaml.readRecord step entries s := by
  induction entries with
  | nil => exact nothing h
  | cons entry rest ih =>
    obtain ⟨key, node⟩ := entry
    unfold Yaml.readRecord
    cases key.asText with
    | none => exact never
    | some name? =>
      cases name? with
      | none => exact ih
      | some name => exact andThen h (hstep name node) ih

theorem recordField (h : IsLayering onto) {step : S → String → Yaml.Node → Option S}
    (hstep : ∀ name node, LaysOnto onto fun s => step s name node) (node : Yaml.Node) :
    LaysOnto onto fun s => Yaml.recordField node step s := by
  unfold Yaml.recordField
  cases node.asEntries with
  | none => exact never
  | some entries? =>
    cases entries? with
    | none => exact nothing h
    | some entries => exact readRecord h hstep entries

end LaysOnto

end

/-! ### Layers -/

/-- What is said about the formatter. -/
structure FormatterLayer where
  enabled : Option Bool
  command : Option String
  arguments : Option String

/-- A formatter with what is said about it. -/
def FormatterLayer.onto (l : FormatterLayer) (f : FormatterSettings) : FormatterSettings :=
  ⟨l.enabled.getD f.enabled, l.command.getD f.command, l.arguments.getD f.arguments⟩

/-- What is said about settings: values of some of them, and entries of the dependency map, of which
the last for a path wins. -/
structure Layer where
  idl : Option String
  output : Option String
  plugin : Option String
  flavor : Option String
  renderParents : Option Bool
  includeInternal : Option Bool
  keepOutput : Option Bool
  dependencies : List (String × String)
  formatter : FormatterLayer

/-- Nothing is said. -/
def Layer.blank : Layer := ⟨none, none, none, none, none, none, none, [], ⟨none, none, none⟩⟩

/-- A dependency map with more entries. -/
def withDependencies (entries : List (String × String)) (map : DependencyMap) : DependencyMap :=
  entries.foldl (fun map entry => map.set entry.1 entry.2) map

/-- Settings with what is said about them. -/
def Layer.onto (l : Layer) (s : Settings) : Settings where
  idl := l.idl.getD s.idl
  output := l.output.getD s.output
  plugin := l.plugin.getD s.plugin
  flavor := l.flavor.getD s.flavor
  renderParents := l.renderParents.getD s.renderParents
  includeInternal := l.includeInternal.getD s.includeInternal
  keepOutput := l.keepOutput.getD s.keepOutput
  dependencyMap := withDependencies l.dependencies s.dependencyMap
  formatter := l.formatter.onto s.formatter

theorem getD_or {α : Type} (first second : Option α) (a : α) :
    (second.or first).getD a = second.getD (first.getD a) := by
  cases second with
  | none => rfl
  | some v => rfl

theorem isLayering_withDependencies : IsLayering withDependencies where
  nothing := ⟨[], fun _ => rfl⟩
  both first second := ⟨first ++ second, fun _ => List.foldl_append⟩

theorem FormatterLayer.isLayering : IsLayering FormatterLayer.onto where
  nothing := ⟨⟨none, none, none⟩, fun _ => rfl⟩
  both first second := by
    refine ⟨⟨second.enabled.or first.enabled, second.command.or first.command,
      second.arguments.or first.arguments⟩, fun f => ?_⟩
    simp only [onto, getD_or]

theorem Layer.isLayering : IsLayering Layer.onto where
  nothing := ⟨blank, fun _ => rfl⟩
  both first second := by
    obtain ⟨dependencies, hdependencies⟩ :=
      isLayering_withDependencies.both first.dependencies second.dependencies
    obtain ⟨formatter, hformatter⟩ :=
      FormatterLayer.isLayering.both first.formatter second.formatter
    refine ⟨⟨second.idl.or first.idl, second.output.or first.output, second.plugin.or first.plugin,
      second.flavor.or first.flavor, second.renderParents.or first.renderParents,
      second.includeInternal.or first.includeInternal, second.keepOutput.or first.keepOutput,
      dependencies, formatter⟩, fun s => ?_⟩
    simp only [onto, getD_or, hdependencies, hformatter]

/-! ### Readings of settings -/

theorem LaysOnto.putDependencies {read : DependencyMap → Option DependencyMap}
    (h : LaysOnto withDependencies read) :
    LaysOnto Layer.onto fun s =>
      (read s.dependencyMap).map fun v => { s with dependencyMap := v } :=
  part (fun entries => ⟨{ Layer.blank with dependencies := entries }, fun _ => rfl⟩) h

theorem LaysOnto.putFormatter {read : FormatterSettings → Option FormatterSettings}
    (h : LaysOnto FormatterLayer.onto read) :
    LaysOnto Layer.onto fun s => (read s.formatter).map fun v => { s with formatter := v } :=
  part (fun f => ⟨{ Layer.blank with formatter := f }, fun _ => rfl⟩) h

theorem readEntry_laysOnto (source : String) (node : Yaml.Node) :
    LaysOnto withDependencies fun map => DependencyMap.readEntry map source node :=
  .value (fun target? => ⟨[(source, target?.getD "")], fun _ => rfl⟩) node.asText

theorem formatterField_laysOnto (name : String) (node : Yaml.Node) :
    LaysOnto FormatterLayer.onto fun f => formatterField f name node := by
  unfold formatterField
  split
  · exact .field FormatterLayer.isLayering (fun v => ⟨⟨some v, none, none⟩, fun _ => rfl⟩) _
  · exact .field FormatterLayer.isLayering (fun v => ⟨⟨none, some v, none⟩, fun _ => rfl⟩) _
  · exact .field FormatterLayer.isLayering (fun v => ⟨⟨none, none, some v⟩, fun _ => rfl⟩) _
  · exact .never

theorem yamlField_laysOnto (name : String) (node : Yaml.Node) :
    LaysOnto Layer.onto fun s => yamlField s name node := by
  unfold yamlField
  have h := Layer.isLayering
  split
  · exact .field h (fun v => ⟨{ Layer.blank with idl := some v }, fun _ => rfl⟩) _
  · exact .field h (fun v => ⟨{ Layer.blank with output := some v }, fun _ => rfl⟩) _
  · exact .field h (fun v => ⟨{ Layer.blank with plugin := some v }, fun _ => rfl⟩) _
  · exact .field h (fun v => ⟨{ Layer.blank with flavor := some v }, fun _ => rfl⟩) _
  · exact .field h (fun v => ⟨{ Layer.blank with renderParents := some v }, fun _ => rfl⟩) _
  · exact .field h (fun v => ⟨{ Layer.blank with includeInternal := some v }, fun _ => rfl⟩) _
  · exact .field h (fun v => ⟨{ Layer.blank with keepOutput := some v }, fun _ => rfl⟩) _
  · exact (LaysOnto.recordField isLayering_withDependencies readEntry_laysOnto node).putDependencies
  · exact (LaysOnto.recordField FormatterLayer.isLayering formatterField_laysOnto node).putFormatter
  · exact .never

theorem formatterEntry_laysOnto (entry : String × Toml.Value) :
    LaysOnto FormatterLayer.onto fun f => formatterEntry f entry := by
  unfold formatterEntry
  split
  · refine .value (fun v => ?_) _
    exact ⟨⟨some v, none, none⟩, fun _ => rfl⟩
  · refine .value (fun v => ?_) _
    exact ⟨⟨none, some v, none⟩, fun _ => rfl⟩
  · refine .value (fun v => ?_) _
    exact ⟨⟨none, none, some v⟩, fun _ => rfl⟩
  · exact .nothing FormatterLayer.isLayering

theorem dependencyEntry_laysOnto (entry : String × Toml.Value) :
    LaysOnto withDependencies fun map => dependencyEntry map entry :=
  .value (fun target => ⟨[(entry.1, target)], fun _ => rfl⟩) _

theorem tomlEntry_laysOnto (entry : String × Toml.Value) :
    LaysOnto Layer.onto fun s => tomlEntry s entry := by
  unfold tomlEntry
  split
  · refine .value (fun v => ?_) _
    exact ⟨{ Layer.blank with idl := some v }, fun _ => rfl⟩
  · refine .value (fun v => ?_) _
    exact ⟨{ Layer.blank with output := some v }, fun _ => rfl⟩
  · refine .value (fun v => ?_) _
    exact ⟨{ Layer.blank with plugin := some v }, fun _ => rfl⟩
  · refine .value (fun v => ?_) _
    exact ⟨{ Layer.blank with flavor := some v }, fun _ => rfl⟩
  · refine .value (fun v => ?_) _
    exact ⟨{ Layer.blank with renderParents := some v }, fun _ => rfl⟩
  · refine .value (fun v => ?_) _
    exact ⟨{ Layer.blank with includeInternal := some v }, fun _ => rfl⟩
  · refine .value (fun v => ?_) _
    exact ⟨{ Layer.blank with keepOutput := some v }, fun _ => rfl⟩
  · cases tableValue? entry.2 with
    | none => exact .never
    | some entries =>
      have hentries := LaysOnto.foldlM isLayering_withDependencies dependencyEntry_laysOnto entries
      have hput := hentries.putDependencies
      simp only [Option.map_eq_bind] at hput
      exact hput
  · cases tableValue? entry.2 with
    | none => exact .never
    | some entries =>
      have hentries := LaysOnto.foldlM FormatterLayer.isLayering formatterEntry_laysOnto entries
      have hput := hentries.putFormatter
      simp only [Option.map_eq_bind] at hput
      exact hput
  · exact .nothing Layer.isLayering

/-! ### Texts -/

/-- What a text says: reading it on top of any settings lays just this onto them. -/
def Says (path text : String) (layer : Layer) : Prop :=
  ∀ base, parse base path text = .ok (layer.onto base)

theorem ofYaml?_laysOnto (text : String) : LaysOnto Layer.onto fun base => ofYaml? base text := by
  unfold ofYaml?
  cases Yaml.firstDocument text with
  | none => exact .nothing Layer.isLayering
  | malformed => exact .never
  | node root => exact .recordField Layer.isLayering yamlField_laysOnto root

variable {path text : String} {s : Settings}

theorem says_of_ofToml (h : ofToml standard path text = .ok s) :
    ∃ layer : Layer, ∀ base, ofToml base path text = .ok (layer.onto base) := by
  unfold ofToml at h ⊢
  cases hfile : Toml.File.parse text with
  | none =>
    rw [hfile] at h
    cases h
  | some file =>
    rw [hfile] at h
    dsimp only at h ⊢
    rcases LaysOnto.foldlM Layer.isLayering tomlEntry_laysOnto file.entries with hnone | ⟨layer, hl⟩
    · simp only [hnone] at h
      cases h
    · simp only [hl] at h ⊢
      split at h
      · exact ⟨layer, fun _ => rfl⟩
      · cases h

/-- Every text that can be read says something. -/
theorem exists_says_iff :
    (∃ s, parse standard path text = .ok s) ↔ ∃ layer, Says path text layer := by
  constructor
  · rintro ⟨s, h⟩
    unfold parse at h
    unfold Says parse
    dsimp only at h ⊢
    split at h
    · rename_i hyaml
      simp only [hyaml, if_true]
      rcases ofYaml?_laysOnto text with hnone | ⟨layer, hl⟩
      · simp only [hnone] at h
        cases h
      · exact ⟨layer, fun base => by simp only [hl]⟩
    · rename_i hyaml
      simp only [hyaml]
      split at h
      · rename_i htoml
        simp only [htoml, if_true]
        exact says_of_ofToml h
      · cases h
  · rintro ⟨layer, h⟩
    exact ⟨_, h standard⟩

/-- Entries of which all values are texts, by their keys and texts. -/
theorem entries_of_texts {texts : List (String × String)} :
    ∀ {entries : List (String × Toml.Value)},
    (entries.map fun e => (e.1, textValue? e.2)) = texts.map (fun t => (t.1, some t.2)) →
      entries = texts.map fun t => (t.1, .text t.2) := by
  induction texts with
  | nil =>
    intro entries h
    exact List.map_eq_nil_iff.mp h
  | cons t rest ih =>
    intro entries h
    obtain ⟨⟨name, value⟩, more, rfl, hfirst, hmore⟩ := List.map_eq_cons_iff.mp h
    rw [ih hmore]
    cases value with
    | text v =>
      obtain ⟨hname, hvalue⟩ := Prod.mk.inj hfirst
      subst hname
      cases hvalue
      rfl
    | flag v => cases hfirst
    | number => cases hfirst
    | moment => cases hfirst
    | array items => cases hfirst
    | table entries => cases hfirst

/-- What a text of tables says in which every value is a text. -/
theorem says_of_texts {path text : String} (texts : List (String × String)) {layer : Layer}
    (hpath : Path.lowerExtension path = ".toml")
    (hfile : (Toml.File.parse text).map (fun file =>
      (file.entries.map fun e => (e.1, textValue? e.2), unknownKeys file)) =
        some (texts.map (fun t => (t.1, some t.2)), []))
    (hlayer : ∀ base, (texts.map fun t => (t.1, Toml.Value.text t.2)).foldlM tomlEntry base =
      some (layer.onto base)) : Says path text layer := by
  intro base
  obtain ⟨file, hparse, hview⟩ := Option.map_eq_some_iff.mp hfile
  obtain ⟨hentries, hkeys⟩ := Prod.mk.inj hview
  rw [← entries_of_texts hentries] at hlayer
  unfold parse ofToml
  rw [hpath, hparse]
  dsimp only
  rw [hlayer, hkeys]
  rfl

end Settings

end ClientGen
