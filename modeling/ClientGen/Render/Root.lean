import ClientGen.Render.Account
import ClientGen.Render.DefinedType
import ClientGen.Render.Errors
import ClientGen.Render.Instruction
import ClientGen.Render.ModuleFiles
/-!
# Rendering a document

A document is rendered program by program. Everything that is exported becomes files of its own;
a header lists the programs, and a few more files make the whole a module. Rendering stops at the
first error; warnings that were given before it are kept.
-/
namespace ClientGen.Render

open ClientGen.Idl ClientGen.Cpp

/-- Something odd that does not stop rendering. -/
inductive Warning where
  /-- Names that accounts and arguments of an instruction share. -/
  | conflict (instruction : String) (names : List String)
  /-- A version of a program that is not a semantic version. -/
  | ignoredVersion (program version : String)
deriving DecidableEq, Repr

def Warning.message : Warning → String
  | .conflict .. =>
    "instruction accounts and arguments share names; arguments are suffixed with _arg"
  | .ignoredVersion .. => "ignoring program version"

/-- A part of rendering: its warnings and its files. -/
structure Step where
  warnings : List Warning
  files : Generated FileMap

/-- Joins the files of steps to a map one after another, up to the first error. -/
def runSteps (map : FileMap) : List Step → Step
  | [] => ⟨[], .ok map⟩
  | step :: rest =>
    match step.files.bind map.merge with
    | .error e => ⟨step.warnings, .error e⟩
    | .ok map =>
      let after := runSteps map rest
      ⟨step.warnings ++ after.warnings, after.files⟩

/-- How a document is to be rendered. -/
structure Options where
  /-- The name of the module in any casing; empty for the standard one. -/
  plugin : String
  /-- The name of the flavor; empty for the standard one. -/
  flavor : String
  renderParents : Bool
  includeInternal : Bool
  remap : List (String × String)

/-- The name of the module when none is given. -/
def standardPlugin : String := "SolanaProgram"

def Options.flavorName (o : Options) : String :=
  if o.flavor.isEmpty then Flavor.unreal5.name else o.flavor

def Options.pluginName (o : Options) : String :=
  let name := Naming.pascal o.plugin
  if name.isEmpty then standardPlugin else name

/-- The renderer that options ask for, if there is such a flavor. -/
def Options.renderer? (o : Options) : Option Renderer :=
  (Flavor.find? o.flavorName).map fun flavor =>
    ⟨⟨flavor, o.pluginName⟩, o.renderParents, o.includeInternal, o.remap⟩

namespace Renderer

def accountsOf (r : Renderer) (p : ProgramNode) : List AccountNode :=
  p.accounts.filter fun a => r.exports a.isInternal

def definedTypesOf (r : Renderer) (p : ProgramNode) : List DefinedTypeNode :=
  p.definedTypes.filter fun d => r.exports d.isInternal

def instructionsOf (r : Renderer) (p : ProgramNode) : List InstructionNode :=
  (p.allInstructions !r.renderParents).filter fun ix => r.exports ix.isInternal

def programsOf (r : Renderer) (root : RootNode) : List ProgramNode :=
  root.programs.filter fun p => r.exports p.isInternal

def instructionWarnings (ix : InstructionNode) : List Warning :=
  if ix.conflicts.isEmpty then [] else [.conflict ix.name ix.conflicts]

def instructionStep (r : Renderer) (p : ProgramNode) (ix : InstructionNode) : Step :=
  ⟨instructionWarnings ix, renderInstruction r p ix⟩

/-- Puts a place around the error of a step. -/
def inside (place : Cpp.Place) (step : Step) : Step :=
  ⟨step.warnings, Generated.inside place step.files⟩

/-- The parts of a program in the order in which they are rendered. -/
def programSteps (r : Renderer) (links : Links) (p : ProgramNode) : List Step :=
  (r.accountsOf p).map (fun a => inside (.account a.name) ⟨[], renderAccount r p links a⟩)
    ++ (r.definedTypesOf p).map (fun d => inside (.definedType d.name) ⟨[], renderDefinedType r d⟩)
    ++ (r.instructionsOf p).map (fun ix => inside (.instruction ix.name) (r.instructionStep p ix))
    ++ (if p.errors.isEmpty then [] else [⟨[], .ok (renderErrors r p)⟩])

def renderProgram (r : Renderer) (links : Links) (p : ProgramNode) : Step :=
  if r.exports p.isInternal then runSteps .empty (r.programSteps links p) else ⟨[], .ok .empty⟩

/-- The addresses of programs as literals. -/
def programKeys (r : Renderer) : List ProgramNode → Generated (List (ProgramNode × Literal))
  | [] => .ok []
  | p :: rest => do
    let key ← Generated.inside (.program p.name) (publicKeyLiteral r.target p.publicKey)
    return (p, key) :: (← programKeys r rest)

def programsPage (r : Renderer) (keys : List (ProgramNode × Literal)) : String :=
  let includes := (IncludeSet.ofPaths [r.flavor.publicKey.header]).mergeAll
    (keys.map fun k => k.2.includes)
  headerTop ++ r.includeBlock includes ++ "\n"
    ++ String.join (keys.map fun k =>
      "\n" ++ docBlock k.1.docs ++ "inline const " ++ r.flavor.publicKey.spelling ++ " "
        ++ programConstant k.1 ++ " = " ++ k.2.text ++ ";")
    ++ "\n"

/-- The first valid version of some programs, with warnings about those before it. -/
def moduleVersion : List ProgramNode → List Warning × Version
  | [] => ([], .standard)
  | p :: rest =>
    if p.version.isEmpty then moduleVersion rest
    else
      match Version.parse p.version with
      | .ok v => ([], v)
      | .error _ =>
        let (warnings, v) := moduleVersion rest
        (.ignoredVersion p.name p.version :: warnings, v)

def moduleDescription (r : Renderer) (programs : List ProgramNode) : String :=
  if programs.isEmpty then r.plugin ++ " client"
  else
    "Client for the " ++ String.intercalate ", " (programs.map fun p => Naming.pascal p.name)
      ++ " Solana program" ++ (if programs.length > 1 then "s" else "")

/-- What the files of a module tell about it. -/
def moduleInfo (r : Renderer) (programs : List ProgramNode) : ModuleInfo :=
  ⟨r.plugin, r.moduleDescription programs, (moduleVersion programs).2⟩

/-- The files of a module on top of a map. -/
def moduleFiles (r : Renderer) (programs : List ProgramNode) (map : FileMap) : FileMap :=
  let info := r.moduleInfo programs
  let map := r.flavor.scaffold.foldl
    (fun map file => map.add (file.path r.plugin) (info.page file.template)) map
  let map := map.add (r.publicRoot ++ r.plugin ++ ".h") (info.page r.flavor.moduleHeader)
  map.add (r.privateRoot ++ r.plugin ++ ".cpp") (info.page r.flavor.moduleSource)

/-- The header of the programs and the files of the module, none if nothing is exported. -/
def baseStep (r : Renderer) (programs : List ProgramNode) : Step :=
  if programs.isEmpty then ⟨[], .ok .empty⟩
  else
    match r.programKeys programs with
    | .error e => ⟨[], .error e⟩
    | .ok keys =>
      let map := FileMap.empty.add (r.publicRoot ++ r.programsHeader) (r.programsPage keys)
      ⟨(moduleVersion programs).1, .ok (r.moduleFiles programs map)⟩

def render (r : Renderer) (root : RootNode) : Step :=
  let programs := r.programsOf root
  let base := r.baseStep programs
  match base.files with
  | .error e => ⟨base.warnings, .error e⟩
  | .ok map =>
    let after := runSteps map
      (programs.map fun p => inside (.program p.name) (r.renderProgram root.links p))
    ⟨base.warnings ++ after.warnings, after.files⟩

def render? (r : Renderer) : Option RootNode → Step
  | none => ⟨[], .error .missingRoot⟩
  | some root => r.render root

structure Stats where
  programs : Nat
  accounts : Nat
  definedTypes : Nat
  instructions : Nat
  errors : Nat
deriving DecidableEq, Repr

/-- Counts what a program adds, if it is exported. -/
def Stats.count (r : Renderer) (stats : Stats) (p : ProgramNode) : Stats :=
  if r.exports p.isInternal then
    ⟨stats.programs + 1, stats.accounts + p.accounts.countP fun a => r.exports a.isInternal,
      stats.definedTypes + p.definedTypes.countP fun d => r.exports d.isInternal,
      stats.instructions
        + (p.allInstructions !r.renderParents).countP fun ix => r.exports ix.isInternal,
      stats.errors + p.errors.length⟩
  else stats

def stats (r : Renderer) (root : Option RootNode) : Stats :=
  ((root.map (·.programs)).getD []).foldl (Stats.count r) ⟨0, 0, 0, 0, 0⟩

end Renderer

end ClientGen.Render
