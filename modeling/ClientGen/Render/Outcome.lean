import ClientGen.Render.Root
/-!
# Outcomes of rendering

Rendering joins maps of files, and no order is promised in which their files are walked through. So
there may be several outcomes of rendering a document. `Renderer.render` gives one of them, that of
the order of the paths.
-/
namespace ClientGen.Render

open ClientGen.Idl ClientGen.Cpp

/-- What may come of joining parts to a map one after another, if each part has outcomes of its
own. -/
inductive RunsTo : FileMap → List (Generated FileMap → Prop) → Generated FileMap → Prop
  | done (map : FileMap) : RunsTo map [] (.ok map)
  | failed {map : FileMap} {part : Generated FileMap → Prop} {rest} {e : Error}
    (h : part (.error e)) : RunsTo map (part :: rest) (.error e)
  | clashed {map more : FileMap} {part : Generated FileMap → Prop} {rest} {e : Error}
    (h : part (.ok more)) (hjoin : map.Joins more (.error e)) : RunsTo map (part :: rest) (.error e)
  | joined {map more joined : FileMap} {part : Generated FileMap → Prop} {rest}
    {out : Generated FileMap} (h : part (.ok more)) (hjoin : map.Joins more (.ok joined))
    (hrest : RunsTo joined rest out) : RunsTo map (part :: rest) out

namespace Renderer

/-- What may come of rendering a program. -/
def ProgramOutcome (r : Renderer) (links : Links) (p : ProgramNode) : Generated FileMap → Prop :=
  if r.exports p.isInternal then
    RunsTo .empty ((r.programSteps links p).map fun step out => out = step.files)
  else fun out => out = .ok .empty

/-- What may come of rendering a document. -/
def Outcome (r : Renderer) (root : RootNode) (out : Generated FileMap) : Prop :=
  match (r.baseStep (r.programsOf root)).files with
  | .error e => out = .error e
  | .ok base =>
    RunsTo base ((r.programsOf root).map fun p out =>
      ∃ inner, r.ProgramOutcome root.links p inner ∧
        out = Generated.inside (.program p.name) inner) out

end Renderer

end ClientGen.Render
