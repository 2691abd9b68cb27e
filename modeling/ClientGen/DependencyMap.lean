import ClientGen.Yaml.Record
/-!
# Dependency maps

Paths that are included, each with the path that is included in its place, in the order of the
former.
-/
namespace ClientGen

/-- Included paths and what is included in their place. -/
abbrev DependencyMap := List (String × String)

namespace DependencyMap

/-- Sets the entry of a path, in place of the one that was set. -/
def set (map : DependencyMap) (source target : String) : DependencyMap :=
  match map with
  | [] => [(source, target)]
  | entry :: rest =>
    if entry.1 == source then (source, target) :: rest
    else if source < entry.1 then (source, target) :: entry :: rest
    else entry :: set rest source target

/-- Reads an entry from a record; a missing value is an empty text. -/
def readEntry (map : DependencyMap) (source : String) (node : Yaml.Node) : Option DependencyMap :=
  node.asText.map fun target => map.set source (target.getD "")

end DependencyMap

end ClientGen
