import JavaWeave.Syntax.Build
import JavaWeave.Syntax.Node
import JavaWeave.Text.Search
import Mathlib.Data.List.Basic

namespace JavaWeave.Syntax

namespace Node

private theorem map_walkUnder (node : Node) (ancestors : List Node) :
    (node.walkUnder ancestors).map (·.node) = node.walk.map (·.node) := by
  rw [walk, walkUnder, walkUnder]
  simp only [List.map_cons, List.map_flatMap]
  congr 1
  refine List.flatMap_congr fun child _ => ?_
  rw [map_walkUnder child.val (node :: ancestors), map_walkUnder child.val [node]]
termination_by node.size
decreasing_by all_goals exact size_lt_of_mem_children child.property

/-- All parts of a part, itself first. -/
def parts (node : Node) : List Node := node.walk.map (·.node)

theorem parts_eq (node : Node) : node.parts = node :: node.children.flatMap parts := by
  rw [parts, walk, walkUnder]
  simp only [List.map_cons, List.map_flatMap, map_walkUnder]
  congr 1
  calc node.children.attach.flatMap (fun child => child.val.parts)
      = (node.children.attach.map Subtype.val).flatMap parts := by rw [List.flatMap_map]
    _ = node.children.flatMap parts := by rw [List.attach_map_subtype_val]

end Node

end JavaWeave.Syntax
