import Switchyard.Pattern.Parser
import Switchyard.Pattern.Search
import Switchyard.Pattern.Size

/-! Patterns: what can be searched for in a text. -/

namespace Switchyard

structure Pattern where
  node : Pattern.Node CharSet Pattern.Place

namespace Pattern

/-- Reads a pattern. One that is badly written, has no meaning in texts or would
be too large is none. -/
def compile? (source : String) : Option Pattern :=
  match Tree.parse source with
  | none => none
  | some tree =>
    match tree.node? {} with
    | none => none
    | some (node, _) =>
      if (node.map setSize id).size ≤ sizeLimit then some ⟨node⟩ else none

def occursIn (p : Pattern) (text : String) : Bool := p.node.occursIn text.toList

end Pattern

end Switchyard
