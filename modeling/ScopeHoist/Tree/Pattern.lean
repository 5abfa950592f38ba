import ScopeHoist.Tree.Basic

/-!
# Patterns

The identifiers that a pattern binds, from left to right. Keys, defaults and expressions in a
pattern bind nothing.
-/

set_option autoImplicit false

namespace ScopeHoist

mutual
def patternIdents : Tree → List Ident
  | .ident id => [id]
  | .node .arrayPattern _ elements => patternListIdents elements
  | .node .objectPattern _ properties => patternListIdents properties
  | .node .property _ [_, value] => patternIdents value
  | .node .shorthandPattern _ (name :: _) => patternIdents name
  | .node .shorthand _ (name :: _) => patternIdents name
  | .node .defaulted _ (pattern :: _) => patternIdents pattern
  | .node .rest _ [pattern] => patternIdents pattern
  | _ => []

def patternListIdents : List Tree → List Ident
  | [] => []
  | pattern :: rest => patternIdents pattern ++ patternListIdents rest
end

end ScopeHoist
