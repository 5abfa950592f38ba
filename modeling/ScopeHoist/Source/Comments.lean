/-!
# Comments

Comments are kept beside the program, each at the position that it belongs to: in front of the
token that starts there or behind the one that ends there. Printing takes them out of the table, so
that none is printed twice.
-/

set_option autoImplicit false

namespace ScopeHoist

structure Comment where
  isLine : Bool
  text : String
  deriving DecidableEq, Repr

/-- Whether the comment ends a line or holds line breaks, so that what follows it cannot stay on
the line where it starts. -/
def Comment.breaksLine (comment : Comment) : Bool :=
  comment.isLine || comment.text.toList.any fun c =>
    c == '\n' || c == '\r' || c.toNat == 0x2028 || c.toNat == 0x2029

/-- Comments by position; one position may occur more than once. -/
abbrev CommentsAt := List (Nat × List Comment)

def commentsAt (table : CommentsAt) (position : Nat) : List Comment :=
  table.flatMap fun entry => if entry.1 == position then entry.2 else []

def dropComments (table : CommentsAt) (position : Nat) : CommentsAt :=
  table.filter fun entry => entry.1 != position

structure Comments where
  leading : CommentsAt
  trailing : CommentsAt
  deriving Repr

def Comments.none : Comments := ⟨[], []⟩

def Comments.append (first second : Comments) : Comments :=
  ⟨first.leading ++ second.leading, first.trailing ++ second.trailing⟩

/-- The comments of a source that is moved behind others. -/
def Comments.moved (distance : Nat) (comments : Comments) : Comments :=
  let moved : CommentsAt → CommentsAt := List.map fun entry => (entry.1 + distance, entry.2)
  ⟨moved comments.leading, moved comments.trailing⟩

end ScopeHoist
