import ScopeHoist.Tree.Pattern

/-!
# Frames

The scopes around a place in a module, innermost first, with the names that each declares. A frame
gets its scope when the first identifier or block is found to belong to it, so nested scopes are
numbered in the order in which they come up.
-/

set_option autoImplicit false

namespace ScopeHoist

structure Frame where
  isFunction : Bool
  names : List String
  scope : Option Scope

def Frame.declares (frame : Frame) (name : String) : Bool := frame.names.contains name

structure Frames where
  frames : List Frame
  /-- Nested scopes numbered so far. -/
  count : Nat
  /-- Identifiers whose scope is settled ahead of their turn, by where they stand. -/
  settled : List (Nat × Scope)

def Frames.ofModule : Frames := ⟨[⟨true, [], some .module⟩], 0, []⟩

abbrev Resolving := StateM Frames

namespace Resolving

/-- The scope of the frame so many frames out. -/
def scopeAt (index : Nat) : Resolving Scope := do
  let state ← get
  match state.frames[index]? with
  | some frame =>
    match frame.scope with
    | some scope => return scope
    | none =>
      let scope := Scope.nested state.count
      set { state with
        frames := state.frames.set index { frame with scope := some scope }
        count := state.count + 1 }
      return scope
  | none => return .free

/-- Gives the innermost frame its scope. -/
def touch : Resolving Unit := do
  let _ ← scopeAt 0

def declare (name : String) : Resolving Unit :=
  modify fun state =>
    match state.frames with
    | frame :: outer =>
      { state with frames := { frame with names := name :: frame.names } :: outer }
    | [] => state

/-- Runs an action inside a new frame. -/
def inFrame {α : Type} (isFunction : Bool) (action : Resolving α) : Resolving α := do
  modify fun state => { state with frames := ⟨isFunction, [], none⟩ :: state.frames }
  let result ← action
  modify fun state => { state with frames := state.frames.drop 1 }
  return result

def settled? (id : Ident) : Resolving (Option Scope) :=
  return ((← get).settled.find? fun entry => entry.1 == id.span.lo).map Prod.snd

/-- Declares an identifier in the innermost frame, unless its scope is settled. -/
def bind (id : Ident) : Resolving Ident := do
  match ← settled? id with
  | some scope => return { id with scope }
  | none =>
    declare id.name
    return { id with scope := ← scopeAt 0 }

/-- Declares an identifier in the innermost frame ahead of its turn. -/
def settle (id : Ident) : Resolving Unit := do
  if (← settled? id).isNone then
    let bound ← bind id
    modify fun state => { state with settled := (id.span.lo, bound.scope) :: state.settled }

/-- How many frames out a name is declared. -/
def depthOf? (name : String) (frames : List Frame) : Option Nat :=
  frames.findIdx? fun frame => frame.declares name

/-- Names of fixed values that a declaration at the top level does not take over. -/
def fixedValues : List String := ["undefined", "NaN", "Infinity"]

/-- The scope that a name is looked up in. -/
def refer (id : Ident) : Resolving Ident := do
  match depthOf? id.name (← get).frames with
  | none => return { id with scope := .free }
  | some depth =>
    let scope ← scopeAt depth
    if scope == .module && fixedValues.contains id.name then return { id with scope := .free }
    else return { id with scope }

/-- The frames up to the function around a place. -/
def functionFrames : List Frame → List Frame
  | [] => []
  | frame :: outer => if frame.isFunction then [frame] else frame :: functionFrames outer

/-- Whether a name is declared in the function around the place. -/
def isDeclaredNear (name : String) : Resolving Bool :=
  return (functionFrames (← get).frames).any fun frame => frame.declares name

end Resolving

end ScopeHoist
