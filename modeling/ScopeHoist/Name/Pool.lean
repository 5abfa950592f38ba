/-!
# Name pools

The names already taken in one program. A claim takes the wanted name when it is free and the
lowest free `name$k` otherwise; `stem` undoes one such suffix.
-/

set_option autoImplicit false

namespace ScopeHoist

def numbered (base : String) (k : Nat) : String := base ++ "$" ++ toString k

/-- The first free `base$k`, `base$(k+1)`, … among as many candidates as the last argument says,
and the one after them when all are taken. -/
def firstFree (taken : List String) (base : String) (k : Nat) : Nat → String
  | 0 => numbered base k
  | n + 1 =>
    if taken.contains (numbered base k) then firstFree taken base (k + 1) n else numbered base k

structure NamePool where
  taken : List String
  deriving Repr

/-- Among one more candidate than there are taken names one is free, so the search is bounded. -/
def NamePool.choose (pool : NamePool) (base : String) : String :=
  if pool.taken.contains base then firstFree pool.taken base 1 pool.taken.length else base

def NamePool.claim (pool : NamePool) (base : String) : String × NamePool :=
  let name := pool.choose base
  (name, ⟨name :: pool.taken⟩)

/-- Claims the lowest free `base$k`, also when the base itself is free. -/
def NamePool.claimNumbered (pool : NamePool) (base : String) : String × NamePool :=
  let name := firstFree pool.taken base 1 pool.taken.length
  (name, ⟨name :: pool.taken⟩)

def NamePool.claimAll (pool : NamePool) : List String → List String
  | [] => []
  | base :: rest => (pool.claim base).1 :: (pool.claim base).2.claimAll rest

/-- A name without one `$k` suffix; a name that is nothing but such a suffix keeps it. -/
def stem (name : String) : String :=
  let back := name.toList.reverse
  let digits := back.takeWhile Char.isDigit
  match back.dropWhile Char.isDigit with
  | '$' :: base =>
    if digits.isEmpty || base.isEmpty then name else String.ofList base.reverse
  | _ => name

end ScopeHoist
