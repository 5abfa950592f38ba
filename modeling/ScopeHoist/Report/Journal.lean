/-!
# Journal

What a run notes down on its way, newest entry first.
-/

set_option autoImplicit false

namespace ScopeHoist

inductive Level where
  | trace
  | debug
  | info
  | warn
  deriving DecidableEq, Repr

def Level.name : Level → String
  | .trace => "TRACE"
  | .debug => "DEBUG"
  | .info => "INFO"
  | .warn => "WARN"

structure Remark where
  level : Level
  text : String
  deriving DecidableEq, Repr

structure Journal where
  newestFirst : List Remark
  deriving Repr

namespace Journal

def empty : Journal := ⟨[]⟩

def add (journal : Journal) (level : Level) (text : String) : Journal :=
  ⟨⟨level, text⟩ :: journal.newestFirst⟩

def remarks (journal : Journal) : List Remark := journal.newestFirst.reverse

end Journal

end ScopeHoist
