import ScopeHoist.Bundle
import ScopeHoist.CommandLine.Arguments
import ScopeHoist.Config.Load

/-!
# The command

What a command line does to a file tree, and what it says. Arguments go on top of the settings.
-/

set_option autoImplicit false

namespace ScopeHoist

/-- What a command leaves behind. -/
structure Outcome where
  exitCode : Nat
  output : String
  complaint : String
  /-- Statistics that are asked for. -/
  stats : Option Stats
  verbosity : Nat
  journal : Journal
  tree : FileTree

/-- A failure told with what lies behind it, outermost first. -/
structure Failure where
  context : String
  causes : List String
  deriving DecidableEq, Repr

namespace Failure

/-- A text with its first line behind a mark, and the others moved in as far. -/
def marked (mark : String) (text : String) : String :=
  ("\n" ++ "".pushn ' ' mark.length).intercalate (text.splitOn "\n") |> (mark ++ ·)

def causeLines (causes : List String) : List String :=
  match causes with
  | [cause] => [marked "    " cause]
  | _ => causes.zipIdx.map fun cause => marked ("    " ++ toString cause.2 ++ ": ") cause.1

def report (failure : Failure) : String :=
  let lines := ["Error: " ++ failure.context]
    ++ if failure.causes.isEmpty then []
      else ["", "Caused by:"] ++ causeLines failure.causes
  "\n".intercalate lines ++ "\n"

end Failure

def BundleError.causes (error : BundleError) : List String :=
  match error with
  | .access _ problem => [error.message, problem.message]
  | _ => [error.message]

def SettingsError.failure (error : SettingsError) : Failure :=
  ⟨"Failed to load configuration", error.message :: error.causes⟩

def missingEntry : Failure :=
  ⟨"No entry module given; pass one or set \x60entry\x60 in rebundle.toml", []⟩

def BundleError.failure (entry : Path) (error : BundleError) : Failure :=
  ⟨"Failed to bundle " ++ entry, error.causes⟩

/-- The settings with the arguments on top. -/
def Arguments.overlay (arguments : Arguments) (settings : Settings) : Settings :=
  settings.overlay
    ⟨arguments.entry, arguments.output, if arguments.minify then some true else none,
      if arguments.keepUnused then some false else none, none⟩

namespace Outcome

/-- A command that only says something. -/
def saying (tree : FileTree) (text : String) : Outcome := ⟨0, text, "", none, 0, .empty, tree⟩

def misuse (tree : FileTree) (fault : UsageFault) : Outcome :=
  ⟨2, "", fault.message, none, 0, .empty, tree⟩

def failed (tree : FileTree) (verbosity : Nat) (journal : Journal) (failure : Failure) : Outcome :=
  ⟨1, "", failure.report, none, verbosity, journal, tree⟩

/-- Bundles as the settings say; without an output file the code is said. -/
def ofSettings (tree : FileTree) (arguments : Arguments) (settings : Settings) : Outcome :=
  match settings.entry with
  | none => failed tree arguments.verbosity .empty missingEntry
  | some entry =>
    let run := bundle tree entry settings.output settings.options
    match run.outcome with
    | .error error => failed run.tree arguments.verbosity run.journal (error.failure entry)
    | .ok bundle =>
      ⟨0, if settings.output.isNone then bundle.code else "", "",
        if arguments.stats then some bundle.stats else none, arguments.verbosity, run.journal,
        run.tree⟩

def ofArguments (tree : FileTree) (userFile : Option Path) (environment : Environment)
    (arguments : Arguments) : Outcome :=
  match Settings.load tree userFile arguments.config environment with
  | .error error => failed tree arguments.verbosity .empty error.failure
  | .ok settings => ofSettings tree arguments (arguments.overlay settings)

end Outcome

/-- Runs a command line. -/
def runCommand (tree : FileTree) (userFile : Option Path) (environment : Environment)
    (arguments : List String) : Outcome :=
  match Request.ofArguments arguments with
  | .error fault => .misuse tree fault
  | .ok .help => .saying tree ("\n".intercalate helpLines ++ "\n")
  | .ok .version => .saying tree (versionLine ++ "\n")
  | .ok (.bundle arguments) => .ofArguments tree userFile environment arguments

/-- Whether a remark is told at some verbosity. -/
def Remark.isTold (verbosity : Nat) (remark : Remark) : Bool :=
  match remark.level with
  | .warn | .info => true
  | .debug => verbosity ≥ 1
  | .trace => verbosity ≥ 2

/-- The remarks that are told, a line each. -/
def Outcome.remarkLines (outcome : Outcome) : List String :=
  (outcome.journal.remarks.filter (Remark.isTold outcome.verbosity)).map fun remark =>
    "[" ++ remark.level.name ++ "] " ++ remark.text

end ScopeHoist
