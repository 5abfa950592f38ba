import ScopeHoist.Path

/-!
# Arguments

What the words of a command line ask for. Short switches can share one word, and a switch that
takes a value can have it attached or as the next word. After `--` no word is a switch. Everything
but the verbosity can be given once.
-/

set_option autoImplicit false

namespace ScopeHoist

structure Arguments where
  entry : Option Path
  output : Option Path
  config : Option Path
  minify : Bool
  keepUnused : Bool
  stats : Bool
  verbosity : Nat
  deriving DecidableEq, Repr

def Arguments.empty : Arguments := ⟨none, none, none, false, false, false, 0⟩

inductive Switch where
  | output
  | config
  | minify
  | keepUnused
  | stats
  | verbose
  | help
  | version
  deriving DecidableEq, Repr

namespace Switch

def longName : Switch → String
  | .output => "output"
  | .config => "config"
  | .minify => "minify"
  | .keepUnused => "no-treeshake"
  | .stats => "stats"
  | .verbose => "verbose"
  | .help => "help"
  | .version => "version"

def all : List Switch :=
  [.output, .config, .minify, .keepUnused, .stats, .verbose, .help, .version]

def ofLong? (name : String) : Option Switch := all.find? fun switch => switch.longName == name

def ofShort? : Char → Option Switch
  | 'o' => some .output
  | 'v' => some .verbose
  | 'h' => some .help
  | 'V' => some .version
  | _ => none

def takesValue : Switch → Bool
  | .output | .config => true
  | _ => false

def title (switch : Switch) : String := "--" ++ switch.longName

end Switch

/-- A part of a command line. -/
inductive Word where
  | value (text : String)
  | switch (switch : Switch) (attached : Option String)
  | unknown (text : String)
  /-- The end of the switches. -/
  | escape
  deriving DecidableEq, Repr

namespace Word

/-- The rest of a word of short switches, as the value of the last of them. -/
def attachedText : List Char → Option String
  | [] => none
  | '=' :: rest => some (String.ofList rest)
  | chars => some (String.ofList chars)

def ofShort : List Char → List Word
  | [] => []
  | c :: rest =>
    match Switch.ofShort? c with
    | none => [.unknown (String.ofList ['-', c])]
    | some found =>
      if found.takesValue then [.switch found (attachedText rest)]
      else .switch found none :: ofShort rest

def ofLong (chars : List Char) : Word :=
  let name := String.ofList (chars.takeWhile (· != '='))
  let attached :=
    match chars.dropWhile (· != '=') with
    | '=' :: text => some (String.ofList text)
    | _ => none
  match Switch.ofLong? name with
  | some found => .switch found attached
  | none => .unknown ("--" ++ name)

def ofArgument (argument : String) : List Word :=
  match argument.toList with
  | '-' :: '-' :: rest => [ofLong rest]
  | ['-'] => [.value argument]
  | '-' :: rest => ofShort rest
  | _ => [.value argument]

def ofArguments : List String → List Word
  | [] => []
  | "--" :: rest => .escape :: rest.map .value
  | argument :: rest => ofArgument argument ++ ofArguments rest

end Word

inductive UsageFault where
  | unexpected (text : String)
  | repeated (switch : Switch)
  | missingValue (switch : Switch)
  | surplusValue (switch : Switch) (text : String)
  | emptyValue (title : String)
  deriving DecidableEq, Repr

inductive Request where
  | bundle (arguments : Arguments)
  | help
  | version
  deriving DecidableEq, Repr

namespace Arguments

def setEntry (arguments : Arguments) (text : String) : Except UsageFault Arguments :=
  if arguments.entry.isSome then .error (.unexpected text)
  else if text.isEmpty then .error (.emptyValue "[ENTRY]")
  else .ok { arguments with entry := text }

def setValue (arguments : Arguments) (switch : Switch) (text : String) :
    Except UsageFault Arguments :=
  if text.isEmpty then .error (.emptyValue switch.title)
  else
    match switch with
    | .output =>
      if arguments.output.isSome then .error (.repeated switch)
      else .ok { arguments with output := text }
    | .config =>
      if arguments.config.isSome then .error (.repeated switch)
      else .ok { arguments with config := text }
    | _ => .error (.surplusValue switch text)

def setFlag (arguments : Arguments) (switch : Switch) : Except UsageFault Arguments :=
  match switch with
  | .minify =>
    if arguments.minify then .error (.repeated switch) else .ok { arguments with minify := true }
  | .keepUnused =>
    if arguments.keepUnused then .error (.repeated switch)
    else .ok { arguments with keepUnused := true }
  | .stats =>
    if arguments.stats then .error (.repeated switch) else .ok { arguments with stats := true }
  | .verbose => .ok { arguments with verbosity := arguments.verbosity + 1 }
  | _ => .ok arguments

end Arguments

/-- What the words still to come ask for, given what those before set. -/
def Request.ofWords (arguments : Arguments) : List Word → Except UsageFault Request
  | [] => .ok (.bundle arguments)
  | .escape :: rest => Request.ofWords arguments rest
  | .unknown text :: _ => .error (.unexpected text)
  | .value text :: rest => do Request.ofWords (← arguments.setEntry text) rest
  | .switch switch (some text) :: rest =>
    if switch.takesValue then do Request.ofWords (← arguments.setValue switch text) rest
    else .error (.surplusValue switch text)
  | .switch .help none :: _ => .ok .help
  | .switch .version none :: _ => .ok .version
  | .switch switch none :: rest =>
    if switch.takesValue then
      match rest with
      | .value text :: rest => do Request.ofWords (← arguments.setValue switch text) rest
      | _ => .error (.missingValue switch)
    else do Request.ofWords (← arguments.setFlag switch) rest

def Request.ofArguments (arguments : List String) : Except UsageFault Request :=
  Request.ofWords .empty (Word.ofArguments arguments)

def usageLine : String := "Usage: rebundle [OPTIONS] [ENTRY]"

def UsageFault.text : UsageFault → String
  | .unexpected text => "unexpected argument '" ++ text ++ "' found"
  | .repeated switch => "the argument '" ++ switch.title ++ "' cannot be used multiple times"
  | .missingValue switch =>
    "a value is required for '" ++ switch.title ++ "' but none was supplied"
  | .surplusValue switch text =>
    "unexpected value '" ++ text ++ "' for '" ++ switch.title ++ "' found; no more were expected"
  | .emptyValue title => "a value is required for '" ++ title ++ "' but none was supplied"

def UsageFault.message (fault : UsageFault) : String :=
  "error: " ++ fault.text ++ "\n\n" ++ usageLine ++ "\n\nFor more information, try '--help'.\n"

def helpLines : List String := [
  "Bundle an ES module graph into a single scope-hoisted file",
  "",
  usageLine,
  "",
  "Arguments:",
  "  [ENTRY]  Entry module; falls back to \x60entry\x60 from the config file",
  "",
  "Options:",
  "  -o, --output <OUTPUT>  Output file; the bundle goes to stdout when omitted",
  "      --minify           Print compact output without comments",
  "      --no-treeshake     Keep unused declarations and exports",
  "      --config <CONFIG>  Config file to use instead of ./rebundle.toml",
  "      --stats            Print bundle statistics to stderr",
  "  -v, --verbose...       Increase log verbosity (-v debug, -vv trace)",
  "  -h, --help             Print help",
  "  -V, --version          Print version"]

def versionLine : String := "rebundle 0.1.0"

end ScopeHoist
