import ScopeHoist.Path

/-!
# Settings

What a bundle run can be told, and how layers of settings go on top of each other: a layer leaves
alone what it does not mention.
-/

set_option autoImplicit false

namespace ScopeHoist

structure BundleOptions where
  minify : Bool
  treeshake : Bool
  extensions : List String
  deriving DecidableEq, Repr

def BundleOptions.standard : BundleOptions := ⟨false, true, [".js", ".mjs"]⟩

structure Settings where
  entry : Option Path
  output : Option Path
  options : BundleOptions
  deriving DecidableEq, Repr

def Settings.standard : Settings := ⟨none, none, .standard⟩

structure Layer where
  entry : Option Path
  output : Option Path
  minify : Option Bool
  treeshake : Option Bool
  extensions : Option (List String)
  deriving DecidableEq, Repr

def Layer.empty : Layer := ⟨none, none, none, none, none⟩

def Settings.overlay (settings : Settings) (layer : Layer) : Settings where
  entry := layer.entry.or settings.entry
  output := layer.output.or settings.output
  options :=
    ⟨layer.minify.getD settings.options.minify,
      layer.treeshake.getD settings.options.treeshake,
      layer.extensions.getD settings.options.extensions⟩

/-- A value that a settings file can give. -/
inductive SettingValue where
  | text (value : String)
  | flag (value : Bool)
  | texts (values : List String)
  deriving DecidableEq, Repr

/-- Sets one key; unknown keys, values of another kind and keys set before are refused. -/
def Layer.set? (layer : Layer) (key : String) (value : SettingValue) : Option Layer :=
  match key, value with
  | "entry", .text path => if layer.entry.isSome then none else some { layer with entry := path }
  | "output", .text path => if layer.output.isSome then none else some { layer with output := path }
  | "minify", .flag on => if layer.minify.isSome then none else some { layer with minify := on }
  | "treeshake", .flag on =>
    if layer.treeshake.isSome then none else some { layer with treeshake := on }
  | "extensions", .texts names =>
    if layer.extensions.isSome then none else some { layer with extensions := names }
  | _, _ => none

end ScopeHoist
