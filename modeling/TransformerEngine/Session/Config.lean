import TransformerEngine.Compiler.OptionsText
import TransformerEngine.FileTree
import TransformerEngine.Path.Basic
import TransformerEngine.Plugin.Error

/-!
# Configuration

Where the options of a session come from: a JSON text, or a configuration file, whose
directory is the one that the module paths in it are read from.
-/

namespace TransformerEngine

/-- The options that a JSON text holds. -/
def readOptions (text : String) : Except PluginError CompilerOptions :=
  match CompilerOptions.parse text with
  | .ok options => .ok options
  | .error error => .error (.options error)

/-- The options in the configuration file at `path`, and the file's directory. -/
def readConfig (tree : FileTree) (path : String) :
    Except Failure (CompilerOptions × String) :=
  match tree.readText path with
  | .error error => .error ⟨s!"reading config file {path}", [error.message]⟩
  | .ok text =>
    match ConfigFile.parse text with
    | .error error => .error ⟨s!"parsing config file {path}", [error.message]⟩
    | .ok options => .ok (options, Path.parent path)

end TransformerEngine
