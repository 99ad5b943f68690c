import TransformerEngine.Compiler.ScriptTarget
import TransformerEngine.Text.Ending

/-!
# Source files

A source file as transformers see it: a name, the whole text, and the language version it
was read for. Files are values; changing one gives another.
-/

namespace TransformerEngine

/-- A file with its text. -/
structure SourceFile where
  /-- The name under which the file is compiled. -/
  name : String
  /-- The whole text. -/
  text : String
  /-- The language version the file was read for. -/
  version : ScriptTarget
deriving DecidableEq, Repr, Inhabited

namespace SourceFile

/-- The endings that mark a file of declarations only. -/
def declarationEndings : List String := [".d.ts", ".d.mts", ".d.cts"]

/-- Whether a file of this name holds declarations only. -/
def isDeclarationName (name : String) : Bool :=
  declarationEndings.any (Text.hasEnding name)

/-- Whether the file holds declarations only. -/
def isDeclaration (file : SourceFile) : Bool := isDeclarationName file.name

/-- The file with another text. -/
def withText (file : SourceFile) (text : String) : SourceFile := { file with text }

/-- The file under another name. -/
def withName (file : SourceFile) (name : String) : SourceFile := { file with name }

end SourceFile

end TransformerEngine
