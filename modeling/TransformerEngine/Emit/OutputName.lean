import TransformerEngine.Text.Ending

/-!
# Output names

The JavaScript and declaration file names that a source file is written under. The known
extension at the end of the source name is replaced; a name without one is extended. An
output directory takes the place of the directories of the source name.
-/

namespace TransformerEngine

/-- A source extension with the extensions of its outputs. -/
structure Extension where
  /-- The extension of the source. -/
  source : String
  /-- The extension of the JavaScript output. -/
  script : String
  /-- The extension of the declaration output. -/
  declaration : String
deriving DecidableEq, Repr

namespace Extension

/-- The known source extensions; the first that fits is taken. -/
def known : List Extension := [
  ⟨".tsx", ".jsx", ".d.ts"⟩,
  ⟨".mts", ".mjs", ".d.mts"⟩,
  ⟨".cts", ".cjs", ".d.cts"⟩,
  ⟨".ts", ".js", ".d.ts"⟩,
  ⟨".jsx", ".jsx", ".d.ts"⟩,
  ⟨".js", ".js", ".d.ts"⟩]

/-- What a name without a known extension is taken to have. -/
def absent : Extension := ⟨"", ".js", ".d.ts"⟩

/-- A name cut into what stands before its extension and the extension. -/
def split (name : String) : String × Extension :=
  (known.findSome? fun e => (Text.stripEnding? name e.source).map fun stem => (stem, e)).getD
    (name, absent)

end Extension

/-- The two kinds of output. -/
inductive OutputKind where
  | script
  | declaration
deriving DecidableEq, Repr

/-- The extension of an output of a source with the given extension. -/
def OutputKind.extension (kind : OutputKind) (e : Extension) : String :=
  match kind with
  | .script => e.script
  | .declaration => e.declaration

/-- The name that the source file `name` is written under. -/
def outputName (name : String) (directory : Option String) (kind : OutputKind) : String :=
  let (stem, e) := Extension.split name
  match directory with
  | some directory =>
    Text.dropEnd '/' directory ++ "/" ++ Text.afterLast '/' stem ++ kind.extension e
  | none => stem ++ kind.extension e

end TransformerEngine
