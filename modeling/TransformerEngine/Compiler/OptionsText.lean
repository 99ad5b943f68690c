import TransformerEngine.Compiler.Options
import TransformerEngine.Json.Skip

/-!
# Compiler options as text

Reading options from JSON text member by member, so that the first thing wrong with the
text is the error reported, in the place where it is. A value of the wrong type is
refused behind the value; a container of the wrong type is refused in front of it,
unread. A repeated known key and an unknown target are reported where the object ends.

A configuration file holds options under one key. It may also be written as a list of
one item.
-/

namespace TransformerEngine

open Json (Reader Issue Found)
open Json.Reader

namespace CompilerOptions

/-- Refuse the container that comes next, unread, where `expected` is asked for. -/
def refuseContainer {α : Type} (expected : String) (bracket : Char) : Reader α :=
  failHere (.wrongType (if bracket = '[' then Found.sequence else Found.map) expected)

/-- Refuse the value that comes next; one that is no container is read first. -/
def refuse {α : Type} (expected : String) : Reader α := do
  let value ← scalarOr (refuseContainer expected)
  failHere (.wrongType (.ofJson value) expected)

/-- A result, or its issue at this place; an issue that only the value's own type knows is
left to the object around it. -/
def accept {α : Type} : Except Issue α → Reader α
  | .ok a => pure a
  | .error (.refused reason) => failPending (.refused reason)
  | .error issue => failHere issue

/-- A value other than a container. -/
def scalar (expected : String) : Reader Json := scalarOr (refuseContainer expected)

/-- A list of values that `item` reads, or a value that is no container. -/
def listOrScalar (item : Reader Json) : Reader Json := do
  if (← skipBlanks) = some '[' then do
    advance
    .array <$> items item
  else scalar "a sequence"

/-- An item of a list of texts. -/
def textItem : Reader Json := do
  let value ← scalar "a string"
  let text ← accept (readText value)
  return .string text

/-- The value of the known option `key`. Containers that are kept as written nest at most
`depth` deep. -/
def fieldValue (depth : Nat) : OptionKey → Reader Json
  | .target | .outDir | .rootDir => scalar "a string"
  | .declaration | .noEmit | .noEmitOnError | .noLib | .noResolve => scalar "a boolean"
  | .lib | .types => listOrScalar textItem
  | .plugins => listOrScalar (value (depth - 1))

/-- The value of the option `key`, known or not. -/
def optionValue (depth : Nat) (key : String) : Reader Json :=
  match OptionKey.ofName? key with
  | some known => fieldValue depth known
  | none => value depth

/-- One member, from behind its key. -/
def optionMember (depth : Nat) (draft : OptionsDraft) (key : String) : Reader OptionsDraft := do
  match draft.permit key with
  | .error issue => failPending issue
  | .ok () =>
    colon
    let value ← optionValue depth key
    accept (draft.put key value)

/-- Options, in an object in whose values containers nest at most `depth` deep. -/
def reader (depth : Nat) : Reader CompilerOptions := do
  if (← skipBlanks) = some '{' then do
    advance
    let draft ← Json.Reader.members ({} : OptionsDraft) (optionMember depth)
    return draft.options
  else refuse "struct CompilerOptions"

/-- The options that `text` is the text of. -/
def parse (text : String) : Except Json.ReadError CompilerOptions :=
  (reader (maxDepth - 1)).run text

end CompilerOptions

namespace ConfigFile

/-- The key of the options in a configuration file. -/
def optionsKey : String := "compilerOptions"

/-- How deep containers may nest in the values of the options. -/
def optionsDepth : Nat := maxDepth - 2

/-- One member of a configuration file, from behind its key. Only the options are
read. -/
def member (found : Option CompilerOptions) (key : String) : Reader (Option CompilerOptions) := do
  if key = optionsKey then
    if found.isSome then failPending (.duplicateField key)
    else do
      colon
      some <$> CompilerOptions.reader optionsDepth
  else do
    colon
    skipValue
    return found

/-- The end of a list of one item. -/
def listEnd : Reader Unit := do
  match ← skipBlanks with
  | some ']' => advance
  | some ',' => do
    advance
    if (← skipBlanks) = some ']' then failNext .trailingComma else failNext .trailingCharacters
  | some _ => failNext .trailingCharacters
  | none => failNext (.unexpectedEnd .list)

/-- A configuration file: an object, or a list whose item is the options. -/
def reader : Reader CompilerOptions := do
  match ← skipBlanks with
  | some '{' => do
    advance
    let found ← Json.Reader.members none member
    return found.getD {}
  | some '[' => do
    advance
    match ← skipBlanks with
    | none => failNext (.unexpectedEnd .list)
    | some ']' => do
      advance
      return {}
    | some _ => do
      let options ← CompilerOptions.reader optionsDepth
      listEnd
      return options
  | _ => CompilerOptions.refuse "struct ConfigFile"

/-- The options in the configuration file that `text` is the text of. -/
def parse (text : String) : Except Json.ReadError CompilerOptions := reader.run text

end ConfigFile

end TransformerEngine
