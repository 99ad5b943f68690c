import TransformerEngine.Json.Issue
import TransformerEngine.Plugin.Kind

/-!
# Plugin errors

A `Failure` is an error with the chain of errors that led to it, outermost first. A
`PluginError` is what can go wrong with a plugin; a failure that a program transform came
back with is passed on as it is. Whatever a plugin error says it still says as a failure
(`PluginError.toFailure`), so passing one through any number of transforms changes
neither its message nor its causes.
-/

namespace TransformerEngine

/-- An error and what caused it. -/
structure Failure where
  /-- What went wrong. -/
  message : String
  /-- The causes, each the cause of the one before it. -/
  causes : List String := []
deriving DecidableEq, Repr, Inhabited

/-- The failure seen from outside: `message` becomes what went wrong, and what was said
before its cause. -/
def Failure.within (failure : Failure) (message : String) : Failure :=
  ⟨message, failure.message :: failure.causes⟩

/-- What can go wrong with a plugin. -/
inductive PluginError where
  /-- There is no such module. -/
  | transformLoad (module : String)
  /-- The module has no such export. -/
  | transformExport (module exportName : String)
  /-- The export cannot be called the way the kind asks for. -/
  | incompatibleExport (module exportName : String) (kind : PluginKind)
  /-- An entry is meant to be a transform and cannot be read. -/
  | malformedEntry (index : Nat) (reason : String)
  /-- The compiler options cannot be read. -/
  | options (error : Json.ReadError)
  /-- A program transform failed. -/
  | transformer (failure : Failure)
deriving DecidableEq, Repr

namespace PluginError

/-- The error in words. -/
def message : PluginError → String
  | transformLoad module => s!"Cannot load transform module '{module}'"
  | transformExport module exportName =>
    s!"Transform module '{module}' has no export named '{exportName}'"
  | incompatibleExport module exportName kind =>
    s!"Export '{exportName}' of transform module '{module}' " ++
      s!"cannot be used as a '{kind.name}' transformer"
  | malformedEntry index reason => s!"Malformed plugin entry at index {index}: {reason}"
  | options error => s!"Invalid compiler options: {error.message}"
  | transformer failure => failure.message

/-- What led to the error, each the cause of the one before it. -/
def causes : PluginError → List String
  | options error => [error.message]
  | transformer failure => failure.causes
  | _ => []

/-- The module that the error is about, if it is about one. -/
def module? : PluginError → Option String
  | transformLoad module => some module
  | transformExport module _ => some module
  | incompatibleExport module _ _ => some module
  | _ => none

/-- The error as a failure. -/
def toFailure (error : PluginError) : Failure := ⟨error.message, error.causes⟩

@[simp] theorem toFailure_transformer (failure : Failure) :
    (transformer failure).toFailure = failure := rfl

end PluginError

end TransformerEngine
