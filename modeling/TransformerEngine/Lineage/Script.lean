import TransformerEngine.Lineage.Basic
import TransformerEngine.Plugin.Error

/-!
# Scripts of program transforms

What a program transform does is a `Script`: a tree of the steps that it takes through
its context, each with what it does next for every answer it may get. A script ends by
yielding a value or by failing. Steps that concern something outside this library go
through a world `W` of the transform's own.

A script is finite, and so is every run of it; only `derive` reaches other transforms.
-/

namespace TransformerEngine

/-- One application of a program transform. -/
structure Invocation where
  /-- The program to transform. -/
  input : Program
  /-- Which transform this is. -/
  identity : TransformIdentity
  /-- The entry that configured it. -/
  config : Json

/-- What a program transform does. -/
inductive Script (W α : Type) where
  /-- Yield a value. -/
  | done (value : α)
  /-- Fail. -/
  | fail (failure : Failure)
  /-- Hand the programs derived from now on a file. -/
  | addFile (name text : String) (next : Script W α)
  /-- Report a diagnostic. -/
  | report (d : Diagnostic) (next : Script W α)
  /-- Ask for the root names that the line of the input started from. -/
  | originRoots (next : List String → Script W α)
  /-- Derive a program from the input, with its options, and let the transforms that it
  has not been through transform it. -/
  | derive (roots : List String) (next : Except PluginError Program → Script W α)
  /-- Make a program of the same files that belongs to no line. -/
  | build (roots : List String) (options : CompilerOptions) (next : Program → Script W α)
  /-- Look at the files that derived programs are made from. -/
  | files (next : MemoryHost → Script W α)
  /-- Look at the world. -/
  | readWorld (next : W → Script W α)
  /-- Change the world. -/
  | writeWorld (world : W) (next : Script W α)

namespace Script

variable {W α β : Type}

/-- Go on with what a script yields. -/
def bind (script : Script W α) (f : α → Script W β) : Script W β :=
  match script with
  | done value => f value
  | fail failure => fail failure
  | addFile name text next => addFile name text (next.bind f)
  | report d next => report d (next.bind f)
  | originRoots next => originRoots fun roots => (next roots).bind f
  | derive roots next => derive roots fun result => (next result).bind f
  | build roots options next => build roots options fun program => (next program).bind f
  | files next => files fun host => (next host).bind f
  | readWorld next => readWorld fun world => (next world).bind f
  | writeWorld world next => writeWorld world (next.bind f)

instance : Monad (Script W) where
  pure := done
  bind := bind

/-- Derive a program and pass a plugin error on as this script's own failure. -/
def deriveOrFail (roots : List String) : Script W Program :=
  derive roots fun
    | .ok program => done program
    | .error error => fail error.toFailure

/-- Change the world. -/
def modifyWorld (f : W → W) : Script W Unit :=
  readWorld fun world => writeWorld (f world) (done ())

@[simp] theorem done_bind (value : α) (f : α → Script W β) : (done value).bind f = f value := rfl

theorem bind_done (script : Script W α) : script.bind done = script := by
  induction script <;> simp_all [bind]

theorem bind_assoc {γ : Type} (script : Script W α) (f : α → Script W β) (g : β → Script W γ) :
    (script.bind f).bind g = script.bind fun a => (f a).bind g := by
  induction script <;> simp_all [bind]

end Script

/-- A transform of whole programs. -/
abbrev ProgramTransform (W : Type) := Invocation → Script W Program

end TransformerEngine
