import TransformerEngine.Compiler.Program

/-!
# Transformers

A `Transformer` changes source files one at a time while a program is emitted, and a
`Factory` makes one for one emission. Both are calls into code that this library does not
know: a `Call` sees the emission's options and the diagnostics reported so far, it may
report more, and it may change a world `W` of its own. It can neither take a report back
nor change the options.

A transformer may remember the files it was given; so that it stays a function, it is
handed them again with each new one.
-/

namespace TransformerEngine

/-- What an emission tells the code it calls. -/
structure TransformationContext where
  /-- The options of the emission. -/
  options : CompilerOptions
  /-- What has been reported so far, in order. -/
  diagnostics : List Diagnostic := []

/-- The context with one more report. -/
def TransformationContext.report (context : TransformationContext) (d : Diagnostic) :
    TransformationContext :=
  { context with diagnostics := context.diagnostics ++ [d] }

/-- What a call comes back with. -/
structure Reply (W α : Type) where
  /-- The result. -/
  value : α
  /-- What the call reported, in order. -/
  reports : List Diagnostic
  /-- The world afterwards. -/
  world : W

/-- A call into code outside this library. -/
abbrev Call (W α : Type) := TransformationContext → W → Reply W α

/-- Turns a file into another. The files that it was handed before come first, in order. -/
abbrev Transformer (W : Type) := List SourceFile → SourceFile → Call W SourceFile

/-- Makes a transformer for one emission. -/
abbrev Factory (W : Type) := Call W (Transformer W)

/-! ### Phases -/

/-- When a transformer runs on a file: before the output is formed, on the JavaScript
output, or on the declaration output. -/
inductive Phase where
  | before
  | after
  | afterDeclarations
deriving DecidableEq, Repr, Inhabited

namespace Phase

/-- The phases, in the order in which their factories are called. -/
def all : List Phase := [before, after, afterDeclarations]

/-- The phase as it is written. -/
def name : Phase → String
  | before => "before"
  | after => "after"
  | afterDeclarations => "afterDeclarations"

/-- The phase that is written as `text`. -/
def ofName? (text : String) : Option Phase := all.find? fun phase => phase.name = text

end Phase

/-- The factories of one emission, by phase. -/
structure TransformerGroup (W : Type) where
  /-- Factories of transformers that run before the output is formed. -/
  before : List (Factory W) := []
  /-- Factories of transformers that run on the JavaScript output. -/
  after : List (Factory W) := []
  /-- Factories of transformers that run on the declaration output. -/
  afterDeclarations : List (Factory W) := []

namespace TransformerGroup

variable {W : Type}

/-- The factories of a phase. -/
def phase (group : TransformerGroup W) : Phase → List (Factory W)
  | .before => group.before
  | .after => group.after
  | .afterDeclarations => group.afterDeclarations

/-- The group with factories appended to a phase. -/
def append (group : TransformerGroup W) (phase : Phase) (factories : List (Factory W)) :
    TransformerGroup W :=
  match phase with
  | .before => { group with before := group.before ++ factories }
  | .after => { group with after := group.after ++ factories }
  | .afterDeclarations =>
    { group with afterDeclarations := group.afterDeclarations ++ factories }

/-- How many factories the group has. -/
def size (group : TransformerGroup W) : Nat :=
  group.before.length + group.after.length + group.afterDeclarations.length

/-- Whether the group has no factory. -/
def isEmpty (group : TransformerGroup W) : Bool :=
  group.before.isEmpty && group.after.isEmpty && group.afterDeclarations.isEmpty

/-- The size of each phase in words, under a name for the group. -/
def describe (group : TransformerGroup W) (label : String) : String :=
  s!"{label} \x7b before: {group.before.length}, after: {group.after.length}, " ++
    s!"after_declarations: {group.afterDeclarations.length} \x7d"

@[simp] theorem phase_append (group : TransformerGroup W) (p q : Phase)
    (factories : List (Factory W)) :
    (group.append p factories).phase q =
      if p = q then group.phase q ++ factories else group.phase q := by
  cases p <;> cases q <;> rfl

theorem isEmpty_iff (group : TransformerGroup W) : group.isEmpty = true ↔ group.size = 0 := by
  obtain ⟨before, after, afterDeclarations⟩ := group
  cases before <;> cases after <;> cases afterDeclarations <;> simp [isEmpty, size]

end TransformerGroup

end TransformerEngine
