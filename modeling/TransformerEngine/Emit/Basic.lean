import TransformerEngine.Emit.OutputName
import TransformerEngine.Emit.Transformer

/-!
# Emission

Emitting a program runs transformers over its files and writes the results. Every factory
is called once, phase by phase, before any file is touched. Then each file in turn goes
through the `before` transformers; the result goes, under its JavaScript name, through
the `after` transformers and is written; and where declarations are asked for, it also
goes, under its declaration name, through the `afterDeclarations` transformers and is
written. Output names come from the name of the source file, whatever the `before`
transformers called it.

Nothing is called and nothing is written if the options say so (`Program.skipsEmit`).
-/

namespace TransformerEngine

variable {W : Type}

/-- An emission on its way: what it tells the code it calls, and that code's world. -/
structure Stage (W : Type) where
  /-- The options, and the reports so far. -/
  context : TransformationContext
  /-- The world of the called code. -/
  world : W

/-- Make a call: its reports join the context. -/
def perform {α : Type} (call : Call W α) : StateM (Stage W) α := fun stage =>
  let reply := call stage.context stage.world
  (reply.value,
    { context :=
        { stage.context with diagnostics := stage.context.diagnostics ++ reply.reports }
      world := reply.world })

/-! ### Transformers at work -/

/-- A transformer with the files it was given so far. -/
structure ActiveTransformer (W : Type) where
  /-- The transformer. -/
  transformer : Transformer W
  /-- The files it was given, in order. -/
  seen : List SourceFile := []

/-- Hand a file to a transformer, which remembers it. -/
def ActiveTransformer.apply (active : ActiveTransformer W) (file : SourceFile) :
    StateM (Stage W) (SourceFile × ActiveTransformer W) := do
  let result ← perform (active.transformer active.seen file)
  return (result, { active with seen := active.seen ++ [file] })

/-- Call the factories in order. -/
def instantiate : List (Factory W) → StateM (Stage W) (List (ActiveTransformer W))
  | [] => return []
  | factory :: rest => do
    let transformer ← perform factory
    let others ← instantiate rest
    return { transformer } :: others

/-- Hand a file from transformer to transformer. -/
def runPhase : List (ActiveTransformer W) → SourceFile →
    StateM (Stage W) (SourceFile × List (ActiveTransformer W))
  | [], file => return (file, [])
  | active :: rest, file => do
    let (file, active) ← active.apply file
    let (file, rest) ← runPhase rest file
    return (file, active :: rest)

/-- The transformers of one emission, by phase. -/
structure ActiveGroup (W : Type) where
  /-- Transformers that run before the output is formed. -/
  before : List (ActiveTransformer W)
  /-- Transformers that run on the JavaScript output. -/
  after : List (ActiveTransformer W)
  /-- Transformers that run on the declaration output. -/
  afterDeclarations : List (ActiveTransformer W)

/-- Call all factories of a group, phase by phase. -/
def TransformerGroup.instantiate (group : TransformerGroup W) :
    StateM (Stage W) (ActiveGroup W) := do
  let before ← TransformerEngine.instantiate group.before
  let after ← TransformerEngine.instantiate group.after
  let afterDeclarations ← TransformerEngine.instantiate group.afterDeclarations
  return { before, after, afterDeclarations }

/-! ### Output -/

/-- A file that was written. -/
structure Output where
  /-- The name it was written under. -/
  name : String
  /-- Its text. -/
  text : String
deriving DecidableEq, Repr

/-- The output that a transformed file comes to: its text without blanks at the end, and
one line feed. -/
def Output.ofFile (file : SourceFile) : Output := ⟨file.name, Text.trimEnd file.text ++ "\n"⟩

/-- What is done with each output when it is written. -/
abbrev Writer (W : Type) := Output → W → W

/-- Write an output. -/
def writeOutput (write : Writer W) (output : Output) : StateM (Stage W) Unit :=
  modify fun stage => { stage with world := write output stage.world }

/-- Emit one file: its outputs, and the transformers after it. -/
def emitFile (options : CompilerOptions) (write : Writer W) (group : ActiveGroup W)
    (file : SourceFile) : StateM (Stage W) (List Output × ActiveGroup W) := do
  let (transformed, before) ← runPhase group.before file
  let scriptName := outputName file.name options.outDir .script
  let (script, after) ← runPhase group.after (transformed.withName scriptName)
  let scriptOutput := Output.ofFile script
  writeOutput write scriptOutput
  if options.declaration = some true then
    let declarationName := outputName file.name options.outDir .declaration
    let (declaration, afterDeclarations) ←
      runPhase group.afterDeclarations (transformed.withName declarationName)
    let declarationOutput := Output.ofFile declaration
    writeOutput write declarationOutput
    return ([scriptOutput, declarationOutput], { before, after, afterDeclarations })
  else
    return ([scriptOutput], { before, after, afterDeclarations := group.afterDeclarations })

/-- Emit files in order: all their outputs. -/
def emitFiles (options : CompilerOptions) (write : Writer W) :
    ActiveGroup W → List SourceFile → StateM (Stage W) (List Output)
  | _, [] => return []
  | group, file :: rest => do
    let (outputs, group) ← emitFile options write group file
    let others ← emitFiles options write group rest
    return outputs ++ others

/-- What an emission reports. -/
structure EmitResult where
  /-- Whether nothing was emitted because the options say so. -/
  skipped : Bool
  /-- The diagnostics of the program and of whatever took part. -/
  diagnostics : List Diagnostic
  /-- The names of the files written, in order. -/
  emittedFiles : List String
deriving DecidableEq

/-- The result with diagnostics from elsewhere behind its own. Both sides are kept as
they were reported. -/
def EmitResult.withDiagnostics (result : EmitResult) (reported : List Diagnostic) :
    EmitResult :=
  { result with diagnostics := result.diagnostics ++ reported }

namespace Program

/-- Whether the program's options forbid emitting it: always, or while the program itself
has diagnostics. -/
def skipsEmit (program : Program) : Bool :=
  program.options.noEmit = some true ||
    (program.options.noEmitOnError = some true && !program.diagnostics.isEmpty)

/-- The files that an emission covers: the one asked for, or all that do not only hold
declarations. -/
def emittedSources (program : Program) : Option SourceFile → List SourceFile
  | some file => [file]
  | none => program.files.filter fun file => !file.isDeclaration

/-- Emit, with the outputs beside the result. The result has the program's own
diagnostics; what transformers report stays in the context. -/
def emitOutputs (program : Program) (target : Option SourceFile) (group : TransformerGroup W)
    (write : Writer W) : StateM (Stage W) (EmitResult × List Output) := do
  if program.skipsEmit then return (⟨true, program.diagnostics, []⟩, [])
  else
    let active ← group.instantiate
    let outputs ← emitFiles program.options write active (program.emittedSources target)
    return (⟨false, program.diagnostics, outputs.map Output.name⟩, outputs)

/-- The context that a program is emitted in, unless another is given. -/
def newContext (program : Program) : TransformationContext := { options := program.options }

/-- Emit the program, or the one file asked for, in a context of its own: the result, what
transformers reported, and their world. -/
def emit (program : Program) (target : Option SourceFile) (group : TransformerGroup W)
    (write : Writer W) (world : W) : EmitResult × List Diagnostic × W :=
  let (result, stage) :=
    (program.emitOutputs target group write).run { context := program.newContext, world }
  (result.1, stage.context.diagnostics, stage.world)

end Program

end TransformerEngine
