import TransformerEngine.Emit.Basic

/-!
# Transpiling one module

A single text is compiled as a program of one file, read from a host that holds nothing
else. Options that could keep its output from being written are left out. Of what is
written, the last file that is no source map is the output.
-/

namespace TransformerEngine

variable {W : Type}

/-- What to transpile, and how. -/
structure TranspileRequest (W : Type) where
  /-- The text of the module. -/
  input : String
  /-- The options. -/
  options : CompilerOptions := {}
  /-- The name of the module, if it matters. -/
  fileName : Option String := none
  /-- The caller's transformers. -/
  transformers : TransformerGroup W := {}

/-- What transpiling comes to. -/
structure Transpiled where
  /-- The JavaScript text. -/
  text : String
  /-- The diagnostics. -/
  diagnostics : List Diagnostic
deriving DecidableEq

namespace TranspileRequest

/-- The name of a module without one. -/
def defaultName : String := "module.ts"

/-- The options of the program: nothing outside the module is looked at, and nothing keeps
its output from being written. -/
def programOptions (request : TranspileRequest W) : CompilerOptions :=
  { request.options with
    noResolve := some true
    noLib := some true
    declaration := none
    noEmit := none
    noEmitOnError := none }

/-- The program of the one module, with the number `id`. -/
def program (request : TranspileRequest W) (id : ProgramId) : Program :=
  let name := request.fileName.getD defaultName
  let host := MemoryHost.write { currentDirectory := "/" } name request.input
  Program.create [name] request.programOptions host.toHost id

end TranspileRequest

/-- The text of the last output that is no source map, empty if there is none. -/
def lastScript (outputs : List Output) : String :=
  match (outputs.filter fun output => !Text.hasEnding output.name ".map").getLast? with
  | some output => output.text
  | none => ""

namespace Program

/-- Emit the program for its last script: the script with the program's own diagnostics,
what transformers reported, and their world. -/
def transpile (program : Program) (group : TransformerGroup W) (world : W) :
    Transpiled × List Diagnostic × W :=
  let (result, stage) :=
    (program.emitOutputs none group fun _ w => w).run { context := program.newContext, world }
  (⟨lastScript result.2, result.1.diagnostics⟩, stage.context.diagnostics, stage.world)

end Program

namespace TranspileRequest

/-- Transpile with the caller's transformers alone. What they report is dropped. -/
def run (request : TranspileRequest W) (id : ProgramId) (world : W) : Transpiled × W :=
  let (transpiled, _, world) := (request.program id).transpile request.transformers world
  (transpiled, world)

end TranspileRequest

end TransformerEngine
