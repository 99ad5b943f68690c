import TransformerEngine.Plugin.Loading

/-!
# Grouping transforms for an emission

The transformer group of an emission: per phase, the configured plugins in their order,
then the caller's factories. A plugin configured twice for a phase takes part once. Program
transforms run before emission and are not in the group.
-/

namespace TransformerEngine

variable {W : Type}

/-- What an emission offers to plugins that ask for more than the context. -/
structure EmitEnvironment where
  /-- The type checker of the program. -/
  checker : TypeChecker
  /-- The options of the program. -/
  options : CompilerOptions

/-- What emitting `program` offers. -/
def EmitEnvironment.ofProgram (program : Program) : EmitEnvironment :=
  ⟨program.typeChecker, program.options⟩

/-- The factory that calls an export the way its descriptor asks for. Program transforms
have none, nor has an export that cannot be called that way. -/
def ResolvedTransform.factory? (t : ResolvedTransform W) (env : EmitEnvironment) :
    Option (Factory W) :=
  match t.descriptor.kind, t.value with
  | .raw, .factory make => some make
  | .plain, .factory make => some make
  | .config, .configFactory make => some (make t.descriptor.config)
  | .checker, .checkerFactory make => some (make env.checker t.descriptor.config)
  | .compilerOptions, .optionsFactory make => some (make env.options t.descriptor.config)
  | _, _ => none

/-- The group with the configured transforms appended, except those whose identity and
phase were `seen` already. -/
def TransformerGroup.addConfigured (env : EmitEnvironment) :
    (seen : List (TransformIdentity × Phase)) → TransformerGroup W →
      List (ResolvedTransform W) → TransformerGroup W
  | _, group, [] => group
  | seen, group, t :: rest =>
    if t.descriptor.isProgramTransform then addConfigured env seen group rest
    else if (t.identity, t.descriptor.phase) ∈ seen then addConfigured env seen group rest
    else
      addConfigured env ((t.identity, t.descriptor.phase) :: seen)
        (group.append t.descriptor.phase (t.factory? env).toList) rest

/-- The configured transforms, and behind them, phase by phase, the caller's. -/
def TransformerGroup.forEmission (configured : List (ResolvedTransform W))
    (caller : TransformerGroup W) (env : EmitEnvironment) : TransformerGroup W :=
  Phase.all.foldl (fun group phase => group.append phase (caller.phase phase))
    (TransformerGroup.addConfigured env [] {} configured)

end TransformerEngine
