import Mathlib.Data.List.Forall2
import TransformerEngine.Plugin.Grouping

/-!
# Which factories a group has

The group of an emission is built in one pass over all plugins, which looks back at what it
has seen of any phase. Read phase by phase it is simpler: of the plugins of the phase that
are not transforms of whole programs, the first of each identity takes part
(`phase_forEmission`), and none of them is lost on the way if their exports can be called
as their kinds ask for (`exists_factory`).

`PluginDescriptor.Calls` says what a configured factory is: the call of the export with
what the kind asks for, where the configuration is the descriptor's own.
-/

namespace TransformerEngine

/-! ### First occurrences -/

section Firsts

variable {α β γ : Type} [DecidableEq γ]

/-- The first of the elements with each key, in order. -/
def firstsBy (key : α → γ) : List α → List α
  | [] => []
  | a :: rest => a :: (firstsBy key rest).filter (key · ≠ key a)

variable {key : α → γ} {a : α} {xs : List α}

theorem mem_of_mem_firstsBy (h : a ∈ firstsBy key xs) : a ∈ xs := by
  induction xs with
  | nil => exact h
  | cons x rest ih =>
    rcases List.mem_cons.mp h with rfl | h
    · exact List.mem_cons_self ..
    · exact List.mem_cons_of_mem _ (ih (List.mem_filter.mp h).1)

/-- Keys that are read through a map are those of what is mapped to. -/
theorem firstsBy_map (key : β → γ) (f : α → β) (xs : List α) :
    firstsBy key (xs.map f) = (firstsBy (key ∘ f) xs).map f := by
  induction xs with
  | nil => rfl
  | cons x rest ih =>
    rw [List.map_cons, firstsBy, firstsBy, List.map_cons, ih, List.filter_map]
    rfl

end Firsts

variable {W : Type}

/-! ### The pass over the plugins -/

/-- Whether the plugin works on single files in the phase. -/
def PluginDescriptor.runsIn (d : PluginDescriptor) (phase : Phase) : Bool :=
  !d.isProgramTransform && d.phase = phase

theorem isProgramTransform_of_runsIn {d : PluginDescriptor} {phase : Phase}
    (h : d.runsIn phase = true) : d.isProgramTransform = false := by
  simpa using (Bool.and_eq_true_iff.mp h).1

/-- What the plugins contribute to a phase. -/
def factoriesOf (env : EmitEnvironment) (ts : List (ResolvedTransform W)) : List (Factory W) :=
  ts.flatMap fun t => (t.factory? env).toList

namespace TransformerGroup

/-- The plugins of a phase that the pass takes, if it has `seen` some already. -/
def taken (seen : List (TransformIdentity × Phase)) (phase : Phase)
    (configured : List (ResolvedTransform W)) : List (ResolvedTransform W) :=
  (firstsBy ResolvedTransform.identity
    (configured.filter fun t => t.descriptor.runsIn phase)).filter fun t =>
      !seen.contains (t.identity, phase)

section Taken

variable {seen : List (TransformIdentity × Phase)} {phase : Phase} {t : ResolvedTransform W}
variable {rest : List (ResolvedTransform W)}

/-- A plugin of another phase, or of whole programs, is passed over. -/
theorem taken_cons_of_other (h : t.descriptor.runsIn phase = false) :
    taken seen phase (t :: rest) = taken seen phase rest := by
  have hothers : (t :: rest).filter (fun u => u.descriptor.runsIn phase) =
      rest.filter fun u => u.descriptor.runsIn phase :=
    List.filter_cons_of_neg (by rw [h]; exact Bool.false_ne_true)
  rw [taken, hothers, taken]

/-- A plugin that was seen is passed over, and so is whatever else has its identity. -/
theorem taken_cons_of_seen (h : t.descriptor.runsIn phase = true)
    (hseen : (t.identity, phase) ∈ seen) : taken seen phase (t :: rest) = taken seen phase rest := by
  have hothers : (t :: rest).filter (fun u => u.descriptor.runsIn phase) =
      t :: rest.filter fun u => u.descriptor.runsIn phase := List.filter_cons_of_pos h
  rw [taken, hothers, firstsBy, List.filter_cons_of_neg (by simpa using hseen),
    List.filter_filter, taken]
  refine List.filter_congr fun u _ => ?_
  by_cases hu : u.identity = t.identity
  · simp [hu, hseen]
  · simp [hu]

/-- A plugin that is new is taken, and has been seen from then on. -/
theorem taken_cons_of_new (h : t.descriptor.runsIn phase = true)
    (hnew : (t.identity, phase) ∉ seen) :
    taken seen phase (t :: rest) = t :: taken ((t.identity, phase) :: seen) phase rest := by
  have hothers : (t :: rest).filter (fun u => u.descriptor.runsIn phase) =
      t :: rest.filter fun u => u.descriptor.runsIn phase := List.filter_cons_of_pos h
  rw [taken, hothers, firstsBy, List.filter_cons_of_pos (by simpa using hnew),
    List.filter_filter, taken]
  congr 1
  refine List.filter_congr fun u _ => ?_
  by_cases hu : u.identity = t.identity
  · simp [hu]
  · simp [hu]

/-- What is seen in another phase makes no difference. -/
theorem taken_of_other_phase {other : Phase} (h : other ≠ phase) (identity : TransformIdentity) :
    taken ((identity, other) :: seen) phase rest = taken seen phase rest := by
  rw [taken, taken]
  refine List.filter_congr fun u _ => ?_
  simp [Ne.symm h]

end Taken

/-- **The pass, phase by phase.** -/
theorem phase_addConfigured (env : EmitEnvironment) (seen : List (TransformIdentity × Phase))
    (group : TransformerGroup W) (configured : List (ResolvedTransform W)) (phase : Phase) :
    (addConfigured env seen group configured).phase phase =
      group.phase phase ++ factoriesOf env (taken seen phase configured) := by
  induction configured generalizing seen group with
  | nil => simp [addConfigured, taken, firstsBy, factoriesOf]
  | cons t rest ih =>
    rw [addConfigured]
    cases hprogram : t.descriptor.isProgramTransform with
    | true =>
      have hother : t.descriptor.runsIn phase = false := by simp [PluginDescriptor.runsIn, hprogram]
      rw [if_pos rfl, ih, taken_cons_of_other hother]
    | false =>
      have hruns : t.descriptor.runsIn phase = decide (t.descriptor.phase = phase) := by
        simp [PluginDescriptor.runsIn, hprogram]
      rw [if_neg Bool.false_ne_true]
      by_cases hphase : t.descriptor.phase = phase
      · rw [decide_eq_true hphase] at hruns
        rw [hphase]
        by_cases hseen : (t.identity, phase) ∈ seen
        · rw [if_pos hseen, ih, taken_cons_of_seen hruns hseen]
        · rw [if_neg hseen, ih, taken_cons_of_new hruns hseen, phase_append, if_pos rfl,
            List.append_assoc]
          rfl
      · -- whatever becomes of the plugin, this phase is not concerned
        rw [decide_eq_false hphase] at hruns
        rw [taken_cons_of_other hruns]
        by_cases hseen : (t.identity, t.descriptor.phase) ∈ seen
        · rw [if_pos hseen, ih]
        · rw [if_neg hseen, ih, taken_of_other_phase hphase, phase_append, if_neg hphase]

/-- **The group of an emission, phase by phase.** The first plugins of each identity, then
the caller's factories. -/
theorem phase_forEmission (configured : List (ResolvedTransform W)) (caller : TransformerGroup W)
    (env : EmitEnvironment) (phase : Phase) :
    (forEmission configured caller env).phase phase =
      factoriesOf env (firstsBy ResolvedTransform.identity
        (configured.filter fun t => t.descriptor.runsIn phase)) ++ caller.phase phase := by
  have hcaller : (forEmission configured caller env).phase phase =
      (addConfigured env [] {} configured).phase phase ++ caller.phase phase := by
    cases phase <;> simp [forEmission, Phase.all]
  have htaken : taken [] phase configured = firstsBy ResolvedTransform.identity
      (configured.filter fun t => t.descriptor.runsIn phase) := by simp [taken]
  rw [hcaller, phase_addConfigured, htaken]
  cases phase <;> rfl

end TransformerGroup

/-! ### What a factory calls -/

/-- While `program` is emitted, the factory passes its context on to the export, with what
the kind of the plugin asks for beside it: the plugin's own configuration, the checker and
the options of the program. -/
inductive PluginDescriptor.Calls (d : PluginDescriptor) (program : Program) :
    TransformExport W → Factory W → Prop where
  | plain (make : Factory W) (h : d.kind = .plain) :
      Calls d program (.factory make) fun context world => make context world
  | raw (make : Factory W) (h : d.kind = .raw) :
      Calls d program (.factory make) fun context world => make context world
  | config (make : Json → Factory W) (h : d.kind = .config) :
      Calls d program (.configFactory make) fun context world => make d.config context world
  | checker (make : TypeChecker → Json → Factory W) (h : d.kind = .checker) :
      Calls d program (.checkerFactory make) fun context world =>
        make program.typeChecker d.config context world
  | compilerOptions (make : CompilerOptions → Json → Factory W) (h : d.kind = .compilerOptions) :
      Calls d program (.optionsFactory make) fun context world =>
        make program.options d.config context world

/-- An export that can be called as its kind asks for makes a factory, unless it transforms
whole programs. -/
theorem exists_factory {t : ResolvedTransform W} (program : Program)
    (hsupports : t.value.supports t.descriptor.kind = true)
    (hfile : t.descriptor.isProgramTransform = false) :
    ∃ factory, t.factory? (.ofProgram program) = some factory ∧
      t.descriptor.Calls program t.value factory := by
  obtain ⟨d, value⟩ := t
  change value.supports d.kind = true at hsupports
  have hkind : d.kind ≠ .program := by simpa [PluginDescriptor.isProgramTransform] using hfile
  -- the way an export is called leaves its kind, or a factory two of them
  cases value with
  | factory make =>
    cases hk : d.kind with
    | plain => exact ⟨make, by simp [ResolvedTransform.factory?, hk], .plain make hk⟩
    | raw => exact ⟨make, by simp [ResolvedTransform.factory?, hk], .raw make hk⟩
    | _ => exact absurd hsupports (by simp [TransformExport.supports, hk])
  | configFactory make =>
    cases hk : d.kind with
    | config => exact ⟨_, by simp [ResolvedTransform.factory?, hk], .config make hk⟩
    | _ => exact absurd hsupports (by simp [TransformExport.supports, hk])
  | checkerFactory make =>
    cases hk : d.kind with
    | checker =>
      refine ⟨_, ?_, .checker make hk⟩
      simp [ResolvedTransform.factory?, EmitEnvironment.ofProgram, hk]
    | _ => exact absurd hsupports (by simp [TransformExport.supports, hk])
  | optionsFactory make =>
    cases hk : d.kind with
    | compilerOptions =>
      refine ⟨_, ?_, .compilerOptions make hk⟩
      simp [ResolvedTransform.factory?, EmitEnvironment.ofProgram, hk]
    | _ => exact absurd hsupports (by simp [TransformExport.supports, hk])
  | program transform =>
    cases hk : d.kind with
    | program => exact absurd hk hkind
    | _ => exact absurd hsupports (by simp [TransformExport.supports, hk])

/-- No plugin of a phase is lost. -/
theorem forall₂_factoriesOf {ts : List (ResolvedTransform W)} (program : Program)
    (hsupports : ∀ t ∈ ts, t.value.supports t.descriptor.kind = true)
    (hfile : ∀ t ∈ ts, t.descriptor.isProgramTransform = false) :
    List.Forall₂ (fun t factory => t.descriptor.Calls program t.value factory) ts
      (factoriesOf (.ofProgram program) ts) := by
  induction ts with
  | nil => exact .nil
  | cons t rest ih =>
    obtain ⟨factory, hfactory, hcalls⟩ := exists_factory program
      (hsupports t (List.mem_cons_self ..)) (hfile t (List.mem_cons_self ..))
    rw [factoriesOf, List.flatMap_cons, hfactory]
    exact .cons hcalls (ih (fun u hu => hsupports u (List.mem_cons_of_mem _ hu))
      fun u hu => hfile u (List.mem_cons_of_mem _ hu))

end TransformerEngine
