import TransformerEngine.Proofs.Lineage.Likeness
import TransformerEngine.Proofs.Session.History
import TransformerEngine.Proofs.Session.Resolution

/-!
# Sessions keep calls apart

A session keeps what it has loaded and the lineages of its programs, and every creation of a
program starts from what earlier calls left there. None of it shows. `Session.account` is what
can be seen of a program in a session, all but its number, and `Session.creation` is what
creating a program comes to: an error, or the account of the program.

After any history, `creation` is what it would be in a session opened just now
(`creation_isolated`), as long as the modules have stayed the same and the transforms keep no
state (`Steady`). This is so if every build of a module is the same and its transforms of
whole programs are oblivious (`steady_of_oblivious`).

Three things carry the proof. The caches do not show in what is loaded (`resolvePlugins_agree`);
new programs have no entry in the lineages, however irregularly those are pruned, so both
runs start alike (`runStart_alike`); and alike runs come to alike programs
(`applyTransforms_alike`).
-/

namespace TransformerEngine

variable {W : Type}

/-! ### Modules that stay the same -/

/-- For the descriptor the exports make no difference: they are program transforms that act
alike, or are not for whole programs at all. -/
inductive ExportsAlike (d : PluginDescriptor) : TransformExport W → TransformExport W → Prop where
  | program {f g} (h : f.Likewise g) : ExportsAlike d (.program f) (.program g)
  | other {value value'} (h : d.isProgramTransform = false) : ExportsAlike d value value'

/-- One plugin, loaded twice. -/
inductive PluginsAlike : ResolvedTransform W → ResolvedTransform W → Prop where
  | mk (d : PluginDescriptor) {value value'} (h : ExportsAlike d value value') :
      PluginsAlike ⟨d, value⟩ ⟨d, value'⟩

/-- Whenever the modules of the descriptors are built, they offer the same: an export is
always found or never, and program transforms always act alike. In particular they keep no
state between invocations and do not look at the numbers of programs. -/
def Steady (builders : Table String (ModuleBuilder W)) (ds : List PluginDescriptor) : Prop :=
  ∀ d ∈ ds, ∀ builder, builders.find? d.module = some builder → ∀ world world',
    Agree (ExportsAlike d) (selectExport (builder world).1 d) (selectExport (builder world').1 d)

/-- Modules that are the same however often they are built are steady, if their transforms of
whole programs are oblivious. -/
theorem steady_of_oblivious {builders : Table String (ModuleBuilder W)}
    {ds : List PluginDescriptor}
    (hsame : ∀ d ∈ ds, ∀ builder, builders.find? d.module = some builder → ∀ world world',
      (builder world).1 = (builder world').1)
    (hoblivious : ∀ d ∈ ds, ∀ builder, builders.find? d.module = some builder → ∀ world f,
      selectExport (builder world).1 d = .ok (.program f) → f.Oblivious) :
    Steady builders ds := by
  intro d hd builder hbuilder world world'
  rw [hsame d hd builder hbuilder world' world]
  cases hselect : selectExport (builder world).1 d with
  | error error => exact .error error
  | ok value =>
    by_cases hvalue : ∃ f, value = .program f
    · obtain ⟨f, rfl⟩ := hvalue
      exact .ok (.program (hoblivious d hd builder hbuilder world f hselect))
    · -- an export that passed the check of a program transform would be one
      have hsupports := (selectExport_eq_ok.mp hselect).2
      refine .ok (.other ?_)
      cases hkind : d.isProgramTransform with
      | false => rfl
      | true =>
        rw [of_decide_eq_true hkind] at hsupports
        cases value with
        | program f => exact absurd ⟨f, rfl⟩ hvalue
        | _ => exact nomatch hsupports

/-- Transforms of whole programs that were loaded alike act alike. -/
theorem programTransforms_alike {ts us : List (ResolvedTransform W)}
    (h : List.Forall₂ PluginsAlike ts us) :
    List.Forall₂ ResolvedTransform.Likewise (programTransforms ts) (programTransforms us) := by
  induction h with
  | nil => exact .nil
  | cons hfirst _ ih =>
    obtain ⟨d, hvalue⟩ := hfirst
    cases hd : d.isProgramTransform with
    | true =>
      simp only [programTransforms, List.filter_cons, hd, if_true]
      cases hvalue with
      | program hfg => exact .cons (.program d hfg) ih
      | other hother => exact nomatch hd.symm.trans hother
    | false =>
      simp only [programTransforms, List.filter_cons, hd, Bool.false_eq_true, if_false]
      exact ih

/-! ### Loading again -/

section Loading

variable {builders : Table String (ModuleBuilder W)}

/-- What was loaded is in order and comes from the builders. -/
structure LoadedFrom (builders : Table String (ModuleBuilder W))
    (state : ModuleCache W × ModuleRegistry W × W) : Prop where
  registry : state.2.1.builders = builders
  consistent : state.1.Consistent
  builtBy : state.1.BuiltBy builders

theorem LoadedFrom.reaches {start now : ModuleCache W × ModuleRegistry W × W}
    (h : LoadedFrom builders start) (hreaches : Reaches ModuleRegistry.resolve start now) :
    LoadedFrom builders now where
  registry := (hreaches.builds h.registry).1
  consistent := hreaches.consistent h.consistent
  builtBy := hreaches.builtBy h.registry h.builtBy

theorem LoadedFrom.answers {cache cache' : ModuleCache W} {registry registry' : ModuleRegistry W}
    {world world' : W} {d : PluginDescriptor} {result : Except PluginError (ResolvedTransform W)}
    (h : LoadedFrom builders (cache, registry, world))
    (hrun : (Loading.load ModuleRegistry.resolve d).runOn cache (registry, world) =
      (result, cache', registry', world')) :
    Answers builders d result := by
  obtain ⟨rfl, hconsistent, hbuilt⟩ := h
  exact answers_load hconsistent hbuilt hrun

/-- Two answers to a descriptor agree, whichever builds they are from. -/
theorem Answers.agree {d : PluginDescriptor} {a b : Except PluginError (ResolvedTransform W)}
    (steady : ∀ builder, builders.find? d.module = some builder → ∀ world world',
      Agree (ExportsAlike d) (selectExport (builder world).1 d)
        (selectExport (builder world').1 d))
    (ha : Answers builders d a) (hb : Answers builders d b) : Agree PluginsAlike a b := by
  cases ha with
  | missing hnone =>
    cases hb with
    | missing _ => exact .error _
    | built hsome world' => exact nomatch hnone.symm.trans hsome
  | built hsome world =>
    cases hb with
    | missing hnone => exact nomatch hnone.symm.trans hsome
    | built hsome' world' =>
      obtain rfl := Option.some.inj (hsome.symm.trans hsome')
      exact (steady _ hsome world world').map fun hvalues => ⟨d, hvalues⟩

/-- **What was loaded before does not show.** From the same modules, loading comes to the same
error or to plugins that act alike. -/
theorem loadAll_agree {ds : List PluginDescriptor} (steady : Steady builders ds)
    {cache cache' : ModuleCache W} {state state' : ModuleRegistry W × W}
    (h : LoadedFrom builders (cache, state)) (h' : LoadedFrom builders (cache', state')) :
    Agree (List.Forall₂ PluginsAlike)
      ((Loading.loadAll ModuleRegistry.resolve ds).runOn cache state).1
      ((Loading.loadAll ModuleRegistry.resolve ds).runOn cache' state').1 := by
  induction ds generalizing cache cache' state state' with
  | nil => exact .ok .nil
  | cons d rest ih =>
    obtain ⟨hd, hrest⟩ := List.forall_mem_cons.mp steady
    rw [Loading.runOn_loadAll_cons, Loading.runOn_loadAll_cons]
    rcases hfirst : (Loading.load ModuleRegistry.resolve d).runOn cache state with
      ⟨a, middle, between⟩
    rcases hfirst' : (Loading.load ModuleRegistry.resolve d).runOn cache' state' with
      ⟨b, middle', between'⟩
    have hothers := ih hrest (h.reaches (Loading.reaches_load hfirst))
      (h'.reaches (Loading.reaches_load hfirst'))
    cases Answers.agree hd (h.answers hfirst) (h'.answers hfirst') with
    | error error => exact .error error
    | ok halike =>
      simp only
      generalize (Loading.loadAll ModuleRegistry.resolve rest).runOn middle between = left
        at hothers ⊢
      generalize (Loading.loadAll ModuleRegistry.resolve rest).runOn middle' between' = right
        at hothers ⊢
      obtain ⟨others, _, _⟩ := left
      obtain ⟨others', _, _⟩ := right
      cases hothers with
      | error error => exact .error error
      | ok hall => exact .ok (.cons halike hall)

end Loading

namespace Session

variable {builders : Table String (ModuleBuilder W)} {base : Option String}
variable {session fresh : Session W} {workspace other : Workspace W}

theorem Sound.loadedFrom (h : Sound (· = builders) base session workspace) :
    LoadedFrom builders (session.cache, workspace.registry, workspace.world) :=
  ⟨h.builders, h.consistent, h.builtBy builders fun _ heq => heq⟩

theorem resolvePlugins_agree (h : Sound (· = builders) base session workspace)
    (h' : Sound (· = builders) base fresh other) {options : CompilerOptions}
    (steady : ∀ ds, PluginDescriptor.ofEntries options.plugins base = .ok ds →
      Steady builders ds) :
    Agree (List.Forall₂ PluginsAlike) (resolvePlugins options session workspace).1
      (resolvePlugins options fresh other).1 := by
  cases hread : PluginDescriptor.ofEntries options.plugins base with
  | error error =>
    rw [resolvePlugins_of_error (h.baseDirectory ▸ hread),
      resolvePlugins_of_error (h'.baseDirectory ▸ hread)]
    exact .error error
  | ok ds =>
    rw [resolvePlugins_of_ok (h.baseDirectory ▸ hread),
      resolvePlugins_of_ok (h'.baseDirectory ▸ hread)]
    exact loadAll_agree (steady ds hread) h.loadedFrom h'.loadedFrom

/-! ### Accounts of programs -/

/-- What can be seen of a program in a session, all but its number. -/
structure Account where
  rootNames : List String
  options : CompilerOptions
  /-- Its files, in order, by name. -/
  sourceFiles : Table String SourceFile
  /-- What was wrong with it as a whole. -/
  diagnostics : List Diagnostic
  /-- What transforms reported along its line. -/
  reported : List Diagnostic
  /-- How many transforms were applied along its line. -/
  appliedCount : Nat
deriving DecidableEq

/-- The account of a program in a session. -/
def account (session : Session W) (program : Program) : Account where
  rootNames := program.rootNames
  options := program.options
  sourceFiles := program.sourceFiles
  diagnostics := program.diagnostics
  reported := session.lineage.diagnostics program.id
  appliedCount := session.appliedCount program

/-- What creating a program comes to: an error, or the program's account in the session
afterwards. -/
def creation (live : ProgramId → Bool) (roots : List String) (options : CompilerOptions)
    (host : CompilerHost) (session : Session W) (workspace : Workspace W) :
    Except PluginError Account :=
  let (result, after, _) := createProgram live roots options host session workspace
  result.map after.account

/-- Alike programs have the same account where their lineages are alike. -/
theorem account_eq {R : ProgramId → ProgramId → Prop} {p q : Program} (hpq : p.Alike R q)
    (hlineage : session.lineage.Alike R fresh.lineage) : session.account p = fresh.account q := by
  simp only [account, appliedCount, Lineage.appliedCount, hpq.rootNames, hpq.options,
    hpq.sourceFiles, hpq.diagnostics, hlineage.diagnostics hpq.id, hlineage.applied hpq.id]

/-! ### Starting alike -/

/-- The programs made in one workspace from the number `n` on and those made in another from
`m` on, paired in order. -/
def InStep (n m : ProgramId) (a b : ProgramId) : Prop :=
  ∃ k, a = ⟨n.number + k⟩ ∧ b = ⟨m.number + k⟩

theorem inStep_biUnique (n m : ProgramId) : Relator.BiUnique (InStep n m) := by
  constructor
  · rintro _ _ _ ⟨k, rfl, rfl⟩ ⟨k', rfl, hk⟩
    have hsame : m.number + k = m.number + k' := congrArg ProgramId.number hk
    rw [Nat.add_left_cancel hsame]
  · rintro _ _ _ ⟨k, rfl, rfl⟩ ⟨k', hk, rfl⟩
    have hsame : n.number + k = n.number + k' := congrArg ProgramId.number hk
    rw [Nat.add_left_cancel hsame]

theorem inStep_start (n m : ProgramId) : InStep n m n m := ⟨0, rfl, rfl⟩

variable {allowed allowed' : Table String (ModuleBuilder W) → Prop} {base' : Option String}

/-- The lineages know nothing of the programs to come. -/
theorem Sound.find?_new (h : Sound allowed base session workspace) (k : Nat) :
    session.lineage.find? ⟨workspace.nextId.number + k⟩ = none :=
  h.numbered _ (Nat.not_lt.mpr (Nat.le_add_right _ k))

theorem Sound.lineage_alike (h : Sound allowed base session workspace)
    (h' : Sound allowed' base' fresh other) :
    session.lineage.Alike (InStep workspace.nextId other.nextId) fresh.lineage := by
  rintro _ _ ⟨k, rfl, rfl⟩
  rw [h.find?_new, h'.find?_new]

/-- Whatever is forgotten first, the runs of new programs start alike. -/
theorem Sound.runStart_alike (h : Sound allowed base session workspace)
    (h' : Sound allowed' base' fresh other) (live live' : ProgramId → Bool)
    (host : CompilerHost) :
    (session.runStart workspace live host).Alike (InStep workspace.nextId other.nextId)
      (fresh.runStart other live' host) where
  lineage := by
    rintro _ _ ⟨k, rfl, rfl⟩
    show (session.lineage.prune live).1.find? _ = (fresh.lineage.prune live').1.find? _
    rw [Lineage.find?_prune, Lineage.find?_prune, h.find?_new, h'.find?_new, ite_self, ite_self]
  overlay := rfl
  -- the new program itself has the first number
  numbers k := ⟨1 + k, by rw [← Nat.add_assoc]; rfl, by rw [← Nat.add_assoc]; rfl⟩

/-! ### The further call -/

/-- In any two sessions that are sound for the same modules, creating a program comes to the
same. -/
theorem Sound.creation_eq (h : Sound (· = builders) base session workspace)
    (h' : Sound (· = builders) base fresh other) {options : CompilerOptions}
    (steady : ∀ ds, PluginDescriptor.ofEntries options.plugins base = .ok ds →
      Steady builders ds)
    (live live' : ProgramId → Bool) (roots : List String) (host : CompilerHost) :
    creation live roots options host session workspace =
      creation live' roots options host fresh other := by
  have hagree := resolvePlugins_agree h h' steady
  rcases hresolve : resolvePlugins options session workspace with ⟨a, session₁, workspace₁⟩
  rcases hresolve' : resolvePlugins options fresh other with ⟨b, fresh₁, other₁⟩
  rw [hresolve, hresolve'] at hagree
  have hloaded := (resolvePlugins_loads hresolve).sound h
  have hloaded' := (resolvePlugins_loads hresolve').sound h'
  cases hagree with
  | error error =>
    rw [creation, creation, createProgram_of_error hresolve, createProgram_of_error hresolve']
    rfl
  | @ok ts us hplugins =>
    have hprogram := create_alike roots options host (inStep_start workspace₁.nextId other₁.nextId)
    have htransforms := programTransforms_alike hplugins
    by_cases hnone : programTransforms ts = []
    · have hnone' := List.forall₂_nil_left_iff.mp (hnone ▸ htransforms)
      rw [creation, creation, createProgram_of_none hresolve hnone,
        createProgram_of_none hresolve' hnone']
      exact congrArg Except.ok (account_eq hprogram (hloaded.lineage_alike hloaded'))
    · have hsome' : programTransforms us ≠ [] := fun hnone' =>
        hnone (List.forall₂_nil_right_iff.mp (hnone' ▸ htransforms))
      obtain ⟨hresult, hafter⟩ := applyTransforms_alike
        (inStep_biUnique workspace₁.nextId other₁.nextId) htransforms _ _ _ _ hprogram
        (hloaded.runStart_alike hloaded' live live' host)
      rw [creation, creation, createProgram_of_some hresolve hnone rfl,
        createProgram_of_some hresolve' hsome' rfl]
      generalize applyTransforms _ _ _ = left at hresult hafter ⊢
      generalize applyTransforms _ _ _ = right at hresult hafter ⊢
      obtain ⟨result, final⟩ := left
      obtain ⟨result', final'⟩ := right
      cases hresult with
      | error error => rfl
      | ok hout => exact congrArg Except.ok (account_eq hout hafter.lineage)

/-! A session that has been used: it created a program with notes beside it, and then failed
to create another. -/

namespace Sample

def annotateOptions : CompilerOptions := { plugins := [annotateEntry] }

/-- Where there is a main file and there are no notes. -/
def mainHost : CompilerHost :=
  (({ currentDirectory := "/" } : MemoryHost).write "main.ts" "export {};").toHost

/-- After the first creation. -/
def annotated : Except PluginError Program × Session Nat × Workspace Nat :=
  createProgram (fun _ => true) ["main.ts"] annotateOptions mainHost {} opening

/-- After the failed one. -/
def failed : Except PluginError Program × Session Nat × Workspace Nat :=
  createProgram (fun _ => true) ["main.ts"] unloadableOptions mainHost annotated.2.1 annotated.2.2

theorem annotate_oblivious : annotate.Oblivious := by
  intro R _ i j hij
  -- it counts its calls in the world and does nothing else for what it finds there
  refine .readLeft fun _ => .readRight fun _ => .writeLeft _ (.writeRight _ ?_)
  rw [hij.input.rootNames]
  exact .addFile _ _ (.report _ (.deriveOrFail _))

theorem steady_annotate : Steady registry.builders [annotateDescriptor] := by
  refine steady_of_oblivious (List.forall_mem_singleton.mpr fun builder hbuilder world world' => ?_)
    (List.forall_mem_singleton.mpr fun builder hbuilder world f hselect => ?_)
  · obtain rfl := Option.some.inj hbuilder
    rfl
  · obtain rfl := Option.some.inj hbuilder
    obtain rfl := TransformExport.program.inj (Except.ok.inj hselect)
    exact annotate_oblivious

theorem annotated_returnsMade :
    ReturnsMade (fun _ => true) ["main.ts"] annotateOptions mainHost {} opening := by
  intro answer hanswer i output hreturned
  obtain rfl := Option.some.inj hanswer
  have hevents : RunEvent.returned i output ∈ [.began _, .addedFile _ _ _, .reported _ _,
      .derived _ _, .returned _ _] := hreturned
  simp only [List.mem_cons, reduceCtorEq, false_or, RunEvent.returned.injEq, List.not_mem_nil,
    or_false] at hevents
  obtain ⟨-, rfl⟩ := hevents
  show 2 < 3
  decide

theorem failed_history : History (· = registry.builders) none failed.2.1 failed.2.2 := by
  refine .created _ _ _ _ (fun answer hanswer => ?_)
    (.created _ _ _ _ annotated_returnsMade (.opened rfl))
  exact nomatch hanswer

end Sample

/-- **Calls are kept apart.** After any history of a session whose modules have stayed the
same, creating a program comes to what it would in a session opened just now on the same
modules: to the same error, or to a program with the same account. The transforms must keep
no state between invocations, a program that they return again counting as such, and must
not look at the numbers of programs. Which earlier programs are still live makes no
difference. -/
theorem creation_isolated (history : History (· = builders) base session workspace)
    (hmodules : other.registry.builders = builders) {options : CompilerOptions}
    (steady : ∀ ds, PluginDescriptor.ofEntries options.plugins base = .ok ds →
      Steady builders ds)
    (live live' : ProgramId → Bool) (roots : List String) (host : CompilerHost) :
    creation live roots options host session workspace =
      creation live' roots options host { baseDirectory := base } other :=
  history.sound.creation_eq (.opened hmodules) steady live live' roots host

/-- The report of the first creation, whose entry is still there, does not show in the next:
it reports once, as it does in a session opened just now. -/
theorem creation_isolated_sample :
    Sample.failed.2.1.lineage.size = 1 ∧
      creation (fun _ => false) ["main.ts"] Sample.annotateOptions Sample.mainHost
        Sample.failed.2.1 Sample.failed.2.2 =
      creation (fun _ => true) ["main.ts"] Sample.annotateOptions Sample.mainHost {}
        Sample.opening ∧
      ∃ account, creation (fun _ => true) ["main.ts"] Sample.annotateOptions Sample.mainHost {}
          Sample.opening = .ok account ∧
        account.sourceFiles.keys = ["main.ts", "notes.ts"] ∧
        account.reported = [.error 1 "annotated"] ∧ account.appliedCount = 1 := by
  refine ⟨by rfl, creation_isolated Sample.failed_history rfl ?_ _ _ _ _, _, by rfl, by rfl,
    by rfl, by rfl⟩
  intro ds hread
  obtain rfl : [Sample.annotateDescriptor] = ds := Except.ok.inj hread
  exact Sample.steady_annotate

end Session

end TransformerEngine
