import Mathlib.Data.List.Forall2
import Mathlib.Logic.Relator
import TransformerEngine.Proofs.Lineage.Steps

/-!
# Runs that differ in numbers

Two runs of the same transforms on the same files may differ in how their programs are
numbered, in what else the lineages hold, and in the world. None of this makes a difference
to transforms that keep no state and do not look at numbers. `R` relates the numbers of one
run to those of the other, each to one at most (`Relator.BiUnique`); programs are alike if
they differ at most in their numbers, and those are related; and two scripts are alike if
they take the same steps and, on alike answers, go on alike, whatever the world is
(`Script.Alike`).

A transform is `Oblivious` if it acts alike on alike programs, however they are numbered.
Runs of such transforms from alike states are alike (`applyTransforms_alike`): they come to
the same error, or to alike programs whose lines have been through the same.
-/

namespace TransformerEngine

variable {W : Type} {R : ProgramId → ProgramId → Prop}

/-- The same error, or results that are related. -/
inductive Agree {ε α : Type} (r : α → α → Prop) : Except ε α → Except ε α → Prop where
  | ok {a b} (h : r a b) : Agree r (.ok a) (.ok b)
  | error (error : ε) : Agree r (.error error) (.error error)

theorem Agree.map {ε α β : Type} {r : α → α → Prop} {r' : β → β → Prop} {f g : α → β}
    {a b : Except ε α} (h : Agree r a b) (hfg : ∀ {x y}, r x y → r' (f x) (g y)) :
    Agree r' (a.map f) (b.map g) := by
  cases h with
  | ok h => exact .ok (hfg h)
  | error error => exact .error error

/-! ### Programs -/

/-- The programs differ at most in their numbers, and those are related. -/
structure Program.Alike (R : ProgramId → ProgramId → Prop) (p q : Program) : Prop where
  id : R p.id q.id
  rootNames : p.rootNames = q.rootNames
  options : p.options = q.options
  sourceFiles : p.sourceFiles = q.sourceFiles
  diagnostics : p.diagnostics = q.diagnostics

/-- The invocations are of one transform, with one configuration, on alike programs. -/
structure Invocation.Alike (R : ProgramId → ProgramId → Prop) (i j : Invocation) : Prop where
  input : i.input.Alike R j.input
  identity : i.identity = j.identity
  config : i.config = j.config

theorem create_alike (roots : List String) (options : CompilerOptions) (host : CompilerHost)
    {id id' : ProgramId} (h : R id id') :
    (Program.create roots options host id).Alike R (Program.create roots options host id') :=
  ⟨h, rfl, rfl, rfl, rfl⟩

/-! ### Scripts -/

/-- The scripts take the same steps and go on alike. What they do with the world is left
out, and neither goes on in another way for what it finds there. -/
inductive Script.Alike (R : ProgramId → ProgramId → Prop) :
    Script W Program → Script W Program → Prop where
  | done {p q} (h : p.Alike R q) : Alike R (.done p) (.done q)
  | fail (failure : Failure) : Alike R (.fail failure) (.fail failure)
  | addFile {s t} (name text : String) (h : Alike R s t) :
      Alike R (.addFile name text s) (.addFile name text t)
  | report {s t} (d : Diagnostic) (h : Alike R s t) : Alike R (.report d s) (.report d t)
  | originRoots {next next'} (h : ∀ roots, Alike R (next roots) (next' roots)) :
      Alike R (.originRoots next) (.originRoots next')
  | derive {next next'} (roots : List String)
      (h : ∀ result result', Agree (Program.Alike R) result result' →
        Alike R (next result) (next' result')) :
      Alike R (.derive roots next) (.derive roots next')
  | build {next next'} (roots : List String) (options : CompilerOptions)
      (h : ∀ p q : Program, p.Alike R q → Alike R (next p) (next' q)) :
      Alike R (.build roots options next) (.build roots options next')
  | files {next next'} (h : ∀ host, Alike R (next host) (next' host)) :
      Alike R (.files next) (.files next')
  | readLeft {next t} (h : ∀ world, Alike R (next world) t) : Alike R (.readWorld next) t
  | readRight {s next} (h : ∀ world, Alike R s (next world)) : Alike R s (.readWorld next)
  | writeLeft {s t} (world : W) (h : Alike R s t) : Alike R (.writeWorld world s) t
  | writeRight {s t} (world : W) (h : Alike R s t) : Alike R s (.writeWorld world t)

theorem Script.Alike.deriveOrFail (roots : List String) :
    Script.Alike (W := W) R (.deriveOrFail roots) (.deriveOrFail roots) := by
  refine .derive roots fun result result' h => ?_
  cases h with
  | ok h => exact .done h
  | error error => exact .fail _

/-- The transforms act alike on alike programs, however these are numbered. -/
def ProgramTransform.Likewise (f g : ProgramTransform W) : Prop :=
  ∀ R : ProgramId → ProgramId → Prop, Relator.BiUnique R → ∀ i j : Invocation, i.Alike R j →
    Script.Alike R (f i) (g j)

/-- The transform keeps no state between invocations and does not look at the numbers of
programs: whatever the world is and however programs are numbered, it acts alike on alike
programs. So what it returns are programs that it was handed or that were made for it; one
that it kept from before would have a number of its own. -/
def ProgramTransform.Oblivious (f : ProgramTransform W) : Prop := f.Likewise f

/-! ### Lineages -/

/-- Related programs have the same entries. -/
def Lineage.Alike (R : ProgramId → ProgramId → Prop) (l l' : Lineage) : Prop :=
  ∀ a b, R a b → l.find? a = l'.find? b

namespace Lineage.Alike

variable {l l' : Lineage} {parent parent' child child' program program' : Program}

theorem applied (h : l.Alike R l') {a b : ProgramId} (hab : R a b) :
    l.applied a = l'.applied b := by
  rw [Lineage.applied, Lineage.applied, h a b hab]

theorem diagnostics (h : l.Alike R l') {a b : ProgramId} (hab : R a b) :
    l.diagnostics a = l'.diagnostics b := by
  rw [Lineage.diagnostics, Lineage.diagnostics, h a b hab]

theorem entryOf (h : l.Alike R l') (hp : program.Alike R program') :
    l.entryOf program = l'.entryOf program' := by
  rw [Lineage.entryOf, Lineage.entryOf, h _ _ hp.id, LineageEntry.start, LineageEntry.start,
    hp.rootNames]

theorem originRoots (h : l.Alike R l') (hp : program.Alike R program') :
    l.originRoots program = l'.originRoots program' := by
  rw [Lineage.originRoots, Lineage.originRoots, h.entryOf hp]

/-- The child's new entry is the same: which of the programs have entries already is, and so
is whether the child is its own parent. -/
theorem inheritedEntry (hbi : Relator.BiUnique R) (h : l.Alike R l')
    (hparent : parent.Alike R parent') (hchild : child.Alike R child')
    (extra : List TransformIdentity) :
    l.inheritedEntry parent child extra = l'.inheritedEntry parent' child' extra := by
  have hself : child.id = parent.id ↔ child'.id = parent'.id := by
    constructor
    · intro heq
      exact hbi.2 (heq ▸ hchild.id) hparent.id
    · intro heq
      exact hbi.1 (heq ▸ hchild.id) hparent.id
  simp only [Lineage.inheritedEntry, h.entryOf hparent, h.entryOf hchild, h _ _ hchild.id, hself]

/-- Related programs still have the same entries once the same was entered for two that are
related. -/
theorem set (hbi : Relator.BiUnique R) (h : l.Alike R l') {id id' : ProgramId}
    (hid : R id id') (entry : LineageEntry) : (l.set id entry).Alike R (l'.set id' entry) := by
  intro a b hab
  have hsame : id = a ↔ id' = b := by
    constructor
    · rintro rfl
      exact hbi.2 hid hab
    · rintro rfl
      exact hbi.1 hid hab
  simp only [Lineage.find?_set, hsame, h a b hab]

theorem inherit (hbi : Relator.BiUnique R) (h : l.Alike R l') (hparent : parent.Alike R parent')
    (hchild : child.Alike R child') (extra : List TransformIdentity) :
    (l.inherit parent child extra).Alike R (l'.inherit parent' child' extra) := by
  rw [Lineage.inherit, Lineage.inherit, h.inheritedEntry hbi hparent hchild]
  exact h.set hbi hchild.id _

theorem report (hbi : Relator.BiUnique R) (h : l.Alike R l') (hp : program.Alike R program')
    (d : Diagnostic) : (l.report program d).Alike R (l'.report program' d) := by
  simp only [Lineage.report, h.entryOf hp]
  exact h.set hbi hp.id _

theorem reportAll (hbi : Relator.BiUnique R) (h : l.Alike R l') (hp : program.Alike R program')
    (ds : List Diagnostic) : (l.reportAll program ds).Alike R (l'.reportAll program' ds) := by
  induction ds generalizing l l' with
  | nil => exact h
  | cons d rest ih => exact ih (h.report hbi hp d)

end Lineage.Alike

/-! ### States -/

/-- The states differ at most in how programs are numbered, in the entries of programs that
are not related, in the world and in what is remembered. The numbers of the programs made
from now on are related. -/
structure RunState.Alike (R : ProgramId → ProgramId → Prop) (s t : RunState W) : Prop where
  lineage : s.lineage.Alike R t.lineage
  overlay : s.overlay = t.overlay
  numbers : ∀ k, R ⟨s.nextId.number + k⟩ ⟨t.nextId.number + k⟩

namespace RunState.Alike

variable {s t : RunState W} {i j : Invocation}

theorem note (h : s.Alike R t) (e e' : RunEvent) : (s.note e).Alike R (t.note e') :=
  ⟨h.lineage, h.overlay, h.numbers⟩

theorem worldLeft (h : s.Alike R t) (world : W) : RunState.Alike R { s with world } t :=
  ⟨h.lineage, h.overlay, h.numbers⟩

theorem worldRight (h : s.Alike R t) (world : W) : RunState.Alike R s { t with world } :=
  ⟨h.lineage, h.overlay, h.numbers⟩

theorem write (h : s.Alike R t) (name text : String) :
    RunState.Alike R { s with overlay := s.overlay.write name text }
      { t with overlay := t.overlay.write name text } :=
  ⟨h.lineage, congrArg (·.write name text) h.overlay, h.numbers⟩

theorem withLineage (h : s.Alike R t) {l l' : Lineage} (hl : l.Alike R l') :
    RunState.Alike R { s with lineage := l } { t with lineage := l' } :=
  ⟨hl, h.overlay, h.numbers⟩

theorem newProgram (h : s.Alike R t) (roots : List String) (options : CompilerOptions) :
    (s.newProgram roots options).1.Alike R (t.newProgram roots options).1 ∧
      (s.newProgram roots options).2.Alike R (t.newProgram roots options).2 := by
  constructor
  · rw [RunState.newProgram, RunState.newProgram, h.overlay]
    exact create_alike roots options t.overlay.toHost (h.numbers 0)
  · refine ⟨h.lineage, h.overlay, fun k => ?_⟩
    have hnext := h.numbers (1 + k)
    rwa [← Nat.add_assoc, ← Nat.add_assoc] at hnext

theorem derive (hbi : Relator.BiUnique R) (h : s.Alike R t) (hij : i.Alike R j)
    (roots : List String) :
    (s.derive i roots).1.Alike R (t.derive j roots).1 ∧
      (s.derive i roots).2.Alike R (t.derive j roots).2 := by
  obtain ⟨hchild, hmade⟩ := h.newProgram roots i.input.options
  rw [RunState.derive, RunState.derive, ← hij.input.options, ← hij.identity]
  exact ⟨hchild, (hmade.withLineage (h.lineage.inherit hbi hij.input hchild _)).note _ _⟩

theorem settle (hbi : Relator.BiUnique R) (h : s.Alike R t) (hij : i.Alike R j)
    {output output' : Program} (hout : output.Alike R output') (reports : List Diagnostic) :
    (s.settle i output reports).Alike R (t.settle j output' reports) := by
  rw [RunState.settle, RunState.settle, ← hij.identity]
  exact (h.withLineage ((h.lineage.inherit hbi hij.input hout _).reportAll hbi hout reports)).note
    _ _

end RunState.Alike

/-! ### Runs -/

/-- From alike programs in alike states the two come to alike answers and states. -/
def Applying.Alike (R : ProgramId → ProgramId → Prop) (f g : Applying W) : Prop :=
  ∀ p q s t, p.Alike R q → s.Alike R t →
    Agree (Program.Alike R) (f p s).1 (g q t).1 ∧ (f p s).2.Alike R (g q t).2

/-- Alike programs, with the same reports. -/
def YieldsAlike (R : ProgramId → ProgramId → Prop) (a b : Program × List Diagnostic) : Prop :=
  a.1.Alike R b.1 ∧ a.2 = b.2

variable {nested nested' : Applying W}

/-- **Alike scripts run alike.** -/
theorem Script.Alike.run (hbi : Relator.BiUnique R) (hn : nested.Alike R nested')
    {i j : Invocation} (hij : i.Alike R j) {script script' : Script W Program}
    (h : script.Alike R script') (reports : List Diagnostic) {s t : RunState W}
    (hst : s.Alike R t) :
    Agree (YieldsAlike R) (script.run nested i reports s).1 (script'.run nested' j reports t).1 ∧
      (script.run nested i reports s).2.Alike R (script'.run nested' j reports t).2 := by
  induction h generalizing reports s t with
  | done hpq => exact ⟨.ok ⟨hpq, rfl⟩, hst⟩
  | fail failure => exact ⟨.error failure, hst⟩
  | addFile name text _ ih => exact ih reports ((hst.write name text).note _ _)
  | report d _ ih => exact ih (reports ++ [d]) (hst.note _ _)
  | originRoots _ ih =>
    simp only [Script.run, hst.lineage.originRoots hij.input]
    exact ih _ reports (hst.note _ _)
  | derive roots _ ih =>
    rw [Script.run_derive, Script.run_derive]
    obtain ⟨hchild, hmade⟩ := hst.derive hbi hij roots
    obtain ⟨hresult, hafter⟩ := hn _ _ _ _ hchild hmade
    exact ih _ _ hresult reports hafter
  | build roots options _ ih =>
    obtain ⟨hprogram, hmade⟩ := hst.newProgram roots options
    exact ih _ _ hprogram reports hmade
  | files _ ih =>
    simp only [Script.run, hst.overlay]
    exact ih _ reports hst
  -- the worlds may differ: what is read goes one way only
  | readLeft _ ih => exact ih _ reports hst
  | readRight _ ih => exact ih _ reports hst
  | writeLeft world _ ih => exact ih reports (hst.worldLeft world)
  | writeRight world _ ih => exact ih reports (hst.worldRight world)

/-- **Transforms that act alike are invoked alike.** -/
theorem invoke_alike (hbi : Relator.BiUnique R) (hn : nested.Alike R nested')
    {f g : ProgramTransform W} (hfg : f.Likewise g) {i j : Invocation} (hij : i.Alike R j)
    {s t : RunState W} (hst : s.Alike R t) :
    Agree (Program.Alike R) (invoke nested f i s).1 (invoke nested' g j t).1 ∧
      (invoke nested f i s).2.Alike R (invoke nested' g j t).2 := by
  obtain ⟨hyields, hafter⟩ :=
    (hfg R hbi i j hij).run hbi hn hij [] (hst.note (.began i) (.began j))
  unfold invoke
  generalize (f i).run nested i [] (s.note (.began i)) = left at hyields hafter ⊢
  generalize (g j).run nested' j [] (t.note (.began j)) = right at hyields hafter ⊢
  obtain ⟨result, s'⟩ := left
  obtain ⟨result', t'⟩ := right
  cases hyields with
  | @ok a b hout =>
    obtain ⟨hout, hreports⟩ := hout
    obtain ⟨output, reports⟩ := a
    obtain ⟨output', reports'⟩ := b
    obtain rfl : reports = reports' := hreports
    exact ⟨.ok hout, hafter.settle hbi hij hout reports⟩
  | error failure => exact ⟨.error failure, hafter.note _ _⟩

/-- One plugin that transforms whole programs, loaded twice: what was loaded acts alike. -/
inductive ResolvedTransform.Likewise : ResolvedTransform W → ResolvedTransform W → Prop where
  | program {f g} (d : PluginDescriptor) (h : f.Likewise g) :
      Likewise ⟨d, .program f⟩ ⟨d, .program g⟩

theorem applyAll_alike (hbi : Relator.BiUnique R) (hn : nested.Alike R nested')
    {ts us : List (ResolvedTransform W)}
    (h : List.Forall₂ ResolvedTransform.Likewise ts us) :
    (applyAll nested ts).Alike R (applyAll nested' us) := by
  induction h with
  | nil => exact fun p q s t hpq hst => ⟨.ok hpq, hst⟩
  | @cons a b rest rest' hfirst _ ih =>
    intro p q s t hpq hst
    obtain ⟨d, hfg⟩ := hfirst
    rename_i f g
    have happlied : s.lineage.applied p.id = t.lineage.applied q.id :=
      hst.lineage.applied hpq.id
    by_cases ha : d.identity ∈ s.lineage.applied p.id
    · rw [applyAll_cons_of_applied ha, applyAll_cons_of_applied (happlied ▸ ha)]
      exact ih p q s t hpq hst
    · rw [applyAll_cons_of_new ha rfl, applyAll_cons_of_new (happlied ▸ ha) rfl]
      have hij : Invocation.Alike R (ResolvedTransform.invocationOn ⟨d, .program f⟩ p)
          (ResolvedTransform.invocationOn ⟨d, .program g⟩ q) := ⟨hpq, rfl, rfl⟩
      obtain ⟨hresult, hafter⟩ := invoke_alike hbi hn hfg hij hst
      generalize invoke nested f (ResolvedTransform.invocationOn ⟨d, .program f⟩ p) s = left
        at hresult hafter ⊢
      generalize invoke nested' g (ResolvedTransform.invocationOn ⟨d, .program g⟩ q) t = right
        at hresult hafter ⊢
      obtain ⟨result, s'⟩ := left
      obtain ⟨result', t'⟩ := right
      cases hresult with
      | ok hout => exact ih _ _ _ _ hout hafter
      | error failure => exact ⟨.error _, hafter⟩

theorem applyWithin_alike (hbi : Relator.BiUnique R) {ts us : List (ResolvedTransform W)}
    (h : List.Forall₂ ResolvedTransform.Likewise ts us) (depth : Nat) :
    (applyWithin ts depth).Alike R (applyWithin us depth) := by
  induction depth with
  | zero => exact fun p q s t hpq hst => ⟨.ok hpq, hst⟩
  | succ depth ih => exact applyAll_alike hbi ih h

/-- **Runs do not depend on numbers.** Transforms that act alike take alike programs in alike
states to the same error or to alike programs, and leave alike states. -/
theorem applyTransforms_alike (hbi : Relator.BiUnique R) {ts us : List (ResolvedTransform W)}
    (h : List.Forall₂ ResolvedTransform.Likewise ts us) :
    (applyTransforms ts).Alike R (applyTransforms us) := by
  rw [applyTransforms, applyTransforms, h.length_eq]
  exact applyWithin_alike hbi h us.length

end TransformerEngine
