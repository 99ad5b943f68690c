import Mathlib.Data.List.Forall2
import TransformerEngine.Emit.Basic

/-!
# Emissions in worlds that differ

What an emission does depends on its world only through the code that it calls. `R` relates
the worlds of two emissions, which may be of different types. Calls are alike if, from
related worlds and in the same context, they come to related values, report the same and
leave related worlds (`CallsAlike`); steps of emissions are alike if, from alike stages, they
come to related values and leave alike stages (`StepsAlike`).

Everything an emission does keeps this: alike transformer groups and alike writers make alike
emissions (`emitOutputs_alike`), which come to one and the same result.
-/

namespace TransformerEngine

variable {V W : Type} {R : V → W → Prop}

/-! ### Alike calls -/

/-- From related worlds, the calls come to values related by `S`, report the same and leave
related worlds. -/
def CallsAlike {α β : Type} (R : V → W → Prop) (S : α → β → Prop) (f : Call V α) (g : Call W β) :
    Prop :=
  ∀ context v w, R v w → S (f context v).value (g context w).value ∧
    (f context v).reports = (g context w).reports ∧ R (f context v).world (g context w).world

/-- The transformers are alike on every file, after any others. -/
def TransformersAlike (R : V → W → Prop) (t : Transformer V) (u : Transformer W) : Prop :=
  ∀ seen file, CallsAlike R Eq (t seen file) (u seen file)

/-- The factories make alike transformers. -/
def FactoriesAlike (R : V → W → Prop) : Factory V → Factory W → Prop :=
  CallsAlike R (TransformersAlike R)

/-- The groups have alike factories, phase by phase. -/
def GroupsAlike (R : V → W → Prop) (group : TransformerGroup V) (group' : TransformerGroup W) :
    Prop :=
  ∀ phase, List.Forall₂ (FactoriesAlike R) (group.phase phase) (group'.phase phase)

/-- The writers keep worlds related. -/
def WritersAlike (R : V → W → Prop) (write : Writer V) (write' : Writer W) : Prop :=
  ∀ output v w, R v w → R (write output v) (write' output w)

/-! ### Alike steps -/

/-- The stages have the same context and related worlds. -/
structure Stage.Alike (R : V → W → Prop) (s : Stage V) (t : Stage W) : Prop where
  context : s.context = t.context
  world : R s.world t.world

/-- From alike stages, the steps come to values related by `S` and leave alike stages. -/
def StepsAlike {α β : Type} (R : V → W → Prop) (S : α → β → Prop) (m : StateM (Stage V) α)
    (n : StateM (Stage W) β) : Prop :=
  ∀ s t, s.Alike R t → S (m.run s).1 (n.run t).1 ∧ (m.run s).2.Alike R (n.run t).2

section Steps

variable {α β γ δ : Type} {S : α → β → Prop} {T : γ → δ → Prop}

theorem StepsAlike.pure {a : α} {b : β} (h : S a b) :
    StepsAlike R S (pure a : StateM (Stage V) α) (pure b : StateM (Stage W) β) :=
  fun _ _ hst => ⟨h, hst⟩

theorem StepsAlike.bind {m : StateM (Stage V) α} {n : StateM (Stage W) β}
    {f : α → StateM (Stage V) γ} {g : β → StateM (Stage W) δ} (h : StepsAlike R S m n)
    (hnext : ∀ a b, S a b → StepsAlike R T (f a) (g b)) :
    StepsAlike R T (m >>= f) (n >>= g) := by
  intro s t hst
  obtain ⟨hvalue, hafter⟩ := h s t hst
  exact hnext _ _ hvalue _ _ hafter

theorem perform_alike {f : Call V α} {g : Call W β} (h : CallsAlike R S f g) :
    StepsAlike R S (perform f) (perform g) := by
  rintro ⟨context, v⟩ ⟨_, w⟩ ⟨rfl, hworld⟩
  obtain ⟨hvalue, hreports, hafter⟩ := h context v w hworld
  refine ⟨hvalue, ?_, hafter⟩
  change { context with diagnostics := context.diagnostics ++ (f context v).reports } =
    { context with diagnostics := context.diagnostics ++ (g context w).reports }
  rw [hreports]

theorem writeOutput_alike {write : Writer V} {write' : Writer W} (h : WritersAlike R write write')
    (output : Output) :
    StepsAlike R Eq (writeOutput write output) (writeOutput write' output) :=
  fun _ _ hst => ⟨rfl, hst.context, h _ _ _ hst.world⟩

end Steps

/-! ### Alike emissions -/

/-- The transformers are alike and were given the same files. -/
structure ActiveTransformer.Alike (R : V → W → Prop) (a : ActiveTransformer V)
    (b : ActiveTransformer W) : Prop where
  transformer : TransformersAlike R a.transformer b.transformer
  seen : a.seen = b.seen

/-- Transformers at work, in order, are alike. -/
abbrev ActiveAlike (R : V → W → Prop) :
    List (ActiveTransformer V) → List (ActiveTransformer W) → Prop :=
  List.Forall₂ (ActiveTransformer.Alike R)

/-- Groups at work are alike, phase by phase. -/
structure ActiveGroup.Alike (R : V → W → Prop) (a : ActiveGroup V) (b : ActiveGroup W) : Prop where
  before : ActiveAlike R a.before b.before
  after : ActiveAlike R a.after b.after
  afterDeclarations : ActiveAlike R a.afterDeclarations b.afterDeclarations

theorem instantiate_alike {factories : List (Factory V)} {factories' : List (Factory W)}
    (h : List.Forall₂ (FactoriesAlike R) factories factories') :
    StepsAlike R (ActiveAlike R) (instantiate factories) (instantiate factories') := by
  induction h with
  | nil => exact .pure .nil
  | cons hfirst _ ih =>
    refine (perform_alike hfirst).bind fun t u htu => ?_
    exact ih.bind fun others others' hothers => .pure (.cons ⟨htu, rfl⟩ hothers)

theorem groupInstantiate_alike {group : TransformerGroup V} {group' : TransformerGroup W}
    (h : GroupsAlike R group group') :
    StepsAlike R (ActiveGroup.Alike R) group.instantiate group'.instantiate := by
  refine (instantiate_alike (h .before)).bind fun before before' hbefore => ?_
  refine (instantiate_alike (h .after)).bind fun after after' hafter => ?_
  refine (instantiate_alike (h .afterDeclarations)).bind fun last last' hlast => ?_
  exact .pure ⟨hbefore, hafter, hlast⟩

/-- The same value, and beside it related ones. -/
def Beside {α β γ : Type} (S : α → β → Prop) (x : γ × α) (y : γ × β) : Prop :=
  x.1 = y.1 ∧ S x.2 y.2

theorem apply_alike {a : ActiveTransformer V} {b : ActiveTransformer W} (h : a.Alike R b)
    (file : SourceFile) :
    StepsAlike R (Beside (ActiveTransformer.Alike R)) (a.apply file) (b.apply file) := by
  obtain ⟨t, seen⟩ := a
  obtain ⟨u, _⟩ := b
  obtain ⟨htu, rfl⟩ := h
  refine (perform_alike (htu seen file)).bind fun result result' hresult => ?_
  exact .pure ⟨hresult, htu, rfl⟩

theorem runPhase_alike {actives : List (ActiveTransformer V)}
    {actives' : List (ActiveTransformer W)} (h : ActiveAlike R actives actives')
    (file : SourceFile) :
    StepsAlike R (Beside (ActiveAlike R)) (runPhase actives file) (runPhase actives' file) := by
  induction h generalizing file with
  | nil => exact .pure ⟨rfl, .nil⟩
  | cons hfirst _ ih =>
    refine (apply_alike hfirst file).bind ?_
    rintro ⟨result, a⟩ ⟨_, b⟩ ⟨rfl, hab⟩
    refine (ih result).bind ?_
    rintro ⟨last, rest⟩ ⟨_, rest'⟩ ⟨rfl, hrest⟩
    exact .pure ⟨rfl, .cons hab hrest⟩

section Files

variable {write : Writer V} {write' : Writer W}

theorem emitFile_alike (options : CompilerOptions) (hwrite : WritersAlike R write write')
    {group : ActiveGroup V} {group' : ActiveGroup W} (h : group.Alike R group')
    (file : SourceFile) :
    StepsAlike R (Beside (ActiveGroup.Alike R)) (emitFile options write group file)
      (emitFile options write' group' file) := by
  refine (runPhase_alike h.before file).bind ?_
  rintro ⟨transformed, before⟩ ⟨_, before'⟩ ⟨rfl, hbefore⟩
  refine (runPhase_alike h.after _).bind ?_
  rintro ⟨script, after⟩ ⟨_, after'⟩ ⟨rfl, hafter⟩
  refine (writeOutput_alike hwrite (Output.ofFile script)).bind fun _ _ _ => ?_
  simp only
  split
  · refine (runPhase_alike h.afterDeclarations _).bind ?_
    rintro ⟨declaration, last⟩ ⟨_, last'⟩ ⟨rfl, hlast⟩
    refine (writeOutput_alike hwrite (Output.ofFile declaration)).bind fun _ _ _ => ?_
    exact .pure ⟨rfl, hbefore, hafter, hlast⟩
  · exact .pure ⟨rfl, hbefore, hafter, h.afterDeclarations⟩

theorem emitFiles_alike (options : CompilerOptions) (hwrite : WritersAlike R write write')
    {group : ActiveGroup V} {group' : ActiveGroup W} (h : group.Alike R group')
    (files : List SourceFile) :
    StepsAlike R Eq (emitFiles options write group files)
      (emitFiles options write' group' files) := by
  induction files generalizing group group' with
  | nil => exact .pure rfl
  | cons file rest ih =>
    refine (emitFile_alike options hwrite h file).bind ?_
    rintro ⟨outputs, left⟩ ⟨_, left'⟩ ⟨rfl, hleft⟩
    refine (ih hleft).bind ?_
    rintro others _ rfl
    exact .pure rfl

/-- **Alike emissions come to the same result**, report the same and leave related worlds. -/
theorem emitOutputs_alike (program : Program) (target : Option SourceFile)
    {group : TransformerGroup V} {group' : TransformerGroup W} (h : GroupsAlike R group group')
    (hwrite : WritersAlike R write write') :
    StepsAlike R Eq (program.emitOutputs target group write)
      (program.emitOutputs target group' write') := by
  rw [Program.emitOutputs, Program.emitOutputs]
  split
  · exact .pure rfl
  · refine (groupInstantiate_alike h).bind fun active active' hactive => ?_
    refine (emitFiles_alike program.options hwrite hactive _).bind ?_
    rintro outputs _ rfl
    exact .pure rfl

end Files

end TransformerEngine
