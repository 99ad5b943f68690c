import Mathlib.Data.List.Infix
import TransformerEngine.Proofs.Lineage.Line

/-!
# What a run changes

A relation between the states before and after that every single step of a run stands in,
and that holds across steps, holds across whole runs (`RunRelation.applyWithin`).

It is used for what a run enters into the lineages (`Enters`): an entry that is new belongs
to a program that was made by then or was returned by a transform. So programs that are
not made yet have no entry, as long as transforms return only programs that there are.
-/

namespace TransformerEngine

variable {W : Type}

/-! ### Relations across runs -/

/-- A relation that every step of a run stands in, and any two in a row. -/
structure RunRelation (R : RunState W → RunState W → Prop) : Prop where
  refl : ∀ state, R state state
  trans : ∀ {a b c}, R a b → R b c → R a c
  note : ∀ state event, R state (state.note event)
  write : ∀ state name text, R state { state with overlay := state.overlay.write name text }
  derive : ∀ state invocation roots, R state (state.derive invocation roots).2
  build : ∀ state roots options, R state (state.newProgram roots options).2
  world : ∀ state world, R state { state with world }
  settle : ∀ state invocation output reports, R state (state.settle invocation output reports)

namespace RunRelation

variable {R : RunState W → RunState W → Prop} {nested : Applying W}

/-- Standing in the relation to the state at the start is kept by every step of a script. -/
theorem invariant (h : RunRelation R) (hn : ∀ program state, R state (nested program state).2)
    (invocation : Invocation) (start : RunState W) :
    Script.Invariant nested invocation fun _ _ state => R start state where
  addFile name text hstart :=
    h.trans (h.trans hstart (h.write _ name text)) (h.note _ _)
  report _ hstart := h.trans hstart (h.note _ _)
  originRoots hstart := h.trans hstart (h.note _ _)
  derive roots hstart := h.trans (h.trans hstart (h.derive _ invocation roots)) (hn _ _)
  build roots options hstart := h.trans hstart (h.build _ roots options)
  writeWorld world hstart := h.trans hstart (h.world _ world)

theorem invoke (h : RunRelation R) (hn : ∀ program state, R state (nested program state).2)
    (transform : ProgramTransform W) (invocation : Invocation) (state : RunState W) :
    R state (invoke nested transform invocation state).2 := by
  have hbegan : R state (state.note (.began invocation)) := h.note _ _
  obtain ⟨_, _, hscript, -⟩ :=
    (h.invariant hn invocation state).run (transform invocation) [] [] hbegan
  rcases invoke_cases nested transform invocation state with
    ⟨output, reports, final, heq, hinv⟩ | ⟨failure, final, heq, hinv⟩
  · rw [heq] at hscript
    rw [hinv]
    exact h.trans hscript (h.settle final invocation output reports)
  · rw [heq] at hscript
    rw [hinv]
    exact h.trans hscript (h.note final _)

theorem applyAll (h : RunRelation R) (hn : ∀ program state, R state (nested program state).2)
    (transforms : List (ResolvedTransform W)) (program : Program) (state : RunState W) :
    R state (applyAll nested transforms program state).2 := by
  induction transforms generalizing program state with
  | nil => exact h.refl state
  | cons t rest ih =>
    rcases applyAll_cons_cases nested t rest program state with hskip | ⟨transform, hv, hnew⟩
    · rw [hskip]
      exact ih program state
    · have hinvoke := h.invoke hn transform (t.invocationOn program) state
      rw [applyAll_cons_of_new hnew hv]
      generalize TransformerEngine.invoke nested transform (t.invocationOn program) state = answer
        at hinvoke ⊢
      obtain ⟨result, middle⟩ := answer
      cases result with
      | error failure => exact hinvoke
      | ok output => exact h.trans hinvoke (ih output middle)

/-- **From steps to runs.** -/
theorem applyWithin (h : RunRelation R) (transforms : List (ResolvedTransform W)) (depth : Nat)
    (program : Program) (state : RunState W) :
    R state (applyWithin transforms depth program state).2 := by
  induction depth generalizing program state with
  | zero => exact h.refl state
  | succ depth ih => exact h.applyAll ih transforms program state

end RunRelation

/-! ### New entries -/

/-- What happened from `start` to `now` made programs and added to the journal; and a
program that had no entry has none still, unless it was made by now or an invocation
returned it. -/
structure Enters (start now : RunState W) : Prop where
  nextId : start.nextId.number ≤ now.nextId.number
  journal : start.journal <+: now.journal
  entries : ∀ id, start.lineage.find? id = none → ¬ now.Made id →
    (∀ i output, RunEvent.returned i output ∈ now.journal → output.id ≠ id) →
    now.lineage.find? id = none

namespace Enters

variable {a b c start now : RunState W}

theorem trans (first : Enters a b) (last : Enters b c) : Enters a c where
  nextId := Nat.le_trans first.nextId last.nextId
  journal := first.journal.trans last.journal
  entries id hnone hmade hreturned := by
    have hmade' : ¬ b.Made id := fun h => hmade (Nat.lt_of_lt_of_le h last.nextId)
    refine last.entries id (first.entries id hnone hmade' fun i output h => ?_) hmade hreturned
    exact hreturned i output (last.journal.subset h)

/-- A step that leaves the lineages alone enters nothing. -/
theorem of_lineage (hnext : start.nextId.number ≤ now.nextId.number)
    (hjournal : start.journal <+: now.journal) (hlineage : now.lineage = start.lineage) :
    Enters start now :=
  ⟨hnext, hjournal, fun _ hnone _ _ => hlineage ▸ hnone⟩

end Enters

theorem enters_runRelation : RunRelation (Enters : RunState W → RunState W → Prop) where
  refl state := .of_lineage (Nat.le_refl _) (List.prefix_refl _) rfl
  trans := .trans
  note state event := .of_lineage (Nat.le_refl _) (List.prefix_append _ _) rfl
  write state name text := .of_lineage (Nat.le_refl _) (List.prefix_refl _) rfl
  build state roots options := .of_lineage (Nat.le_succ _) (List.prefix_refl _) rfl
  world state world := .of_lineage (Nat.le_refl _) (List.prefix_refl _) rfl
  derive state invocation roots := by
    refine ⟨Nat.le_succ _, List.prefix_append _ _, fun id hnone hmade _ => ?_⟩
    -- the new entry is that of the program made just now
    have hne : id ≠ (state.derive invocation roots).1.id := by
      rintro rfl
      exact hmade (Nat.lt_succ_self _)
    rw [RunState.derive_lineage, Lineage.find?_inherit_of_ne hne, hnone]
  settle state invocation output reports := by
    refine ⟨Nat.le_refl _, List.prefix_append _ _, fun id hnone _ hreturned => ?_⟩
    have hne : id ≠ output.id := by
      rintro rfl
      refine hreturned invocation output ?_ rfl
      rw [RunState.settle_journal]
      exact List.mem_append_right _ (List.mem_singleton_self _)
    rw [RunState.settle_lineage, Lineage.find?_reportAll_of_ne hne,
      Lineage.find?_inherit_of_ne hne, hnone]

/-- **Programs that are not made yet have no entry.** This is kept by a run whose transforms
return only programs that were made by its end. -/
theorem applyTransforms_numbered {state : RunState W} (h : state.Numbered)
    (transforms : List (ResolvedTransform W)) (program : Program)
    (made : ∀ i output,
      RunEvent.returned i output ∈ (applyTransforms transforms program state).2.journal →
        (applyTransforms transforms program state).2.Made output.id) :
    (applyTransforms transforms program state).2.Numbered := by
  have henters : Enters state (applyTransforms transforms program state).2 :=
    enters_runRelation.applyWithin transforms transforms.length program state
  intro id hid
  refine henters.entries id (h id fun hmade => ?_) hid fun i output hreturned heq => ?_
  · exact hid (Nat.lt_of_lt_of_le hmade henters.nextId)
  · exact hid (heq ▸ made i output hreturned)

end TransformerEngine
