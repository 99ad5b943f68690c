import TransformerEngine.Emit.Transformer

/-!
# Diagnostic sinks

A sink collects diagnostics until they are taken out of it. Several handles may lead to
one sink, and what is pushed through one of them is seen through all. `Sinks` holds sinks
and handles, both numbered in the order in which they came.

* `Sinks.reported_push` says what each handle shows after a push.
* `Sinks.reported_share` says that a shared handle shows the same.
-/

namespace TransformerEngine

/-- Sinks, and the handles that lead to them. -/
structure Sinks where
  /-- What each sink holds, in order of arrival. -/
  pools : List (List Diagnostic) := [[]]
  /-- The sink that each handle leads to. -/
  handles : List Nat := [0]
deriving DecidableEq

namespace Sinks

/-- The sink that a handle leads to. -/
def pool (sinks : Sinks) (handle : Nat) : Nat := sinks.handles.getD handle 0

/-- What the sink of a handle holds. -/
def reported (sinks : Sinks) (handle : Nat) : List Diagnostic :=
  sinks.pools.getD (sinks.pool handle) []

/-- Push a diagnostic through a handle. -/
def push (sinks : Sinks) (handle : Nat) (d : Diagnostic) : Sinks :=
  { sinks with pools := sinks.pools.modify (sinks.pool handle) (· ++ [d]) }

/-- Take out what the sink of a handle holds. -/
def take (sinks : Sinks) (handle : Nat) : List Diagnostic × Sinks :=
  (sinks.reported handle, { sinks with pools := sinks.pools.set (sinks.pool handle) [] })

/-- Add a handle to the sink of another handle. -/
def share (sinks : Sinks) (handle : Nat) : Sinks :=
  { sinks with handles := sinks.handles ++ [sinks.pool handle] }

/-- Add an empty sink with a handle to it. -/
def add (sinks : Sinks) : Sinks :=
  ⟨sinks.pools ++ [[]], sinks.handles ++ [sinks.pools.length]⟩

/-- How much the sink of a handle holds, in words. -/
def describe (sinks : Sinks) (handle : Nat) : String :=
  s!"DiagnosticSink \x7b len: {(sinks.reported handle).length} \x7d"

@[simp] theorem pool_push (sinks : Sinks) (handle : Nat) (d : Diagnostic) (other : Nat) :
    (sinks.push handle d).pool other = sinks.pool other := rfl

theorem reported_push {sinks : Sinks} {handle : Nat} (d : Diagnostic) (other : Nat)
    (h : sinks.pool handle < sinks.pools.length) :
    (sinks.push handle d).reported other =
      if sinks.pool other = sinks.pool handle then sinks.reported other ++ [d]
      else sinks.reported other := by
  unfold reported
  rw [pool_push]
  by_cases ho : sinks.pool other = sinks.pool handle
  · simp [push, ho, List.getD_eq_getElem?_getD, h]
  · simp [push, ho, List.getD_eq_getElem?_getD, Ne.symm ho]

theorem reported_share (sinks : Sinks) (handle : Nat) :
    (sinks.share handle).reported sinks.handles.length = sinks.reported handle := by
  simp [reported, share, pool]

end Sinks

end TransformerEngine
