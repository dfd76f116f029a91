import PostfixCalculator.Fault

/-!
# Runs

A run is what a step-by-step producer delivered, and the fault that ended it if it did not
come to its natural end. A consumer that stops early never learns how the run ended.
-/
namespace PostfixCalculator

structure Run (α : Type) where
  items : List α
  fault : Option Fault

namespace Run

variable {α : Type}

def ofList (items : List α) : Run α := ⟨items, none⟩

def failed (fault : Fault) : Run α := ⟨[], some fault⟩

/-- Delivers some items before those of a run. -/
def prepend (items : List α) (run : Run α) : Run α := ⟨items ++ run.items, run.fault⟩

/-- Delivers results up to the first failure. -/
def ofResults : List (Except Fault α) → Run α
  | [] => ofList []
  | .ok item :: rest => prepend [item] (ofResults rest)
  | .error fault :: _ => failed fault

/-- All items, if the run came to its natural end. -/
def toExcept (run : Run α) : Except Fault (List α) :=
  match run.fault with
  | none => .ok run.items
  | some fault => .error fault

end Run

end PostfixCalculator
