import PostfixCalculator.Terminal.Printer
import Mathlib.Tactic

/-!
# What a terminal makes of a text

A terminal reads character by character. A code, which is a number between `ESC [` and `m`,
changes the pen with which it shows what follows; all other characters are shown.
-/
namespace PostfixCalculator.Terminal

/-- The colour, by the number that sets it, and the style. The colour 39 is the default. -/
structure Pen where
  fore : ℕ := 39
  bright : Bool := false
  deriving DecidableEq, Repr

/-- A terminal passes over the numbers that are no colours or styles. -/
def Pen.obey (pen : Pen) (n : ℕ) : Pen :=
  if n = 0 then {}
  else if n = 1 then { pen with bright := true }
  else if n = 39 ∨ (30 ≤ n ∧ n ≤ 37) ∨ (90 ≤ n ∧ n ≤ 97) then { pen with fore := n }
  else pen

/-- How far a terminal is in reading a code. -/
inductive Mode where
  | text
  | escape
  | number (n : ℕ)
  deriving DecidableEq, Repr

structure Display where
  mode : Mode := .text
  pen : Pen := {}
  shown : List Char := []
  deriving DecidableEq, Repr

namespace Display

def receive (d : Display) (c : Char) : Display :=
  match d.mode with
  | .text =>
    if c = '\x1b' then { d with mode := .escape } else { d with shown := d.shown ++ [c] }
  | .escape => { d with mode := if c = '[' then .number 0 else .text }
  | .number n =>
    if c = 'm' then { d with mode := .text, pen := d.pen.obey n }
    else { d with mode := if c.isDigit then .number (10 * n + (c.toNat - 48)) else .text }

def receiveAll (d : Display) (text : List Char) : Display := text.foldl receive d

variable {d : Display} {text : List Char}

lemma receiveAll_append (d : Display) (a b : List Char) :
    d.receiveAll (a ++ b) = (d.receiveAll a).receiveAll b := List.foldl_append

lemma receiveAll_plain (hmode : d.mode = .text) (htext : '\x1b' ∉ text) :
    d.receiveAll text = { d with shown := d.shown ++ text } := by
  induction text generalizing d with
  | nil => rw [List.append_nil]; rfl
  | cons c text ih =>
    obtain ⟨hc, hrest⟩ := not_or.1 (mt List.mem_cons.2 htext)
    have hreceive : d.receive c = { d with shown := d.shown ++ [c] } := by
      rw [receive, hmode]
      exact if_neg (Ne.symm hc)
    rw [receiveAll, List.foldl_cons, hreceive, ← receiveAll,
      ih (d := { d with shown := d.shown ++ [c] }) hmode hrest, List.append_assoc]
    rfl

lemma receiveAll_code (hmode : d.mode = .text) (code : Code) :
    d.receiveAll code.chars = { d with pen := d.pen.obey code.number } := by
  obtain ⟨mode, pen, shown⟩ := d
  cases hmode
  cases code with
  | bright => rfl
  | resetAll => rfl
  | foreground f =>
    cases f with
    | reset => rfl
    | shade hue light => cases hue <;> cases light <;> rfl

end Display

lemma Pen.obey_foreground (pen : Pen) (f : Foreground) :
    pen.obey f.number = { pen with fore := f.number } := by
  cases f with
  | reset => rfl
  | shade hue light => cases hue <;> cases light <;> rfl

def display (text : List Char) : Display := ({} : Display).receiveAll text

/-- The text without its codes. -/
def visible (text : List Char) : List Char := (display text).shown

end PostfixCalculator.Terminal
