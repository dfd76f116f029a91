/-!
# Colour and style codes

A code is a number between `ESC [` and `m`. It sets or resets the colour of the text that
follows, makes it bright, or resets everything.
-/
namespace PostfixCalculator.Terminal

inductive Hue where
  | black
  | red
  | green
  | yellow
  | blue
  | magenta
  | cyan
  | white
  deriving DecidableEq, Repr

def Hue.index : Hue → Nat
  | black => 0
  | red => 1
  | green => 2
  | yellow => 3
  | blue => 4
  | magenta => 5
  | cyan => 6
  | white => 7

/-- A colour of text; `reset` is the colour that a terminal starts with. -/
inductive Foreground where
  | shade (hue : Hue) (light : Bool)
  | reset
  deriving DecidableEq, Repr

def Foreground.number : Foreground → Nat
  | shade hue light => (if light then 90 else 30) + hue.index
  | reset => 39

inductive Code where
  | foreground (f : Foreground)
  | bright
  | resetAll
  deriving DecidableEq, Repr

def Code.number : Code → Nat
  | foreground f => f.number
  | bright => 1
  | resetAll => 0

def Code.chars (c : Code) : List Char := '\x1b' :: '[' :: Nat.toDigits 10 c.number ++ ['m']

def Code.text (c : Code) : String := String.ofList c.chars

end PostfixCalculator.Terminal
