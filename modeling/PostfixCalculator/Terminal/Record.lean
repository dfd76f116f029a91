/-!
# Log records

A record has a level, the name of its source and a message. A log keeps the records of its
own level and above.
-/
namespace PostfixCalculator.Terminal

inductive Level where
  | debug
  | info
  | warning
  | error
  | critical
  deriving DecidableEq, Repr

namespace Level

/-- All levels, the least urgent first. -/
def all : List Level := [debug, info, warning, error, critical]

def name : Level → String
  | debug => "DEBUG"
  | info => "INFO"
  | warning => "WARNING"
  | error => "ERROR"
  | critical => "CRITICAL"

def rank : Level → Nat
  | debug => 0
  | info => 1
  | warning => 2
  | error => 3
  | critical => 4

def ofName? (text : String) : Option Level := all.find? fun level => level.name == text

theorem mem_all (level : Level) : level ∈ all := by cases level <;> simp [all]

end Level

structure Record where
  level : Level
  source : String
  message : String
  deriving DecidableEq, Repr

namespace Record

/-- Whether a log of a level keeps the record. -/
def isKept (threshold : Level) (r : Record) : Bool := threshold.rank ≤ r.level.rank

def line (r : Record) : String := s!"{r.level.name}:{r.source}:{r.message}\n"

end Record

end PostfixCalculator.Terminal
