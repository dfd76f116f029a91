/-!
# The version of the program
-/
namespace PostfixCalculator

def versionNumbers : List Nat := [0, 1, 0]

def versionText : String := ".".intercalate (versionNumbers.map toString)

end PostfixCalculator
