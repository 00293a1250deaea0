/-!
Why a text is not a pattern.
-/
namespace Highlighting.Pattern

inductive Fault where
  | unclosedGroup
  | unopenedGroup
  | unclosedClass
  | nothingToRepeat
  | trailingBackslash
  | unknownEscape (c : Char)
  | backReference
  | lookAround
  | unknownFlag (c : Char)
  | unclosedFlags
  | repeatedFlag
  | danglingNegation
  | badGroupName
  | repeatedGroupName (name : List Char)
  | unclosedCount
  | emptyCount
  | badCount
  | decreasingCount
  | decreasingRange
  | rangeOfSets
  | lookInClass
  | badCodePoint
  | unknownClass
  | unknownEdge
  /-- Without Unicode, a set may hold ASCII characters only. -/
  | beyondAscii
  | tooDeep
  | tooLarge
  deriving DecidableEq, Repr

end Highlighting.Pattern
