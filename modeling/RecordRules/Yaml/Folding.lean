import RecordRules.Yaml.Position

/-!
# Folding of lines

A scalar that goes on over several lines is folded: the blanks around a line break are dropped, a
single break reads as a blank, and of several breaks the first is dropped.
-/

namespace RecordRules.Yaml

/-- What stands between two words of a scalar: blanks in one line, or line breaks, of which the
first one is kept apart. -/
inductive Gap
  | blanks (chars : List Char)
  | breaks (first : List Char) (others : List Char)

/-- What a gap reads as. -/
def Gap.folded : Gap → List Char
  | blanks chars => chars
  | breaks first others =>
    if first = ['\n'] then if others = [] then [' '] else others else first ++ others

/-- Whether a gap has a line break in it. -/
def Gap.hasBreak : Gap → Bool
  | blanks _ => false
  | breaks _ _ => true

/-- Adds a blank, which counts only before the first break. -/
def Gap.addBlank (char : Char) : Gap → Gap
  | blanks chars => blanks (chars ++ [char])
  | breaks first others => breaks first others

/-- Adds a line break. -/
def Gap.addBreak (chars : List Char) : Gap → Gap
  | blanks _ => breaks chars []
  | breaks first others => breaks first (others ++ chars)

/-- Reads blanks and line breaks onto a gap. A tab where the indentation of a scalar stands is
refused. The bound is the length of the text. -/
def readGap (indentation : Nat) : Nat → Gap → Position → Option (Gap × Position)
  | 0, gap, position => some (gap, position)
  | bound + 1, gap, position =>
    match position.rest with
    | [] => some (gap, position)
    | char :: _ =>
      if isBlank char then
        if gap.hasBreak && decide (position.column < indentation) && char == '\t' then none
        else readGap indentation bound (gap.addBlank char) (position.skip 1)
      else if isBreak char then
        readGap indentation bound (gap.addBreak position.breakAhead) position.skipBreak
      else some (gap, position)

end RecordRules.Yaml
