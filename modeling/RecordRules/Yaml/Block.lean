import RecordRules.Yaml.Position

/-!
# Block scalars

A literal or folded scalar follows a bar or an angle and a line break. Its lines are indented as
the first one that is not empty, or as a digit says, and its line breaks are kept or folded. A
sign says what happens to the breaks at its end: the last one is kept, or all of them, or none.
-/

namespace RecordRules.Yaml

/-- What happens to the line breaks at the end of a block scalar. -/
inductive Chomping
  | strip
  | clip
  | keep

/-- The chomping that a sign stands for. -/
def Chomping.ofChar? : Char → Option Chomping
  | '+' => some .keep
  | '-' => some .strip
  | _ => none

/-- A digit that sets the indentation of a block scalar, which cannot be zero. -/
def readIncrement (position : Position) : Option (Nat × Position) :=
  match position.rest with
  | [] => some (0, position)
  | char :: _ =>
    if !char.isDigit then some (0, position)
    else if char == '0' then none
    else some (char.toNat - '0'.toNat, position.skip 1)

/-- A sign that sets the chomping. -/
def readChomping (position : Position) : Option (Chomping × Position) :=
  (position.next?.bind Chomping.ofChar?).map fun chomping => (chomping, position.skip 1)

/-- The chomping and the indentation that stand behind the bar or angle, in either order. -/
def readHeader (position : Position) : Option (Chomping × Nat × Position) := do
  match readChomping position with
  | some (chomping, position) =>
    let (increment, position) ← readIncrement position
    return (chomping, increment, position)
  | none =>
    let (increment, position) ← readIncrement position
    if increment = 0 then return (.clip, 0, position)
    let (chomping, position) := (readChomping position).getD (.clip, position)
    return (chomping, increment, position)

/-- Reads empty lines, up to the indentation of the next line. Where the indentation is not known
yet, given as zero, the largest one met is returned too. A tab in the indentation is refused. The
bound is the length of the text. -/
def readEmptyLines (indentation : Nat) :
    Nat → Nat → List Char → Position → Option (Nat × List Char × Position)
  | 0, largest, breaks, position => some (largest, breaks, position)
  | bound + 1, largest, breaks, position =>
    let spaces := (position.rest.takeWhile (· == ' ')).length
    let position :=
      position.skip
        (if indentation = 0 then spaces else min spaces (indentation - position.column))
    let largest := max largest position.column
    if (indentation == 0 || decide (position.column < indentation)) && position.sees (· == '\t') then
      none
    else if position.sees isBreak then
      readEmptyLines indentation bound largest (breaks ++ position.breakAhead) position.skipBreak
    else some (largest, breaks, position)

/-- The lines of a block scalar read so far: their text, whether the last line began with a blank,
the break at its end, and the breaks of the empty lines behind it. -/
structure Lines where
  text : List Char
  isIndented : Bool
  ending : List Char
  emptyLines : List Char

/-- Joins what is between the last line and a line that begins with a blank or not. In a folded
scalar a break between lines that do not becomes a blank, or is dropped before an empty line. -/
def Lines.join (lines : Lines) (isFolded isIndented : Bool) : List Char :=
  if isFolded && lines.ending == ['\n'] && !lines.isIndented && !isIndented then
    lines.text ++ (if lines.emptyLines = [] then [' '] else lines.emptyLines)
  else lines.text ++ lines.ending ++ lines.emptyLines

/-- Reads the lines with this indentation behind those read before. The bound is the length of the
text. -/
def readLines (isFolded : Bool) (indentation : Nat) : Nat → Lines → Position →
    Option (Lines × Position)
  | 0, lines, position => some (lines, position)
  | bound + 1, lines, position =>
    if position.column == indentation && !position.rest.isEmpty then do
      let isIndented := position.sees isBlank
      let line := position.rest.takeWhile fun char => !isBreak char
      let behind := position.skip line.length
      let (_, emptyLines, ahead) ←
        readEmptyLines indentation (behind.rest.length + 1) 0 [] behind.skipBreak
      readLines isFolded indentation bound
        ⟨lines.join isFolded isIndented ++ line, isIndented, behind.breakAhead, emptyLines⟩ ahead
    else some (lines, position)

/-- The text of a block scalar with the breaks at its end as the chomping says. -/
def Lines.chomped (lines : Lines) : Chomping → List Char
  | .strip => lines.text
  | .clip => lines.text ++ lines.ending
  | .keep => lines.text ++ lines.ending ++ lines.emptyLines

/-- Reads a block scalar from its bar or angle on. The indentation of what it belongs to is given,
or nothing at the top of a document. -/
def readBlock (isFolded : Bool) (parent? : Option Nat) (position : Position) :
    Option (List Char × Position) := do
  let (chomping, increment, position) ← readHeader (position.skip 1)
  let position := position.skipWhile isBlank
  let position :=
    if position.sees (· == '#') then position.skipWhile fun char => !isBreak char else position
  if !startsBreak position.rest then none
  else
    let position := position.skipBreak
    let given := if increment = 0 then 0 else parent?.getD 0 + increment
    let (largest, emptyLines, position) ←
      readEmptyLines given (position.rest.length + 1) 0 [] position
    let least := match parent? with
      | some parent => parent + 1
      | none => 1
    let indentation := if given = 0 then max largest least else given
    let (lines, position) ←
      readLines isFolded indentation (position.rest.length + 1) ⟨[], false, [], emptyLines⟩ position
    return (lines.chomped chomping, position)

end RecordRules.Yaml
