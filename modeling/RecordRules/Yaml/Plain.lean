import RecordRules.Yaml.Folding

/-!
# Plain scalars

A plain scalar has no quotes around it. It ends at a colon before a blank, at a number sign behind
a blank, at a document marker, at the brackets and commas of a flow collection inside one, and in
front of a line that is not indented more than what it belongs to.
-/

namespace RecordRules.Yaml

/-- The characters that end a plain scalar inside a flow collection. -/
def isFlowIndicator (char : Char) : Bool :=
  char == ',' || char == '[' || char == ']' || char == '\x7b' || char == '\x7d'

/-- Whether a plain scalar ends in front of this text. -/
def endsPlain (inFlow : Bool) (text : List Char) : Bool :=
  match text with
  | [] => true
  | char :: rest =>
    isBlank char || isBreak char || (char == ':' && startsBlank rest) ||
      (inFlow && isFlowIndicator char)

/-- Whether a colon stands where a plain scalar inside a flow collection cannot have one. -/
def hasStrayColon (inFlow : Bool) : List Char → Bool
  | ':' :: next :: _ => inFlow && (isFlowIndicator next || next == '?')
  | _ => false

/-- The characters of a plain scalar up to a blank or its end. -/
def readPlainWord (inFlow : Bool) : List Char → Option (List Char)
  | [] => some []
  | char :: rest =>
    if isBlank char || isBreak char then some []
    else if hasStrayColon inFlow (char :: rest) then none
    else if endsPlain inFlow (char :: rest) then some []
    else (readPlainWord inFlow rest).map (char :: ·)

/-- Reads words of a plain scalar behind those read before, with the gap that comes before the
next one. The flag of the result says whether a line break ends the scalar. The bound is the
length of the text. -/
def readPlainWords (inFlow : Bool) (indentation : Nat) :
    Nat → List Char → Gap → Position → Option (List Char × Bool × Position)
  | 0, before, gap, position => some (before, gap.hasBreak, position)
  | bound + 1, before, gap, position => do
    if position.seesAnyMarker || position.next? == some '#' then
      return (before, gap.hasBreak, position)
    let word ← readPlainWord inFlow position.rest
    let text := if word = [] then before else before ++ gap.folded ++ word
    let gapBefore := if word = [] then gap else .blanks []
    let behind := position.skip word.length
    if !behind.sees (fun char => isBlank char || isBreak char) then
      return (text, gapBefore.hasBreak, behind)
    let (gap, ahead) ← readGap indentation behind.rest.length gapBefore behind
    if !inFlow && decide (ahead.column < indentation) then return (text, gap.hasBreak, ahead)
    readPlainWords inFlow indentation bound text gap ahead

/-- Reads a plain scalar whose further lines are indented at least so much. -/
def readPlain (inFlow : Bool) (indentation : Nat) (position : Position) :
    Option (List Char × Bool × Position) :=
  readPlainWords inFlow indentation (position.rest.length + 1) [] (.blanks []) position

end RecordRules.Yaml
