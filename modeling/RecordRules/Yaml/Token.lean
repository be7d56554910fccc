import RecordRules.Text.Percent
import RecordRules.Yaml.Block
import RecordRules.Yaml.Plain
import RecordRules.Yaml.Quotation

/-!
# Tokens of a YAML text

Indentation and brackets become tokens, so that the structure of a text can be read off its tokens
alone. Of a scalar its text counts, and whether it is plain.

Whether a node is a key shows only at the colon behind it. So the token of a node that could be a
key is remembered by its number, and the token that marks it as one is put in front of it later.
-/

namespace RecordRules.Yaml

/-- A token. -/
inductive Token
  | versionDirective (major minor : Nat)
  | tagDirective (handle : String)
  | documentStart
  | documentEnd
  | blockSequence
  | blockMapping
  | blockEnd
  | flowSequence
  | flowSequenceEnd
  | flowMapping
  | flowMappingEnd
  | blockEntry
  | flowEntry
  | key
  | value
  | alias (name : String)
  | anchor (name : String)
  | tag (handle : String)
  | scalar (text : String) (isPlain : Bool)
  deriving DecidableEq

/-- A place at which a key may have begun: the number of the next token there, and whether
nothing but a key can stand there. -/
structure PossibleKey where
  number : Nat
  index : Nat
  line : Nat
  column : Nat
  isRequired : Bool

/-- How far a text has been cut into tokens. The tokens come the latest first. There is one entry
of `keys` for every open flow collection and one for the block structure around them. -/
structure Scanner where
  position : Position
  tokens : List Token
  indents : List Nat
  keyAllowed : Bool
  key : Option PossibleKey
  outerKeys : List (Option PossibleKey)

namespace Scanner

/-- The scanner in front of a text. -/
def start (text : List Char) : Scanner := ⟨.start text, [], [], true, none, []⟩

/-- Whether a flow collection is open. -/
def inFlow (scanner : Scanner) : Bool := !scanner.outerKeys.isEmpty

/-- How many tokens there are. -/
def count (scanner : Scanner) : Nat := scanner.tokens.length

/-- Adds a token behind the others. -/
def emit (scanner : Scanner) (token : Token) : Scanner :=
  { scanner with tokens := token :: scanner.tokens }

/-- Puts a token in front of the one with a number. -/
def emitAt (scanner : Scanner) (number : Nat) (token : Token) : Scanner :=
  { scanner with tokens := scanner.tokens.insertIdx (scanner.count - number) token }

/-- Moves to another position. -/
def moveTo (scanner : Scanner) (position : Position) : Scanner :=
  { scanner with position := position }

/-- Sets whether a key may begin next. -/
def allowKey (scanner : Scanner) (allowed : Bool) : Scanner :=
  { scanner with keyAllowed := allowed }

/-- Whether the column is to the right of the indentation. -/
def isIndentedBeyond (scanner : Scanner) (column : Nat) : Bool :=
  match scanner.indents with
  | [] => true
  | indent :: _ => decide (indent < column)

/-- Begins a block collection if the column is to the right of the indentation; its token comes in
front of the one with a number. -/
def openBlock (scanner : Scanner) (column number : Nat) (token : Token) : Scanner :=
  if scanner.inFlow || !scanner.isIndentedBeyond column then scanner
  else { scanner.emitAt number token with indents := column :: scanner.indents }

/-- Ends the block collections to the right of a column, or all of them. -/
def closeBlocks (scanner : Scanner) (column? : Option Nat) : Scanner :=
  if scanner.inFlow then scanner
  else
    let isOpen (indent : Nat) : Bool :=
      match column? with
      | none => true
      | some column => decide (column < indent)
    let ended := (scanner.indents.takeWhile isOpen).length
    { scanner with
      tokens := List.replicate ended Token.blockEnd ++ scanner.tokens
      indents := scanner.indents.drop ended }

/-- Forgets where a key may have begun, which must not be where nothing else can stand. -/
def dropKey (scanner : Scanner) : Option Scanner :=
  match scanner.key with
  | none => some scanner
  | some possible => if possible.isRequired then none else some { scanner with key := none }

/-- Notes that a key may begin here, if one is allowed. -/
def saveKey (scanner : Scanner) : Option Scanner :=
  if !scanner.keyAllowed then some scanner
  else do
    let scanner ← scanner.dropKey
    let position := scanner.position
    let isRequired := !scanner.inFlow && scanner.indents.head? == some position.column
    return { scanner with
      key := some ⟨scanner.count, position.index, position.line, position.column, isRequired⟩ }

/-- The most characters that a key can be long. -/
def longestKey : Nat := 1024

/-- Forgets keys that would be too long or go on over a line break. -/
def dropStaleKeys (scanner : Scanner) : Option Scanner := do
  let position := scanner.position
  let check (key : Option PossibleKey) : Option (Option PossibleKey) :=
    match key with
    | none => some none
    | some possible =>
      if possible.line < position.line || possible.index + longestKey < position.index then
        if possible.isRequired then none else some none
      else some (some possible)
  return { scanner with
    key := ← check scanner.key
    outerKeys := ← scanner.outerKeys.mapM check }

/-- Skips blanks, comments and line breaks. A key may begin in a new line outside of flow
collections. A tab cannot stand where a key may begin. A byte order mark at the beginning of a line
is skipped, but takes up a column. The bound is the length of the text. -/
def skipToToken : Nat → Scanner → Scanner
  | 0, scanner => scanner
  | bound + 1, scanner =>
    let position := scanner.position
    let position :=
      if position.column == 0 && position.next? == some '\uFEFF' then position.skip 1 else position
    let tabs := scanner.inFlow || !scanner.keyAllowed
    let position := position.skipWhile fun char => char == ' ' || (tabs && char == '\t')
    let position :=
      if position.next? == some '#' then position.skipWhile fun char => !isBreak char
      else position
    if position.sees isBreak then
      skipToToken bound
        ((scanner.moveTo position.skipBreak).allowKey (scanner.keyAllowed || !scanner.inFlow))
    else scanner.moveTo position

/-- Begins a flow collection. -/
def openFlow (scanner : Scanner) (token : Token) : Option Scanner := do
  let scanner ← scanner.saveKey
  let scanner := scanner.emit token
  return { scanner with
    position := scanner.position.skip 1
    keyAllowed := true
    key := none
    outerKeys := scanner.key :: scanner.outerKeys }

/-- Ends a flow collection. -/
def closeFlow (scanner : Scanner) (token : Token) : Option Scanner := do
  let scanner ← scanner.dropKey
  let scanner := scanner.emit token
  return { scanner with
    position := scanner.position.skip 1
    keyAllowed := false
    key := scanner.outerKeys.head?.getD scanner.key
    outerKeys := scanner.outerKeys.tail }

/-- Separates entries of a flow collection. -/
def separateFlow (scanner : Scanner) : Option Scanner := do
  let scanner ← scanner.dropKey
  return ((scanner.emit .flowEntry).moveTo (scanner.position.skip 1)).allowKey true

/-- Begins an entry of a block sequence. -/
def beginEntry (scanner : Scanner) : Option Scanner := do
  if !scanner.inFlow && !scanner.keyAllowed then none
  else
    let scanner ← (scanner.openBlock scanner.position.column scanner.count .blockSequence).dropKey
    return ((scanner.emit .blockEntry).moveTo (scanner.position.skip 1)).allowKey true

/-- Begins a key that is marked as one. -/
def beginKey (scanner : Scanner) : Option Scanner := do
  if !scanner.inFlow && !scanner.keyAllowed then none
  else
    let scanner ← (scanner.openBlock scanner.position.column scanner.count .blockMapping).dropKey
    return ((scanner.emit .key).moveTo (scanner.position.skip 1)).allowKey (!scanner.inFlow)

/-- Begins the value of a key. If a key may have begun before, it did. -/
def beginValue (scanner : Scanner) : Option Scanner :=
  match scanner.key with
  | some possible =>
    let scanner := scanner.emitAt possible.number .key
    let scanner := scanner.openBlock possible.column possible.number .blockMapping
    some { scanner.emit .value with
      position := scanner.position.skip 1
      keyAllowed := false
      key := none }
  | none =>
    if !scanner.inFlow && !scanner.keyAllowed then none
    else
      let scanner := scanner.openBlock scanner.position.column scanner.count .blockMapping
      some (((scanner.emit .value).moveTo (scanner.position.skip 1)).allowKey (!scanner.inFlow))

/-- A name behind an asterisk or an ampersand. -/
def readName (scanner : Scanner) (token : String → Token) : Option Scanner := do
  let scanner ← scanner.saveKey
  let behind := scanner.position.skip 1
  let name := behind.rest.takeWhile isNameChar
  let position := behind.skip name.length
  let ends := startsBlank position.rest ||
    position.sees fun char => "?:,]\x7d%@`".toList.contains char
  if name = [] || !ends then none
  else return ((scanner.emit (token (String.ofList name))).moveTo position).allowKey false

/-- A character of the resource that a tag names. -/
def isTagChar (isVerbatim : Bool) (char : Char) : Bool :=
  isNameChar char || ";/?:@&=+$.%!~*'()".toList.contains char ||
    (isVerbatim && ",[]".toList.contains char)

/-- Whether every percent sign begins the escape of a byte, and the bytes are a text. -/
def isEscaped (text : List Char) : Bool :=
  let rec escapes : List Char → Bool
    | '%' :: high :: low :: rest => (Text.byteOf? high low).isSome && escapes rest
    | '%' :: _ => false
    | _ :: rest => escapes rest
    | [] => true
  escapes text && (Text.percentDecode? text).isSome

/-- The resource that a text begins with. -/
def takeResource (isVerbatim : Bool) (text : List Char) : Option (List Char) :=
  let resource := text.takeWhile (isTagChar isVerbatim)
  if isEscaped resource then some resource else none

/-- A tag, of which only the handle matters. -/
def readTag (scanner : Scanner) : Option Scanner := do
  let scanner ← scanner.saveKey
  let text := scanner.position.rest.drop 1
  let (handle, length) ←
    match text with
    | '<' :: rest =>
      let name ← takeResource true rest
      if name = [] || (rest.drop name.length).head? != some '>' then none
      else some ("", name.length + 3)
    | _ =>
      let name := text.takeWhile isNameChar
      match text.drop name.length with
      | '!' :: rest =>
        let suffix ← takeResource false rest
        if suffix = [] then none
        else some (String.ofList ('!' :: name ++ ['!']), name.length + suffix.length + 2)
      | _ => some ("!", (← takeResource false text).length + 1)
  let position := scanner.position.skip length
  if startsBlank position.rest || (scanner.inFlow && position.next? == some ',') then
    return ((scanner.emit (.tag handle)).moveTo position).allowKey false
  else none

/-- A scalar that may be a key. -/
def readScalar (scanner : Scanner) (isPlain : Bool)
    (read : Position → Option (List Char × Bool × Position)) : Option Scanner := do
  let scanner ← scanner.saveKey
  let (text, allowed, position) ← read scanner.position
  return ((scanner.emit (.scalar (String.ofList text) isPlain)).moveTo position).allowKey allowed

/-- A block scalar, which is no key. -/
def readBlockScalar (scanner : Scanner) (isFolded : Bool) : Option Scanner := do
  let scanner ← scanner.dropKey
  let (text, position) ← readBlock isFolded scanner.indents.head? scanner.position
  return ((scanner.emit (.scalar (String.ofList text) false)).moveTo position).allowKey true

/-- A marker that starts or ends a document. -/
def readMarker (scanner : Scanner) (token : Token) : Option Scanner := do
  let scanner ← (scanner.closeBlocks none).dropKey
  return ((scanner.emit token).moveTo (scanner.position.skip 3)).allowKey false

/-- The digits of a version. -/
def readVersionNumber (text : List Char) : Option (Nat × List Char) :=
  let digits := text.takeWhile Char.isDigit
  if digits = [] || 9 < digits.length then none
  else some (Nat.ofDigitChars 10 digits 0, text.drop digits.length)

/-- A directive without its percent sign, and the text behind it. -/
def readDirectiveText (text : List Char) : Option (Token × List Char) :=
  let name := text.takeWhile isNameChar
  let rest := (text.drop name.length).dropWhile isBlank
  if !startsBlank (text.drop name.length) then none
  else if name == "YAML".toList then do
    let (major, rest) ← readVersionNumber rest
    if rest.head? != some '.' then none
    else
      let (minor, rest) ← readVersionNumber rest.tail
      return (.versionDirective major minor, rest)
  else if name == "TAG".toList then do
    let handle := rest.tail.takeWhile isNameChar
    let behind := rest.tail.drop handle.length
    let isClosed := behind.head? == some '!'
    let behind := if isClosed then behind.tail else behind
    let path ← takeResource true (behind.dropWhile isBlank)
    let last := (behind.dropWhile isBlank).drop path.length
    if rest.head? != some '!' || (!isClosed && handle != []) || !behind.head?.any isBlank ||
        path = [] || !startsBlank last then none
    else
      let closing := if isClosed then ['!'] else []
      some (.tagDirective (String.ofList ('!' :: handle ++ closing)), last)
  else none

/-- A directive, which fills a line. -/
def readDirective (scanner : Scanner) : Option Scanner := do
  let scanner ← (scanner.closeBlocks none).dropKey
  let start := scanner.position
  let (token, rest) ← readDirectiveText start.rest.tail
  let position := (start.skip (start.rest.length - rest.length)).skipWhile isBlank
  let position :=
    if position.next? == some '#' then position.skipWhile fun char => !isBreak char else position
  if !startsBreak position.rest then none
  else return ((scanner.emit token).moveTo position.skipBreak).allowKey false

/-- Whether a plain scalar may begin with a character, where the text goes on like this. -/
def beginsPlain (inFlow : Bool) (char : Char) (rest : List Char) : Bool :=
  let isIndicator := "-?:,[]\x7b\x7d#&*!|>'\"%@`".toList.contains char
  let isBlankNext := rest.head?.any isBlank
  !isIndicator || (char == '-' && !isBlankNext) ||
    (!inFlow && (char == '?' || char == ':') && !startsBlank rest)

/-- Reads the token that begins with a character. -/
def readToken (scanner : Scanner) (char : Char) (rest : List Char) : Option Scanner :=
  let inFlow := scanner.inFlow
  let blankNext := startsBlank rest
  let quoted (isSingle : Bool) (position : Position) : Option (List Char × Bool × Position) :=
    (readQuotation isSingle position).map fun (text, behind) => (text, false, behind)
  if scanner.position.column == 0 && char == '%' then scanner.readDirective
  else if scanner.position.seesMarker '-' then scanner.readMarker .documentStart
  else if scanner.position.seesMarker '.' then scanner.readMarker .documentEnd
  else if char == '[' then scanner.openFlow .flowSequence
  else if char == '\x7b' then scanner.openFlow .flowMapping
  else if char == ']' then scanner.closeFlow .flowSequenceEnd
  else if char == '\x7d' then scanner.closeFlow .flowMappingEnd
  else if char == ',' then scanner.separateFlow
  else if char == '-' && blankNext then scanner.beginEntry
  else if char == '?' && (inFlow || blankNext) then scanner.beginKey
  else if char == ':' && (inFlow || blankNext) then scanner.beginValue
  else if char == '*' then scanner.readName .alias
  else if char == '&' then scanner.readName .anchor
  else if char == '!' then scanner.readTag
  else if char == '|' && !inFlow then scanner.readBlockScalar false
  else if char == '>' && !inFlow then scanner.readBlockScalar true
  else if char == '\'' then scanner.readScalar false (quoted true)
  else if char == '"' then scanner.readScalar false (quoted false)
  else if beginsPlain inFlow char rest then
    let indentation := match scanner.indents with
      | [] => 0
      | indent :: _ => indent + 1
    scanner.readScalar true (readPlain inFlow indentation)
  else none

/-- Reads tokens up to the end of the text. The bound is more than the length of the text. -/
def readTokens : Nat → Scanner → Option (List Token)
  | 0, _ => none
  | bound + 1, scanner => do
    let scanner ← (scanner.skipToToken (scanner.position.rest.length + 1)).dropStaleKeys
    let scanner := scanner.closeBlocks (some scanner.position.column)
    match scanner.position.rest with
    | [] => return (← (scanner.closeBlocks none).dropKey).tokens.reverse
    | char :: rest => readTokens bound (← scanner.readToken char rest)

end Scanner

/-- The tokens of a text, if it can be cut into some. -/
def Token.scan (text : List Char) : Option (List Token) :=
  if text.all isPrintable then Scanner.readTokens (text.length + 1) (.start text) else none

end RecordRules.Yaml
