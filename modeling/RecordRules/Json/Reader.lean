import RecordRules.Json.Fault

/-!
# Readers of documents

A reader takes something off the front of a text and returns it with the rest, or fails. A
failure remembers how much of the text was left when it arose, from which its location follows
once the whole text is known.

A mismatch of shape is found while a container is still open, and its location is the end of that
container. Until then such a failure is *open*. Whoever closes the container settles it.
-/

namespace RecordRules.Json

/-- A failure before its location is known. The fault lies `ahead` bytes beyond the point at which
`rest` is left, or at the end of the text if that comes first. -/
structure Failure where
  cause : Cause
  rest : List Char
  ahead : Nat
  isOpen : Bool

/-- A reader takes a value off the front of a text. -/
abbrev Reader (α : Type) := List Char → Except Failure (α × List Char)

/-- The bytes of a text. -/
def bytes (text : List Char) : List UInt8 := text.flatMap String.utf8EncodeChar

namespace Failure

/-- A breach of the grammar by the next byte, which counts as seen. -/
def atNext (breach : Breach) (rest : List Char) : Failure := ⟨.grammar breach, rest, 1, false⟩

/-- A breach of the grammar by what has just been read. -/
def behind (breach : Breach) (rest : List Char) : Failure := ⟨.grammar breach, rest, 0, false⟩

/-- A mismatch whose location is known: what has just been read is wrong. -/
def mismatched (mismatch : Mismatch) (rest : List Char) : Failure :=
  ⟨.shape mismatch, rest, 0, false⟩

/-- A mismatch inside a container that is still open. -/
def unsettled (mismatch : Mismatch) (rest : List Char) : Failure :=
  ⟨.shape mismatch, rest, 0, true⟩

/-- An open failure takes the point that its container ends at. -/
def settle (failure : Failure) (rest : List Char) : Failure :=
  if failure.isOpen then { failure with rest := rest, isOpen := false } else failure

/-- The refusal of the whole text that the failure amounts to. -/
def locate (text : List Char) (failure : Failure) : Fault :=
  let all := bytes text
  let left := (bytes failure.rest).length - failure.ahead
  ⟨failure.cause, some (.afterBytes (all.take (all.length - left)))⟩

end Failure

/-- The blanks between the parts of a document. -/
def isSpace (char : Char) : Bool :=
  char == ' ' || char == '\n' || char == '\t' || char == '\r'

/-- The text behind the blanks at its front. -/
def skipSpace (text : List Char) : List Char := text.dropWhile isSpace

/-- Reads the remaining letters of a word that is known by its first letter. -/
def readWord (value : α) : List Char → Reader α
  | [], text => .ok (value, text)
  | letter :: letters, text =>
    match text with
    | [] => .error (.behind .endInValue [])
    | next :: rest =>
      if next = letter then readWord value letters rest
      else .error (.atNext .expectedWord (next :: rest))

/-- Runs a reader over a whole document: blanks may follow what it reads, and nothing else. -/
def readDocument (reader : Reader α) (text : String) : Except Fault α :=
  match reader text.toList with
  | .error failure => .error (failure.locate text.toList)
  | .ok (value, rest) =>
    match skipSpace rest with
    | [] => .ok value
    | next :: others =>
      .error ((Failure.atNext .trailingCharacters (next :: others)).locate text.toList)

end RecordRules.Json
