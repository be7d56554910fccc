import Mathlib.Logic.Basic
import RecordRules.Condition.Scan
import RecordRules.Proofs.Text.Characters

/-!
# A text read by its offsets

A scan cuts a text into pieces. Here the same text is read by an offset that is counted on, and a
line and a column with it. Whatever could go wrong on the way is checked: a line or a column that
is counted too far, a slice that does not lie in the text, a bracket closed that was not open, and
digits that are no number. A check that fails ends the reading without a result.

Reading goes over a text in passes. Each pass skips blanks and then finds a word, a stretch that is
no word, or the end of the text. Passes are made until one finds the end, and there is no other
bound on their number: a pass that does not find the end moves the offset.
-/

namespace RecordRules.Offsets

open Number Text Lexeme Characters

/-- A word of a text, or the end of the text, which is of no kind. -/
structure Entry where
  kind : Option Token.Kind
  text : String
  place : Place
  deriving DecidableEq

namespace Entry

/-- A word. -/
def ofToken (token : Token) : Entry := ⟨some token.kind, token.text, token.place⟩

/-- The end of a text. -/
def ending (place : Place) : Entry := ⟨none, Found.endOfText.message, place⟩

end Entry

/-- The words of a scan with the end of its text behind them. -/
def entries (scan : Scan) : List Entry := scan.tokens.map .ofToken ++ [.ending scan.finish]

/-- One less, where there is something to take one from. -/
def decrement? : Nat → Option Nat
  | 0 => none
  | number + 1 => some number

/-- One more, where that fits into 32 bits. -/
def count32 (number : Nat) : Option Nat :=
  if number + 1 < UInt32.size then some (number + 1) else none

/-- The place behind one character, as far as lines and columns can be counted. -/
def step? (count : Nat → Option Nat) (place : Place) (char : Char) : Option Place :=
  if char = '\n' then (count place.line).map fun line => ⟨line, 0⟩
  else (count place.column).map fun column => ⟨place.line, column⟩

/-- A text, an offset in it, and the place that was counted up to there. -/
structure Reader where
  chars : List Char
  offset : Nat
  place : Place

namespace Reader

/-- In front of a text. -/
def start (chars : List Char) : Reader := ⟨chars, 0, .start⟩

/-- The character at the offset. -/
def current (reader : Reader) : Option Char := reader.chars[reader.offset]?

/-- The character behind that one. -/
def following (reader : Reader) : Option Char := reader.chars[reader.offset + 1]?

/-- How many characters are at the offset and behind it. -/
def left (reader : Reader) : Nat := reader.chars.length - reader.offset

/-- The characters from one offset to another one, if there are such. -/
def slice? (reader : Reader) (first last : Nat) : Option (List Char) :=
  if first ≤ last ∧ last ≤ reader.chars.length then some ((reader.chars.take last).drop first)
  else none

/-- Reads a character, if there is one. -/
def advance (count : Nat → Option Nat) (reader : Reader) : Option Reader :=
  match reader.current with
  | none => some reader
  | some char =>
    (step? count reader.place char).map fun place => ⟨reader.chars, reader.offset + 1, place⟩

end Reader

/-- The second reader is in the same text as the first one and not before it. -/
structure Onward (before after : Reader) : Prop where
  chars : after.chars = before.chars
  offset : before.offset ≤ after.offset

/-- The second reader is in the same text as the first one and behind it. -/
structure Consumes (before after : Reader) : Prop where
  chars : after.chars = before.chars
  offset : before.offset < after.offset

section Moving

variable {count : Nat → Option Nat} {first second third : Reader}

/-- Staying is no step back. -/
theorem onward_refl (reader : Reader) : Onward reader reader := ⟨rfl, Nat.le_refl _⟩

/-- Moving in two steps. -/
theorem onward_trans (one : Onward first second) (two : Onward second third) :
    Onward first third :=
  ⟨two.chars.trans one.chars, Nat.le_trans one.offset two.offset⟩

/-- Reading a character is moving on. -/
theorem onward_of_consumes (moved : Consumes first second) : Onward first second :=
  ⟨moved.chars, Nat.le_of_lt moved.offset⟩

/-- Reading a character before moving on. -/
theorem consumes_onward (one : Consumes first second) (two : Onward second third) :
    Consumes first third :=
  ⟨two.chars.trans one.chars, Nat.lt_of_lt_of_le one.offset two.offset⟩

/-- Reading a character after moving on. -/
theorem onward_consumes (one : Onward first second) (two : Consumes second third) :
    Consumes first third :=
  ⟨two.chars.trans one.chars, Nat.lt_of_le_of_lt one.offset two.offset⟩

/-- Where there is a character, it is read. -/
theorem consumes_advance {char : Char} (found : first.current = some char)
    (moved : first.advance count = some second) : Consumes first second := by
  simp only [Reader.advance, found, Option.map_eq_some_iff] at moved
  obtain ⟨place, -, rfl⟩ := moved
  exact ⟨rfl, Nat.lt_succ_self _⟩

/-- Reading a character does not go back, even if there is none. -/
theorem onward_advance (moved : first.advance count = some second) : Onward first second := by
  cases found : first.current with
  | none =>
    simp only [Reader.advance, found, Option.some.injEq] at moved
    exact moved ▸ onward_refl first
  | some char => exact onward_of_consumes (consumes_advance found moved)

/-- Where there was a character and it is read, fewer are left. -/
theorem left_of_consumes {char : Char} (found : first.current = some char)
    (moved : Consumes first second) : second.left < first.left := by
  obtain ⟨inside, -⟩ := List.getElem?_eq_some_iff.mp found
  have further := moved.offset
  simp only [Reader.left, moved.chars]
  omega

end Moving

section Reading

variable (count : Nat → Option Nat)

/-- Reads the characters at the offset that are of a class. -/
def takeRun (among : Char → Bool) (reader : Reader) : Option (List Char × Reader) :=
  match _ : reader.current with
  | none => some ([], reader)
  | some char =>
    if among char then
      match _ : reader.advance count with
      | none => none
      | some next => (takeRun among next).map fun (taken, last) => (char :: taken, last)
    else some ([], reader)
termination_by reader.left
decreasing_by exact left_of_consumes ‹_› (consumes_advance ‹_› ‹_›)

/-- Reads characters one by one, until a step behind one of them says that what is read is
complete, and to the end of the text if none does. -/
def takeUntil {σ α : Type} (step : σ → Char → Reader → Option (σ ⊕ α)) (state : σ)
    (reader : Reader) : Option (Option α × Reader) :=
  match _ : reader.current with
  | none => some (none, reader)
  | some char =>
    match _ : reader.advance count with
    | none => none
    | some next =>
      match step state char next with
      | none => none
      | some (.inl state) => takeUntil step state next
      | some (.inr whole) => some (some whole, next)
termination_by reader.left
decreasing_by exact left_of_consumes ‹_› (consumes_advance ‹_› ‹_›)

/-- A text literal is complete at its closing quote. Its content is gathered on the way. -/
def textStep (content : List Char) (char : Char) (_ : Reader) :
    Option (List Char ⊕ List Char) :=
  if char = '"' then some (.inr content) else some (.inl (content ++ [char]))

/-- A list literal is complete where the last of its open brackets is closed. It is what stands
between the offset at which it was begun and there. -/
def listStep (begun : Nat) : Nat × ListMode → Char → Reader →
    Option ((Nat × ListMode) ⊕ List Char)
  | (depth, .escaped), _, _ => some (.inl (depth, .inString))
  | (depth, .inString), char, _ =>
    if char = '\\' then some (.inl (depth, .escaped))
    else if char = '"' then some (.inl (depth, .bare))
    else some (.inl (depth, .inString))
  | (depth, .bare), char, next =>
    if char = '"' then some (.inl (depth, .inString))
    else if char = '[' then some (.inl (depth + 1, .bare))
    else if char = ']' then do
      let others ← decrement? depth
      if others = 0 then (next.slice? begun next.offset).map .inr
      else some (.inl (others, .bare))
    else some (.inl (depth, .bare))

/-- What is read at an offset that is no blank: a kind of word, or why it is none. -/
abbrev Reading := Option (Except SyntaxError.Cause Token.Kind × Reader)

/-- Reads one character that is a word. -/
def readSymbol (kind : Token.Kind) (reader : Reader) : Reading :=
  (reader.advance count).map fun next => (.ok kind, next)

/-- Reads a character that may have an equals sign behind it. -/
def readOrder (alone joined : Token.Kind) (reader : Reader) : Reading := do
  let next ← reader.advance count
  if next.current = some '=' then readSymbol count joined next else some (.ok alone, next)

/-- Reads a character that must have an equals sign or a tilde behind it. -/
def readEquality (first : Char) (strict loose : Token.Kind) (reader : Reader) : Reading := do
  let next ← reader.advance count
  if next.current = some '=' then readSymbol count strict next
  else if next.current = some '~' then readSymbol count loose next
  else some (.error (.unrecognized (String.singleton first)), next)

/-- Reads a text literal. One that is not closed takes all that is left. -/
def readText (reader : Reader) : Reading := do
  let next ← reader.advance count
  let (content, last) ← takeUntil count textStep [] next
  match content with
  | some content => some (.ok (.text (String.ofList content)), last)
  | none =>
    let rest ← last.slice? reader.offset last.chars.length
    some (.error (.unrecognized (String.ofList rest)), last)

/-- Reads a list literal. -/
def readList (reader : Reader) : Reading := do
  let (literal, last) ← takeUntil count (listStep reader.offset) (0, .bare) reader
  match literal with
  | some literal => some (.ok (.list (String.ofList literal)), last)
  | none => some (.error .unterminatedList, last)

/-- Reads a sign, if there is one. -/
def takeSign (reader : Reader) : Option Reader :=
  if reader.current = some '-' ∨ reader.current = some '+' then reader.advance count
  else some reader

/-- Reads a point and the digits behind it, if there are any. -/
def takeFraction (reader : Reader) : Option Reader :=
  if reader.current = some '.' ∧ reader.following.any Char.isDigit then do
    let next ← reader.advance count
    let (_, last) ← takeRun count Char.isDigit next
    some last
  else some reader

/-- Reads a number. Its characters are always those of a number, so it is a failed check if they
are refused. -/
def readNumber (reader : Reader) : Reading := do
  let unsigned ← takeSign count reader
  let (_, whole) ← takeRun count Char.isDigit unsigned
  let last ← takeFraction count whole
  let digits ← last.slice? reader.offset last.offset
  match Binary64.read digits with
  | .ok value => some (.ok (.number value), last)
  | .error _ => none

/-- Reads blanks and an `in` behind them. Where that is not what follows, nothing is read. -/
def takeIn (reader : Reader) : Option (Bool × Reader) := do
  let (_, behind) ← takeRun count isBlank reader
  if reader.offset < behind.offset ∧ behind.current.any isAlphabetic then
    let (word, last) ← takeRun count continuesWord behind
    if spells word "in" then some (true, last) else some (false, reader)
  else some (false, reader)

/-- What a word is that is a keyword whatever follows it. -/
def keywordKind? (word : List Char) : Option Token.Kind :=
  if spells word "and" then some (.connective .and)
  else if spells word "or" then some (.connective .or)
  else if spells word "in" then some .among
  else if spells word "notin" then some .notAmong
  else none

/-- Reads a keyword or a field. -/
def readWord (reader : Reader) : Reading := do
  let (word, behind) ← takeRun count continuesWord reader
  match keywordKind? word with
  | some kind => some (.ok kind, behind)
  | none =>
    if spells word "not" then
      let (follows, last) ← takeIn count behind
      some (.ok (if follows then .notAmong else .field (String.ofList word)), last)
    else some (.ok (.field (String.ofList word)), behind)

/-- Reads what a character that is no blank begins. -/
def readFrom (first : Char) (reader : Reader) : Reading :=
  if first = '(' then readSymbol count .opening reader
  else if first = ')' then readSymbol count .closing reader
  else if first = '>' then readOrder count .greater .atLeast reader
  else if first = '<' then readOrder count .less .atMost reader
  else if first = '=' then readEquality count first .equal .contains reader
  else if first = '!' then readEquality count first .notEqual .excludes reader
  else if first = '"' then readText count reader
  else if first = '[' then readList count reader
  else if first.isDigit then readNumber count reader
  else if (first = '-' ∨ first = '+') ∧ reader.following.any Char.isDigit then
    readNumber count reader
  else if beginsWord first then readWord count reader
  else
    (reader.advance count).map fun next =>
      (.error (.unrecognized (String.singleton first)), next)

/-- What a pass over a text finds. -/
inductive Sighting
  | word (token : Token)
  | fault (error : SyntaxError)
  | ended (place : Place)

/-- Skips blanks and finds what stands behind them. -/
def passOver (reader : Reader) : Option (Sighting × Reader) := do
  let (_, begun) ← takeRun count isBlank reader
  match begun.current with
  | none => some (.ended begun.place, begun)
  | some first =>
    let (found, last) ← readFrom count first begun
    match found with
    | .ok kind =>
      let text ← last.slice? begun.offset last.offset
      some (.word ⟨kind, String.ofList text, begun.place⟩, last)
    | .error cause => some (.fault ⟨cause, begun.place⟩, last)

end Reading

section Consuming

variable {count : Nat → Option Nat} {reader last : Reader}

/-- No run is read at the end of a text. -/
theorem takeRun_end {among : Char → Bool} (nothing : reader.current = none) :
    takeRun count among reader = some ([], reader) := by
  rw [takeRun]
  split
  · rfl
  · simp_all

/-- A run goes on with a character of its class. -/
theorem takeRun_at {among : Char → Bool} {char : Char} (found : reader.current = some char) :
    takeRun count among reader =
      if among char then
        (reader.advance count).bind fun next =>
          (takeRun count among next).map fun (taken, last) => (char :: taken, last)
      else some ([], reader) := by
  rw [takeRun]
  split
  · simp_all
  · rename_i same
    obtain rfl := Option.some.inj (found.symm.trans same)
    split
    · split
      · rename_i stuck
        rw [stuck, Option.bind_none]
      · rename_i moved
        rw [moved, Option.bind_some]
    · rfl

/-- Nothing is complete at the end of a text. -/
theorem takeUntil_end {σ α : Type} {step : σ → Char → Reader → Option (σ ⊕ α)} {state : σ}
    (nothing : reader.current = none) :
    takeUntil count step state reader = some (none, reader) := by
  rw [takeUntil]
  split
  · rfl
  · simp_all

/-- A character is read, and then the step behind it is made. -/
theorem takeUntil_at {σ α : Type} {step : σ → Char → Reader → Option (σ ⊕ α)} {state : σ}
    {char : Char} (found : reader.current = some char) :
    takeUntil count step state reader =
      (reader.advance count).bind fun next =>
        (step state char next).bind fun reached =>
          match reached with
          | .inl state => takeUntil count step state next
          | .inr whole => some (some whole, next) := by
  rw [takeUntil]
  split
  · simp_all
  · rename_i same
    obtain rfl := Option.some.inj (found.symm.trans same)
    split
    · rename_i stuck
      rw [stuck, Option.bind_none]
    · rename_i moved
      rw [moved, Option.bind_some]
      split
      all_goals
        rename_i made
        rw [made]
        rfl

/-- A run is read forward. -/
theorem onward_takeRun {among : Char → Bool} {taken : List Char}
    (read : takeRun count among reader = some (taken, last)) : Onward reader last := by
  fun_induction takeRun count among reader generalizing taken with
  | case1 | case4 =>
    obtain ⟨-, rfl⟩ := Prod.mk.inj (Option.some.inj read)
    exact onward_refl _
  | case2 => cases read
  | case3 reader char found among next moved inductionHypothesis =>
    simp only [Option.map_eq_some_iff, Prod.mk.injEq, Prod.exists] at read
    obtain ⟨others, _, read, -, rfl⟩ := read
    exact onward_trans (onward_advance moved) (inductionHypothesis read)

/-- A run that a character of its class begins is not empty. -/
theorem consumes_takeRun {among : Char → Bool} {first : Char} {taken : List Char}
    (found : reader.current = some first) (inside : among first = true)
    (read : takeRun count among reader = some (taken, last)) : Consumes reader last := by
  simp only [takeRun_at found, if_pos inside, Option.bind_eq_some_iff, Option.map_eq_some_iff,
    Prod.mk.injEq, Prod.exists] at read
  obtain ⟨next, moved, others, _, read, -, rfl⟩ := read
  exact consumes_onward (consumes_advance found moved) (onward_takeRun read)

/-- What is read until it is complete is read forward. -/
theorem onward_takeUntil {σ α : Type} {step : σ → Char → Reader → Option (σ ⊕ α)} {state : σ}
    {whole : Option α} (read : takeUntil count step state reader = some (whole, last)) :
    Onward reader last := by
  fun_induction takeUntil count step state reader with
  | case1 =>
    obtain ⟨-, rfl⟩ := Prod.mk.inj (Option.some.inj read)
    exact onward_refl _
  | case2 | case3 => cases read
  | case4 _ _ _ _ _ moved _ _ inductionHypothesis =>
    exact onward_trans (onward_advance moved) (inductionHypothesis read)
  | case5 _ _ _ _ _ moved =>
    obtain ⟨-, rfl⟩ := Prod.mk.inj (Option.some.inj read)
    exact onward_advance moved

variable {first : Char} {found : Except SyntaxError.Cause Token.Kind}

/-- A symbol is read. -/
theorem consumes_readSymbol (starts : reader.current = some first) {kind : Token.Kind}
    (read : readSymbol count kind reader = some (found, last)) : Consumes reader last := by
  simp only [readSymbol, Option.map_eq_some_iff, Prod.mk.injEq] at read
  obtain ⟨_, moved, -, rfl⟩ := read
  exact consumes_advance starts moved

/-- A symbol is read forward, wherever it is looked for. -/
theorem onward_readSymbol {kind : Token.Kind}
    (read : readSymbol count kind reader = some (found, last)) : Onward reader last := by
  simp only [readSymbol, Option.map_eq_some_iff, Prod.mk.injEq] at read
  obtain ⟨_, moved, -, rfl⟩ := read
  exact onward_advance moved

/-- A comparison sign is read. -/
theorem consumes_readOrder (starts : reader.current = some first) {alone joined : Token.Kind}
    (read : readOrder count alone joined reader = some (found, last)) : Consumes reader last := by
  simp only [readOrder, Option.bind_eq_bind, Option.bind_eq_some_iff] at read
  obtain ⟨next, moved, read⟩ := read
  have one := consumes_advance starts moved
  split at read
  · exact consumes_onward one (onward_readSymbol read)
  · obtain ⟨-, rfl⟩ := Prod.mk.inj (Option.some.inj read)
    exact one

/-- An equality sign is read, or what it would begin with. -/
theorem consumes_readEquality (starts : reader.current = some first) {strict loose : Token.Kind}
    (read : readEquality count first strict loose reader = some (found, last)) :
    Consumes reader last := by
  simp only [readEquality, Option.bind_eq_bind, Option.bind_eq_some_iff] at read
  obtain ⟨next, moved, read⟩ := read
  have one := consumes_advance starts moved
  split at read
  · exact consumes_onward one (onward_readSymbol read)
  · split at read
    · exact consumes_onward one (onward_readSymbol read)
    · obtain ⟨-, rfl⟩ := Prod.mk.inj (Option.some.inj read)
      exact one

/-- A text literal is read, or all that is left. -/
theorem consumes_readText (starts : reader.current = some first)
    (read : readText count reader = some (found, last)) : Consumes reader last := by
  simp only [readText, Option.bind_eq_bind, Option.bind_eq_some_iff, Prod.exists] at read
  obtain ⟨next, moved, content, behind, taken, read⟩ := read
  have whole := consumes_onward (consumes_advance starts moved) (onward_takeUntil taken)
  split at read
  · obtain ⟨-, rfl⟩ := Prod.mk.inj (Option.some.inj read)
    exact whole
  · simp only [Option.bind_eq_some_iff, Option.some.injEq, Prod.mk.injEq] at read
    obtain ⟨_, -, -, rfl⟩ := read
    exact whole

/-- A list literal is read, or all that is left. -/
theorem consumes_readList (starts : reader.current = some first)
    (read : readList count reader = some (found, last)) : Consumes reader last := by
  simp only [readList, Option.bind_eq_bind, Option.bind_eq_some_iff, Prod.exists] at read
  obtain ⟨literal, behind, taken, read⟩ := read
  have whole : Consumes reader behind := by
    rw [takeUntil_at starts] at taken
    simp only [Option.bind_eq_some_iff] at taken
    obtain ⟨next, moved, reached, -, taken⟩ := taken
    have one := consumes_advance starts moved
    split at taken
    · exact consumes_onward one (onward_takeUntil taken)
    · obtain ⟨-, rfl⟩ := Prod.mk.inj (Option.some.inj taken)
      exact one
  split at read
  all_goals
    obtain ⟨-, rfl⟩ := Prod.mk.inj (Option.some.inj read)
    exact whole

/-- A fraction is read forward. -/
theorem onward_takeFraction (read : takeFraction count reader = some last) :
    Onward reader last := by
  unfold takeFraction at read
  split at read
  · simp only [Option.bind_eq_bind, Option.bind_eq_some_iff, Option.some.injEq, Prod.exists] at read
    obtain ⟨next, moved, _, _, taken, rfl⟩ := read
    exact onward_trans (onward_advance moved) (onward_takeRun taken)
  · exact Option.some.inj read ▸ onward_refl _

/-- A number is read where a digit or a sign stands. -/
theorem consumes_readNumber (starts : reader.current = some first)
    (numeric : first.isDigit = true ∨ first = '-' ∨ first = '+')
    (read : readNumber count reader = some (found, last)) : Consumes reader last := by
  simp only [readNumber, Option.bind_eq_bind, Option.bind_eq_some_iff, Prod.exists] at read
  obtain ⟨unsigned, sign, _, whole, digits, behind, fraction, _, -, read⟩ := read
  have front : Consumes reader whole := by
    unfold takeSign at sign
    split at sign
    · exact consumes_onward (consumes_advance starts sign) (onward_takeRun digits)
    · rename_i unsignedFirst
      obtain rfl := Option.some.inj sign
      rw [starts, Option.some.injEq, Option.some.injEq] at unsignedFirst
      exact consumes_takeRun starts (numeric.resolve_right unsignedFirst) digits
  split at read
  · obtain ⟨-, rfl⟩ := Prod.mk.inj (Option.some.inj read)
    exact consumes_onward front (onward_takeFraction fraction)
  · cases read

/-- An `in` behind a `not` is read forward, and where there is none, nothing is read. -/
theorem onward_takeIn {follows : Bool} (read : takeIn count reader = some (follows, last)) :
    Onward reader last := by
  simp only [takeIn, Option.bind_eq_bind, Option.bind_eq_some_iff, Prod.exists] at read
  obtain ⟨_, behind, blanks, read⟩ := read
  split at read
  · simp only [Option.bind_eq_some_iff, Prod.exists] at read
    obtain ⟨word, further, letters, read⟩ := read
    split at read
    all_goals obtain ⟨-, rfl⟩ := Prod.mk.inj (Option.some.inj read)
    · exact onward_trans (onward_takeRun blanks) (onward_takeRun letters)
    · exact onward_refl _
  · obtain ⟨-, rfl⟩ := Prod.mk.inj (Option.some.inj read)
    exact onward_refl _

/-- A word is read where one begins. -/
theorem consumes_readWord (starts : reader.current = some first)
    (begins : continuesWord first = true)
    (read : readWord count reader = some (found, last)) : Consumes reader last := by
  simp only [readWord, Option.bind_eq_bind, Option.bind_eq_some_iff, Prod.exists] at read
  obtain ⟨word, behind, taken, read⟩ := read
  have letters := consumes_takeRun starts begins taken
  split at read
  · obtain ⟨-, rfl⟩ := Prod.mk.inj (Option.some.inj read)
    exact letters
  · split at read
    · simp only [Option.bind_eq_some_iff, Option.some.injEq, Prod.mk.injEq, Prod.exists] at read
      obtain ⟨_, _, read, -, rfl⟩ := read
      exact consumes_onward letters (onward_takeIn read)
    · obtain ⟨-, rfl⟩ := Prod.mk.inj (Option.some.inj read)
      exact letters

/-- Whatever character stands at the offset is read. -/
theorem consumes_readFrom (starts : reader.current = some first)
    (read : readFrom count first reader = some (found, last)) : Consumes reader last := by
  unfold readFrom at read
  rcases ite_eq_iff.mp read with ⟨-, read⟩ | ⟨-, read⟩
  · exact consumes_readSymbol starts read
  rcases ite_eq_iff.mp read with ⟨-, read⟩ | ⟨-, read⟩
  · exact consumes_readSymbol starts read
  rcases ite_eq_iff.mp read with ⟨-, read⟩ | ⟨-, read⟩
  · exact consumes_readOrder starts read
  rcases ite_eq_iff.mp read with ⟨-, read⟩ | ⟨-, read⟩
  · exact consumes_readOrder starts read
  rcases ite_eq_iff.mp read with ⟨-, read⟩ | ⟨-, read⟩
  · exact consumes_readEquality starts read
  rcases ite_eq_iff.mp read with ⟨-, read⟩ | ⟨-, read⟩
  · exact consumes_readEquality starts read
  rcases ite_eq_iff.mp read with ⟨-, read⟩ | ⟨-, read⟩
  · exact consumes_readText starts read
  rcases ite_eq_iff.mp read with ⟨-, read⟩ | ⟨-, read⟩
  · exact consumes_readList starts read
  rcases ite_eq_iff.mp read with ⟨digit, read⟩ | ⟨-, read⟩
  · exact consumes_readNumber starts (.inl digit) read
  rcases ite_eq_iff.mp read with ⟨signed, read⟩ | ⟨-, read⟩
  · exact consumes_readNumber starts (.inr signed.1) read
  rcases ite_eq_iff.mp read with ⟨begins, read⟩ | ⟨-, read⟩
  · exact consumes_readWord starts (continues_of_begins begins) read
  · simp only [Option.map_eq_some_iff, Prod.mk.injEq] at read
    obtain ⟨_, moved, -, rfl⟩ := read
    exact consumes_advance starts moved

/-- What a pass that finds something moves: it reads at least one character, unless it finds the end
of the text, and then none is left. -/
theorem pass_moves {sighting : Sighting} (passed : passOver count reader = some (sighting, last)) :
    (∃ place, sighting = .ended place ∧ Onward reader last ∧ last.left = 0) ∨
      (∀ place, sighting ≠ .ended place) ∧ Consumes reader last ∧ last.left < reader.left := by
  simp only [passOver, Option.bind_eq_bind, Option.bind_eq_some_iff, Prod.exists] at passed
  obtain ⟨_, begun, blanks, passed⟩ := passed
  have skipped := onward_takeRun blanks
  split at passed
  · rename_i nothing
    obtain ⟨rfl, rfl⟩ := Prod.mk.inj (Option.some.inj passed)
    have outside := List.getElem?_eq_none_iff.mp nothing
    exact .inl ⟨_, rfl, skipped, Nat.sub_eq_zero_of_le outside⟩
  · rename_i first starts
    simp only [Option.bind_eq_some_iff, Prod.exists] at passed
    obtain ⟨found, behind, read, passed⟩ := passed
    have consumed := consumes_readFrom starts read
    have fewer := left_of_consumes starts consumed
    have remaining : begun.left ≤ reader.left := by
      have further := skipped.offset
      simp only [Reader.left, skipped.chars]
      omega
    have moved : ∀ {sighting : Sighting}, (∀ place, sighting ≠ .ended place) →
        (∀ place, sighting ≠ .ended place) ∧ Consumes reader behind ∧ behind.left < reader.left :=
      fun other => ⟨other, onward_consumes skipped consumed, by omega⟩
    split at passed
    · simp only [Option.bind_eq_some_iff, Option.some.injEq, Prod.mk.injEq] at passed
      obtain ⟨_, -, rfl, rfl⟩ := passed
      exact .inr (moved (by simp))
    · obtain ⟨rfl, rfl⟩ := Prod.mk.inj (Option.some.inj passed)
      exact .inr (moved (by simp))

end Consuming

/-- Makes passes over a text until one finds its end. -/
def tokens? (count : Nat → Option Nat) (reader : Reader) :
    Option (List Entry × List SyntaxError) :=
  match _ : passOver count reader with
  | none => none
  | some (.ended place, _) => some ([.ending place], [])
  | some (.word token, next) =>
    (tokens? count next).map fun (words, faults) => (.ofToken token :: words, faults)
  | some (.fault error, next) =>
    (tokens? count next).map fun (words, faults) => (words, error :: faults)
termination_by reader.left
decreasing_by
  all_goals
    rcases pass_moves ‹_› with ⟨_, ended, _⟩ | ⟨-, -, fewer⟩
    · cases ended
    · exact fewer

end RecordRules.Offsets
