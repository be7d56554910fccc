import RecordRules.Proofs.Condition.Offsets
import RecordRules.Proofs.Condition.Stages

/-!
# Reading words one step at a time

Reading the words of a condition is a recursion. Here the calls of it that are not over are kept on
a stack, and one step after the other is made: an operand or a chain is called, a word is read or
skipped, a call returns to the one that waits for it. The words are in a list with the end of the
text behind them, and an index says which is next. Every look at the list and every number that is
taken one from is checked. A check that fails leaves no step to make.
-/

namespace RecordRules.Calls

open Text Stages Offsets

/-- What stands at an entry, as errors show it. -/
def found (entry : Entry) : Found :=
  match entry.kind with
  | none => .endOfText
  | some _ => .word entry.text

/-- Whether reading resumes at an entry after a mismatch. -/
def resumes (entry : Entry) : Bool :=
  match entry.kind with
  | none => true
  | some (.connective _) => true
  | some .closing => true
  | some _ => false

/-- How far the entries have been read: the index of the next one, how many parentheses are open
around it, whether the rest was given up, and the errors met so far, the latest first. -/
structure State where
  index : Nat
  nesting : Nat
  tooDeep : Bool
  reported : List SyntaxError

namespace State

/-- Behind a parenthesis that was opened. -/
def enter (state : State) : State := { state with nesting := state.nesting + 1 }

/-- Outside of the innermost parenthesis that is open. -/
def exit (state : State) : Option State :=
  (decrement? state.nesting).map fun outside => { state with nesting := outside }

section Entries

variable (entries : List Entry)

/-- The next entry. The last one is never left behind. -/
def peek (state : State) : Option Entry := do
  let last ← decrement? entries.length
  entries[min state.index last]?

/-- The state behind the next entry, unless that is the end of the text. -/
def advance (state : State) : Option State := do
  let entry ← state.peek entries
  match entry.kind with
  | none => some state
  | some _ => some { state with index := state.index + 1 }

/-- Notes an error. -/
def report (state : State) (cause : SyntaxError.Cause) (place : Place) : State :=
  { state with reported := ⟨cause, place⟩ :: state.reported }

/-- Notes that the condition is too deep and moves to the end of the text. -/
def abandon (place : Place) (state : State) : Option State := do
  let last ← decrement? entries.length
  some { state.report .nestedTooDeeply place with index := last, tooDeep := true }

/-- Reads a closing parenthesis, or notes that it is missing. -/
def close (state : State) : Option State := do
  let entry ← state.peek entries
  if entry.kind = some .closing then state.advance entries
  else some (state.report (.missingClosing (found entry)) entry.place)

end Entries

end State

/-- What is to be done next. A chain and an operand are called and return a tree, if they find
one. -/
inductive Control
  | chain
  | operand
  | links (left : Option Expression)
  | skipping
  | operandRead (tree : Option Expression)
  | chainRead (tree : Option Expression)
  | finished (tree : Option Expression)

/-- A call that waits for another one to return: a chain for its first operand or for one behind a
connective, an operand for the chain in its parentheses. -/
inductive Frame
  | first
  | right (left : Option Expression) (connective : Connective) (place : Place)
  | group (place : Place)

/-- What is to be done next, the calls that wait for it, the innermost first, and how far the
entries have been read. -/
structure Configuration where
  control : Control
  frames : List Frame
  state : State

/-- In front of the words of a text, of which a chain is called to read. -/
def Configuration.start : Configuration := ⟨.chain, [], ⟨0, 0, false, []⟩⟩

section Steps

variable (entries : List Entry)

/-- Notes that something else may stand at an entry. What follows is skipped up to where reading
resumes. -/
def mismatch (expected : Expected) (entry : Entry) (state : State) : Control × State :=
  (.skipping, state.report (.mismatched (found entry) expected) entry.place)

/-- Reads the operator and the literal of a comparison. -/
def readTest (field : FieldReference) (state : State) : Option (Control × State) := do
  let operator ← state.peek entries
  match operator.kind.bind Token.Kind.literal? with
  | none => some (mismatch .operator operator state)
  | some expected =>
    let behind ← state.advance entries
    let literal ← behind.peek entries
    match operator.kind.bind fun kind => literal.kind.bind kind.test? with
    | none => some (mismatch expected literal behind)
    | some test =>
      let last ← behind.advance entries
      some (.operandRead (some (.comparison ⟨field, test⟩)), last)

/-- Begins an operand. -/
def begin (frames : List Frame) (state : State) : Option Configuration := do
  let entry ← state.peek entries
  match entry.kind with
  | some .opening =>
    if maximumDepth ≤ state.nesting then
      let given ← state.abandon entries entry.place
      some ⟨.operandRead none, frames, given⟩
    else
      let behind ← state.advance entries
      some ⟨.chain, .group entry.place :: frames, behind.enter⟩
  | some (.field name) =>
    let behind ← state.advance entries
    let (control, last) ← readTest entries ⟨name, entry.place.column⟩ behind
    some ⟨control, frames, last⟩
  | _ =>
    let (control, last) := mismatch .operand entry state
    some ⟨control, frames, last⟩

/-- Joins the operand behind a connective to what is on its left. -/
def join (joined : Option Expression) (place : Place) (state : State) :
    Option (Control × State) :=
  match joined with
  | none => some (.links none, state)
  | some tree =>
    if maximumDepth < tree.depth then
      (state.abandon entries place).map fun given => (.chainRead none, given)
    else some (.links (some tree), state)

/-- Ends an operand in parentheses. -/
def leave (inner : Option Expression) (place : Place) (state : State) :
    Option (Control × State) := do
  let outside ← state.exit
  if outside.tooDeep then some (.operandRead none, outside)
  else
    let closed ← outside.close entries
    match inner with
    | none => some (.operandRead none, closed)
    | some inner =>
      if maximumDepth ≤ inner.depth then
        let given ← closed.abandon entries place
        some (.operandRead none, given)
      else some (.operandRead (some (.grouped inner)), closed)

/-- Looks for the end of the text behind the condition. -/
def finish (tree : Option Expression) (state : State) : Option (Control × State) := do
  let entry ← state.peek entries
  match entry.kind with
  | none => some (.finished tree, state)
  | some _ => some (.finished tree, state.report (.extraneous (found entry)) entry.place)

/-- One step. When all is done, nothing changes any more. A call that returns to one that cannot
wait for it has no step to make. -/
def step : Configuration → Option Configuration
  | ⟨.chain, frames, state⟩ => some ⟨.operand, .first :: frames, state⟩
  | ⟨.operand, frames, state⟩ =>
    if state.tooDeep then some ⟨.operandRead none, frames, state⟩
    else begin entries frames state
  | ⟨.skipping, frames, state⟩ => do
    let entry ← state.peek entries
    if resumes entry then some ⟨.operandRead none, frames, state⟩
    else
      let behind ← state.advance entries
      some ⟨.skipping, frames, behind⟩
  | ⟨.operandRead tree, .first :: frames, state⟩ => some ⟨.links tree, frames, state⟩
  | ⟨.operandRead tree, .right left connective place :: frames, state⟩ =>
    (join entries (joint connective left tree) place state).map fun (control, last) =>
      ⟨control, frames, last⟩
  | ⟨.operandRead _, _, _⟩ => none
  | ⟨.links left, frames, state⟩ => do
    let entry ← state.peek entries
    match entry.kind with
    | some (.connective connective) =>
      let behind ← state.advance entries
      some ⟨.operand, .right left connective entry.place :: frames, behind⟩
    | _ => some ⟨.chainRead left, frames, state⟩
  | ⟨.chainRead tree, .group place :: frames, state⟩ =>
    (leave entries tree place state).map fun (control, last) => ⟨control, frames, last⟩
  | ⟨.chainRead tree, [], state⟩ =>
    (finish entries tree state).map fun (control, last) => ⟨control, [], last⟩
  | ⟨.chainRead _, _, _⟩ => none
  | ⟨.finished tree, frames, state⟩ => some ⟨.finished tree, frames, state⟩

/-- How many calls of an operand a step into a configuration makes. -/
def Configuration.enters (configuration : Configuration) : Nat :=
  match configuration.control with
  | .operand => 1
  | _ => 0

/-- Steps lead from one configuration to another one, and call that many operands. -/
inductive Reaches : Configuration → Nat → Configuration → Prop
  | here (first : Configuration) : Reaches first 0 first
  | next (first middle last : Configuration) (calls : Nat) (reaches : Reaches first calls middle)
      (made : step entries middle = some last) : Reaches first (calls + last.enters) last

/-- Steps lead from one configuration to another one. -/
def Arrives (first last : Configuration) : Prop := ∃ calls, Reaches entries first calls last

end Steps

section Arriving

variable {entries : List Entry} {first middle last : Configuration}

/-- Steps in a row call the operands that each of them calls. -/
theorem reaches_trans {before behind : Nat} (one : Reaches entries first before middle)
    (two : Reaches entries middle behind last) : Reaches entries first (before + behind) last := by
  induction two with
  | here => exact one
  | next _ _ _ _ made inductionHypothesis =>
    rw [← Nat.add_assoc]
    exact .next _ _ _ _ inductionHypothesis made

/-- No step is needed to stay. -/
theorem arrives_here (first : Configuration) : Arrives entries first first := ⟨0, .here first⟩

/-- Steps in a row. -/
theorem arrives_trans (one : Arrives entries first middle) (two : Arrives entries middle last) :
    Arrives entries first last := by
  obtain ⟨before, one⟩ := one
  obtain ⟨behind, two⟩ := two
  exact ⟨before + behind, reaches_trans one two⟩

/-- One step and those behind it. -/
theorem arrives_step (made : step entries first = some middle)
    (later : Arrives entries middle last) : Arrives entries first last :=
  arrives_trans ⟨_, .next _ _ _ _ (.here first) made⟩ later

/-- The first of some steps. -/
theorem first_step (arrives : Arrives entries first last) :
    first = last ∨
      ∃ next, step entries first = some next ∧ Arrives entries next last := by
  obtain ⟨calls, reaches⟩ := arrives
  induction reaches with
  | here => exact .inl rfl
  | next middle last calls reaches made inductionHypothesis =>
    have one : Arrives entries middle last := arrives_step made (arrives_here last)
    rcases inductionHypothesis with rfl | ⟨next, begun, later⟩
    · exact .inr ⟨last, made, arrives_here last⟩
    · exact .inr ⟨next, begun, arrives_trans later one⟩

/-- From wherever steps lead, they lead to where all steps lead that were made from the same
configuration and change nothing any more. -/
theorem arrives_rest {calls : Nat} {here : Configuration} (arrives : Arrives entries first last)
    (rests : step entries last = some last)
    (reaches : Reaches entries first calls here) : Arrives entries here last := by
  induction reaches with
  | here => exact arrives
  | next middle here calls reaches made inductionHypothesis =>
    rcases first_step inductionHypothesis with rfl | ⟨next, begun, later⟩
    · obtain rfl := Option.some.inj (made.symm.trans rests)
      exact arrives_here _
    · obtain rfl := Option.some.inj (made.symm.trans begun)
      exact later

end Arriving

end RecordRules.Calls
