import RecordRules.Proofs.Condition.Moves
import RecordRules.Proofs.Condition.Passes

/-!
# Reading moves forward and is bounded

Every pass over a text finds its end or reads a character, however lines and columns are counted, so
passes come to the end. And whatever the words are, reading them comes to an end as well: no step
goes back, a chain goes on only behind a connective and is called only behind a parenthesis that
was opened, so at most 129 chains are not over at any time, and no more operands are called than
there are such words, and one.
-/

namespace RecordRules.BoundedReading

open Text Lexeme Characters Parsing Progress Stages Offsets Passes Calls Returns Moves DepthErrors

section Passing

variable {count : Nat → Option Nat} {place : List Char → Place} {text : List Char}

/-- The readers that passes over a text lead to. -/
inductive Visited (count : Nat → Option Nat) (text : List Char) : Reader → Prop
  | start : Visited count text (.start text)
  | pass (reader last : Reader) (sighting : Sighting) (visited : Visited count text reader)
      (passed : passOver count reader = some (sighting, last)) : Visited count text last

/-- A pass leads from between two parts of a text to between two others. -/
theorem pass_between (counts : Counts count place text) {before ahead : List Char}
    (whole : before ++ ahead = text) :
    ∃ sighting further rest, further ++ rest = text ∧
      passOver count (between place before ahead) =
        some (sighting, between place further rest) := by
  cases starts : ahead.dropWhile isBlank with
  | nil => exact ⟨_, text, [], List.append_nil text, pass_ended counts starts whole⟩
  | cons first rest =>
    obtain ⟨sighting, -, passed⟩ := pass_found counts starts whole
    exact ⟨sighting, _, _, whole_behind starts whole, passed⟩

/-- The place behind one character, by any way of counting that never stops. -/
def stride (next : Nat → Nat) (place : Place) (char : Char) : Place :=
  if char = '\n' then ⟨next place.line, 0⟩ else ⟨place.line, next place.column⟩

/-- The place behind some characters at the beginning of a text. -/
def walk (next : Nat → Nat) (before : List Char) : Place := before.foldl (stride next) .start

/-- Counting that never stops leads along every text. -/
theorem counts_walk (next : Nat → Nat) (text : List Char) :
    Counts (fun number => some (next number)) (walk next) text := by
  intro before char behind whole
  simp only [walk, List.foldl_append, List.foldl_cons, List.foldl_nil, step?, stride,
    Option.map_some]
  split <;> rfl

variable {next : Nat → Nat} {reader : Reader}

/-- A reader that passes lead to stands between two parts of the text. -/
theorem visited_between (visited : Visited (fun number => some (next number)) text reader) :
    ∃ before ahead, before ++ ahead = text ∧ reader = between (walk next) before ahead := by
  induction visited with
  | start => exact ⟨[], text, rfl, rfl⟩
  | pass reader last sighting visited passed inductionHypothesis =>
    obtain ⟨before, ahead, whole, rfl⟩ := inductionHypothesis
    obtain ⟨found, further, rest, joined, moved⟩ := pass_between (counts_walk next text) whole
    obtain ⟨-, rfl⟩ := Prod.mk.inj (Option.some.inj (passed.symm.trans moved))
    exact ⟨further, rest, joined, rfl⟩

/-- A pass finds something or the end, and reads a character unless nothing is left then. -/
theorem pass_progress (visited : Visited (fun number => some (next number)) text reader) :
    ∃ sighting last, passOver (fun number => some (next number)) reader = some (sighting, last) ∧
      last.offset ≤ text.length ∧
      ((∃ place, sighting = .ended place) → last.offset = text.length) ∧
      ((∀ place, sighting ≠ .ended place) → reader.offset < last.offset) := by
  obtain ⟨before, ahead, whole, rfl⟩ := visited_between visited
  obtain ⟨sighting, further, rest, joined, passed⟩ := pass_between (counts_walk next text) whole
  have length : further.length + rest.length = text.length := by rw [← joined, List.length_append]
  refine ⟨sighting, _, passed, ?_, ?_, ?_⟩
  · simp only [between]
    omega
  all_goals
    rcases pass_moves passed with ⟨place, ended, -, nothing⟩ | ⟨other, consumed, -⟩
  · simp only [Reader.left, between, List.length_append] at nothing
    simp only [between]
    omega
  · rintro ⟨place, ended⟩
    exact absurd ended (other place)
  · exact fun other => absurd ended (other place)
  · exact fun _ => consumed.offset

/-- Passes come to the end of a text. -/
theorem exists_tokens (visited : Visited (fun number => some (next number)) text reader) :
    ∃ found, tokens? (fun number => some (next number)) reader = some found := by
  induction size : reader.left using Nat.strongRecOn generalizing reader with
  | ind size inductionHypothesis =>
    obtain ⟨sighting, last, passed, -⟩ := pass_progress visited
    rw [tokens_passed passed]
    rcases pass_moves passed with ⟨place, rfl, -⟩ | ⟨other, -, fewer⟩
    · exact ⟨_, rfl⟩
    · obtain ⟨found, later⟩ :=
        inductionHypothesis last.left (size ▸ fewer) (.pass _ _ _ visited passed) rfl
      cases sighting with
      | word token => exact ⟨_, by rw [later]; rfl⟩
      | fault error => exact ⟨_, by rw [later]; rfl⟩
      | ended place => exact absurd rfl (other place)

end Passing

/-- What holds wherever steps lead from in front of the words, with so many operands called on the
way. -/
structure Bounded (scan : Scan) (calls : Nat) (here : Configuration) : Prop where
  /-- No more than 128 parentheses are open. -/
  nesting : here.state.nesting ≤ 128
  /-- No more than 129 calls of a chain are not over. -/
  active : chains here ≤ 129
  /-- No more operands were called than there are opening parentheses and connectives, and one. -/
  operands : calls ≤ 1 + scan.tokens.countP nests
  /-- A step can be made, and it does not go back. It calls a chain only from an operand that reads
  an opening parenthesis. Where a chain may go on, it is over or a connective is read. -/
  onward : ∃ next, step (entries scan) here = some next ∧ here.state.index ≤ next.state.index ∧
    (next.control = .chain → here.control = .operand ∧
      ∃ token, Takes scan here next token ∧ token.kind = .opening) ∧
    ∀ left, here.control = .links left → next.control = .chainRead left ∨
      next.control = .operand ∧ ∃ token connective, Takes scan here next token ∧
        token.kind = .connective connective
  /-- A chain or an operand that is called here returns, whatever waits for it, not before here and
  with as many parentheses open. -/
  returns : ∀ task, task = .chain ∨ task = .operand → here.control = called task →
    ∃ tree later, here.state.index ≤ later.index ∧ later.nesting = here.state.nesting ∧
      ∀ frames, Arrives (entries scan) ⟨called task, frames, here.state⟩
        ⟨returned task tree, frames, later⟩
  /-- The steps lead to the end, and there to what the recursion reads. -/
  ends : Arrives (entries scan) here
    ⟨.finished (chain (operand maximumDepth) (.start scan)).1, [],
      seen scan 0 (chain (operand maximumDepth) (.start scan)).2.finished⟩

/-- Wherever steps lead, their number and what waits is bounded. -/
theorem bounded_of_reaches {scan : Scan} {calls : Nat} {here : Configuration}
    (reaches : Reaches (entries scan) .start calls here) : Bounded scan calls here := by
  obtain ⟨sound, few⟩ := reaches_sound reaches
  obtain ⟨next, made, move⟩ := step_moves sound
  have limit : here.state.nesting ≤ 128 := sound.bound
  have waiting := chains_bound sound
  have read : callers scan here.state.index ≤ scan.tokens.countP nests :=
    (List.take_sublist _ _).countP_le
  exact {
    nesting := limit
    active := by omega
    operands := by omega
    onward := ⟨next, made, onward_move move, called_by_opening move,
      fun left => joined_by_connective move⟩
    returns := by
      intro task call control
      obtain ⟨tree, later, onward, arrives⟩ := call_returns sound call control
      exact ⟨tree, later, onward.onward, onward.nesting, arrives⟩
    ends := arrives_rest (arrives_finished scan) rfl reaches }

/-- Reading moves forward and is bounded, for every text and for every list of words.

However lines and columns are counted, each pass over a text finds a word or an error and reads a
character at least, or finds the end with all of the text behind it, and passes come to the end.
Where counting goes on by one they come to the words and the errors of the text.

Wherever steps lead from in front of any words, no more than 128 parentheses are open and no more
than 129 chains are not over, each chain goes on by reading a connective and is called behind a
parenthesis that was read, every call returns, and the number of operands called is bounded by the
number of such words. -/
theorem reading_bounded :
    (∀ (next : Nat → Nat) (text : List Char) (reader : Reader),
      Visited (fun number => some (next number)) text reader →
      ∃ sighting last, passOver (fun number => some (next number)) reader = some (sighting, last) ∧
        last.offset ≤ text.length ∧
        ((∃ place, sighting = .ended place) → last.offset = text.length) ∧
        ((∀ place, sighting ≠ .ended place) → reader.offset < last.offset)) ∧
    (∀ (next : Nat → Nat) (text : List Char),
      ∃ found, tokens? (fun number => some (next number)) (.start text) = some found) ∧
    (∀ text : List Char, tokens? (fun number => some (number + 1)) (.start text) =
      some (entries (Scan.ofText text), (Scan.ofText text).faults)) ∧
    ∀ (scan : Scan) (calls : Nat) (here : Configuration),
      Reaches (entries scan) .start calls here → Bounded scan calls here := by
  refine ⟨?_, ?_, ?_, ?_⟩
  · intro next text reader visited
    exact pass_progress visited
  · intro next text
    exact exists_tokens .start
  · intro text
    exact tokens_text fun number _ => rfl
  · intro scan calls here reaches
    exact bounded_of_reaches reaches

/-- The words of an opened parenthesis with nothing but an `or` behind it, which make no
condition. -/
def halfGroup : Scan :=
  ⟨[⟨.opening, "(", ⟨1, 0⟩⟩, ⟨.connective .or, "or", ⟨1, 1⟩⟩], [], ⟨1, 3⟩⟩

/-- The first pass over a text that makes no condition, with numbers that start again at zero, and
the second call of an operand for its words. -/
theorem half_group_bounded :
    (∃ sighting last,
      passOver (fun number => some ((number + 1) % 2 ^ 32)) (.start "(or".toList) =
        some (sighting, last) ∧ last.offset ≤ 3) ∧
    Bounded halfGroup 2
      ⟨.operand, [.first, .group ⟨1, 0⟩, .first], ⟨1, 1, false, []⟩⟩ := by
  obtain ⟨passes, -, -, bounded⟩ := reading_bounded
  constructor
  · obtain ⟨sighting, last, passed, inside, -⟩ :=
      passes (fun number => (number + 1) % 2 ^ 32) "(or".toList _ .start
    exact ⟨sighting, last, passed, inside⟩
  · have first : Reaches (entries halfGroup) .start 1 ⟨.operand, [.first], ⟨0, 0, false, []⟩⟩ :=
      .next _ .start ⟨.operand, [.first], ⟨0, 0, false, []⟩⟩ 0 (.here .start) rfl
    have inside : Reaches (entries halfGroup) .start 1
        ⟨.chain, [.group ⟨1, 0⟩, .first], ⟨1, 1, false, []⟩⟩ :=
      .next _ _ ⟨.chain, [.group ⟨1, 0⟩, .first], ⟨1, 1, false, []⟩⟩ 1 first rfl
    exact bounded halfGroup 2 _
      (.next _ _ ⟨.operand, [.first, .group ⟨1, 0⟩, .first], ⟨1, 1, false, []⟩⟩ 1 inside rfl)

end RecordRules.BoundedReading
