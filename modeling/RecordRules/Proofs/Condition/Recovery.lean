import RecordRules.Condition.Basic
import RecordRules.Proofs.Condition.Refusal

/-!
# Which errors a chain is refused with

A chain without parentheses falls into members, the runs of words between its connectives. A member
is a comparison, begins with one that is followed by more words, or does not begin with one. Reading
a member of the last kind notes one error at a word of it or where it ends, and goes on with the
next member. Reading a member of the second kind ends the whole chain: the first word behind the
comparison is noted, and what follows it is never looked at.

So the errors of a chain are those of its members one by one, but no further than the first member
with a comparison and more words. Behind it no member has an error, however its words stand.
-/

namespace RecordRules.Recovery

open Text Parsing Grammar Progress Recognition Refusal

/-- Whether a word may stand in a member: it is neither a parenthesis nor a connective. -/
def isInner (word : Token) : Bool :=
  match word.kind with
  | .opening => false
  | .closing => false
  | .connective _ => false
  | _ => true

/-- The words of a member, and the place of the connective or of the end of the text behind it. -/
structure Member where
  words : List Token
  ending : Place

/-- Words fall into these members, of which the last one ends with the text. -/
inductive Splits (finish : Place) : List Token → List Member → Prop
  | last (words : List Token) (inner : ∀ word ∈ words, isInner word = true) :
      Splits finish words [⟨words, finish⟩]
  | link (words : List Token) (joint : Token) (connective : Connective) (more : List Token)
      (members : List Member) (inner : ∀ word ∈ words, isInner word = true)
      (joins : joint.kind = .connective connective) (later : Splits finish more members) :
      Splits finish (words ++ joint :: more) (⟨words, joint.place⟩ :: members)

/-- A place is that of a word of a member, or the one where the member ends. -/
def Within (member : Member) (place : Place) : Prop :=
  place = member.ending ∨ ∃ word ∈ member.words, place = word.place

/-- Words are a comparison. -/
def IsComparison (words : List Token) : Prop :=
  ∃ leaf, Derives .operand words (.comparison leaf)

/-- Words are a comparison with more words behind it. -/
def Overlong (words : List Token) : Prop :=
  ∃ front word more, words = front ++ word :: more ∧ IsComparison front

/-- The errors that members are blamed for. There is one for each member that is no comparison, up
to the first one that is a comparison with more words behind it. -/
inductive Blames : List Member → List SyntaxError → Prop
  | finished : Blames [] []
  | sound (member : Member) (members : List Member) (errors : List SyntaxError)
      (whole : IsComparison member.words) (later : Blames members errors) :
      Blames (member :: members) errors
  | broken (member : Member) (members : List Member) (error : SyntaxError)
      (errors : List SyntaxError) (missing : ¬ IsComparison member.words)
      (other : ¬ Overlong member.words) (within : Within member error.place)
      (later : Blames members errors) : Blames (member :: members) (error :: errors)
  | overlong (member : Member) (members : List Member) (error : SyntaxError)
      (more : Overlong member.words) (within : Within member error.place) :
      Blames (member :: members) [error]

/-- A comparison with more words behind it is no comparison. -/
theorem not_comparison_of_overlong {words : List Token} (overlong : Overlong words) :
    ¬ IsComparison words := by
  rintro ⟨leaf, derived⟩
  obtain ⟨front, word, more, rfl, other, begins⟩ := overlong
  have whole : front ++ word :: more = front ++ word :: more ++ [] := (List.append_nil _).symm
  have same := (derives_same begins derived (fun impossible => absurd rfl impossible) whole).1
  simpa using congrArg List.length same

section Blaming

variable {members : List Member} {errors : List SyntaxError}

/-- Members are blamed for nothing exactly if all of them are comparisons. -/
theorem blames_nil_iff (blames : Blames members errors) :
    errors = [] ↔ ∀ member ∈ members, IsComparison member.words := by
  induction blames with
  | finished => simp
  | sound member members errors whole later inductionHypothesis =>
    simp [inductionHypothesis, whole]
  | broken member members error errors missing other within later inductionHypothesis =>
    simp [missing]
  | overlong member members error more within =>
    simp [not_comparison_of_overlong more]

/-- A member that is no comparison is blamed for an error, unless a comparison with more words
behind it stands before. -/
theorem blames_reached (blames : Blames members errors) {before after : List Member}
    {member : Member} (split : members = before ++ member :: after)
    (reached : ∀ earlier ∈ before, ¬ Overlong earlier.words)
    (missing : ¬ IsComparison member.words) : ∃ error ∈ errors, Within member error.place := by
  induction blames generalizing before with
  | finished => simp at split
  | sound first members errors whole later inductionHypothesis =>
    cases before with
    | nil =>
      obtain ⟨rfl, rfl⟩ := List.cons.inj split
      exact absurd whole missing
    | cons start before =>
      obtain ⟨rfl, rfl⟩ := List.cons.inj split
      exact inductionHypothesis rfl fun earlier inside =>
        reached earlier (List.mem_cons_of_mem _ inside)
  | broken first members error errors _ other within later inductionHypothesis =>
    cases before with
    | nil =>
      obtain ⟨rfl, rfl⟩ := List.cons.inj split
      exact ⟨error, by simp, within⟩
    | cons start before =>
      obtain ⟨rfl, rfl⟩ := List.cons.inj split
      obtain ⟨found, inside, placed⟩ := inductionHypothesis rfl fun earlier inside =>
        reached earlier (List.mem_cons_of_mem _ inside)
      exact ⟨found, List.mem_cons_of_mem _ inside, placed⟩
  | overlong first members error more within =>
    cases before with
    | nil =>
      obtain ⟨rfl, rfl⟩ := List.cons.inj split
      exact ⟨error, by simp, within⟩
    | cons start before =>
      obtain ⟨rfl, rfl⟩ := List.cons.inj split
      exact absurd more (reached _ (by simp))

/-- No member behind a comparison with more words behind it is blamed for an error. -/
theorem blames_until (blames : Blames members errors) {before after : List Member}
    {member : Member} (split : members = before ++ member :: after)
    (overlong : Overlong member.words) :
    ∀ error ∈ errors, ∃ earlier ∈ before ++ [member], Within earlier error.place := by
  induction blames generalizing before with
  | finished => simp at split
  | sound first members errors whole later inductionHypothesis =>
    cases before with
    | nil =>
      obtain ⟨rfl, rfl⟩ := List.cons.inj split
      exact absurd whole (not_comparison_of_overlong overlong)
    | cons start before =>
      obtain ⟨rfl, rfl⟩ := List.cons.inj split
      intro error inside
      obtain ⟨earlier, position, within⟩ := inductionHypothesis rfl error inside
      exact ⟨earlier, List.mem_cons_of_mem _ position, within⟩
  | broken first members error errors _ other within later inductionHypothesis =>
    cases before with
    | nil =>
      obtain ⟨rfl, rfl⟩ := List.cons.inj split
      exact absurd overlong other
    | cons start before =>
      obtain ⟨rfl, rfl⟩ := List.cons.inj split
      intro found inside
      rcases List.mem_cons.mp inside with rfl | inside
      · exact ⟨first, by simp, within⟩
      · obtain ⟨earlier, position, placed⟩ := inductionHypothesis rfl found inside
        exact ⟨earlier, List.mem_cons_of_mem _ position, placed⟩
  | overlong first members error more within =>
    intro found inside
    obtain rfl := List.mem_singleton.mp inside
    cases before with
    | nil =>
      obtain ⟨rfl, rfl⟩ := List.cons.inj split
      exact ⟨first, by simp, within⟩
    | cons start before =>
      obtain ⟨rfl, rfl⟩ := List.cons.inj split
      exact ⟨first, by simp, within⟩

end Blaming

/-- What stands behind a member: nothing at the end of the text, or a connective. -/
inductive Ended (finish : Place) : Place → List Token → Prop
  | finish : Ended finish finish []
  | joint (joint : Token) (connective : Connective) (more : List Token)
      (joins : joint.kind = .connective connective) : Ended finish joint.place (joint :: more)

/-- Reading a member finds no tree, notes one error within it, and goes on where it ends. -/
def Stuck (cursor : Cursor) (member : Member) (rest : List Token) (result : Result) : Prop :=
  ∃ error : SyntaxError, Within member error.place ∧
    result = (none, { cursor with ahead := rest, reported := error :: cursor.reported })

/-- What reading a member leads to. -/
inductive Read (cursor : Cursor) (member : Member) (rest : List Token) : Result → Prop
  | whole (leaf : Comparison) (derived : Derives .operand member.words (.comparison leaf)) :
      Read cursor member rest (some (.comparison leaf), { cursor with ahead := rest })
  | overlong (leaf : Comparison) (front : List Token) (word : Token) (more : List Token)
      (split : member.words = front ++ word :: more)
      (derived : Derives .operand front (.comparison leaf)) :
      Read cursor member rest
        (some (.comparison leaf), { cursor with ahead := word :: (more ++ rest) })
  | broken (result : Result) (missing : ¬ IsComparison member.words)
      (other : ¬ Overlong member.words) (stuck : Stuck cursor member rest result) :
      Read cursor member rest result

section Reading

variable {cursor : Cursor} {words rest : List Token} {ending : Place}

/-- Reading does not resume at a word of a member. -/
theorem resumes_inner {word : Token} (inner : isInner word = true) :
    Cursor.resumesAt word = false := by
  unfold isInner at inner
  unfold Cursor.resumesAt
  cases kind : word.kind <;> simp_all

/-- A mismatch in a member is noted within it, and the rest of the member is skipped. -/
theorem stuck_mismatch (inner : ∀ word ∈ words, isInner word = true)
    (ended : Ended cursor.finish ending rest) (ahead : cursor.ahead = words ++ rest)
    (expected : Expected) :
    Stuck cursor ⟨words, ending⟩ rest (none, cursor.mismatch expected) := by
  have skipped : (words ++ rest).dropWhile (fun token => !Cursor.resumesAt token) = rest := by
    rw [List.dropWhile_append_of_pos fun word member => by simp [resumes_inner (inner word member)]]
    cases ended with
    | finish => rfl
    | joint joint connective more joins =>
      rw [List.dropWhile_cons_of_neg (by simp [Cursor.resumesAt, joins])]
  have placed : Within ⟨words, ending⟩ cursor.place := by
    unfold Cursor.place
    rw [ahead]
    cases words with
    | nil =>
      cases ended with
      | finish => exact .inl rfl
      | joint joint connective more joins => exact .inl rfl
    | cons word words => exact .inr ⟨word, by simp, rfl⟩
  refine ⟨⟨.mismatched cursor.found expected, cursor.place⟩, placed, ?_⟩
  simp [Cursor.mismatch, Cursor.report, ahead, skipped]

/-- Being stuck behind the first word of a member is being stuck in it. -/
theorem stuck_behind {word : Token} {result : Result}
    (stuck : Stuck cursor.advance ⟨words, ending⟩ rest result) :
    Stuck cursor ⟨word :: words, ending⟩ rest result := by
  obtain ⟨error, within, rfl⟩ := stuck
  refine ⟨error, ?_, rfl⟩
  rcases within with atEnd | ⟨other, member, placed⟩
  · exact .inl atEnd
  · exact .inr ⟨other, List.mem_cons_of_mem _ member, placed⟩

/-- A connective is no operator. -/
theorem literal_connective (connective : Connective) :
    (Token.Kind.connective connective).literal? = none := rfl

/-- A connective is no literal. -/
theorem test_connective (operator : Token.Kind) (connective : Connective) :
    operator.test? (.connective connective) = none := by
  cases operator <;> rfl

/-- Behind its field, a member goes on with an operator and a literal that make a test, or reading
it is stuck. -/
theorem comparison_read (field : FieldReference) (inner : ∀ word ∈ words, isInner word = true)
    (ended : Ended cursor.finish ending rest) (ahead : cursor.ahead = words ++ rest) :
    (∃ operator literal more test, words = operator :: literal :: more ∧
      Takes operator.kind literal.kind test ∧
      comparison field cursor =
        (some (.comparison ⟨field, test⟩), { cursor with ahead := more ++ rest })) ∨
    Stuck cursor ⟨words, ending⟩ rest (comparison field cursor) := by
  have here := stuck_mismatch inner ended ahead
  cases words with
  | nil =>
    right
    unfold comparison
    rw [ahead]
    cases ended with
    | finish => exact here .operator
    | joint joint connective more joins =>
      simp only [List.nil_append, joins, literal_connective]
      exact here .operator
  | cons operator words =>
    have innerBehind : ∀ word ∈ words, isInner word = true := fun word member =>
      inner word (List.mem_cons_of_mem _ member)
    have behind : cursor.advance.ahead = words ++ rest := by simp [Cursor.advance, ahead]
    have endedBehind : Ended cursor.advance.finish ending rest := ended
    have later : ∀ expected, Stuck cursor ⟨operator :: words, ending⟩ rest
        (none, cursor.advance.mismatch expected) := fun expected =>
      stuck_behind (stuck_mismatch innerBehind endedBehind behind expected)
    unfold comparison
    simp only [ahead, List.cons_append]
    cases known : operator.kind.literal? with
    | none => exact .inr (here .operator)
    | some expected =>
      dsimp only
      cases words with
      | nil =>
        right
        have nothing : cursor.advance.kind?.bind operator.kind.test? = none := by
          rw [Cursor.kind?, behind]
          cases ended with
          | finish => rfl
          | joint joint connective more joins =>
            simp [joins, test_connective]
        rw [nothing]
        exact later expected
      | cons literal more =>
        have next : cursor.advance.kind? = some literal.kind := by simp [Cursor.kind?, behind]
        rw [next, Option.bind_some]
        cases tested : operator.kind.test? literal.kind with
        | none => exact .inr (later expected)
        | some test =>
          left
          refine ⟨operator, literal, more, test, rfl, test_iff.mp tested, ?_⟩
          simp [Cursor.advance, ahead]

/-- Where no tree is read, no comparison stands at the beginning of what is ahead. -/
theorem not_begins {allowance : Nat} (none : (operand allowance cursor).1 = none)
    (shallow : cursor.tooDeep = false) (front more : List Token)
    (ahead : cursor.ahead = front ++ more) : ¬ IsComparison front := by
  rintro ⟨leaf, derived⟩
  cases derived with
  | comparison field operator literal name test named taken =>
    have read := operand_reads_comparison allowance named taken cursor more ahead shallow
    dsimp only at read
    rw [read] at none
    cases none

/-- Reading a member finds a comparison, a comparison with more words behind it, or is stuck. -/
theorem operand_read (allowance : Nat) (shallow : cursor.tooDeep = false)
    (inner : ∀ word ∈ words, isInner word = true) (ended : Ended cursor.finish ending rest)
    (ahead : cursor.ahead = words ++ rest) :
    Read cursor ⟨words, ending⟩ rest (operand allowance cursor) := by
  have stuck : Stuck cursor ⟨words, ending⟩ rest (operand allowance cursor) →
      Read cursor ⟨words, ending⟩ rest (operand allowance cursor) := by
    intro stuck
    obtain ⟨error, within, result⟩ := stuck
    have none : (operand allowance cursor).1 = .none := by rw [result]
    refine .broken _ ?_ ?_ ⟨error, within, result⟩
    · exact not_begins none shallow words rest ahead
    · rintro ⟨front, word, more, rfl, begins⟩
      exact not_begins none shallow front (word :: more ++ rest) (by simp [ahead]) begins
  have mismatched := stuck_mismatch inner ended ahead .operand
  cases words with
  | nil =>
    apply stuck
    unfold operand
    cases ended with
    | finish =>
      rw [ahead]
      exact mismatched
    | joint joint connective more joins =>
      obtain ⟨kind, text, place⟩ := joint
      obtain rfl : kind = .connective connective := joins
      rw [ahead]
      exact mismatched
  | cons field words =>
    obtain ⟨kind, text, place⟩ := field
    have innerBehind : ∀ word ∈ words, isInner word = true := fun word member =>
      inner word (List.mem_cons_of_mem _ member)
    have behind : cursor.advance.ahead = words ++ rest := by simp [Cursor.advance, ahead]
    by_cases named : ∃ name, kind = .field name
    · obtain ⟨name, rfl⟩ := named
      have entered : operand allowance cursor =
          comparison ⟨name, place.column⟩ cursor.advance := by
        unfold operand
        simp only [ahead, List.cons_append]
      replace ended : Ended cursor.advance.finish ending rest := ended
      rcases comparison_read ⟨name, place.column⟩ innerBehind ended behind with
        ⟨operator, literal, more, test, rfl, taken, read⟩ | later
      · rw [entered, read]
        have derived : Derives .operand [⟨.field name, text, place⟩, operator, literal]
            (.comparison ⟨⟨name, place.column⟩, test⟩) :=
          .comparison ⟨.field name, text, place⟩ operator literal name test rfl taken
        cases more with
        | nil => exact .whole _ derived
        | cons word more =>
          exact .overlong _ [⟨.field name, text, place⟩, operator, literal] word more rfl derived
      · exact stuck (entered ▸ stuck_behind later)
    · apply stuck
      have read : operand allowance cursor = (none, cursor.mismatch .operand) := by
        have inside := inner ⟨kind, text, place⟩ (by simp)
        unfold operand
        rw [ahead]
        cases kind <;> first | rfl | exact absurd ⟨_, rfl⟩ named | cases inside
      rw [read]
      exact mismatched

end Reading

/-- Words that fall into members begin with the first one, and what is behind it ends it. -/
theorem splits_first {finish : Place} {words : List Token} {members : List Member}
    (splits : Splits finish words members) :
    ∃ member others rest, members = member :: others ∧ words = member.words ++ rest ∧
      (∀ word ∈ member.words, isInner word = true) ∧ Ended finish member.ending rest := by
  cases splits with
  | last words inner => exact ⟨_, [], [], rfl, by simp, inner, .finish⟩
  | link words joint connective more members inner joins later =>
    exact ⟨_, members, joint :: more, rfl, rfl, inner, .joint joint connective more joins⟩

/-- A member is one deep if it is read as a tree. -/
theorem depth_read {cursor : Cursor} {member : Member} {rest : List Token} {result : Result}
    (read : Read cursor member rest result) : ∀ tree ∈ result.1, tree.depth = 1 := by
  intro tree found
  cases read with
  | whole leaf derived =>
    obtain rfl := Option.some.inj found
    rfl
  | overlong leaf front word more split derived =>
    obtain rfl := Option.some.inj found
    rfl
  | broken result missing other stuck =>
    obtain ⟨error, within, rfl⟩ := stuck
    cases found

/-- One round of links reads one member. The tree grows by one level, if there is still one. -/
theorem links_next {reader : Cursor → Result} {cursor : Cursor} {joint : Token}
    {connective : Connective} {more : List Token} (ahead : cursor.ahead = joint :: more)
    (joins : joint.kind = .connective connective) (rounds : Nat) (left : Option Expression)
    (shallow : ∀ tree ∈ left, tree.depth + 1 ≤ maximumDepth)
    (flat : ∀ tree ∈ (reader cursor.advance).1, tree.depth = 1) :
    ∃ joined : Option Expression,
      links reader (rounds + 1) left cursor = links reader rounds joined (reader cursor.advance).2 ∧
      ∀ tree ∈ joined, ∃ before ∈ left, tree.depth = before.depth + 1 := by
  obtain ⟨kind, text, place⟩ := joint
  obtain rfl : kind = .connective connective := joins
  rw [links]
  simp only [ahead]
  generalize reader cursor.advance = result at flat
  obtain ⟨right, behind⟩ := result
  cases left with
  | none => exact ⟨none, rfl, by simp⟩
  | some left =>
    cases right with
    | none => exact ⟨none, rfl, by simp⟩
    | some right =>
      have one : right.depth = 1 := flat right rfl
      have within : left.depth + 1 ≤ maximumDepth := shallow left rfl
      have positive : 0 < left.depth := depth_pos left
      have deeper : (Expression.joined connective left right).depth = left.depth + 1 := by
        simp only [Expression.depth, one]
        omega
      refine ⟨some (.joined connective left right), ?_, ?_⟩
      · dsimp only
        rw [if_neg (by omega)]
      · intro tree found
        obtain rfl := Option.some.inj found
        exact ⟨left, rfl, deeper⟩

/-- Where a word of a member is ahead, a chain is over, and the word is noted at the end. -/
theorem finished_inner {reader : Cursor → Result} {cursor : Cursor} {word : Token}
    {more : List Token} (ahead : cursor.ahead = word :: more) (inner : isInner word = true)
    (rounds : Nat) (left : Option Expression) :
    (links reader rounds left cursor).2.finished.reported =
      ⟨.extraneous (.word word.text), word.place⟩ :: cursor.reported := by
  have stops : Stops cursor.ahead := by
    rw [ahead]
    refine stops_cons fun connective joins => ?_
    simp [isInner, joins] at inner
  rw [links_stop stops]
  simp [Cursor.finished, Cursor.report, ahead]

/-- Reading words from the first operand on notes what the members are blamed for, whatever was
noted before. The tree on the left may be any that leaves room for one more level for each member
still to be joined, so reading is never given up. Rounds are counted from behind the first member,
where a chain begins to look for connectives. -/
def NotesBlames (allowance : Nat) (finish : Place) (words : List Token) (members : List Member) :
    Prop :=
  ∀ cursor : Cursor, cursor.ahead = words → cursor.finish = finish → cursor.tooDeep = false →
    ∀ left : Option Expression,
      (∀ tree ∈ left, tree.depth + members.length ≤ maximumDepth + 1) →
      ∀ rounds, (operand allowance cursor).2.ahead.length ≤ rounds →
        ∃ errors, Blames members errors ∧
          (links (operand allowance) rounds left
            (operand allowance cursor).2).2.finished.reported =
            errors.reverse ++ cursor.reported

section Noting

variable {finish : Place} {allowance : Nat} {left : Option Expression}

/-- Behind a member that does not end the chain, the next one is read with what was noted so far,
and with a tree on the left that has grown by one level. -/
theorem notes_behind {joint : Token} {connective : Connective} {more : List Token}
    {members : List Member} (joins : joint.kind = .connective connective)
    (later : Splits finish more members) (notes : NotesBlames allowance finish more members)
    (cursor : Cursor) (ends : cursor.finish = finish) (shallow : cursor.tooDeep = false)
    (ahead : cursor.ahead = joint :: more)
    (room : ∀ tree ∈ left, tree.depth + (members.length + 1) ≤ maximumDepth + 1) {rounds : Nat}
    (enough : (joint :: more).length ≤ rounds) :
    ∃ errors, Blames members errors ∧
      (links (operand allowance) rounds left cursor).2.finished.reported =
        errors.reverse ++ cursor.reported := by
  obtain ⟨fewer, rfl⟩ : ∃ fewer, rounds = fewer + 1 :=
    ⟨rounds - 1, by simp only [List.length_cons] at enough; omega⟩
  have behind : cursor.advance.ahead = more := by simp [Cursor.advance, ahead]
  obtain ⟨member, others, rest, rfl, split, inner, ended⟩ := splits_first later
  replace ended : Ended cursor.advance.finish member.ending rest := ends ▸ ended
  have shallowBehind : cursor.advance.tooDeep = false := shallow
  have flat := depth_read (operand_read allowance shallowBehind inner ended (behind.trans split))
  have grown : ∀ tree ∈ left, tree.depth + 1 ≤ maximumDepth := by
    intro tree found
    have bound := room tree found
    simp only [List.length_cons] at bound
    omega
  obtain ⟨joined, step, grows⟩ := links_next ahead joins fewer left grown flat
  have roomNext : ∀ tree ∈ joined, tree.depth + (member :: others).length ≤ maximumDepth + 1 := by
    intro tree found
    obtain ⟨before, onLeft, deeper⟩ := grows tree found
    have bound := room before onLeft
    omega
  have suffix := (leads_operand allowance cursor.advance).ahead.length_le
  have enoughNext : (operand allowance cursor.advance).2.ahead.length ≤ fewer := by
    simp only [List.length_cons] at enough
    rw [behind] at suffix
    omega
  obtain ⟨errors, blames, reported⟩ :=
    notes cursor.advance behind ends shallowBehind joined roomNext fewer enoughNext
  exact ⟨errors, blames, by rw [step]; exact reported⟩

/-- The last member of a chain is read, and the chain is over. -/
theorem notes_last {words : List Token} (inner : ∀ word ∈ words, isInner word = true) :
    NotesBlames allowance finish words [⟨words, finish⟩] := by
  intro cursor ahead ends shallow left room rounds enough
  have ended : Ended cursor.finish finish [] := ends ▸ .finish
  have whole : cursor.ahead = words ++ [] := ahead.trans (List.append_nil _).symm
  have read := operand_read allowance shallow inner ended whole
  generalize operand allowance cursor = result at read enough
  cases read with
  | whole leaf derived =>
    refine ⟨[], .sound _ _ _ ⟨leaf, derived⟩ .finished, ?_⟩
    rw [links_stop stops_nil]
    rfl
  | overlong leaf front word more split derived =>
    have here : isInner word = true := inner word (by simp_all)
    refine ⟨[_], .overlong _ _ _ ⟨front, word, more, split, leaf, derived⟩
      (.inr ⟨word, by simp_all, rfl⟩), finished_inner rfl here rounds left⟩
  | broken result missing other stuck =>
    obtain ⟨error, within, rfl⟩ := stuck
    refine ⟨[error], .broken _ _ _ _ missing other within .finished, ?_⟩
    rw [links_stop stops_nil]
    rfl

/-- A member with a connective behind it is read, and the chain goes on unless the member is a
comparison with more words behind it. -/
theorem notes_link {words more : List Token} {joint : Token} {connective : Connective}
    {members : List Member} (inner : ∀ word ∈ words, isInner word = true)
    (joins : joint.kind = .connective connective) (later : Splits finish more members)
    (notes : NotesBlames allowance finish more members) :
    NotesBlames allowance finish (words ++ joint :: more) (⟨words, joint.place⟩ :: members) := by
  intro cursor ahead ends shallow left room rounds enough
  have ended : Ended cursor.finish joint.place (joint :: more) :=
    ends ▸ .joint joint connective more joins
  have read := operand_read allowance shallow inner ended ahead
  generalize operand allowance cursor = result at read enough
  cases read with
  | whole leaf derived =>
    obtain ⟨errors, blames, reported⟩ :=
      notes_behind joins later notes { cursor with ahead := joint :: more } ends shallow rfl room
        enough
    exact ⟨errors, .sound _ _ _ ⟨leaf, derived⟩ blames, reported⟩
  | overlong leaf front word tail split derived =>
    have here : isInner word = true := inner word (by simp_all)
    refine ⟨[_], .overlong _ _ _ ⟨front, word, tail, split, leaf, derived⟩
      (.inr ⟨word, by simp_all, rfl⟩), finished_inner rfl here rounds left⟩
  | broken result missing other stuck =>
    obtain ⟨error, within, rfl⟩ := stuck
    obtain ⟨errors, blames, reported⟩ :=
      notes_behind joins later notes
        { cursor with ahead := joint :: more, reported := error :: cursor.reported } ends shallow
        rfl room enough
    refine ⟨error :: errors, .broken _ _ _ _ missing other within blames, ?_⟩
    rw [reported, List.reverse_cons, List.append_assoc]
    rfl

/-- What is noted in a chain is what its members are blamed for. -/
theorem links_blame {words : List Token} {members : List Member}
    (splits : Splits finish words members) : NotesBlames allowance finish words members := by
  induction splits with
  | last words inner => exact notes_last inner
  | link words joint connective more members inner joins later inductionHypothesis =>
    exact notes_link inner joins later inductionHypothesis

end Noting

/-- What is noted while the words of a text are read that fall into at most 128 members is what the
members are blamed for. -/
theorem scan_blame {scan : Scan} {members : List Member}
    (splits : Splits scan.finish scan.tokens members) (few : members.length ≤ maximumDepth) :
    ∃ errors, Blames members errors ∧
      (chain (operand maximumDepth) (.start scan)).2.finished.reported = errors.reverse := by
  obtain ⟨member, others, rest, rfl, split, inner, ended⟩ := splits_first splits
  have shallow : (Cursor.start scan).tooDeep = false := rfl
  have flat := depth_read (operand_read maximumDepth shallow inner ended split)
  have room : ∀ tree ∈ (operand maximumDepth (.start scan)).1,
      tree.depth + (member :: others).length ≤ maximumDepth + 1 := by
    intro tree found
    rw [flat tree found]
    omega
  obtain ⟨errors, blames, reported⟩ :=
    links_blame splits (.start scan) rfl rfl shallow _ room _ (Nat.le_refl _)
  exact ⟨errors, blames, by rw [chain, reported]; simp [Cursor.start]⟩

section Compiling

variable {source : String} {members : List Member}

/-- A chain is compiled without an error, or refused with what its members are blamed for. -/
theorem compile_blame (faultless : (Scan.ofText source.toList).faults = [])
    (splits : Splits (Scan.ofText source.toList).finish (Scan.ofText source.toList).tokens members)
    (few : members.length ≤ maximumDepth) :
    ∃ reported, Blames members reported ∧
      (reported = [] ↔ ∃ condition, Condition.compile source = .ok condition) ∧
      ∀ errors, Condition.compile source = .error errors →
        errors = SyntaxError.inOrder reported := by
  obtain ⟨reported, blames, noted⟩ := scan_blame splits few
  have refused : ∀ errors, Condition.compile source = .error errors →
      errors = SyntaxError.inOrder reported := by
    intro errors rejected
    have all := refused_noted rejected
    rwa [faultless, noted, List.nil_append, List.reverse_reverse] at all
  refine ⟨reported, blames, ⟨?_, ?_⟩, refused⟩
  · rintro rfl
    cases compiled : Condition.compile source with
    | ok condition => exact ⟨condition, rfl⟩
    | error errors =>
      have nothing : errors = [] := (refused errors compiled).trans ((in_order_nil []).mpr rfl)
      exact absurd nothing (refused_errors compiled).1
  · rintro ⟨condition, compiled⟩
    have parsed : ∃ tree, Expression.parse source = .ok tree := by
      unfold Condition.compile at compiled
      cases parsed : Expression.parse source with
      | ok tree => exact ⟨tree, rfl⟩
      | error errors =>
        rw [parsed] at compiled
        cases compiled
    obtain ⟨tree, parsed⟩ := parsed
    obtain ⟨-, behind, read, quiet⟩ := (parse_iff source tree).mp parsed
    rw [read, quiet] at noted
    exact List.reverse_eq_nil_iff.mp noted.symm

/-- A chain of at most 128 members is compiled exactly if each member is a comparison. Otherwise its
errors, in the order of their places, are those that its members are blamed for. A member that is no
comparison has an error within it, unless a comparison with more words behind it stands before. No
member behind such a one has an error of its own. -/
theorem compile_chain (faultless : (Scan.ofText source.toList).faults = [])
    (splits : Splits (Scan.ofText source.toList).finish (Scan.ofText source.toList).tokens members)
    (few : members.length ≤ 128) :
    ((∃ condition, Condition.compile source = .ok condition) ↔
      ∀ member ∈ members, IsComparison member.words) ∧
    ∀ errors, Condition.compile source = .error errors →
      (∃ reported, Blames members reported ∧ errors = SyntaxError.inOrder reported) ∧
      (∀ before member after, members = before ++ member :: after →
        (∀ earlier ∈ before, ¬ Overlong earlier.words) → ¬ IsComparison member.words →
          ∃ error ∈ errors, Within member error.place) ∧
      ∀ before member after, members = before ++ member :: after → Overlong member.words →
        ∀ error ∈ errors, ∃ earlier ∈ before ++ [member], Within earlier error.place := by
  obtain ⟨reported, blames, silent, refused⟩ := compile_blame faultless splits few
  refine ⟨silent.symm.trans (blames_nil_iff blames), ?_⟩
  intro errors rejected
  obtain rfl := refused errors rejected
  have same : ∀ error, error ∈ SyntaxError.inOrder reported ↔ error ∈ reported := fun error =>
    List.mem_mergeSort
  refine ⟨⟨reported, blames, rfl⟩, ?_, ?_⟩
  · intro before member after split reached missing
    obtain ⟨error, inside, within⟩ := blames_reached blames split reached missing
    exact ⟨error, (same error).mpr inside, within⟩
  · intro before member after split overlong error inside
    exact blames_until blames split overlong error ((same error).mp inside)

end Compiling

/-- A chain with a missing number, more words behind a comparison, and a missing list. -/
def hidingSource : String := "a > and b =~ \"x\" c or d in"

/-- The member of the chain whose number is missing. -/
def brokenMember : Member :=
  ⟨[⟨.field "a", "a", ⟨1, 0⟩⟩, ⟨.greater, ">", ⟨1, 2⟩⟩], ⟨1, 4⟩⟩

/-- The member of the chain that is a comparison with another word behind it. -/
def overlongMember : Member :=
  ⟨[⟨.field "b", "b", ⟨1, 8⟩⟩, ⟨.contains, "=~", ⟨1, 10⟩⟩, ⟨.text "x", "\"x\"", ⟨1, 13⟩⟩,
    ⟨.field "c", "c", ⟨1, 17⟩⟩], ⟨1, 19⟩⟩

/-- The member of the chain whose list is missing. -/
def hiddenMember : Member :=
  ⟨[⟨.field "d", "d", ⟨1, 22⟩⟩, ⟨.among, "in", ⟨1, 24⟩⟩], ⟨1, 26⟩⟩

/-- The errors of the chain. -/
def hidingErrors : List SyntaxError :=
  [⟨.mismatched (.word "and") .number, ⟨1, 4⟩⟩, ⟨.extraneous (.word "c"), ⟨1, 17⟩⟩]

/-- The words of the chain fall into its members. -/
theorem hiding_splits :
    Splits (Scan.ofText hidingSource.toList).finish (Scan.ofText hidingSource.toList).tokens
      [brokenMember, overlongMember, hiddenMember] := by
  have finish : (Scan.ofText hidingSource.toList).finish = ⟨1, 26⟩ := by decide +kernel
  have tokens : (Scan.ofText hidingSource.toList).tokens =
      brokenMember.words ++ ⟨.connective .and, "and", ⟨1, 4⟩⟩ ::
        (overlongMember.words ++ ⟨.connective .or, "or", ⟨1, 19⟩⟩ :: hiddenMember.words) := by
    decide +kernel
  rw [finish, tokens]
  exact .link _ ⟨.connective .and, "and", ⟨1, 4⟩⟩ .and _ _ (by decide) rfl
    (.link _ ⟨.connective .or, "or", ⟨1, 19⟩⟩ .or _ _ (by decide) rfl (.last _ (by decide)))

/-- The second member of the chain is a comparison with another word behind it. -/
theorem hiding_overlong : Overlong overlongMember.words :=
  ⟨[⟨.field "b", "b", ⟨1, 8⟩⟩, ⟨.contains, "=~", ⟨1, 10⟩⟩, ⟨.text "x", "\"x\"", ⟨1, 13⟩⟩],
    ⟨.field "c", "c", ⟨1, 17⟩⟩, [], rfl, _, .comparison _ _ _ "b" _ rfl (.contains _)⟩

/-- The chain is refused with its errors. -/
theorem hiding_refused : Condition.compile hidingSource = .error hidingErrors := by
  have noted : (Scan.ofText hidingSource.toList).faults ++
      (chain (operand maximumDepth)
        (.start (Scan.ofText hidingSource.toList))).2.finished.reported.reverse =
      hidingErrors := by decide +kernel
  have ordered : SyntaxError.inOrder hidingErrors = hidingErrors := by
    simp [hidingErrors, SyntaxError.inOrder, List.mergeSort, Place.atMost]
  unfold Condition.compile Expression.parse
  dsimp only
  rw [noted, ordered]
  cases (chain (operand maximumDepth) (.start (Scan.ofText hidingSource.toList))).1 <;> rfl

/-- Fewer than three words are no comparison. -/
theorem not_comparison_of_short {words : List Token} (short : words.length < 3) :
    ¬ IsComparison words := by
  rintro ⟨leaf, derived⟩
  cases derived with
  | comparison field operator literal name test named taken => simp at short

/-- The first member of a chain has its error, and the second one is the last that has any. -/
theorem compile_hiding_source :
    (Scan.ofText hidingSource.toList).faults = [] ∧
      Splits (Scan.ofText hidingSource.toList).finish (Scan.ofText hidingSource.toList).tokens
        [brokenMember, overlongMember, hiddenMember] ∧
      [brokenMember, overlongMember, hiddenMember].length ≤ 128 ∧
      Condition.compile hidingSource = .error hidingErrors ∧
      (∃ error ∈ hidingErrors, Within brokenMember error.place) ∧
      ∀ error ∈ hidingErrors, ∃ earlier ∈ [brokenMember, overlongMember],
        Within earlier error.place := by
  have faultless : (Scan.ofText hidingSource.toList).faults = [] := by decide +kernel
  obtain ⟨-, -, reached, hidden⟩ :=
    (compile_chain faultless hiding_splits (by decide)).imp_right fun errors =>
      errors hidingErrors hiding_refused
  exact ⟨faultless, hiding_splits, by decide, hiding_refused,
    reached [] brokenMember [overlongMember, hiddenMember] rfl (by simp)
      (not_comparison_of_short (by decide)),
    hidden [brokenMember] overlongMember [hiddenMember] rfl hiding_overlong⟩

/-- A member that is no comparison has no error within it where one before it has more words behind
a comparison. -/
theorem hidden_member_unblamed :
    (Scan.ofText hidingSource.toList).faults = [] ∧
      Splits (Scan.ofText hidingSource.toList).finish (Scan.ofText hidingSource.toList).tokens
        [brokenMember, overlongMember, hiddenMember] ∧
      ¬ IsComparison hiddenMember.words ∧
      Condition.compile hidingSource = .error hidingErrors ∧
      ∀ error ∈ hidingErrors, ¬ Within hiddenMember error.place := by
  have apart : ∀ error ∈ hidingErrors, error.place ≠ hiddenMember.ending ∧
      ∀ word ∈ hiddenMember.words, error.place ≠ word.place := by
    decide
  refine ⟨by decide +kernel, hiding_splits, not_comparison_of_short (by decide),
    hiding_refused, ?_⟩
  rintro error member (atEnd | ⟨word, inside, placed⟩)
  · exact (apart error member).1 atEnd
  · exact (apart error member).2 word inside placed

end RecordRules.Recovery
