import RecordRules.Proofs.Condition.Recognition

/-!
# Conditions that are too deep

Reading words that the grammar derives has one of two ends. Either they are read to their end as
their tree, and the tree keeps to the limit on the depth. Or reading is given up somewhere, with
one error more than before and nothing left ahead. So a text whose words derive a tree that is too
deep is refused with that error and no other.
-/

namespace RecordRules.DepthLimit

open Text Parsing Grammar Recognition

/-- Reading derived words in front of others ends with their tree, or is given up. -/
inductive Settled (cursor : Cursor) (rest : List Token) (tree : Expression) : Result → Prop
  | whole (within : tree.depth ≤ maximumDepth) :
      Settled cursor rest tree (some tree, { cursor with ahead := rest })
  | givenUp (place : Place) : Settled cursor rest tree (none, cursor.abandon place)

/-- Reading a phrase settles wherever its words are ahead. Links need as many rounds as words are
ahead and a tree on their left that keeps to the limit, and a chain is over only where no
connective follows. -/
def Settles (reader : Cursor → Result) (phrase : Phrase) (words : List Token)
    (tree : Expression) : Prop :=
  ∀ (cursor : Cursor) (rest : List Token), cursor.ahead = words ++ rest →
    cursor.tooDeep = false →
    match phrase with
    | .operand => Settled cursor rest tree (reader cursor)
    | .condition => Stops rest → Settled cursor rest tree (chain reader cursor)
    | .links left => left.depth ≤ maximumDepth → Stops rest → ∀ rounds,
        cursor.ahead.length ≤ rounds →
          Settled cursor rest tree (links reader rounds (some left) cursor)

/-- What was ahead before does not matter once reading has settled. -/
theorem settled_from (cursor : Cursor) (words : List Token) {rest : List Token}
    {tree : Expression} {result : Result}
    (settled : Settled { cursor with ahead := words } rest tree result) :
    Settled cursor rest tree result := by
  cases settled with
  | whole within => exact .whole within
  | givenUp place => exact .givenUp place

/-- Ending a group settles it if what it holds is settled: the closing parenthesis is read, unless
the group is one level too deep or was given up inside. -/
theorem settled_group {cursor : Cursor} {rest : List Token} {closing : Token} {inner : Expression}
    {result : Result} (place : Place) (closes : closing.kind = .closing)
    (shallow : cursor.tooDeep = false)
    (settled : Settled cursor (closing :: rest) inner result) :
    Settled cursor rest (.grouped inner) (group place result) := by
  cases settled with
  | whole within =>
    have closed : Cursor.close { cursor with ahead := closing :: rest } =
        { cursor with ahead := rest } := by
      simp [Cursor.close, Cursor.kind?, Cursor.advance, closes]
    simp only [group]
    rw [if_neg (by simp [shallow]), closed]
    split
    · exact .givenUp place
    · rename_i deep
      exact .whole (Nat.le_of_not_lt deep)
  | givenUp inside => exact .givenUp inside

/-- An operand in parentheses settles if the condition in them does, and at once if no parenthesis
may be opened. -/
theorem settles_group {opening closing : Token} {inside : List Token} {inner : Expression}
    (opens : opening.kind = .opening) (closes : closing.kind = .closing)
    (settles : ∀ allowance, Settles (operand allowance) .condition inside inner)
    (allowance : Nat) :
    Settles (operand allowance) .operand (opening :: inside ++ [closing]) (.grouped inner) := by
  intro cursor rest ahead shallow
  obtain ⟨kind, text, place⟩ := opening
  obtain rfl : kind = .opening := opens
  have behind : cursor.advance.ahead = inside ++ closing :: rest := by
    simp [Cursor.advance, ahead]
  have stops : Stops (closing :: rest) := stops_cons (by simp [closes])
  unfold operand
  simp only [ahead, List.cons_append]
  cases allowance with
  | zero => exact .givenUp place
  | succ allowance =>
    have settled := settles allowance cursor.advance (closing :: rest) behind shallow stops
    exact settled_from cursor cursor.ahead.tail (settled_group place closes shallow settled)

/-- A chain settles if its first operand does and the links behind it do. -/
theorem settles_chain {reader : Cursor → Result} {words more : List Token}
    {first whole : Expression} (start : Settles reader .operand words first)
    (chained : Settles reader (.links first) more whole) :
    Settles reader .condition (words ++ more) whole := by
  intro cursor rest ahead shallow stops
  have settled := start cursor (more ++ rest) (by rw [ahead, List.append_assoc]) shallow
  simp only [chain]
  generalize reader cursor = result at settled
  cases settled with
  | whole within =>
    exact settled_from cursor (more ++ rest) (chained { cursor with ahead := more ++ rest } rest
      rfl shallow within stops (more ++ rest).length (Nat.le_refl _))
  | givenUp place => exact .givenUp place

/-- A link settles if its operand does and the links behind it do. -/
theorem settles_link {reader : Cursor → Result} {joint : Token} {connective : Connective}
    {words more : List Token} {left right whole : Expression}
    (joins : joint.kind = .connective connective)
    (operand : Settles reader .operand words right)
    (chained : Settles reader (.links (.joined connective left right)) more whole) :
    Settles reader (.links left) (joint :: words ++ more) whole := by
  intro cursor rest ahead shallow within stops rounds enough
  obtain ⟨kind, text, place⟩ := joint
  obtain rfl : kind = .connective connective := joins
  have behind : cursor.advance.ahead = words ++ (more ++ rest) := by
    simp [Cursor.advance, ahead]
  have settled := operand cursor.advance (more ++ rest) behind shallow
  cases rounds with
  | zero => simp [ahead] at enough
  | succ rounds =>
    have fewer : (more ++ rest).length ≤ rounds := by
      simp only [ahead, List.cons_append, List.length_cons, List.length_append] at enough
      simp only [List.length_append]
      omega
    rw [links]
    simp only [ahead, List.cons_append]
    generalize reader cursor.advance = result at settled
    cases settled with
    | givenUp place =>
      dsimp only
      rw [links_stop stops_nil]
      exact .givenUp place
    | whole rightWithin =>
      dsimp only
      split
      · exact .givenUp place
      · rename_i deep
        exact settled_from cursor (more ++ rest) (chained { cursor with ahead := more ++ rest } rest
          rfl shallow (Nat.le_of_not_lt deep) stops rounds fewer)

/-- Reading settles wherever derived words are ahead, however many parentheses may be opened.

The induction is on the derivation. Giving up leaves nothing ahead, so it is passed on unchanged
by every phrase around it. -/
theorem settles_derived {phrase : Phrase} {words : List Token} {tree : Expression}
    (derived : Derives phrase words tree) (allowance : Nat) :
    Settles (operand allowance) phrase words tree := by
  induction derived generalizing allowance with
  | comparison field operator literal name test named taken =>
    intro cursor rest ahead shallow
    have read := operand_reads_comparison allowance named taken cursor rest ahead shallow
    dsimp only at read ⊢
    rw [read]
    exact .whole (by simp [Expression.depth, maximumDepth])
  | grouped opening closing inside inner opens closes derived inductionHypothesis =>
    exact settles_group opens closes inductionHypothesis allowance
  | condition words more first whole start chained startHypothesis chainedHypothesis =>
    exact settles_chain (startHypothesis allowance) (chainedHypothesis allowance)
  | finished left =>
    intro cursor rest ahead shallow within stops rounds enough
    obtain rfl : cursor.ahead = rest := ahead
    rw [links_stop stops]
    exact .whole within
  | link joint connective words more left right whole joins operand chained operandHypothesis
      chainedHypothesis =>
    exact settles_link joins (operandHypothesis allowance) (chainedHypothesis allowance)

/-- A text without a stretch that is no word, whose words derive a tree that is too deep, is refused
with one error, which says so. -/
theorem parse_too_deep {text : String} {tree : Expression}
    (faultless : (Scan.ofText text.toList).faults = [])
    (derived : Derives .condition (Scan.ofText text.toList).tokens tree)
    (deep : maximumDepth < tree.depth) :
    ∃ place, Expression.parse text = .error [⟨.nestedTooDeeply, place⟩] := by
  have settled := settles_derived derived maximumDepth (.start (Scan.ofText text.toList)) []
    (by simp [Cursor.start]) rfl stops_nil
  generalize read : chain (operand maximumDepth) (.start (Scan.ofText text.toList)) = result
    at settled
  cases settled with
  | whole within => omega
  | givenUp place =>
    refine ⟨place, ?_⟩
    unfold Expression.parse
    simp only [read]
    simp [Cursor.abandon, Cursor.finished, Cursor.report, Cursor.start, faultless,
      SyntaxError.inOrder]

end RecordRules.DepthLimit
