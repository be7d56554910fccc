import RecordRules.Proofs.Condition.Grammar
import RecordRules.Proofs.Condition.Progress

/-!
# Which texts are conditions

Reading agrees with the grammar. A tree that is read without a new error is derived from the words
that were read, and it keeps to the limit on the depth. In the other direction, words that the
grammar derives are read to their end as their tree, without an error, if the tree keeps to the
limit; the number of parentheses that may be opened never refuses such a tree. So a text is a
condition exactly if it has no stretch that is no word and its words derive a tree within the
limit.

Neither direction says which errors a text has that is no condition.
-/

namespace RecordRules.Recognition

open Text Parsing Grammar Progress

/-- The test that is looked up for an operator and a literal is the one they make. -/
theorem test_iff {operator literal : Token.Kind} {test : Test} :
    operator.test? literal = some test ↔ Takes operator literal test := by
  constructor
  · intro found
    cases operator <;> cases literal <;>
      simp only [Token.Kind.test?, Option.some.injEq, reduceCtorEq] at found
    all_goals
      subst found
      constructor
  · intro taken
    cases taken <;> rfl

/-- An operator that makes a test is known to be one before its literal is looked at. -/
theorem literal_of_takes {operator literal : Token.Kind} {test : Test}
    (taken : Takes operator literal test) : ∃ expected, operator.literal? = some expected := by
  cases taken <;> exact ⟨_, rfl⟩

/-- A comparison that is read has an operator and a literal ahead that make its test. -/
theorem comparison_sound {field : FieldReference} {cursor behind : Cursor} {tree : Expression}
    (read : comparison field cursor = (some tree, behind)) :
    ∃ operator literal test, cursor.ahead = operator :: literal :: behind.ahead ∧
      Takes operator.kind literal.kind test ∧ tree = .comparison ⟨field, test⟩ := by
  unfold comparison at read
  split at read
  · simp at read
  · rename_i operator rest ahead
    split at read
    · simp at read
    · dsimp only at read
      split at read
      · rename_i test found
        obtain ⟨kind, next, tested⟩ := Option.bind_eq_some_iff.mp found
        have first : ∃ literal tail, rest = literal :: tail ∧ literal.kind = kind := by
          simp only [Cursor.kind?, Cursor.advance, ahead, List.tail_cons] at next
          cases rest with
          | nil => simp at next
          | cons literal tail => exact ⟨literal, tail, rfl, by simpa using next⟩
        obtain ⟨literal, tail, rfl, rfl⟩ := first
        simp only [Prod.mk.injEq, Option.some.injEq] at read
        obtain ⟨rfl, rfl⟩ := read
        exact ⟨operator, literal, test, by simp [Cursor.advance, ahead], test_iff.mp tested, rfl⟩
      · simp at read

/-- An operator and a literal that make a test are read as a comparison. -/
theorem comparison_reads {field : FieldReference} {cursor : Cursor} {operator literal : Token}
    {rest : List Token} {test : Test} (ahead : cursor.ahead = operator :: literal :: rest)
    (taken : Takes operator.kind literal.kind test) :
    comparison field cursor =
      (some (.comparison ⟨field, test⟩), { cursor with ahead := rest }) := by
  obtain ⟨expected, known⟩ := literal_of_takes taken
  have looked : Option.bind (cursor.advance).kind? operator.kind.test? = some test := by
    simp [Cursor.kind?, Cursor.advance, ahead, test_iff.mpr taken]
  unfold comparison
  simp only [ahead, known, looked]
  simp [Cursor.advance, ahead]

/-- A chain that has lost its tree to an error does not find another. -/
theorem links_none (reader : Cursor → Result) (rounds : Nat) (cursor : Cursor) :
    (links reader rounds none cursor).1 = none := by
  induction rounds generalizing cursor with
  | zero => rfl
  | succ rounds inductionHypothesis =>
    rw [links]
    split
    · exact inductionHypothesis _
    · rfl

/-- A reader of operands returns only what the grammar derives, as long as it notes no error. -/
def Sound (reader : Cursor → Result) : Prop :=
  ∀ cursor behind tree, reader cursor = (some tree, behind) →
    behind.reported = cursor.reported →
    ∃ words, cursor.ahead = words ++ behind.ahead ∧ Derives .operand words tree ∧
      tree.depth ≤ maximumDepth

/-- Links that are read without a new error are derived, and their trees keep to the limit. -/
theorem links_sound {reader : Cursor → Result} (sound : Sound reader)
    (leads : ∀ cursor, Leads cursor (reader cursor).2) (rounds : Nat) (left tree : Expression)
    (cursor behind : Cursor) (within : left.depth ≤ maximumDepth)
    (read : links reader rounds (some left) cursor = (some tree, behind))
    (silent : behind.reported = cursor.reported) :
    ∃ words, cursor.ahead = words ++ behind.ahead ∧ Derives (.links left) words tree ∧
      tree.depth ≤ maximumDepth := by
  induction rounds generalizing left cursor with
  | zero =>
    simp only [links, Prod.mk.injEq, Option.some.injEq] at read
    obtain ⟨rfl, rfl⟩ := read
    exact ⟨[], rfl, .finished left, within⟩
  | succ rounds inductionHypothesis =>
    rw [links] at read
    split at read
    · rename_i connective text place rest ahead
      dsimp only at read
      split at read
      · rename_i joinedLeft right same found
        obtain rfl := Option.some.inj same
        split at read
        · simp at read
        · rename_i deep
          have far : Leads (reader cursor.advance).2 behind := by
            have led := leads_links leads rounds (some (.joined connective left right))
              (reader cursor.advance).2
            rwa [read] at led
          obtain ⟨quiet, later⟩ := reported_between (leads cursor.advance) far silent
          obtain ⟨words, split, derived, _⟩ :=
            sound cursor.advance (reader cursor.advance).2 right
              (Prod.ext found rfl) quiet
          obtain ⟨more, splitMore, chained, bounded⟩ :=
            inductionHypothesis _ _ (Nat.le_of_not_lt deep) read later
          refine ⟨⟨.connective connective, text, place⟩ :: words ++ more, ?_, ?_, bounded⟩
          · have behindJoint : rest = words ++ (more ++ behind.ahead) := by
              rw [← splitMore, ← split, Cursor.advance, ahead, List.tail_cons]
            rw [ahead, behindJoint, List.cons_append, List.cons_append, List.append_assoc]
          · exact .link _ connective words more left right tree rfl derived chained
      · have lost := links_none reader rounds (reader cursor.advance).2
        rw [read] at lost
        cases lost
    · simp only [Prod.mk.injEq, Option.some.injEq] at read
      obtain ⟨rfl, rfl⟩ := read
      exact ⟨[], rfl, .finished left, within⟩

/-- A chain that is read without a new error is a condition within the limit. -/
theorem chain_sound {reader : Cursor → Result} (sound : Sound reader)
    (leads : ∀ cursor, Leads cursor (reader cursor).2) (cursor behind : Cursor)
    (tree : Expression) (read : chain reader cursor = (some tree, behind))
    (silent : behind.reported = cursor.reported) :
    ∃ words, cursor.ahead = words ++ behind.ahead ∧ Derives .condition words tree ∧
      tree.depth ≤ maximumDepth := by
  have far : Leads (reader cursor).2 behind := by
    have led := leads_links leads (reader cursor).2.ahead.length (reader cursor).1
      (reader cursor).2
    have same : links reader (reader cursor).2.ahead.length (reader cursor).1
      (reader cursor).2 = (some tree, behind) := read
    rwa [same] at led
  obtain ⟨quiet, later⟩ := reported_between (leads cursor) far silent
  cases first : (reader cursor).1 with
  | none =>
    have lost := links_none reader (reader cursor).2.ahead.length (reader cursor).2
    have same : links reader (reader cursor).2.ahead.length none (reader cursor).2 =
        (some tree, behind) := first ▸ read
    rw [same] at lost
    cases lost
  | some start =>
    obtain ⟨words, split, derived, within⟩ :=
      sound cursor (reader cursor).2 start (Prod.ext first rfl) quiet
    have same : links reader (reader cursor).2.ahead.length (some start) (reader cursor).2 =
        (some tree, behind) := first ▸ read
    obtain ⟨more, splitMore, chained, bounded⟩ :=
      links_sound sound leads _ start tree _ behind within same later
    exact ⟨words ++ more, by rw [split, splitMore, List.append_assoc],
      .condition words more start tree derived chained, bounded⟩

/-- Where no closing parenthesis is missed, one is read. -/
theorem close_silent {cursor : Cursor} (silent : cursor.close.reported = cursor.reported) :
    ∃ token, cursor.ahead = token :: cursor.close.ahead ∧ token.kind = .closing := by
  unfold Cursor.close at silent ⊢
  split at silent
  · rename_i closes
    rw [if_pos closes]
    cases ahead : cursor.ahead with
    | nil => simp [Cursor.kind?, ahead] at closes
    | cons token rest =>
      exact ⟨token, by simp [Cursor.advance, ahead], by simpa [Cursor.kind?, ahead] using closes⟩
  · simp [Cursor.report] at silent

/-- A group that is read has a tree inside that leaves room for one more level. -/
theorem group_sound {place : Place} {inner : Result} {tree : Expression} {behind : Cursor}
    (read : group place inner = (some tree, behind)) :
    ∃ inside, inner.1 = some inside ∧ tree = .grouped inside ∧ behind = inner.2.close ∧
      tree.depth ≤ maximumDepth := by
  obtain ⟨found, cursor⟩ := inner
  simp only [group] at read
  split at read
  · simp at read
  · split at read
    · simp at read
    · rename_i inside
      split at read
      · simp at read
      · rename_i deep
        simp only [Prod.mk.injEq, Option.some.injEq] at read
        obtain ⟨rfl, rfl⟩ := read
        exact ⟨inside, rfl, rfl, rfl, Nat.le_of_not_lt deep⟩

/-- An operand that starts with a field is read as the grammar derives it. -/
theorem field_sound {cursor behind : Cursor} {token : Token} {rest : List Token} {name : String}
    {tree : Expression} (ahead : cursor.ahead = token :: rest) (named : token.kind = .field name)
    (read : comparison ⟨name, token.place.column⟩ cursor.advance = (some tree, behind)) :
    ∃ words, cursor.ahead = words ++ behind.ahead ∧ Derives .operand words tree ∧
      tree.depth ≤ maximumDepth := by
  obtain ⟨operator, literal, test, tail, taken, rfl⟩ := comparison_sound read
  refine ⟨[token, operator, literal], ?_,
    .comparison token operator literal name test named taken, ?_⟩
  · have behindField : rest = operator :: literal :: behind.ahead := by
      rw [← tail, Cursor.advance, ahead, List.tail_cons]
    rw [ahead, behindField]
    rfl
  · simp [Expression.depth, maximumDepth]

/-- Operands are read as the grammar derives them, as long as no error is noted. -/
theorem operand_sound (allowance : Nat) : Sound (operand allowance) := by
  induction allowance with
  | zero =>
    intro cursor behind tree read silent
    unfold operand at read
    split at read
    · simp at read
    · rename_i name text place rest ahead
      exact field_sound ahead rfl read
    · simp at read
  | succ allowance inductionHypothesis =>
    intro cursor behind tree read silent
    unfold operand at read
    split at read
    · rename_i text place rest ahead
      obtain ⟨inside, found, rfl, rfl, within⟩ := group_sound read
      have entered : Leads cursor (chain (operand allowance) cursor.advance).2 :=
        leads_trans (leads_advance cursor) (leads_chain (leads_operand allowance) _)
      obtain ⟨quiet, later⟩ := reported_between entered (leads_close _) silent
      obtain ⟨words, split, derived, _⟩ :=
        chain_sound inductionHypothesis (leads_operand allowance) cursor.advance
          (chain (operand allowance) cursor.advance).2 inside (Prod.ext found rfl) quiet
      obtain ⟨closing, tail, closes⟩ := close_silent later
      refine ⟨⟨.opening, text, place⟩ :: words ++ [closing], ?_,
        .grouped _ closing words inside rfl closes derived, within⟩
      have behindOpening : rest = words ++ (closing ::
          (chain (operand allowance) cursor.advance).2.close.ahead) := by
        rw [← tail, ← split, Cursor.advance, ahead, List.tail_cons]
      rw [ahead, behindOpening]
      simp
    · rename_i name text place rest ahead
      exact field_sound ahead rfl read
    · simp at read

/-- Where no connective is ahead, a chain is over, however many rounds are left. -/
theorem links_stop {reader : Cursor → Result} {rounds : Nat} {left : Option Expression}
    {cursor : Cursor} (stops : Stops cursor.ahead) :
    links reader rounds left cursor = (left, cursor) := by
  cases rounds with
  | zero => rfl
  | succ rounds =>
    rw [links]
    split
    · rename_i connective text place rest ahead
      rw [ahead] at stops
      exact absurd rfl (stops _ rfl connective)
    · rfl

/-- What reading a phrase does where the grammar derives it: the words are read to their end as
their tree, and nothing else about the cursor changes. Links need as many rounds as words are
ahead, and a chain is over only where no connective follows. -/
def Reads (reader : Cursor → Result) (phrase : Phrase) (words : List Token)
    (tree : Expression) : Prop :=
  ∀ (cursor : Cursor) (rest : List Token), cursor.ahead = words ++ rest →
    cursor.tooDeep = false →
    match phrase with
    | .operand => reader cursor = (some tree, { cursor with ahead := rest })
    | .condition => Stops rest → chain reader cursor = (some tree, { cursor with ahead := rest })
    | .links left => Stops rest → ∀ rounds, cursor.ahead.length ≤ rounds →
        links reader rounds (some left) cursor = (some tree, { cursor with ahead := rest })

/-- A comparison is read, however many parentheses may be opened. -/
theorem operand_reads_comparison (allowance : Nat) {field operator literal : Token}
    {name : String} {test : Test} (named : field.kind = .field name)
    (taken : Takes operator.kind literal.kind test) :
    Reads (operand allowance) .operand [field, operator, literal]
      (.comparison ⟨⟨name, field.place.column⟩, test⟩) := by
  intro cursor rest ahead _
  obtain ⟨kind, text, place⟩ := field
  obtain rfl : kind = .field name := named
  have behind : cursor.advance.ahead = operator :: literal :: rest := by
    simp [Cursor.advance, ahead]
  unfold operand
  simp only [ahead, List.cons_append]
  exact comparison_reads behind taken

/-- A group is read if the condition in it is, with one parenthesis less to open. -/
theorem operand_reads_group {allowance : Nat} {opening closing : Token} {inside : List Token}
    {inner : Expression} (opens : opening.kind = .opening) (closes : closing.kind = .closing)
    (within : (Expression.grouped inner).depth ≤ maximumDepth)
    (reads : Reads (operand allowance) .condition inside inner) :
    Reads (operand (allowance + 1)) .operand (opening :: inside ++ [closing])
      (.grouped inner) := by
  intro cursor rest ahead shallow
  obtain ⟨kind, text, place⟩ := opening
  obtain rfl : kind = .opening := opens
  have behind : cursor.advance.ahead = inside ++ closing :: rest := by
    simp [Cursor.advance, ahead]
  have stops : Stops (closing :: rest) := stops_cons (by simp [closes])
  have read := reads cursor.advance (closing :: rest) behind shallow stops
  unfold operand
  simp only [ahead, List.cons_append, read, group]
  rw [if_neg (by simp [Cursor.advance, shallow]), if_neg (Nat.not_lt.mpr within)]
  simp [Cursor.close, Cursor.kind?, Cursor.advance, closes]

/-- A link is read if its operand is and the links behind it are. -/
theorem links_reads_link {reader : Cursor → Result} {joint : Token} {connective : Connective}
    {words more : List Token} {left right whole : Expression}
    (joins : joint.kind = .connective connective)
    (within : (Expression.joined connective left right).depth ≤ maximumDepth)
    (operand : Reads reader .operand words right)
    (chained : Reads reader (.links (.joined connective left right)) more whole) :
    Reads reader (.links left) (joint :: words ++ more) whole := by
  intro cursor rest ahead shallow stops rounds enough
  obtain ⟨kind, text, place⟩ := joint
  obtain rfl : kind = .connective connective := joins
  have behind : cursor.advance.ahead = words ++ (more ++ rest) := by
    simp [Cursor.advance, ahead]
  have read := operand cursor.advance (more ++ rest) behind shallow
  cases rounds with
  | zero => simp [ahead] at enough
  | succ rounds =>
    have fewer : (more ++ rest).length ≤ rounds := by
      simp only [ahead, List.cons_append, List.length_cons, List.length_append] at enough
      simp only [List.length_append]
      omega
    have later := chained { cursor.advance with ahead := more ++ rest } rest rfl shallow stops
      rounds fewer
    rw [links]
    simp only [ahead, List.cons_append, read]
    rw [if_neg (Nat.not_lt.mpr within)]
    exact later

/-- Derived words are read as their tree, if the tree keeps to the limit and to the parentheses
that may still be opened. A comparison is one deep without a parenthesis, so a tree may be one
deeper than there are parentheses to open.

The induction is on the derivation. The number of parentheses changes only inside a group, where
the tree is one less deep too. -/
theorem derived_reads {phrase : Phrase} {words : List Token} {tree : Expression}
    (derived : Derives phrase words tree) (allowance : Nat)
    (within : tree.depth ≤ maximumDepth) (allowed : tree.depth ≤ allowance + 1) :
    Reads (operand allowance) phrase words tree := by
  induction derived generalizing allowance with
  | comparison field operator literal name test named taken =>
    exact operand_reads_comparison allowance named taken
  | grouped opening closing inside inner opens closes derived inductionHypothesis =>
    have deeper : inner.depth + 1 ≤ allowance + 1 := allowed
    have positive : 0 < inner.depth := depth_pos inner
    cases allowance with
    | zero => omega
    | succ allowance =>
      have innerWithin : inner.depth ≤ maximumDepth := Nat.le_of_succ_le within
      exact operand_reads_group opens closes within
        (inductionHypothesis allowance innerWithin (by omega))
  | condition words more first whole start chained startHypothesis chainedHypothesis =>
    have shallower : first.depth ≤ whole.depth := derives_links_depth chained
    intro cursor rest ahead shallow stops
    have read := startHypothesis allowance (by omega) (by omega) cursor (more ++ rest)
      (by rw [ahead, List.append_assoc]) shallow
    have later := chainedHypothesis allowance within allowed
      { cursor with ahead := more ++ rest } rest rfl shallow stops (more ++ rest).length
      (Nat.le_refl _)
    simp only [chain, read]
    exact later
  | finished left =>
    intro cursor rest ahead shallow stops rounds enough
    obtain rfl : cursor.ahead = rest := ahead
    exact links_stop stops
  | link joint connective words more left right whole joins operand chained operandHypothesis
      chainedHypothesis =>
    have shallower : (Expression.joined connective left right).depth ≤ whole.depth :=
      derives_links_depth chained
    have smaller : right.depth ≤ (Expression.joined connective left right).depth := by
      simp only [Expression.depth]
      omega
    exact links_reads_link joins (by omega) (operandHypothesis allowance (by omega) (by omega))
      (chainedHypothesis allowance within allowed)

/-- Putting errors in order loses none. -/
theorem in_order_nil (errors : List SyntaxError) :
    SyntaxError.inOrder errors = [] ↔ errors = [] := by
  rw [← List.length_eq_zero_iff, ← List.length_eq_zero_iff]
  simp [SyntaxError.inOrder]

/-- A text is a condition if every stretch of it is a word, the words are read as a tree, and
neither reading them nor looking for the end of the text notes an error. -/
theorem parse_iff (text : String) (tree : Expression) :
    Expression.parse text = .ok tree ↔
      (Scan.ofText text.toList).faults = [] ∧
        ∃ behind, chain (operand maximumDepth) (.start (Scan.ofText text.toList)) =
          (some tree, behind) ∧ behind.finished.reported = [] := by
  unfold Expression.parse
  rcases read : chain (operand maximumDepth) (.start (Scan.ofText text.toList)) with
    ⟨root, behind⟩
  have order := in_order_nil
    ((Scan.ofText text.toList).faults ++ behind.finished.reported.reverse)
  rw [List.append_eq_nil_iff, List.reverse_eq_nil_iff] at order
  simp only [read]
  constructor
  · intro accepted
    split at accepted
    · rename_i silent
      obtain rfl := Except.ok.inj accepted
      obtain ⟨faultless, quiet⟩ := order.mp silent
      exact ⟨faultless, behind, rfl, quiet⟩
    · cases accepted
  · rintro ⟨faultless, _, same, quiet⟩
    obtain ⟨rfl, rfl⟩ := Prod.mk.inj same
    rw [order.mpr ⟨faultless, quiet⟩]

/-- Nothing was noted at the end of a text only if no word was left and no error noted before. -/
theorem finished_silent {cursor : Cursor} :
    cursor.finished.reported = [] ↔ cursor.ahead = [] ∧ cursor.reported = [] := by
  unfold Cursor.finished
  split
  · rename_i ahead
    simp [ahead]
  · rename_i token rest ahead
    simp [Cursor.report, ahead]

/-- Reading all words of a text as a tree without an error is deriving them as that tree within
the limit. -/
theorem chain_iff_derives (scan : Scan) (tree : Expression) :
    (∃ behind, chain (operand maximumDepth) (.start scan) = (some tree, behind) ∧
        behind.finished.reported = []) ↔
      Derives .condition scan.tokens tree ∧ tree.depth ≤ maximumDepth := by
  constructor
  · rintro ⟨behind, read, quiet⟩
    obtain ⟨nothing, silent⟩ := finished_silent.mp quiet
    obtain ⟨words, split, derived, within⟩ := chain_sound (operand_sound maximumDepth)
      (leads_operand maximumDepth) (.start scan) behind tree read silent
    have whole : scan.tokens = words := by
      rw [nothing, List.append_nil] at split
      exact split
    exact ⟨whole ▸ derived, within⟩
  · rintro ⟨derived, within⟩
    have read := derived_reads derived maximumDepth within (Nat.le_succ_of_le within)
      (.start scan) [] (by simp [Cursor.start]) rfl stops_nil
    exact ⟨_, read, rfl⟩

/-- A text is read as a tree exactly if every stretch of it is a word, and its words derive the tree
within the limit. -/
theorem parse_iff_derives (text : String) (tree : Expression) :
    Expression.parse text = .ok tree ↔
      (Scan.ofText text.toList).faults = [] ∧
        Derives .condition (Scan.ofText text.toList).tokens tree ∧ tree.depth ≤ maximumDepth := by
  rw [parse_iff, chain_iff_derives]

/-- A text is read as a tree exactly if every stretch of it is a word, its words derive the tree,
and the tree is at most 128 deep. The words derive no other tree, however deep, and a tree that is
read has their fields with their columns and their literals, in their order.

Reading without a new error is deriving within the limit in both directions, and a text is read
without an error if neither its scan nor the reading of its words notes one. -/
theorem parse_exact (text : String) :
    (∀ tree, Expression.parse text = .ok tree ↔
      (Scan.ofText text.toList).faults = [] ∧
        Derives .condition (Scan.ofText text.toList).tokens tree ∧ tree.depth ≤ 128) ∧
    (∀ tree other, Derives .condition (Scan.ofText text.toList).tokens tree →
      Derives .condition (Scan.ofText text.toList).tokens other → tree = other) ∧
    (∀ tree, Expression.parse text = .ok tree →
      tree.comparisons.map Comparison.field =
          (Scan.ofText text.toList).tokens.filterMap fieldReference? ∧
        tree.comparisons.map (fun leaf => literalOf leaf.test) =
          (Scan.ofText text.toList).tokens.filterMap literal? ∧
        tree.fields =
          ((Scan.ofText text.toList).tokens.filterMap fieldReference?).map
            FieldReference.name) := by
  have accepted : ∀ tree, Expression.parse text = .ok tree ↔
      (Scan.ofText text.toList).faults = [] ∧
        Derives .condition (Scan.ofText text.toList).tokens tree ∧ tree.depth ≤ 128 :=
    parse_iff_derives text
  refine ⟨accepted, fun tree other => derives_unique, ?_⟩
  intro tree read
  have derived : Derives .condition (Scan.ofText text.toList).tokens tree :=
    ((accepted tree).mp read).2.1
  refine ⟨derives_fields derived, derives_literals derived, ?_⟩
  rw [← derives_fields derived, List.map_map]
  rfl

end RecordRules.Recognition
