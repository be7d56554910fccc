import RecordRules.Condition.Parsing

/-!
# The grammar of conditions

A condition is an operand with any number of links behind it, each a connective and one more
operand. An operand is a comparison or a condition between parentheses. The two connectives share
one level, so the tree of a chain grows to the right end: every link joins all that stands before
it to one operand.

The grammar says nothing about errors, about limits or about how words are looked at. It fixes
which words belong to which tree. Each run of words has at most one tree, and the tree keeps the
fields and the literals of its words in their order.
-/

namespace RecordRules.Grammar

open Number

/-- The test that an operator makes with a literal. Order is asked of numbers only, occurrence of
texts only and membership of lists only; equality is asked of numbers and of texts. -/
inductive Takes : Token.Kind → Token.Kind → Test → Prop
  | greater (value : Binary64) : Takes .greater (.number value) (.numeric .greater value)
  | less (value : Binary64) : Takes .less (.number value) (.numeric .less value)
  | atLeast (value : Binary64) : Takes .atLeast (.number value) (.numeric .atLeast value)
  | atMost (value : Binary64) : Takes .atMost (.number value) (.numeric .atMost value)
  | equalNumber (value : Binary64) : Takes .equal (.number value) (.numeric .equal value)
  | notEqualNumber (value : Binary64) :
      Takes .notEqual (.number value) (.numeric .notEqual value)
  | equalText (content : String) : Takes .equal (.text content) (.text .equal content)
  | notEqualText (content : String) : Takes .notEqual (.text content) (.text .notEqual content)
  | contains (content : String) : Takes .contains (.text content) (.text .contains content)
  | excludes (content : String) : Takes .excludes (.text content) (.text .excludes content)
  | among (literal : String) : Takes .among (.list literal) (.list .among literal)
  | notAmong (literal : String) : Takes .notAmong (.list literal) (.list .notAmong literal)

/-- What a run of words is read as: one operand, a whole condition, or the links of a chain whose
tree so far stands on their left. -/
inductive Phrase
  | operand
  | condition
  | links (left : Expression)

/-- A run of words is a phrase with this tree. -/
inductive Derives : Phrase → List Token → Expression → Prop
  | comparison (field operator literal : Token) (name : String) (test : Test)
      (named : field.kind = .field name) (taken : Takes operator.kind literal.kind test) :
      Derives .operand [field, operator, literal]
        (.comparison ⟨⟨name, field.place.column⟩, test⟩)
  | grouped (opening closing : Token) (inside : List Token) (inner : Expression)
      (opens : opening.kind = .opening) (closes : closing.kind = .closing)
      (derived : Derives .condition inside inner) :
      Derives .operand (opening :: inside ++ [closing]) (.grouped inner)
  | condition (words more : List Token) (first whole : Expression)
      (start : Derives .operand words first) (chained : Derives (.links first) more whole) :
      Derives .condition (words ++ more) whole
  | finished (left : Expression) : Derives (.links left) [] left
  | link (joint : Token) (connective : Connective) (words more : List Token)
      (left right whole : Expression) (joins : joint.kind = .connective connective)
      (operand : Derives .operand words right)
      (chained : Derives (.links (.joined connective left right)) more whole) :
      Derives (.links left) (joint :: words ++ more) whole

/-- An operator and a literal make at most one test. -/
theorem takes_unique {operator literal : Token.Kind} {test other : Test}
    (taken : Takes operator literal test) (alternative : Takes operator literal other) :
    test = other := by
  cases taken <;> cases alternative <;> rfl

/-- No connective stands first, so a chain of operands ends here. -/
def Stops (rest : List Token) : Prop :=
  ∀ token ∈ rest.head?, ∀ connective, token.kind ≠ .connective connective

/-- Nothing stands behind the last word, in particular no connective. -/
theorem stops_nil : Stops [] := by
  intro token member
  cases member

/-- A chain does not go on with a word that is no connective. -/
theorem stops_cons {token : Token} {rest : List Token}
    (other : ∀ connective, token.kind ≠ .connective connective) : Stops (token :: rest) := by
  intro first member
  obtain rfl : token = first := Option.some.inj member
  exact other

/-- Of two derivations that begin at the same word, neither can go on where the other ends: an
operand is closed by its own words, and a chain ends where no connective follows.

The induction is on the first derivation. Its tree so far is an index of `Phrase.links`, so both
chains carry the same tree on their left when their next links are compared. -/
theorem derives_same {phrase : Phrase} {words others rest behind : List Token}
    {tree other : Expression} (derived : Derives phrase words tree)
    (alternative : Derives phrase others other)
    (ends : phrase ≠ .operand → Stops rest ∧ Stops behind)
    (same : words ++ rest = others ++ behind) : words = others ∧ tree = other := by
  induction derived generalizing others other rest behind with
  | comparison field operator literal name test named taken =>
    cases alternative with
    | comparison field' operator' literal' name' test' named' taken' =>
      simp only [List.cons_append, List.nil_append, List.cons.injEq] at same
      obtain ⟨rfl, rfl, rfl, _⟩ := same
      obtain rfl : name = name' := Token.Kind.field.inj (named.symm.trans named')
      obtain rfl : test = test' := takes_unique taken taken'
      exact ⟨rfl, rfl⟩
    | grouped opening closing inside inner opens closes inside' =>
      simp only [List.cons_append, List.cons.injEq] at same
      rw [same.1, opens] at named
      cases named
  | grouped opening closing inside inner opens closes within inductionHypothesis =>
    cases alternative with
    | comparison field operator literal name test named taken =>
      simp only [List.cons_append, List.cons.injEq] at same
      rw [← same.1, opens] at named
      cases named
    | grouped opening' closing' inside' inner' opens' closes' within' =>
      simp only [List.cons_append, List.append_assoc, List.nil_append, List.cons.injEq] at same
      obtain ⟨rfl, same⟩ := same
      have closed : ∀ {token : Token} {tail : List Token}, token.kind = .closing →
          Stops (token :: tail) := by
        intro token tail isClosing
        exact stops_cons (by simp [isClosing])
      obtain ⟨rfl, rfl⟩ :=
        inductionHypothesis within' (fun _ => ⟨closed closes, closed closes'⟩) same
      obtain rfl : closing = closing' := (List.cons.inj (List.append_cancel_left same)).1
      exact ⟨rfl, rfl⟩
  | condition words more first whole start chained startHypothesis chainedHypothesis =>
    cases alternative with
    | condition words' more' first' whole' start' chained' =>
      simp only [List.append_assoc] at same
      obtain ⟨rfl, rfl⟩ := startHypothesis start' (fun impossible => absurd rfl impossible) same
      obtain ⟨rfl, rfl⟩ :=
        chainedHypothesis chained' (fun _ => ends (by simp)) (List.append_cancel_left same)
      exact ⟨rfl, rfl⟩
  | finished left =>
    cases alternative with
    | finished => exact ⟨rfl, rfl⟩
    | link joint connective words more left right whole joins operand chained =>
      have stopped : Stops rest := (ends (by simp)).1
      rw [List.nil_append] at same
      subst same
      exact absurd joins (stopped joint rfl connective)
  | link joint connective words more left right whole joins operand chained operandHypothesis
      chainedHypothesis =>
    cases alternative with
    | finished =>
      have stopped : Stops behind := (ends (by simp)).2
      rw [List.nil_append] at same
      subst same
      exact absurd joins (stopped joint rfl connective)
    | link joint' connective' words' more' left' right' whole' joins' operand' chained' =>
      simp only [List.cons_append, List.append_assoc, List.cons.injEq] at same
      obtain ⟨rfl, same⟩ := same
      obtain rfl : connective = connective' :=
        Token.Kind.connective.inj (joins.symm.trans joins')
      obtain ⟨rfl, rfl⟩ :=
        operandHypothesis operand' (fun impossible => absurd rfl impossible) same
      obtain ⟨rfl, rfl⟩ :=
        chainedHypothesis chained' (fun _ => ends (by simp)) (List.append_cancel_left same)
      exact ⟨rfl, rfl⟩

/-- Words have at most one tree as a condition. -/
theorem derives_unique {words : List Token} {tree other : Expression}
    (derived : Derives .condition words tree) (alternative : Derives .condition words other) :
    tree = other :=
  (derives_same derived alternative (fun _ => ⟨stops_nil, stops_nil⟩) rfl).2

/-- The comparisons that a phrase has before its own words. -/
def Phrase.before : Phrase → List Comparison
  | links left => left.comparisons
  | _ => []

/-- What is picked from words one by one comes in the order of the comparisons, if each comparison
gives one thing that its three words give together and the words between comparisons give none. -/
theorem derives_picked {β : Type} {phrase : Phrase} {words : List Token} {tree : Expression}
    (pick : Token → Option β) (give : Comparison → β)
    (compared : ∀ (field operator literal : Token) (name : String) (test : Test),
      field.kind = .field name → Takes operator.kind literal.kind test →
        [field, operator, literal].filterMap pick = [give ⟨⟨name, field.place.column⟩, test⟩])
    (opening : ∀ token : Token, token.kind = .opening → pick token = none)
    (closing : ∀ token : Token, token.kind = .closing → pick token = none)
    (connective : ∀ (token : Token) (joint : Connective), token.kind = .connective joint →
      pick token = none)
    (derived : Derives phrase words tree) :
    tree.comparisons.map give = phrase.before.map give ++ words.filterMap pick := by
  induction derived with
  | comparison field operator literal name test named taken =>
    rw [compared field operator literal name test named taken]
    rfl
  | grouped first last inside inner opens closes derived inductionHypothesis =>
    rw [Expression.comparisons, inductionHypothesis]
    simp [Phrase.before, opening first opens, closing last closes]
  | condition words more first whole start chained startHypothesis chainedHypothesis =>
    rw [chainedHypothesis, Phrase.before, startHypothesis]
    simp [Phrase.before]
  | finished left => simp [Phrase.before]
  | link joint joins words more left right whole joined operand chained operandHypothesis
      chainedHypothesis =>
    rw [chainedHypothesis, Phrase.before, Expression.comparisons, List.map_append,
      operandHypothesis]
    simp [Phrase.before, connective joint joins joined]

/-- The field that a word refers to, if it is one. -/
def fieldReference? (token : Token) : Option FieldReference :=
  match token.kind with
  | .field name => some ⟨name, token.place.column⟩
  | _ => none

/-- What a word stands for in a comparison, if it is a literal. -/
def literal? (token : Token) : Option Token.Kind :=
  match token.kind with
  | .number value => some (.number value)
  | .text content => some (.text content)
  | .list literal => some (.list literal)
  | _ => none

/-- The literal of a test, as a kind of word. -/
def literalOf : Test → Token.Kind
  | .numeric _ value => .number value
  | .text _ content => .text content
  | .list _ literal => .list literal

/-- The operator of a test, as a kind of word. -/
def operatorOf : Test → Token.Kind
  | .numeric .greater _ => .greater
  | .numeric .less _ => .less
  | .numeric .equal _ => .equal
  | .numeric .notEqual _ => .notEqual
  | .numeric .atLeast _ => .atLeast
  | .numeric .atMost _ => .atMost
  | .text .contains _ => .contains
  | .text .excludes _ => .excludes
  | .text .equal _ => .equal
  | .text .notEqual _ => .notEqual
  | .list .among _ => .among
  | .list .notAmong _ => .notAmong

/-- A test is made by its operator and its literal, and by nothing else. -/
theorem takes_iff {operator literal : Token.Kind} {test : Test} :
    Takes operator literal test ↔ operator = operatorOf test ∧ literal = literalOf test := by
  constructor
  · intro taken
    cases taken <;> exact ⟨rfl, rfl⟩
  · rintro ⟨rfl, rfl⟩
    cases test with
    | numeric operator value => cases operator <;> constructor
    | text operator content => cases operator <;> constructor
    | list operator literal => cases operator <;> constructor

/-- The words of a condition by their kinds, as they stand in a text from left to right. -/
def kinds : Expression → List Token.Kind
  | .comparison leaf => [.field leaf.field.name, operatorOf leaf.test, literalOf leaf.test]
  | .joined connective left right => kinds left ++ .connective connective :: kinds right
  | .grouped inner => .opening :: (kinds inner ++ [.closing])

/-- The words that a phrase has before its own. -/
def Phrase.kindsBefore : Phrase → List Token.Kind
  | links left => kinds left
  | _ => []

/-- A tree has the words that it is derived from, and no others. -/
theorem derives_kinds {phrase : Phrase} {words : List Token} {tree : Expression}
    (derived : Derives phrase words tree) :
    kinds tree = phrase.kindsBefore ++ words.map Token.kind := by
  induction derived with
  | comparison field operator literal name test named taken =>
    obtain ⟨isOperator, isLiteral⟩ := takes_iff.mp taken
    simp [kinds, Phrase.kindsBefore, named, isOperator, isLiteral]
  | grouped opening closing inside inner opens closes derived inductionHypothesis =>
    simp [kinds, inductionHypothesis, Phrase.kindsBefore, opens, closes]
  | condition words more first whole start chained startHypothesis chainedHypothesis =>
    rw [chainedHypothesis, Phrase.kindsBefore, startHypothesis]
    simp [Phrase.kindsBefore]
  | finished left => simp [Phrase.kindsBefore]
  | link joint connective words more left right whole joins operand chained operandHypothesis
      chainedHypothesis =>
    rw [chainedHypothesis, Phrase.kindsBefore, kinds, operandHypothesis]
    simp [Phrase.kindsBefore, joins]

/-- The comparisons of a condition have the fields of its words, in their order and with their
columns. -/
theorem derives_fields {words : List Token} {tree : Expression}
    (derived : Derives .condition words tree) :
    tree.comparisons.map Comparison.field = words.filterMap fieldReference? := by
  refine derives_picked fieldReference? Comparison.field ?_ ?_ ?_ ?_ derived
  · intro field operator literal name test named taken
    have silent : fieldReference? operator = none ∧ fieldReference? literal = none := by
      unfold fieldReference?
      generalize operator.kind = first at taken
      generalize literal.kind = second at taken
      cases taken <;> exact ⟨rfl, rfl⟩
    have referred : fieldReference? field = some ⟨name, field.place.column⟩ := by
      simp [fieldReference?, named]
    simp [List.filterMap, referred, silent]
  all_goals simp +contextual [fieldReference?]

/-- The comparisons of a condition have the literals of its words, in their order. -/
theorem derives_literals {words : List Token} {tree : Expression}
    (derived : Derives .condition words tree) :
    tree.comparisons.map (fun leaf => literalOf leaf.test) = words.filterMap literal? := by
  refine derives_picked literal? (fun leaf => literalOf leaf.test) ?_ ?_ ?_ ?_ derived
  · intro field operator literal name test named taken
    have given : literal? operator = none ∧ literal? literal = some (literalOf test) := by
      unfold literal?
      generalize operator.kind = first at taken
      generalize literal.kind = second at taken
      cases taken <;> exact ⟨rfl, rfl⟩
    have nothing : literal? field = none := by simp [literal?, named]
    simp [List.filterMap, nothing, given]
  all_goals simp +contextual [literal?]

/-- Every tree is at least one deep. -/
theorem depth_pos (tree : Expression) : 0 < tree.depth := by
  cases tree <;> simp [Expression.depth]

/-- A chain is at least as deep as each tree that it passes through. -/
theorem derives_links_depth {left tree : Expression} {words : List Token}
    (derived : Derives (.links left) words tree) : left.depth ≤ tree.depth := by
  generalize same : Phrase.links left = phrase at derived
  induction derived generalizing left with
  | finished whole =>
    obtain rfl := Phrase.links.inj same
    exact Nat.le_refl _
  | link joint connective words more before right whole joins operand chained operandHypothesis
      chainedHypothesis =>
    obtain rfl := Phrase.links.inj same
    have further := chainedHypothesis rfl
    simp only [Expression.depth] at further
    omega
  | comparison | grouped | condition => cases same

end RecordRules.Grammar
