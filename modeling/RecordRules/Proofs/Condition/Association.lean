import RecordRules.Proofs.Condition.DepthLimit
import RecordRules.Proofs.Condition.NormalText

/-!
# Trees that were not read

A tree that is built need not have the shape of one that is read: a chain may lean to the right,
where every chain that is read leans to the left. Its normal text does not show which way it leans.
So the normal text of any tree, if its words can be written, reads as the tree whose chains are
spread out, in every group and outside of all, and joined again from the left. That tree may be
deeper than the one that was written, and is refused if it is too deep.

A tree is read as itself exactly if this tree is not too deep and no chain stands on the right of a
connective.
-/

namespace RecordRules.Association

open Number Text Lexeme Spelling Rendering Parsing Grammar Columns Recognition Writing NormalText
open DepthLimit

/-- A tree with the connective in front of it. -/
abbrev Link : Type := Connective × Expression

/-- A chain of operands, joined from the left. -/
def joinAll (first : Expression) (links : List Link) : Expression :=
  links.foldl (fun left link => .joined link.1 left link.2) first

/-- The first operand of a chain and the others with their connectives, in the order of the text.
What stands between parentheses is one operand, in which the chain is spread and joined again. -/
def spread : Expression → Expression × List Link
  | .comparison leaf => (.comparison leaf, [])
  | .joined connective left right =>
    ((spread left).1, (spread left).2 ++ (connective, (spread right).1) :: (spread right).2)
  | .grouped inner => (.grouped (joinAll (spread inner).1 (spread inner).2), [])

/-- A tree with all of its chains joined from the left. -/
def leftward (tree : Expression) : Expression := joinAll (spread tree).1 (spread tree).2

/-- Some words are links: a connective and an operand each. -/
inductive Linked : List Token → List Link → Prop
  | nil : Linked [] []
  | cons (joint : Token) (connective : Connective) (words more : List Token) (tree : Expression)
      (links : List Link) (joins : joint.kind = .connective connective)
      (operand : Derives .operand words tree) (later : Linked more links) :
      Linked (joint :: words ++ more) ((connective, tree) :: links)

/-- Links behind links are links. -/
theorem linked_append {words more : List Token} {links others : List Link}
    (linked : Linked words links) (later : Linked more others) :
    Linked (words ++ more) (links ++ others) := by
  induction linked with
  | nil => exact later
  | cons joint connective words behind tree links joins operand linked inductionHypothesis =>
    rw [List.append_assoc]
    exact .cons joint connective words _ tree _ joins operand inductionHypothesis

/-- Links behind any tree derive the chain that joins them to it. -/
theorem derives_linked {words : List Token} {links : List Link} (linked : Linked words links)
    (left : Expression) : Derives (.links left) words (joinAll left links) := by
  induction linked generalizing left with
  | nil => exact .finished left
  | cons joint connective words more tree links joins operand later inductionHypothesis =>
    exact .link joint connective words more left tree _ joins operand (inductionHypothesis _)

/-- A link without its columns. -/
def unplacedLink (link : Link) : Link := (link.1, unplaced link.2)

/-- A chain loses its columns with those of its operands. -/
theorem unplaced_join_all (first : Expression) (links : List Link) :
    unplaced (joinAll first links) = joinAll (unplaced first) (links.map unplacedLink) := by
  induction links generalizing first with
  | nil => rfl
  | cons link links inductionHypothesis => exact inductionHypothesis _

/-- Two chains that agree but for the columns of their operands agree but for columns. -/
theorem unplaced_chain {first other : Expression} {links others : List Link}
    (operand : unplaced first = unplaced other)
    (later : links.map unplacedLink = others.map unplacedLink) :
    unplaced (joinAll first links) = unplaced (joinAll other others) := by
  rw [unplaced_join_all, unplaced_join_all, operand, later]

/-- Words that agree in their kinds with those of a tree derive the operands that the tree spreads
to, but for columns. -/
theorem derives_spread (tree : Expression) (words : List Token)
    (same : words.map Token.kind = kinds tree) :
    ∃ start more first links, words = start ++ more ∧ Derives .operand start first ∧
      Linked more links ∧ unplaced first = unplaced (spread tree).1 ∧
      links.map unplacedLink = (spread tree).2.map unplacedLink := by
  induction tree generalizing words with
  | comparison leaf =>
    obtain ⟨field, rest, rfl, named, same⟩ := List.map_eq_cons_iff.mp same
    obtain ⟨operator, rest, rfl, isOperator, same⟩ := List.map_eq_cons_iff.mp same
    obtain ⟨literal, rest, rfl, isLiteral, same⟩ := List.map_eq_cons_iff.mp same
    obtain rfl := List.map_eq_nil_iff.mp same
    exact ⟨[field, operator, literal], [], _, [], rfl,
      .comparison field operator literal leaf.field.name leaf.test named
        (takes_iff.mpr ⟨isOperator, isLiteral⟩), .nil, rfl, rfl⟩
  | joined connective left right leftHypothesis rightHypothesis =>
    obtain ⟨before, rest, rfl, sameLeft, same⟩ := List.map_eq_append_iff.mp same
    obtain ⟨joint, behind, rfl, joins, sameRight⟩ := List.map_eq_cons_iff.mp same
    obtain ⟨start, more, first, links, rfl, operand, linked, agrees, agree⟩ :=
      leftHypothesis before sameLeft
    obtain ⟨start', more', first', links', rfl, operand', linked', agrees', agree'⟩ :=
      rightHypothesis behind sameRight
    refine ⟨start, more ++ (joint :: start' ++ more'), first,
      links ++ (connective, first') :: links', ?_, operand, ?_, agrees, ?_⟩
    · simp
    · exact linked_append linked (.cons joint connective start' more' first' links' joins operand'
        linked')
    · simp [spread, agree, agree', agrees', unplacedLink]
  | grouped inner inductionHypothesis =>
    obtain ⟨opening, rest, rfl, opens, same⟩ := List.map_eq_cons_iff.mp same
    obtain ⟨inside, last, rfl, sameInside, same⟩ := List.map_eq_append_iff.mp same
    obtain ⟨closing, rest, rfl, closes, same⟩ := List.map_eq_cons_iff.mp same
    obtain rfl := List.map_eq_nil_iff.mp same
    obtain ⟨start, more, first, links, rfl, operand, linked, agrees, agree⟩ :=
      inductionHypothesis inside sameInside
    have condition : Derives .condition (start ++ more) (joinAll first links) :=
      .condition start more first _ operand (derives_linked linked first)
    refine ⟨opening :: (start ++ more) ++ [closing], [], .grouped (joinAll first links), [],
      by simp, .grouped opening closing _ _ opens closes condition, .nil, ?_, rfl⟩
    simp only [spread, unplaced, unplaced_chain agrees agree]

/-- Words that agree in their kinds with those of a tree derive the tree with its chains joined
from the left, but for columns. -/
theorem derives_leftward {tree : Expression} {words : List Token}
    (same : words.map Token.kind = kinds tree) :
    ∃ again, Derives .condition words again ∧ unplaced again = unplaced (leftward tree) := by
  obtain ⟨start, more, first, links, rfl, operand, linked, agrees, agree⟩ :=
    derives_spread tree words same
  exact ⟨joinAll first links, .condition start more first _ operand (derives_linked linked first),
    unplaced_chain agrees agree⟩

/-- Whether a tree is a chain. -/
def isJoined : Expression → Bool
  | .joined _ _ _ => true
  | _ => false

/-- No chain stands on the right of a connective, here or in any group. -/
def LeansLeft : Expression → Prop
  | .comparison _ => True
  | .joined _ left right => LeansLeft left ∧ LeansLeft right ∧ isJoined right = false
  | .grouped inner => LeansLeft inner

/-- Columns do not matter for which way a tree leans. -/
theorem leans_left_unplaced (tree : Expression) : LeansLeft (unplaced tree) ↔ LeansLeft tree := by
  induction tree with
  | comparison leaf => exact Iff.rfl
  | joined connective left right leftHypothesis rightHypothesis =>
    have same : isJoined (unplaced right) = isJoined right := by cases right <;> rfl
    simp only [unplaced, LeansLeft, leftHypothesis, rightHypothesis, same]
  | grouped inner inductionHypothesis => exact inductionHypothesis

/-- A chain leans to the left if its first operand does and no other operand is a chain. -/
theorem leans_left_join_all {first : Expression} {links : List Link} (start : LeansLeft first)
    (later : ∀ link ∈ links, LeansLeft link.2 ∧ isJoined link.2 = false) :
    LeansLeft (joinAll first links) := by
  induction links generalizing first with
  | nil => exact start
  | cons link links inductionHypothesis =>
    obtain ⟨head, rest⟩ := List.forall_mem_cons.mp later
    exact inductionHypothesis ⟨start, head.1, head.2⟩ rest

/-- No operand that a tree spreads to is a chain, and each leans to the left. -/
theorem leans_left_spread (tree : Expression) :
    (LeansLeft (spread tree).1 ∧ isJoined (spread tree).1 = false) ∧
      ∀ link ∈ (spread tree).2, LeansLeft link.2 ∧ isJoined link.2 = false := by
  induction tree with
  | comparison leaf => exact ⟨⟨trivial, rfl⟩, by simp [spread]⟩
  | joined connective left right leftHypothesis rightHypothesis =>
    refine ⟨leftHypothesis.1, ?_⟩
    intro link member
    rcases List.mem_append.mp member with before | behind
    · exact leftHypothesis.2 link before
    · rcases List.mem_cons.mp behind with rfl | later
      · exact rightHypothesis.1
      · exact rightHypothesis.2 link later
  | grouped inner inductionHypothesis =>
    exact ⟨⟨leans_left_join_all inductionHypothesis.1.1 inductionHypothesis.2, rfl⟩,
      by simp [spread]⟩

/-- A tree with its chains joined from the left leans to the left. -/
theorem leans_left_leftward (tree : Expression) : LeansLeft (leftward tree) :=
  leans_left_join_all (leans_left_spread tree).1.1 (leans_left_spread tree).2

/-- A tree that leans to the left has its chains joined from the left already. -/
theorem leftward_of_leans_left {tree : Expression} (leans : LeansLeft tree) :
    leftward tree = tree := by
  induction tree with
  | comparison leaf => rfl
  | joined connective left right leftHypothesis rightHypothesis =>
    obtain ⟨onLeft, onRight, operand⟩ := leans
    have alone : spread right = (right, []) := by
      have same : leftward right = right := rightHypothesis onRight
      cases right with
      | comparison leaf => rfl
      | joined => cases operand
      | grouped inner => exact Prod.ext same rfl
    have before : joinAll (spread left).1 (spread left).2 = left := leftHypothesis onLeft
    rw [leftward, spread, alone, joinAll, List.foldl_append]
    rw [joinAll] at before
    rw [before]
    rfl
  | grouped inner inductionHypothesis =>
    exact congrArg Expression.grouped (inductionHypothesis leans)

/-- Joining chains from the left changes more than columns exactly if some chain stands on the
right of a connective. -/
theorem unplaced_leftward_iff (tree : Expression) :
    unplaced (leftward tree) = unplaced tree ↔ LeansLeft tree := by
  constructor
  · intro same
    rw [← leans_left_unplaced, ← same, leans_left_unplaced]
    exact leans_left_leftward tree
  · intro leans
    rw [leftward_of_leans_left leans]

/-- A literal that a word can stand for: a finite number, a text without a quote, or a list that
ends with the bracket that closes its first one. -/
def ValidLiteral : Test → Prop
  | .numeric _ value => ∃ negative magnitude, value = .finite negative magnitude
  | .text _ content => '"' ∉ content.toList
  | .list _ literal => ∃ rest, literal.toList = '[' :: rest ∧
      splitList 0 .bare literal.toList = some (literal.toList, [])

/-- A comparison whose words can be written: its field has a name, which is no `not` in front of
an `in`, and its literal is valid. -/
structure Valid (leaf : Comparison) : Prop where
  named : IsName leaf.field.name.toList
  apart : spells leaf.field.name.toList "not" = true → ∀ literal, leaf.test ≠ .list .among literal
  literal : ValidLiteral leaf.test

/-- A valid literal has a spelling. -/
theorem spelled_literal {test : Test} (valid : ValidLiteral test) :
    ∃ chars, Spells chars (literalOf test) := by
  cases test with
  | numeric operator value =>
    obtain ⟨negative, magnitude, rfl⟩ := valid
    obtain ⟨numeral, _, value⟩ := Binary64.finite_numeral negative magnitude
    rw [literalOf, ← value]
    exact ⟨_, .number numeral⟩
  | text operator content =>
    have spelled := Spells.text content.toList valid
    rw [String.ofList_toList] at spelled
    exact ⟨_, spelled⟩
  | list operator literal =>
    obtain ⟨rest, starts, balanced⟩ := valid
    rw [starts] at balanced
    have spelled := Spells.list rest balanced
    rw [← starts, String.ofList_toList] at spelled
    exact ⟨_, spelled⟩

/-- Only a field merges with a word behind it, and only with an `in`. -/
theorem apart_words {kind next : Token.Kind}
    (other : (∀ name, kind ≠ .field name) ∨ next ≠ .among) : ¬ Merges kind next := by
  rintro ⟨name, rfl, _, rfl⟩
  rcases other with noField | noAmong
  · exact noField name rfl
  · exact noAmong rfl

/-- The words of a valid comparison can be written. -/
theorem writable_comparison {leaf : Comparison} (valid : Valid leaf) :
    Writable (kinds (.comparison leaf)) := by
  have field : Spells leaf.field.name.toList (.field leaf.field.name) := by
    have spelled := Spells.field _ valid.named
    rwa [String.ofList_toList] at spelled
  have separate : ¬ Merges (.field leaf.field.name) (operatorOf leaf.test) := by
    rintro ⟨name, same, denies, among⟩
    obtain rfl := Token.Kind.field.inj same
    cases test : leaf.test with
    | numeric operator value => cases operator <;> simp [test, operatorOf] at among
    | text operator content => cases operator <;> simp [test, operatorOf] at among
    | list operator literal =>
      cases operator with
      | among => exact valid.apart denies literal test
      | notAmong => simp [test, operatorOf] at among
  constructor
  · simp only [kinds, List.forall_mem_cons]
    exact ⟨⟨_, field⟩, ⟨_, operator_spelled leaf.test⟩, spelled_literal valid.literal, by simp⟩
  · exact .cons_cons separate (.cons_cons (apart_words (.inl (operator_foreign leaf.test).1))
      (.singleton _))

/-- Words that can be written can be written behind and in front of a word that merges with none. -/
theorem writable_between {before behind : List Token.Kind} {middle : Token.Kind}
    (spelled : ∃ chars, Spells chars middle) (noField : ∀ name, middle ≠ .field name)
    (noAmong : middle ≠ .among) (first : Writable before) (last : Writable behind) :
    Writable (before ++ middle :: behind) := by
  constructor
  · intro kind member
    rcases List.mem_append.mp member with earlier | later
    · exact first.spelled kind earlier
    · rcases List.mem_cons.mp later with rfl | later
      · exact spelled
      · exact last.spelled kind later
  · refine List.isChain_append.mpr ⟨first.apart, List.isChain_cons.mpr ⟨?_, last.apart⟩, ?_⟩
    · intro next _
      exact apart_words (.inl noField)
    · intro kind _ next isNext
      obtain rfl : middle = next := Option.some.inj isNext
      exact apart_words (.inr noAmong)

/-- No words can be written. -/
theorem writable_nil : Writable [] := ⟨by simp, .nil⟩

/-- The words of a tree can be written if its comparisons are valid. -/
theorem writable_kinds {tree : Expression} (valid : ∀ leaf ∈ tree.comparisons, Valid leaf) :
    Writable (kinds tree) := by
  induction tree with
  | comparison leaf => exact writable_comparison (valid leaf (by simp [Expression.comparisons]))
  | joined connective left right leftHypothesis rightHypothesis =>
    obtain ⟨onLeft, onRight⟩ := List.forall_mem_append.mp valid
    exact writable_between ⟨_, connective_spelled connective⟩ (by simp) (by simp)
      (leftHypothesis onLeft) (rightHypothesis onRight)
  | grouped inner inductionHypothesis =>
    have opens : ∃ chars, Spells chars .opening := ⟨_, .symbol _ _ rfl⟩
    have closes : ∃ chars, Spells chars .closing := ⟨_, .symbol _ _ rfl⟩
    have inside : Writable (kinds inner ++ [.closing]) :=
      writable_between closes (by simp) (by simp) (inductionHypothesis valid) writable_nil
    exact writable_between opens (by simp) (by simp) writable_nil inside

/-- The words of a tree are finite if its comparisons are valid. -/
theorem finite_kinds {tree : Expression} (valid : ∀ leaf ∈ tree.comparisons, Valid leaf) :
    Finite (kinds tree) := by
  rw [finite_iff]
  intro leaf member operator negative infinite
  have literal := (valid leaf member).literal
  rw [infinite] at literal
  obtain ⟨_, _, finite⟩ := literal
  cases finite

/-- The normal text of a tree whose comparisons are valid has no error, and derives the tree with
its chains joined from the left, but for columns. -/
theorem derives_normal {tree : Expression} (valid : ∀ leaf ∈ tree.comparisons, Valid leaf) :
    (Scan.ofText tree.normalText.toList).faults = [] ∧
      ∃ again, Derives .condition (Scan.ofText tree.normalText.toList).tokens again ∧
        unplaced again = unplaced (leftward tree) := by
  obtain ⟨scanned, faultless⟩ := scan_normal (writable_kinds valid)
  have finite : Finite (kinds tree) := finite_kinds valid
  rw [shown_finite finite] at scanned
  exact ⟨faultless finite, derives_leftward scanned⟩

/-- The source of a tree whose comparisons are valid is compiled to the tree with its chains joined
from the left, but for columns, if that tree is at most 128 deep, and is refused with one error, whose
message is `expression nested too deeply`, if not. So the tree itself is compiled, but for columns,
exactly if that tree is at most 128 deep and no chain stands on the right of a connective.

The words of the source do not tell which way the chains of the tree lean. They derive one tree
only, so the depth of that tree decides, and not the depth of the tree that was written. -/
theorem compile_built (tree : Expression) (valid : ∀ leaf ∈ tree.comparisons, Valid leaf) :
    ((leftward tree).depth ≤ 128 →
      ∃ condition, Condition.compile (Condition.ofExpression tree).source = .ok condition ∧
        unplaced condition.root = unplaced (leftward tree)) ∧
    (128 < (leftward tree).depth →
      ∃ error : SyntaxError, Condition.compile (Condition.ofExpression tree).source =
          .error [error] ∧
        error.cause = .nestedTooDeeply ∧ error.message = "expression nested too deeply") ∧
    ((∃ condition, Condition.compile (Condition.ofExpression tree).source = .ok condition ∧
        unplaced condition.root = unplaced tree) ↔
      (leftward tree).depth ≤ 128 ∧ LeansLeft tree) := by
  obtain ⟨faultless, again, derived, agrees⟩ := derives_normal valid
  have sameDepth : again.depth = (leftward tree).depth := by
    rw [← depth_unplaced, agrees, depth_unplaced]
  have compiled : (leftward tree).depth ≤ 128 →
      ∃ condition, Condition.compile (Condition.ofExpression tree).source = .ok condition ∧
        unplaced condition.root = unplaced (leftward tree) := by
    intro shallow
    refine ⟨⟨tree.normalText, again⟩, (compile_iff _ _).mpr ⟨rfl, ?_⟩, agrees⟩
    exact (parse_iff_derives _ again).mpr ⟨faultless, derived, sameDepth ▸ shallow⟩
  have refused : 128 < (leftward tree).depth →
      ∃ error : SyntaxError, Condition.compile (Condition.ofExpression tree).source =
          .error [error] ∧
        error.cause = .nestedTooDeeply ∧ error.message = "expression nested too deeply" := by
    intro deep
    obtain ⟨place, unread⟩ := parse_too_deep faultless derived (sameDepth ▸ deep)
    refine ⟨⟨.nestedTooDeeply, place⟩, ?_, rfl, rfl⟩
    simp only [Condition.compile, Condition.ofExpression, unread]
  refine ⟨compiled, refused, ?_⟩
  constructor
  · rintro ⟨condition, accepted, same⟩
    have shallow : (leftward tree).depth ≤ 128 := by
      by_contra deep
      obtain ⟨error, rejected, -⟩ := refused (Nat.lt_of_not_le deep)
      rw [rejected] at accepted
      cases accepted
    obtain ⟨other, acceptedOther, sameOther⟩ := compiled shallow
    obtain rfl : condition = other := Except.ok.inj (accepted.symm.trans acceptedOther)
    exact ⟨shallow, (unplaced_leftward_iff tree).mp (sameOther.symm.trans same)⟩
  · rintro ⟨shallow, leans⟩
    obtain ⟨condition, accepted, same⟩ := compiled shallow
    exact ⟨condition, accepted, same.trans ((unplaced_leftward_iff tree).mpr leans)⟩

/-- A chain that leans to the right: a field `not` in front of a `not in`, a negative zero and a
group. -/
def rightChain : Expression :=
  .joined .and (.comparison ⟨⟨"not", 7⟩, .list .notAmong "[1, \"]\"]"⟩)
    (.joined .or (.comparison ⟨⟨"a", 0⟩, .numeric .greater (.finite true .zero)⟩)
      (.grouped (.comparison ⟨⟨"b", 0⟩, .text .contains "x"⟩)))

/-- Every comparison of the chain is valid. -/
theorem valid_right_chain : ∀ leaf ∈ rightChain.comparisons, Valid leaf := by
  have names : IsName "not".toList ∧ IsName "a".toList ∧ IsName "b".toList := by
    decide +kernel
  have plain : ValidLiteral (.text .contains "x") := by simp [ValidLiteral]
  simp only [rightChain, Expression.comparisons, List.cons_append, List.nil_append,
    List.forall_mem_cons]
  exact ⟨⟨names.1, by simp, ⟨_, rfl, by decide +kernel⟩⟩, ⟨names.2.1, by simp, ⟨true, .zero, rfl⟩⟩,
    ⟨names.2.2, by simp, plain⟩, by simp⟩

/-- The source of the chain is compiled, and to a tree that leans to the left instead. -/
theorem compile_right_chain :
    (∃ condition, Condition.compile (Condition.ofExpression rightChain).source = .ok condition ∧
      unplaced condition.root = unplaced
        (.joined .or (.joined .and (.comparison ⟨⟨"not", 7⟩, .list .notAmong "[1, \"]\"]"⟩)
          (.comparison ⟨⟨"a", 0⟩, .numeric .greater (.finite true .zero)⟩))
        (.grouped (.comparison ⟨⟨"b", 0⟩, .text .contains "x"⟩)))) ∧
    ¬ ∃ condition, Condition.compile (Condition.ofExpression rightChain).source = .ok condition ∧
      unplaced condition.root = unplaced rightChain := by
  obtain ⟨compiled, -, itself⟩ := compile_built rightChain valid_right_chain
  refine ⟨compiled (by decide), ?_⟩
  rw [itself]
  rintro ⟨-, -, -, leans⟩
  cases leans

end RecordRules.Association
