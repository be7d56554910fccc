import RecordRules.Proofs.Condition.Recognition

/-!
# The stages of reading a condition

Reading the words of a condition is made of tasks: an operand, a chain, or the links of a chain
behind its first operand. One task is done by way of others, and each begins at one cursor and ends
at another. The stages of a task are the cursors at which it and the tasks inside it begin and end,
and those behind the closing parentheses in it.

Every stage lies between the beginning and the end of its task: nothing is read twice on the way to
it, and what was noted up to it is still noted at the end.
-/

namespace RecordRules.Stages

open Text Parsing Grammar Progress Recognition

/-- What is to be read. Links have a bound on their rounds and what stands on their left. -/
inductive Task
  | operand
  | chain
  | links (rounds : Nat) (left : Option Expression)

/-- Reads what is to be read, where so many parentheses may be opened one inside the other. -/
def Task.read (allowance : Nat) : Task → Cursor → Result
  | operand, cursor => Parsing.operand allowance cursor
  | chain, cursor => Parsing.chain (Parsing.operand allowance) cursor
  | links rounds left, cursor => Parsing.links (Parsing.operand allowance) rounds left cursor

/-- What a connective makes of the trees on its two sides, if both were found. -/
def joint (connective : Connective) (left right : Option Expression) : Option Expression := do
  return .joined connective (← left) (← right)

/-- Reading passes a cursor on the way through a task that begins at another one. -/
inductive Passes : Nat → Task → Cursor → Cursor → Prop
  | begins (allowance : Nat) (task : Task) (cursor : Cursor) : Passes allowance task cursor cursor
  | ends (allowance : Nat) (task : Task) (cursor : Cursor) :
      Passes allowance task cursor (task.read allowance cursor).2
  | inside (allowance : Nat) (cursor middle : Cursor) (opening : Token) (rest : List Token)
      (ahead : cursor.ahead = opening :: rest) (opens : opening.kind = .opening)
      (passes : Passes allowance .chain cursor.advance middle) :
      Passes (allowance + 1) .operand cursor middle
  | closed (allowance : Nat) (cursor : Cursor) (opening : Token) (rest : List Token)
      (ahead : cursor.ahead = opening :: rest) (opens : opening.kind = .opening)
      (shallow : (Task.chain.read allowance cursor.advance).2.tooDeep = false) :
      Passes (allowance + 1) .operand cursor (Task.chain.read allowance cursor.advance).2.close
  | first (allowance : Nat) (cursor middle : Cursor)
      (passes : Passes allowance .operand cursor middle) : Passes allowance .chain cursor middle
  | behind (allowance : Nat) (cursor middle next : Cursor) (first : Option Expression)
      (read : Task.operand.read allowance cursor = (first, next))
      (passes : Passes allowance (.links next.ahead.length first) next middle) :
      Passes allowance .chain cursor middle
  | right (allowance rounds : Nat) (left : Option Expression) (cursor middle : Cursor)
      (word : Token) (connective : Connective) (rest : List Token)
      (ahead : cursor.ahead = word :: rest) (joins : word.kind = .connective connective)
      (passes : Passes allowance .operand cursor.advance middle) :
      Passes allowance (.links (rounds + 1) left) cursor middle
  | next (allowance rounds : Nat) (left : Option Expression) (cursor middle next : Cursor)
      (word : Token) (connective : Connective) (rest : List Token) (right : Option Expression)
      (ahead : cursor.ahead = word :: rest) (joins : word.kind = .connective connective)
      (read : Task.operand.read allowance cursor.advance = (right, next))
      (within : ∀ tree ∈ joint connective left right, tree.depth ≤ maximumDepth)
      (passes : Passes allowance (.links rounds (joint connective left right)) next middle) :
      Passes allowance (.links (rounds + 1) left) cursor middle

section Rounds

variable {allowance rounds : Nat} {cursor next : Cursor} {word : Token} {connective : Connective}
  {rest : List Token} {left right : Option Expression}

/-- An operand in parentheses is read by ending what the chain inside them leads to. -/
theorem read_group {opening : Token} (ahead : cursor.ahead = opening :: rest)
    (opens : opening.kind = .opening) :
    Task.operand.read (allowance + 1) cursor =
      group opening.place (Task.chain.read allowance cursor.advance) := by
  obtain ⟨kind, text, place⟩ := opening
  obtain rfl : kind = .opening := opens
  rw [Task.read, operand]
  simp only [ahead]
  rfl

/-- A chain is read by reading the links behind its first operand. -/
theorem read_chain {first : Option Expression}
    (read : Task.operand.read allowance cursor = (first, next)) :
    Task.chain.read allowance cursor =
      (Task.links next.ahead.length first).read allowance next := by
  replace read : operand allowance cursor = (first, next) := read
  rw [Task.read, chain, read]
  rfl

/-- A round of links goes on with what its connective joins, unless that is too deep. -/
theorem read_link (ahead : cursor.ahead = word :: rest) (joins : word.kind = .connective connective)
    (read : Task.operand.read allowance cursor.advance = (right, next))
    (within : ∀ tree ∈ joint connective left right, tree.depth ≤ maximumDepth) :
    (Task.links (rounds + 1) left).read allowance cursor =
      (Task.links rounds (joint connective left right)).read allowance next := by
  obtain ⟨kind, text, place⟩ := word
  obtain rfl : kind = .connective connective := joins
  replace read : operand allowance cursor.advance = (right, next) := read
  rw [Task.read, links]
  simp only [ahead, read]
  cases left with
  | none => rfl
  | some left =>
    cases right with
    | none => rfl
    | some right =>
      have shallow : ¬ maximumDepth < (Expression.joined connective left right).depth :=
        Nat.not_lt.mpr (within _ rfl)
      simp only [if_neg shallow]
      rfl

/-- A round of links whose connective joins what is too deep then is given up. -/
theorem read_link_deep (ahead : cursor.ahead = word :: rest)
    (joins : word.kind = .connective connective)
    (read : Task.operand.read allowance cursor.advance = (right, next)) {tree : Expression}
    (joined : tree ∈ joint connective left right) (deep : maximumDepth < tree.depth) :
    (Task.links (rounds + 1) left).read allowance cursor = (none, next.abandon word.place) := by
  obtain ⟨kind, text, place⟩ := word
  obtain rfl : kind = .connective connective := joins
  replace read : operand allowance cursor.advance = (right, next) := read
  obtain ⟨first, rfl, second, rfl, rfl⟩ : ∃ first, left = some first ∧ ∃ second,
      right = some second ∧ tree = .joined connective first second := by
    cases left with
    | none => cases joined
    | some first =>
      cases right with
      | none => cases joined
      | some second => exact ⟨first, rfl, second, rfl, (Option.some.inj joined).symm⟩
  rw [Task.read, links]
  simp only [ahead, read, if_pos deep]

/-- What one round of links does: it finds no connective, it gives up because what its connective
joins is too deep, or it goes on with what was joined. -/
inductive Round (allowance rounds : Nat) (left : Option Expression) (cursor : Cursor) :
    Result → Prop
  | ended (stops : Stops cursor.ahead) : Round allowance rounds left cursor (left, cursor)
  | deep (word : Token) (connective : Connective) (rest : List Token) (right : Option Expression)
      (next : Cursor) (tree : Expression) (ahead : cursor.ahead = word :: rest)
      (joins : word.kind = .connective connective)
      (read : Task.operand.read allowance cursor.advance = (right, next))
      (joined : tree ∈ joint connective left right) (deep : maximumDepth < tree.depth) :
      Round allowance rounds left cursor (none, next.abandon word.place)
  | next (word : Token) (connective : Connective) (rest : List Token) (right : Option Expression)
      (next : Cursor) (ahead : cursor.ahead = word :: rest)
      (joins : word.kind = .connective connective)
      (read : Task.operand.read allowance cursor.advance = (right, next))
      (within : ∀ tree ∈ joint connective left right, tree.depth ≤ maximumDepth) :
      Round allowance rounds left cursor
        ((Task.links rounds (joint connective left right)).read allowance next)

/-- Where a connective is ahead, a round of links gives up or goes on. -/
theorem round_of_joins (allowance rounds : Nat) (left : Option Expression)
    (ahead : cursor.ahead = word :: rest) (joins : word.kind = .connective connective) :
    Round allowance rounds left cursor
      ((Task.links (rounds + 1) left).read allowance cursor) := by
  rcases read : Task.operand.read allowance cursor.advance with ⟨right, next⟩
  by_cases within : ∀ tree ∈ joint connective left right, tree.depth ≤ maximumDepth
  · rw [read_link ahead joins read within]
    exact .next word connective rest right next ahead joins read within
  · obtain ⟨tree, joined, deep⟩ : ∃ tree ∈ joint connective left right,
        maximumDepth < tree.depth := by
      simpa using within
    rw [read_link_deep ahead joins read joined deep]
    exact .deep word connective rest right next tree ahead joins read joined deep

/-- Every round of links does one of these. -/
theorem round_links (allowance rounds : Nat) (left : Option Expression) (cursor : Cursor) :
    Round allowance rounds left cursor
      ((Task.links (rounds + 1) left).read allowance cursor) := by
  by_cases stops : Stops cursor.ahead
  · rw [Task.read, links_stop stops]
    exact .ended stops
  · cases ahead : cursor.ahead with
    | nil => exact absurd (ahead ▸ stops_nil) stops
    | cons word rest =>
      by_cases joins : ∃ connective, word.kind = .connective connective
      · obtain ⟨connective, joins⟩ := joins
        exact round_of_joins allowance rounds left ahead joins
      · exact absurd (ahead ▸ stops_cons fun connective same => joins ⟨connective, same⟩) stops

end Rounds

/-- A task leads from the cursor that it begins at to the one that it ends at. -/
theorem leads_task (allowance : Nat) (task : Task) (cursor : Cursor) :
    Leads cursor (task.read allowance cursor).2 := by
  cases task with
  | operand => exact leads_operand allowance cursor
  | chain => exact leads_chain (leads_operand allowance) cursor
  | links rounds left => exact leads_links (leads_operand allowance) rounds left cursor

/-- A stage of a task lies between the beginning and the end of the task. -/
theorem leads_passes {allowance : Nat} {task : Task} {cursor middle : Cursor}
    (passes : Passes allowance task cursor middle) :
    Leads cursor middle ∧ Leads middle (task.read allowance cursor).2 := by
  induction passes with
  | begins allowance task cursor => exact ⟨leads_refl cursor, leads_task allowance task cursor⟩
  | ends allowance task cursor => exact ⟨leads_task allowance task cursor, leads_refl _⟩
  | inside allowance cursor middle opening rest ahead opens passes inductionHypothesis =>
    obtain ⟨before, after⟩ := inductionHypothesis
    rw [read_group ahead opens]
    exact ⟨leads_trans (leads_advance cursor) before, leads_trans after (leads_group _ _)⟩
  | closed allowance cursor opening rest ahead opens shallow =>
    have inner := leads_task allowance .chain cursor.advance
    rw [read_group ahead opens]
    generalize Task.chain.read allowance cursor.advance = result at inner shallow
    obtain ⟨tree, last⟩ := result
    refine ⟨leads_trans (leads_advance cursor) (leads_trans inner (leads_close last)), ?_⟩
    replace shallow : last.tooDeep = false := shallow
    simp only [group, shallow, Bool.false_eq_true, if_false]
    split
    · exact leads_refl _
    · split
      · exact leads_abandon _ _
      · exact leads_refl _
  | first allowance cursor middle passes inductionHypothesis =>
    obtain ⟨before, after⟩ := inductionHypothesis
    refine ⟨before, leads_trans after ?_⟩
    rw [read_chain (Prod.eta _).symm]
    exact leads_task allowance _ _
  | behind allowance cursor middle next first read passes inductionHypothesis =>
    obtain ⟨before, after⟩ := inductionHypothesis
    have start := leads_task allowance .operand cursor
    rw [read] at start
    rw [read_chain read]
    exact ⟨leads_trans start before, after⟩
  | right allowance rounds left cursor middle word connective rest ahead joins passes
      inductionHypothesis =>
    obtain ⟨before, after⟩ := inductionHypothesis
    refine ⟨leads_trans (leads_advance cursor) before, leads_trans after ?_⟩
    have round := round_of_joins allowance rounds left ahead joins
    generalize (Task.links (rounds + 1) left).read allowance cursor = result at round
    cases round with
    | ended stops =>
      rw [ahead] at stops
      exact absurd joins (stops word rfl connective)
    | deep _ _ _ right next _ _ _ read =>
      rw [read]
      exact leads_abandon next _
    | next _ _ _ right next _ _ read =>
      rw [read]
      exact leads_task allowance _ next
  | next allowance rounds left cursor middle next word connective rest right ahead joins read
      within passes inductionHypothesis =>
    obtain ⟨before, after⟩ := inductionHypothesis
    have start := leads_task allowance .operand cursor.advance
    rw [read] at start
    rw [read_link ahead joins read within]
    exact ⟨leads_trans (leads_advance cursor) (leads_trans start before), after⟩

end RecordRules.Stages
