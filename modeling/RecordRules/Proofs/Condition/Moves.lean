import RecordRules.Proofs.Condition.Returns
import RecordRules.Proofs.Condition.DepthErrors

/-!
# What a step can do

A step of reading words calls an operand or a chain, goes on in the same call, or returns. Here it
is said once what each of them changes, for every list of words: which word is read, if one has to
be, which call is put on the stack or taken from it, and how many parentheses are open then. A step
can always be made, because the index is inside the entries and the stack fits what is to be done.

Whatever holds of every configuration that steps lead to is derived from that: the index never goes
back, the stack is as high as parentheses are open, and so many operands are called as there are
words that call one.
-/

namespace RecordRules.Moves

open Text Parsing Progress Recognition Stages Offsets Calls Returns

section States

variable {scan : Scan} {state : State}

/-- The index is inside the entries, and at the end of the text if reading was given up. -/
structure Valid (scan : Scan) (state : State) : Prop where
  inside : state.index ≤ scan.tokens.length
  given : state.tooDeep = true → state.index = scan.tokens.length

/-- A state that is not before another one, with as many parentheses open. -/
structure Later (scan : Scan) (before after : State) : Prop where
  onward : before.index ≤ after.index
  nesting : after.nesting = before.nesting
  valid : Valid scan after

/-- Doing nothing. -/
theorem later_refl (valid : Valid scan state) : Later scan state state :=
  ⟨Nat.le_refl _, rfl, valid⟩

/-- One change after the other. -/
theorem later_trans {first second third : State} (one : Later scan first second)
    (two : Later scan second third) : Later scan first third :=
  ⟨Nat.le_trans one.onward two.onward, two.nesting.trans one.nesting, two.valid⟩

/-- Noting an error. -/
theorem later_report (valid : Valid scan state) (cause : SyntaxError.Cause) (place : Place) :
    Later scan state (state.report cause place) :=
  ⟨Nat.le_refl _, rfl, ⟨valid.inside, valid.given⟩⟩

/-- A state is a cursor that can come of the beginning, seen as an index. -/
theorem exists_seen (valid : Valid scan state) :
    ∃ cursor, Leads (.start scan) cursor ∧ Spent cursor ∧ cursor.tooDeep = state.tooDeep ∧
      scan.tokens.drop state.index = cursor.ahead ∧ state = seen scan state.nesting cursor := by
  refine ⟨⟨scan.tokens.drop state.index, scan.finish, state.reported, state.tooDeep⟩,
    ⟨List.drop_suffix _ _, List.nil_suffix, rfl⟩, ?_, rfl, rfl, ?_⟩
  · intro given
    exact List.drop_eq_nil_of_le (Nat.le_of_eq (valid.given given).symm)
  · obtain ⟨index, nesting, tooDeep, reported⟩ := state
    have inside : index ≤ scan.tokens.length := valid.inside
    simp only [seen, List.length_drop, State.mk.injEq, and_true]
    omega

/-- What a cursor leads to is later. -/
theorem later_seen {cursor last : Cursor} (nesting : Nat) (begun : Leads (.start scan) cursor)
    (leads : Leads cursor last) (spent : Spent last) :
    Later scan (seen scan nesting cursor) (seen scan nesting last) := by
  have fewer := leads.ahead.length_le
  have bound : cursor.ahead.length ≤ scan.tokens.length := begun.ahead.length_le
  refine ⟨by simp only [seen]; omega, rfl, by simp only [seen]; omega, fun given => ?_⟩
  simp only [seen, spent given, List.length_nil, Nat.sub_zero]

/-- The next entry is the word at the index, or the end of the text. -/
theorem peek_cases (valid : Valid scan state) :
    (∃ token, scan.tokens[state.index]? = some token ∧
      state.peek (entries scan) = some (.ofToken token)) ∨
    (state.index = scan.tokens.length ∧
      state.peek (entries scan) = some (.ending scan.finish)) := by
  obtain ⟨cursor, leads, -, -, ahead, same⟩ := exists_seen valid
  have peeked : state.peek (entries scan) = some (entryAt cursor) := by
    rw [same]
    exact peek_seen leads
  rw [peeked]
  cases words : cursor.ahead with
  | nil =>
    rw [words, List.drop_eq_nil_iff] at ahead
    refine .inr ⟨Nat.le_antisymm valid.inside ahead, ?_⟩
    rw [entryAt, words, leads.finish]
    rfl
  | cons token rest =>
    refine .inl ⟨token, ?_, by rw [entryAt, words]⟩
    rw [← List.head?_drop, ahead, words, List.head?_cons]

/-- There is always a next entry. -/
theorem peek_some (valid : Valid scan state) : ∃ entry, state.peek (entries scan) = some entry := by
  rcases peek_cases valid with ⟨token, -, peeked⟩ | ⟨-, peeked⟩
  · exact ⟨_, peeked⟩
  · exact ⟨_, peeked⟩

/-- Reading a word, if there is one. -/
theorem advance_later (valid : Valid scan state) :
    ∃ next, state.advance (entries scan) = some next ∧ Later scan state next := by
  obtain ⟨cursor, leads, spent, -, -, same⟩ := exists_seen valid
  rw [same]
  exact ⟨_, advance_seen leads, later_seen _ leads (leads_advance cursor) (spent_advance spent)⟩

/-- Giving up. -/
theorem abandon_later (valid : Valid scan state) (place : Place) :
    ∃ given, state.abandon (entries scan) place = some given ∧ Later scan state given := by
  obtain ⟨cursor, leads, -, -, -, same⟩ := exists_seen valid
  rw [same]
  exact ⟨_, abandon_seen place,
    later_seen _ leads (leads_abandon cursor place) (spent_abandon cursor place)⟩

/-- Reading or missing a closing parenthesis. -/
theorem close_later (valid : Valid scan state) :
    ∃ closed, state.close (entries scan) = some closed ∧ Later scan state closed := by
  obtain ⟨cursor, leads, spent, -, -, same⟩ := exists_seen valid
  rw [same]
  exact ⟨_, close_seen leads, later_seen _ leads (leads_close cursor) (spent_close spent)⟩

/-- The state behind the word at the index. -/
def behind (state : State) : State := { state with index := state.index + 1 }

/-- Where the next entry is a word, it stands at the index, and reading moves behind it. -/
theorem advance_word (valid : Valid scan state) {entry : Entry}
    (peeked : state.peek (entries scan) = some entry) {kind : Token.Kind}
    (word : entry.kind = some kind) :
    ∃ token, scan.tokens[state.index]? = some token ∧ token.kind = kind ∧
      token.place = entry.place ∧ state.advance (entries scan) = some (behind state) := by
  have moved : state.advance (entries scan) = some (behind state) := by
    simp only [State.advance, peeked, Option.bind_eq_bind, Option.bind_some, word]
    rfl
  rcases peek_cases valid with ⟨token, found, same⟩ | ⟨-, same⟩
  · obtain rfl := Option.some.inj (peeked.symm.trans same)
    exact ⟨token, found, Option.some.inj word, rfl, moved⟩
  · obtain rfl := Option.some.inj (peeked.symm.trans same)
    cases word

end States

/-- An operand is over, or what follows a mismatch in it is being skipped. -/
inductive Ends : Control → Prop
  | skipping : Ends .skipping
  | read (tree : Option Expression) : Ends (.operandRead tree)

/-- A chain goes on, or is over. -/
inductive GoesOn : Control → Prop
  | links (left : Option Expression) : GoesOn (.links left)
  | read (tree : Option Expression) : GoesOn (.chainRead tree)

/-- What a step can do. -/
inductive Move (scan : Scan) : Configuration → Configuration → Prop
  | calls (frames : List Frame) (state : State) :
      Move scan ⟨.chain, frames, state⟩ ⟨.operand, .first :: frames, state⟩
  | opens (frames : List Frame) (state : State) (token : Token)
      (word : scan.tokens[state.index]? = some token) (opens : token.kind = .opening)
      (room : state.nesting < maximumDepth) :
      Move scan ⟨.operand, frames, state⟩
        ⟨.chain, .group token.place :: frames, (behind state).enter⟩
  | joins (left : Option Expression) (frames : List Frame) (state : State) (token : Token)
      (connective : Connective) (word : scan.tokens[state.index]? = some token)
      (joins : token.kind = .connective connective) :
      Move scan ⟨.links left, frames, state⟩
        ⟨.operand, .right left connective token.place :: frames, behind state⟩
  | ends (before after : Control) (frames : List Frame) (state later : State)
      (begun : before = .operand ∨ before = .skipping) (ends : Ends after)
      (onward : Later scan state later) :
      Move scan ⟨before, frames, state⟩ ⟨after, frames, later⟩
  | stops (left : Option Expression) (frames : List Frame) (state : State) :
      Move scan ⟨.links left, frames, state⟩ ⟨.chainRead left, frames, state⟩
  | returns (tree : Option Expression) (frame : Frame) (after : Control) (frames : List Frame)
      (state later : State) (waits : ∀ place, frame ≠ .group place) (goesOn : GoesOn after)
      (onward : Later scan state later) :
      Move scan ⟨.operandRead tree, frame :: frames, state⟩ ⟨after, frames, later⟩
  | closes (tree result : Option Expression) (place : Place) (frames : List Frame)
      (state later : State) (depth : Nat) (opened : state.nesting = depth + 1)
      (onward : Later scan { state with nesting := depth } later) :
      Move scan ⟨.chainRead tree, .group place :: frames, state⟩
        ⟨.operandRead result, frames, later⟩
  | finishes (tree : Option Expression) (state later : State) (onward : Later scan state later) :
      Move scan ⟨.chainRead tree, [], state⟩ ⟨.finished tree, [], later⟩
  | rests (tree : Option Expression) (frames : List Frame) (state : State) :
      Move scan ⟨.finished tree, frames, state⟩ ⟨.finished tree, frames, state⟩

/-- Whether something is to be done in an operand, and not in a chain. -/
def inOperand : Control → Bool
  | .operand | .skipping | .operandRead _ => true
  | _ => false

/-- The calls that wait alternate: a chain waits for an operand, and an operand for the chain in its
parentheses. So many parentheses are open as operands wait. -/
inductive Waits : Bool → Nat → List Frame → Prop
  | outermost : Waits false 0 []
  | group (place : Place) (depth : Nat) (frames : List Frame) (waits : Waits true depth frames) :
      Waits false (depth + 1) (.group place :: frames)
  | chain (frame : Frame) (waiting : ∀ place, frame ≠ .group place) (depth : Nat)
      (frames : List Frame) (waits : Waits false depth frames) :
      Waits true depth (frame :: frames)

/-- What holds of every configuration that steps lead to. -/
structure Sound (scan : Scan) (here : Configuration) : Prop where
  valid : Valid scan here.state
  waits : Waits (inOperand here.control) here.state.nesting here.frames
  bound : here.state.nesting ≤ maximumDepth
  shallow : here.control = .chain ∨ here.control = .operand → here.state.tooDeep = false

section Steps

variable {scan : Scan} {state : State} {frames : List Frame}

/-- What follows a mismatch is skipped. -/
theorem mismatch_ends (valid : Valid scan state) (expected : Expected) (entry : Entry) :
    Ends (mismatch expected entry state).1 ∧
      Later scan state (mismatch expected entry state).2 :=
  ⟨.skipping, later_report valid _ _⟩

/-- A comparison is read, or a mismatch is found in it. -/
theorem readTest_ends (valid : Valid scan state) (field : FieldReference) :
    ∃ control later, readTest (entries scan) field state = some (control, later) ∧
      Ends control ∧ Later scan state later := by
  obtain ⟨operator, peeked⟩ := peek_some valid
  obtain ⟨between, moved, onward⟩ := advance_later valid
  obtain ⟨literal, found⟩ := peek_some onward.valid
  obtain ⟨last, read, further⟩ := advance_later onward.valid
  simp only [readTest, peeked, moved, found, read, Option.bind_eq_bind, Option.bind_some]
  split
  · exact ⟨_, _, rfl, mismatch_ends valid _ _⟩
  · split
    · obtain ⟨ends, noted⟩ := mismatch_ends onward.valid _ literal
      exact ⟨_, _, rfl, ends, later_trans onward noted⟩
    · exact ⟨_, _, rfl, .read _, later_trans onward further⟩

/-- An operand begins with a parenthesis, or it ends. -/
theorem begin_moves (valid : Valid scan state) :
    ∃ next, begin (entries scan) frames state = some next ∧
      Move scan ⟨.operand, frames, state⟩ next := by
  obtain ⟨entry, peeked⟩ := peek_some valid
  obtain ⟨next, moved, onward⟩ := advance_later valid
  obtain ⟨given, abandoned, further⟩ := abandon_later valid entry.place
  simp only [begin, peeked, moved, abandoned, Option.bind_eq_bind, Option.bind_some]
  split
  · rename_i opening
    obtain ⟨token, word, opens, place, advanced⟩ := advance_word valid peeked opening
    obtain rfl := Option.some.inj (moved.symm.trans advanced)
    split
    · exact ⟨_, rfl, .ends _ _ _ _ _ (.inl rfl) (.read none) further⟩
    · rename_i room
      rw [← place]
      exact ⟨_, rfl, .opens frames state token word opens (Nat.not_le.mp room)⟩
  · rename_i name names
    obtain ⟨control, later, read, ends, further⟩ :=
      readTest_ends onward.valid ⟨name, entry.place.column⟩
    rw [read]
    exact ⟨_, rfl, .ends _ _ _ _ _ (.inl rfl) ends (later_trans onward further)⟩
  · obtain ⟨ends, noted⟩ := mismatch_ends valid .operand entry
    exact ⟨_, rfl, .ends _ _ _ _ _ (.inl rfl) ends noted⟩

/-- Skipping goes on, or it ends. -/
theorem skipping_moves (valid : Valid scan state) :
    ∃ next, step (entries scan) ⟨.skipping, frames, state⟩ = some next ∧
      Move scan ⟨.skipping, frames, state⟩ next := by
  obtain ⟨entry, peeked⟩ := peek_some valid
  obtain ⟨next, moved, onward⟩ := advance_later valid
  simp only [step, peeked, moved, Option.bind_eq_bind, Option.bind_some]
  split
  · exact ⟨_, rfl, .ends _ _ _ _ _ (.inr rfl) (.read none) (later_refl valid)⟩
  · exact ⟨_, rfl, .ends _ _ _ _ _ (.inr rfl) .skipping onward⟩

/-- A chain goes on with a connective, or it stops. -/
theorem links_moves (valid : Valid scan state) (left : Option Expression) :
    ∃ next, step (entries scan) ⟨.links left, frames, state⟩ = some next ∧
      Move scan ⟨.links left, frames, state⟩ next := by
  obtain ⟨entry, peeked⟩ := peek_some valid
  simp only [step, peeked, Option.bind_eq_bind, Option.bind_some]
  split
  · rename_i connective found
    obtain ⟨token, word, joins, place, advanced⟩ := advance_word valid peeked found
    rw [advanced, ← place]
    exact ⟨_, rfl, .joins left frames state token connective word joins⟩
  · exact ⟨_, rfl, .stops left frames state⟩

/-- An operand returns to the chain that waits for it. -/
theorem operandRead_moves (valid : Valid scan state) (tree : Option Expression) {frame : Frame}
    (waits : ∀ place, frame ≠ .group place) :
    ∃ next, step (entries scan) ⟨.operandRead tree, frame :: frames, state⟩ = some next ∧
      Move scan ⟨.operandRead tree, frame :: frames, state⟩ next := by
  cases frame with
  | first => exact ⟨_, rfl, .returns _ _ _ _ _ _ waits (.links tree) (later_refl valid)⟩
  | group place => exact absurd rfl (waits place)
  | right left connective place =>
    have joined : ∃ control later,
        join (entries scan) (joint connective left tree) place state = some (control, later) ∧
          GoesOn control ∧ Later scan state later := by
      obtain ⟨given, abandoned, onward⟩ := abandon_later valid place
      unfold join
      split
      · exact ⟨_, _, rfl, .links none, later_refl valid⟩
      · rw [abandoned]
        split
        · exact ⟨_, _, rfl, .read none, onward⟩
        · exact ⟨_, _, rfl, .links _, later_refl valid⟩
    obtain ⟨control, later, joins, goesOn, onward⟩ := joined
    refine ⟨⟨control, frames, later⟩, ?_, .returns _ _ _ _ _ _ waits goesOn onward⟩
    rw [step, joins]
    rfl

/-- A chain returns to the operand whose parentheses it stands in. -/
theorem group_moves (valid : Valid scan state) (tree : Option Expression) (place : Place)
    {depth : Nat} (opened : state.nesting = depth + 1) :
    ∃ next, step (entries scan) ⟨.chainRead tree, .group place :: frames, state⟩ = some next ∧
      Move scan ⟨.chainRead tree, .group place :: frames, state⟩ next := by
  have exits : state.exit = some { state with nesting := depth } := by
    rw [State.exit, opened]
    rfl
  have outside : Valid scan { state with nesting := depth } := ⟨valid.inside, valid.given⟩
  obtain ⟨closed, closes, onward⟩ := close_later outside
  obtain ⟨given, abandoned, further⟩ := abandon_later onward.valid place
  have left : ∃ result later,
      leave (entries scan) tree place state = some (.operandRead result, later) ∧
        Later scan { state with nesting := depth } later := by
    simp only [leave, exits, closes, Option.bind_eq_bind, Option.bind_some]
    split
    · exact ⟨none, _, rfl, later_refl outside⟩
    · split
      · exact ⟨none, _, rfl, onward⟩
      · rw [abandoned]
        split
        · exact ⟨none, _, rfl, later_trans onward further⟩
        · exact ⟨_, _, rfl, onward⟩
  obtain ⟨result, later, leaves, onward⟩ := left
  refine ⟨⟨.operandRead result, frames, later⟩, ?_, .closes _ _ _ _ _ _ _ opened onward⟩
  rw [step, leaves]
  rfl

/-- The outermost chain returns and the end of the text is looked for. -/
theorem outermost_moves (valid : Valid scan state) (tree : Option Expression) :
    ∃ next, step (entries scan) ⟨.chainRead tree, [], state⟩ = some next ∧
      Move scan ⟨.chainRead tree, [], state⟩ next := by
  obtain ⟨entry, peeked⟩ := peek_some valid
  simp only [step, finish, peeked, Option.bind_eq_bind, Option.bind_some]
  split
  · exact ⟨_, rfl, .finishes _ _ _ (later_refl valid)⟩
  · exact ⟨_, rfl, .finishes _ _ _ (later_report valid _ _)⟩

/-- A step can always be made. -/
theorem step_moves {here : Configuration} (sound : Sound scan here) :
    ∃ next, step (entries scan) here = some next ∧ Move scan here next := by
  obtain ⟨control, frames, state⟩ := here
  obtain ⟨valid, waits, -, shallow⟩ := sound
  cases control with
  | chain => exact ⟨_, rfl, .calls frames state⟩
  | operand =>
    obtain ⟨next, begun, move⟩ := begin_moves valid
    refine ⟨next, ?_, move⟩
    have going : state.tooDeep = false := shallow (.inr rfl)
    simp only [step, going, begun, Bool.false_eq_true, if_false]
  | links left => exact links_moves valid left
  | skipping => exact skipping_moves valid
  | operandRead tree =>
    cases waits with
    | chain frame waiting depth frames waits => exact operandRead_moves valid tree waiting
  | chainRead tree =>
    generalize opened : state.nesting = nesting at waits
    cases waits with
    | outermost => exact outermost_moves valid tree
    | group place depth frames waits => exact group_moves valid tree place opened
  | finished tree => exact ⟨_, rfl, .rests tree frames state⟩

end Steps

section Keeping

variable {scan : Scan} {here next : Configuration} {state : State}

/-- Where there is a word at the index, reading was not given up. -/
theorem going_of_word (valid : Valid scan state) {token : Token}
    (word : scan.tokens[state.index]? = some token) : state.tooDeep = false := by
  obtain ⟨inside, -⟩ := List.getElem?_eq_some_iff.mp word
  refine Bool.eq_false_iff.mpr fun given => ?_
  have ended := valid.given given
  omega

/-- Behind a word the index is inside the entries. -/
theorem valid_behind (valid : Valid scan state) {token : Token}
    (word : scan.tokens[state.index]? = some token) : Valid scan (behind state) := by
  obtain ⟨inside, -⟩ := List.getElem?_eq_some_iff.mp word
  refine ⟨inside, fun given => ?_⟩
  rw [behind, going_of_word valid word] at given
  cases given

/-- In front of the words nothing waits. -/
theorem sound_start (scan : Scan) : Sound scan .start :=
  ⟨⟨Nat.zero_le _, fun given => nomatch given⟩, .outermost, Nat.zero_le _, fun _ => rfl⟩

/-- What is to be done behind an operand is to be done in a chain, and no call. -/
theorem goesOn_control {control : Control} (goesOn : GoesOn control) :
    inOperand control = false ∧ control ≠ .chain ∧ control ≠ .operand := by
  cases goesOn <;> simp [inOperand]

/-- What is to be done in an operand that was begun is no call. -/
theorem ends_control {control : Control} (ends : Ends control) :
    inOperand control = true ∧ control ≠ .chain ∧ control ≠ .operand := by
  cases ends <;> simp [inOperand]

/-- Every step keeps what holds of the configurations. -/
theorem sound_move (sound : Sound scan here) (move : Move scan here next) : Sound scan next := by
  obtain ⟨valid, waits, bound, shallow⟩ := sound
  cases move with
  | calls frames state =>
    exact ⟨valid, .chain .first (by simp) _ _ waits, bound, fun _ => shallow (.inl rfl)⟩
  | opens frames state token word opens room =>
    have further := valid_behind valid word
    have going := going_of_word valid word
    exact ⟨⟨further.inside, further.given⟩, .group _ _ _ waits, room, fun _ => going⟩
  | joins left frames state token connective word joins =>
    have going := going_of_word valid word
    exact ⟨valid_behind valid word, .chain _ (by simp) _ _ waits, bound, fun _ => going⟩
  | ends before after frames state later begun ends onward =>
    obtain ⟨inside, noChain, noOperand⟩ := ends_control ends
    refine ⟨onward.valid, ?_, ?_, ?_⟩
    · rcases begun with rfl | rfl
      all_goals
        rw [inside, onward.nesting]
        exact waits
    · rw [onward.nesting]
      exact bound
    · exact fun call => (call.elim noChain noOperand).elim
  | stops left frames state => exact ⟨valid, waits, bound, by simp⟩
  | returns tree frame after frames state later waiting goesOn onward =>
    obtain ⟨inside, noChain, noOperand⟩ := goesOn_control goesOn
    refine ⟨onward.valid, ?_, ?_, fun call => (call.elim noChain noOperand).elim⟩
    · cases waits with
      | chain _ _ _ _ waits =>
        rw [inside, onward.nesting]
        exact waits
    · rw [onward.nesting]
      exact bound
  | closes tree result place frames state later depth opened onward =>
    have nesting : later.nesting = depth := onward.nesting
    have inner : Waits false (depth + 1) (.group place :: frames) := opened ▸ waits
    have within : depth + 1 ≤ maximumDepth := opened ▸ bound
    refine ⟨onward.valid, ?_, Nat.le_of_succ_le (nesting ▸ within), by simp⟩
    cases inner with
    | group _ _ _ waits => exact nesting ▸ waits
  | finishes tree state later onward =>
    refine ⟨onward.valid, ?_, ?_, by simp⟩
    · rw [onward.nesting]
      exact waits
    · rw [onward.nesting]
      exact bound
  | rests tree frames state => exact ⟨valid, waits, bound, shallow⟩

/-- No step goes back. -/
theorem onward_move (move : Move scan here next) : here.state.index ≤ next.state.index := by
  cases move with
  | calls | stops | rests => exact Nat.le_refl _
  | opens | joins => exact Nat.le_succ _
  | ends _ _ _ _ _ _ _ onward => exact onward.onward
  | returns _ _ _ _ _ _ _ _ onward => exact onward.onward
  | closes _ _ _ _ _ _ _ _ onward => exact onward.onward
  | finishes _ _ _ onward => exact onward.onward

/-- The word at an index, which a step reads. -/
structure Takes (scan : Scan) (here next : Configuration) (token : Token) : Prop where
  word : scan.tokens[here.state.index]? = some token
  behind : next.state.index = here.state.index + 1

/-- A chain is called only by an operand that reads a parenthesis. -/
theorem called_by_opening (move : Move scan here next) (chain : next.control = .chain) :
    here.control = .operand ∧ ∃ token, Takes scan here next token ∧ token.kind = .opening := by
  cases move with
  | opens frames state token word opens room => exact ⟨rfl, token, ⟨word, rfl⟩, opens⟩
  | ends _ _ _ _ _ _ ends => exact absurd chain (ends_control ends).2.1
  | returns _ _ _ _ _ _ _ goesOn => exact absurd chain (goesOn_control goesOn).2.1
  | calls | joins | stops | closes | finishes | rests => cases chain

/-- Where a chain may go on, it is over, or a connective is read and an operand is called. -/
theorem joined_by_connective (move : Move scan here next) {left : Option Expression}
    (links : here.control = .links left) :
    next.control = .chainRead left ∨
      next.control = .operand ∧ ∃ token connective, Takes scan here next token ∧
        token.kind = .connective connective := by
  cases move with
  | joins _ frames state token connective word joins =>
    exact .inr ⟨rfl, token, connective, ⟨word, rfl⟩, joins⟩
  | stops => exact .inl (by injection links with same; rw [same])
  | ends _ _ _ _ _ begun => rcases begun with rfl | rfl <;> cases links
  | calls | opens | returns | closes | finishes | rests => cases links

end Keeping

section Counting

open DepthErrors

variable {scan : Scan} {here next : Configuration} {calls : Nat}

/-- How many operands a chain is about to call that has just been called. -/
def owed (here : Configuration) : Nat :=
  match here.control with
  | .chain => 1
  | _ => 0

/-- How many of the words before an index call an operand or a chain. -/
def callers (scan : Scan) (index : Nat) : Nat := (scan.tokens.take index).countP nests

/-- Before a later index there are no fewer. -/
theorem callers_mono (scan : Scan) {index later : Nat} (onward : index ≤ later) :
    callers scan index ≤ callers scan later :=
  (List.take_prefix_take_left onward).sublist.countP_le

/-- Behind a word that calls there is one more. -/
theorem callers_succ {index : Nat} {token : Token} (word : scan.tokens[index]? = some token)
    (adds : nests token = true) : callers scan (index + 1) = callers scan index + 1 := by
  simp [callers, List.take_add_one, word, adds]

/-- What is no call calls nothing. -/
theorem enters_of_ne (noChain : here.control ≠ .chain) (noOperand : here.control ≠ .operand) :
    here.enters = 0 ∧ owed here = 0 := by
  unfold Configuration.enters owed
  constructor
  · split
    · exact absurd ‹_› noOperand
    · rfl
  · split
    · exact absurd ‹_› noChain
    · rfl

/-- A step calls an operand only for a word that it reads, or for a chain that was called. -/
theorem calls_move (move : Move scan here next)
    (few : calls + owed here ≤ 1 + callers scan here.state.index) :
    calls + next.enters + owed next ≤ 1 + callers scan next.state.index := by
  have onward := callers_mono scan (onward_move move)
  -- Where nothing is called next, it is enough that no fewer words are before the index.
  have idle : next.control ≠ .chain → next.control ≠ .operand →
      calls + next.enters + owed next ≤ 1 + callers scan next.state.index := by
    intro noChain noOperand
    obtain ⟨entered, owes⟩ := enters_of_ne noChain noOperand
    omega
  cases move with
  | calls frames state => exact few
  | opens frames state token word opens room =>
    have more := callers_succ word (by simp [nests, opens])
    exact more ▸ Nat.succ_le_succ few
  | joins left frames state token connective word joins =>
    have more := callers_succ word (by simp [nests, joins])
    exact more ▸ Nat.succ_le_succ few
  | ends _ _ _ _ _ _ ends => exact idle (ends_control ends).2.1 (ends_control ends).2.2
  | returns _ _ _ _ _ _ _ goesOn =>
    exact idle (goesOn_control goesOn).2.1 (goesOn_control goesOn).2.2
  | stops | closes | finishes => exact idle (by simp) (by simp)
  | rests => exact idle (by simp) (by simp)

end Counting

section Running

variable {scan : Scan} {here : Configuration} {calls : Nat}

/-- Whatever steps lead to from in front of the words is sound, and so many operands were called as
words that call one were read.

The induction is on the steps. The configuration before the last of them is sound, so that step is
one of the moves. -/
theorem reaches_sound (reaches : Reaches (entries scan) .start calls here) :
    Sound scan here ∧ calls + owed here ≤ 1 + callers scan here.state.index := by
  induction reaches with
  | here => exact ⟨sound_start scan, Nat.le_refl 1⟩
  | next middle last calls reaches made inductionHypothesis =>
    obtain ⟨sound, few⟩ := inductionHypothesis
    obtain ⟨next, stepped, move⟩ := step_moves sound
    obtain rfl := Option.some.inj (made.symm.trans stepped)
    exact ⟨sound_move sound move, calls_move move few⟩

/-- Whether a call that waits is a chain. -/
def isChain : Frame → Bool
  | .group _ => false
  | _ => true

/-- How many calls of a chain are not over: those that wait, and the one in which something is to be
done. -/
def chains (here : Configuration) : Nat :=
  here.frames.countP isChain +
    match here.control with
    | .chain | .links _ | .chainRead _ => 1
    | _ => 0

/-- So many chains wait as parentheses are open, and one more for an operand. -/
theorem waits_chains {inside : Bool} {depth : Nat} {frames : List Frame}
    (waits : Waits inside depth frames) :
    frames.countP isChain = if inside then depth + 1 else depth := by
  induction waits with
  | outermost => rfl
  | group place depth frames waits inductionHypothesis =>
    rw [List.countP_cons_of_neg (by simp [isChain]), inductionHypothesis]
    rfl
  | chain frame waiting depth frames waits inductionHypothesis =>
    have chain : isChain frame = true := by
      cases frame with
      | group place => exact absurd rfl (waiting place)
      | first | right => rfl
    rw [List.countP_cons_of_pos chain, inductionHypothesis]
    rfl

/-- At most one more chain is not over than parentheses are open. -/
theorem chains_bound (sound : Sound scan here) : chains here ≤ here.state.nesting + 1 := by
  have waiting := waits_chains sound.waits
  unfold chains
  rw [waiting]
  cases here.control <;> simp [inOperand]

/-- Every call returns, whatever waits for it, further on and with as many parentheses open. -/
theorem call_returns (sound : Sound scan here) {task : Task}
    (call : task = .chain ∨ task = .operand) (control : here.control = called task) :
    ∃ tree later, Later scan here.state later ∧
      ∀ frames, Arrives (entries scan) ⟨called task, frames, here.state⟩
        ⟨returned task tree, frames, later⟩ := by
  obtain ⟨cursor, leads, spent, flag, -, same⟩ := exists_seen sound.valid
  have within : here.state.nesting + (maximumDepth - here.state.nesting) = maximumDepth :=
    Nat.add_sub_cancel' sound.bound
  generalize maximumDepth - here.state.nesting = allowance at within
  -- A call is made only where reading was not given up, and there both kinds are answered.
  have answered : Answers scan allowance task cursor ∧ Spent (task.read allowance cursor).2 := by
    rcases call with rfl | rfl
    · have going : cursor.tooDeep = false := flag.trans (sound.shallow (.inl control))
      exact ⟨answers_chain (answers_operand allowance) leads going,
        spent_chain (spent_operand allowance) spent⟩
    · have going : cursor.tooDeep = false := flag.trans (sound.shallow (.inr control))
      exact ⟨answers_operand allowance cursor leads going, spent_operand allowance cursor spent⟩
  obtain ⟨answers, further⟩ := answered
  have later := later_seen here.state.nesting leads (leads_task allowance task cursor) further
  rw [← same] at later
  refine ⟨(task.read allowance cursor).1, _, later, fun frames => ?_⟩
  have arrives := answers here.state.nesting frames within
  rw [← same] at arrives
  exact arrives

end Running

end RecordRules.Moves
