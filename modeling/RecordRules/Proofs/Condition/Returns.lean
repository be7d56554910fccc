import RecordRules.Proofs.Condition.Calls

/-!
# Every call returns

Whatever calls wait, the steps of a call lead to its return, with the tree and the errors that the
recursion reads there. So the recursion says what the steps come to, and the steps say how it gets
there.

A cursor is an index into the entries, and every change of a cursor is a change of the index that
passes its checks. Once reading was given up no word is ahead, so no call finds one.
-/

namespace RecordRules.Returns

open Text Parsing Grammar Progress Recognition Stages Offsets Calls

section Agreeing

variable {scan : Scan} {cursor : Cursor} {nesting : Nat} {frames : List Frame}

/-- A cursor over the words of a scan as an index into its entries. -/
def seen (scan : Scan) (nesting : Nat) (cursor : Cursor) : State :=
  ⟨scan.tokens.length - cursor.ahead.length, nesting, cursor.tooDeep, cursor.reported⟩

/-- The entry that a cursor stands at. -/
def entryAt (cursor : Cursor) : Entry :=
  match cursor.ahead with
  | [] => .ending cursor.finish
  | token :: _ => .ofToken token

/-- There is an entry more than words, so a last one. -/
theorem last_entries (scan : Scan) :
    decrement? (entries scan).length = some scan.tokens.length := by
  simp [entries, decrement?]

/-- The next entry is the one that the cursor stands at. -/
theorem peek_seen (leads : Leads (.start scan) cursor) :
    (seen scan nesting cursor).peek (entries scan) = some (entryAt cursor) := by
  obtain ⟨before, whole⟩ := leads.ahead
  replace whole : before ++ cursor.ahead = scan.tokens := whole
  have finish : cursor.finish = scan.finish := leads.finish
  have index : min (scan.tokens.length - cursor.ahead.length) scan.tokens.length =
      before.length := by
    rw [← whole, List.length_append]
    omega
  simp only [State.peek, last_entries, Option.bind_eq_bind, Option.bind_some, seen, index]
  rw [entries, ← whole, List.map_append, List.append_assoc,
    List.getElem?_append_right (by simp), List.length_map, Nat.sub_self]
  cases ahead : cursor.ahead <;> simp [entryAt, ahead, finish]

/-- Moving behind the next entry is moving the cursor. -/
theorem advance_seen (leads : Leads (.start scan) cursor) :
    (seen scan nesting cursor).advance (entries scan) =
      some (seen scan nesting cursor.advance) := by
  have bound : cursor.ahead.length ≤ scan.tokens.length := leads.ahead.length_le
  simp only [State.advance, peek_seen leads, Option.bind_eq_bind, Option.bind_some]
  cases ahead : cursor.ahead with
  | nil => simp [entryAt, ahead, Entry.ending, seen, Cursor.advance]
  | cons token rest =>
    rw [ahead, List.length_cons] at bound
    have moved : scan.tokens.length - (rest.length + 1) + 1 = scan.tokens.length - rest.length := by
      omega
    simp [entryAt, ahead, Entry.ofToken, seen, Cursor.advance, moved]

/-- Giving up moves the cursor to the end. -/
theorem abandon_seen (place : Place) :
    (seen scan nesting cursor).abandon (entries scan) place =
      some (seen scan nesting (cursor.abandon place)) := by
  simp [State.abandon, last_entries, seen, Cursor.abandon, Cursor.report, State.report]

/-- Noting an error is noting it at the cursor. -/
theorem report_seen (cause : SyntaxError.Cause) (place : Place) :
    (seen scan nesting cursor).report cause place = seen scan nesting (cursor.report cause place) :=
  rfl

/-- What stands ahead of a cursor is what its entry shows. -/
theorem found_entryAt (cursor : Cursor) : found (entryAt cursor) = cursor.found := by
  cases ahead : cursor.ahead <;>
    simp [found, entryAt, ahead, Cursor.found, Entry.ending, Entry.ofToken]

/-- The place of a cursor is that of its entry. -/
theorem place_entryAt (cursor : Cursor) : (entryAt cursor).place = cursor.place := by
  cases ahead : cursor.ahead <;>
    simp [entryAt, ahead, Cursor.place, Entry.ending, Entry.ofToken]

/-- The kind ahead of a cursor is that of its entry. -/
theorem kind_entryAt (cursor : Cursor) : (entryAt cursor).kind = cursor.kind? := by
  cases ahead : cursor.ahead <;>
    simp [entryAt, ahead, Cursor.kind?, Entry.ending, Entry.ofToken]

/-- A closing parenthesis is read or missed as by the cursor. -/
theorem close_seen (leads : Leads (.start scan) cursor) :
    (seen scan nesting cursor).close (entries scan) = some (seen scan nesting cursor.close) := by
  simp only [State.close, peek_seen leads, Option.bind_eq_bind, Option.bind_some, kind_entryAt,
    Cursor.close]
  split
  · exact advance_seen leads
  · rw [found_entryAt, place_entryAt, report_seen]

/-- Reading resumes at an entry where it resumes at the word. -/
theorem resumes_token (token : Token) : resumes (.ofToken token) = Cursor.resumesAt token := by
  obtain ⟨kind, text, place⟩ := token
  cases kind <;> rfl

/-- A step of skipping is the end of it, or leads on behind a word. -/
theorem step_skipping (leads : Leads (.start scan) cursor) :
    step (entries scan) ⟨.skipping, frames, seen scan nesting cursor⟩ =
      some (if resumes (entryAt cursor) then
        ⟨.operandRead none, frames, seen scan nesting cursor⟩
      else ⟨.skipping, frames, seen scan nesting cursor.advance⟩) := by
  simp only [step, peek_seen leads, advance_seen leads, Option.bind_eq_bind, Option.bind_some]
  split <;> rfl

/-- Skipping leads to where reading resumes. -/
theorem arrives_skipped (leads : Leads (.start scan) cursor) :
    Arrives (entries scan) ⟨.skipping, frames, seen scan nesting cursor⟩
      ⟨.operandRead none, frames, seen scan nesting
        { cursor with ahead := cursor.ahead.dropWhile fun token => !Cursor.resumesAt token }⟩ := by
  induction ahead : cursor.ahead generalizing cursor with
  | nil =>
    have ending : resumes (entryAt cursor) = true := by simp [entryAt, ahead, resumes, Entry.ending]
    have same : { cursor with ahead := [] } = cursor := by rw [← ahead]
    refine arrives_step (step_skipping leads) ?_
    rw [if_pos ending, List.dropWhile_nil, same]
    exact arrives_here _
  | cons token rest inductionHypothesis =>
    have known : resumes (entryAt cursor) = Cursor.resumesAt token := by
      rw [entryAt, ahead]
      exact resumes_token token
    refine arrives_step (step_skipping leads) ?_
    by_cases resumed : Cursor.resumesAt token = true
    · have same : { cursor with ahead := token :: rest } = cursor := by rw [← ahead]
      have stays : (token :: rest).dropWhile (fun token => !Cursor.resumesAt token) =
          token :: rest := by simp [resumed]
      rw [known, if_pos resumed, stays, same]
      exact arrives_here _
    · have later := inductionHypothesis (leads_trans leads (leads_advance cursor))
        (by rw [Cursor.advance, ahead, List.tail_cons])
      have drops : (token :: rest).dropWhile (fun token => !Cursor.resumesAt token) =
          rest.dropWhile fun token => !Cursor.resumesAt token := by simp [resumed]
      rw [known, if_neg resumed, drops]
      exact later

/-- What is skipped behind a mismatch is what the cursor skips. -/
theorem arrives_mismatched (leads : Leads (.start scan) cursor) (expected : Expected) :
    Arrives (entries scan)
      ⟨(mismatch expected (entryAt cursor) (seen scan nesting cursor)).1, frames,
        (mismatch expected (entryAt cursor) (seen scan nesting cursor)).2⟩
      ⟨.operandRead none, frames, seen scan nesting (cursor.mismatch expected)⟩ := by
  simp only [mismatch, found_entryAt, place_entryAt, report_seen]
  exact arrives_skipped (leads_trans leads (leads_report cursor _ _))

/-- A comparison asks for nothing but the kinds of the two words ahead. -/
theorem comparison_kinds (field : FieldReference) (cursor : Cursor) :
    comparison field cursor =
      match cursor.kind?.bind Token.Kind.literal? with
      | none => (none, cursor.mismatch .operator)
      | some expected =>
        match cursor.kind?.bind fun kind => cursor.advance.kind?.bind kind.test? with
        | none => (none, cursor.advance.mismatch expected)
        | some test => (some (.comparison ⟨field, test⟩), cursor.advance.advance) := by
  unfold comparison
  cases ahead : cursor.ahead with
  | nil => simp [Cursor.kind?, ahead]
  | cons token rest =>
    have kind : cursor.kind? = some token.kind := by simp [Cursor.kind?, ahead]
    simp only [kind, Option.bind_some]
    cases token.kind.literal? with
    | none => rfl
    | some expected => cases cursor.advance.kind?.bind token.kind.test? <;> rfl

/-- A comparison is read, or what follows its mismatch is skipped. -/
theorem arrives_compared (nesting : Nat) (frames : List Frame)
    (leads : Leads (.start scan) cursor) (field : FieldReference) :
    ∃ control state, readTest (entries scan) field (seen scan nesting cursor) =
        some (control, state) ∧
      Arrives (entries scan) ⟨control, frames, state⟩
        ⟨.operandRead (comparison field cursor).1, frames,
          seen scan nesting (comparison field cursor).2⟩ := by
  have behind := leads_trans leads (leads_advance cursor)
  simp only [readTest, peek_seen leads, advance_seen leads, peek_seen behind, advance_seen behind,
    kind_entryAt, Option.bind_eq_bind, Option.bind_some, comparison_kinds]
  cases cursor.kind?.bind Token.Kind.literal? with
  | none => exact ⟨_, _, rfl, arrives_mismatched leads .operator⟩
  | some expected =>
    cases cursor.kind?.bind fun kind => cursor.advance.kind?.bind kind.test? with
    | none => exact ⟨_, _, rfl, arrives_mismatched behind expected⟩
    | some test => exact ⟨_, _, rfl, arrives_here _⟩

end Agreeing

section Spending

variable {cursor : Cursor}

/-- Where reading was given up, nothing is ahead. -/
def Spent (cursor : Cursor) : Prop := cursor.tooDeep = true → cursor.ahead = []

/-- What leads on without giving up stays so. -/
theorem spent_leads {before after : Cursor} (spent : Spent before) (leads : Leads before after)
    (same : after.tooDeep = before.tooDeep) : Spent after := by
  intro given
  have nothing := leads.ahead
  rw [spent (same ▸ given)] at nothing
  exact List.eq_nil_of_suffix_nil nothing

/-- Giving up spends all that is ahead. -/
theorem spent_abandon (cursor : Cursor) (place : Place) : Spent (cursor.abandon place) :=
  fun _ => rfl

/-- Reading a word does not give up. -/
theorem spent_advance (spent : Spent cursor) : Spent cursor.advance :=
  spent_leads spent (leads_advance cursor) rfl

/-- No comparison gives up. -/
theorem spent_comparison (spent : Spent cursor) (field : FieldReference) :
    Spent (comparison field cursor).2 := by
  refine spent_leads spent (leads_comparison field cursor) ?_
  rw [comparison_kinds]
  split
  · rfl
  · split <;> rfl

/-- No closing parenthesis gives up, and none that is missing. -/
theorem spent_close (spent : Spent cursor) : Spent cursor.close := by
  refine spent_leads spent (leads_close cursor) ?_
  unfold Cursor.close
  split <;> rfl

/-- The end of a group spends what its inside did. -/
theorem spent_group {inner : Result} (spent : Spent inner.2) (place : Place) :
    Spent (group place inner).2 := by
  obtain ⟨tree, cursor⟩ := inner
  simp only [group]
  split
  · exact spent
  · split
    · exact spent_close spent
    · split
      · exact spent_abandon _ place
      · exact spent_close spent

/-- Links spend what their operands do. -/
theorem spent_links {allowance : Nat}
    (spends : ∀ cursor, Spent cursor → Spent (Task.operand.read allowance cursor).2) (rounds : Nat)
    (left : Option Expression) (cursor : Cursor) (spent : Spent cursor) :
    Spent ((Task.links rounds left).read allowance cursor).2 := by
  induction rounds generalizing left cursor with
  | zero => exact spent
  | succ rounds inductionHypothesis =>
    have round := round_links allowance rounds left cursor
    generalize (Task.links (rounds + 1) left).read allowance cursor = result at round
    cases round with
    | ended stops => exact spent
    | deep word connective rest right next tree ahead joins read joined deep =>
      exact spent_abandon next word.place
    | next word connective rest right next ahead joins read within =>
      have onRight := spends cursor.advance (spent_advance spent)
      rw [read] at onRight
      exact inductionHypothesis _ next onRight

/-- A chain spends what its operands do. -/
theorem spent_chain {allowance : Nat}
    (spends : ∀ cursor, Spent cursor → Spent (Task.operand.read allowance cursor).2)
    (spent : Spent cursor) : Spent (Task.chain.read allowance cursor).2 := by
  rw [read_chain (Prod.eta _).symm]
  exact spent_links spends _ _ _ (spends cursor spent)

/-- An operand that gives up spends all that is ahead. -/
theorem spent_operand (allowance : Nat) (cursor : Cursor) (spent : Spent cursor) :
    Spent (Task.operand.read allowance cursor).2 := by
  induction allowance generalizing cursor with
  | zero =>
    rw [Task.read]
    unfold operand
    split
    · exact spent_abandon cursor _
    · exact spent_comparison (spent_advance spent) _
    · exact spent_leads spent (leads_mismatch cursor _) rfl
  | succ allowance inductionHypothesis =>
    rw [Task.read]
    unfold operand
    split
    · exact spent_group (spent_chain inductionHypothesis (spent_advance spent)) _
    · exact spent_comparison (spent_advance spent) _
    · exact spent_leads spent (leads_mismatch cursor _) rfl

end Spending

section Answering

variable {scan : Scan} {cursor : Cursor} {nesting allowance : Nat} {frames : List Frame}

/-- What a call is made for. -/
def called : Task → Control
  | .operand => .operand
  | .chain => .chain
  | .links _ left => .links left

/-- What a call returns. -/
def returned : Task → Option Expression → Control
  | .operand, tree => .operandRead tree
  | .chain, tree => .chainRead tree
  | .links _ _, tree => .chainRead tree

/-- Whatever calls wait, a call leads to its return with what the task reads. -/
def Answers (scan : Scan) (allowance : Nat) (task : Task) (cursor : Cursor) : Prop :=
  ∀ nesting frames, nesting + allowance = maximumDepth →
    Arrives (entries scan) ⟨called task, frames, seen scan nesting cursor⟩
      ⟨returned task (task.read allowance cursor).1, frames,
        seen scan nesting (task.read allowance cursor).2⟩

/-- Where no connective is ahead, links are over. -/
theorem step_links_stop (leads : Leads (.start scan) cursor) (stops : Stops cursor.ahead)
    (left : Option Expression) :
    step (entries scan) ⟨.links left, frames, seen scan nesting cursor⟩ =
      some ⟨.chainRead left, frames, seen scan nesting cursor⟩ := by
  simp only [step, peek_seen leads, Option.bind_eq_bind, Option.bind_some, kind_entryAt]
  split
  · rename_i connective joins
    cases ahead : cursor.ahead with
    | nil => simp [Cursor.kind?, ahead] at joins
    | cons word rest =>
      simp only [Cursor.kind?, ahead, List.head?_cons, Option.map_some, Option.some.injEq] at joins
      rw [ahead] at stops
      exact absurd joins (stops word rfl connective)
  · rfl

/-- Where a connective is ahead, an operand is called behind it. -/
theorem step_links_join (leads : Leads (.start scan) cursor) {word : Token} {rest : List Token}
    {connective : Connective} (ahead : cursor.ahead = word :: rest)
    (joins : word.kind = .connective connective) (left : Option Expression) :
    step (entries scan) ⟨.links left, frames, seen scan nesting cursor⟩ =
      some ⟨.operand, .right left connective word.place :: frames,
        seen scan nesting cursor.advance⟩ := by
  have place : cursor.place = word.place := by simp [Cursor.place, ahead]
  simp only [step, peek_seen leads, advance_seen leads, Option.bind_eq_bind, Option.bind_some,
    kind_entryAt, Cursor.kind?, ahead, List.head?_cons, Option.map_some, joins, place_entryAt,
    place]

/-- What is joined goes on if it is not too deep. -/
theorem join_within {entries : List Entry} {joined : Option Expression}
    (within : ∀ tree ∈ joined, tree.depth ≤ maximumDepth) (place : Place) (state : State) :
    join entries joined place state = some (.links joined, state) := by
  cases joined with
  | none => rfl
  | some tree => rw [join, if_neg (Nat.not_lt.mpr (within tree rfl))]

/-- What is joined is given up if it is too deep. -/
theorem join_deep {joined : Option Expression} {tree : Expression} (found : tree ∈ joined)
    (deep : maximumDepth < tree.depth) (place : Place) :
    join (entries scan) joined place (seen scan nesting cursor) =
      some (.chainRead none, seen scan nesting (cursor.abandon place)) := by
  obtain rfl : joined = some tree := found
  rw [join, if_pos deep, abandon_seen]
  rfl

/-- The operand behind a connective is answered to the links that wait for it. -/
theorem arrives_right
    (answers : ∀ cursor, Leads (.start scan) cursor → cursor.tooDeep = false →
      Answers scan allowance .operand cursor)
    (leads : Leads (.start scan) cursor) (spent : Spent cursor)
    (within : nesting + allowance = maximumDepth) {word : Token} {rest : List Token}
    {connective : Connective} {right : Option Expression} {next : Cursor}
    (ahead : cursor.ahead = word :: rest) (joins : word.kind = .connective connective)
    (read : Task.operand.read allowance cursor.advance = (right, next))
    (left : Option Expression) :
    Arrives (entries scan) ⟨.links left, frames, seen scan nesting cursor⟩
      ⟨.operandRead right, .right left connective word.place :: frames,
        seen scan nesting next⟩ := by
  have shallow : cursor.tooDeep = false := by
    refine Bool.eq_false_iff.mpr fun given => ?_
    rw [spent given] at ahead
    cases ahead
  have answer := answers cursor.advance (leads_trans leads (leads_advance cursor)) shallow nesting
    (.right left connective word.place :: frames) within
  rw [read] at answer
  exact arrives_step (step_links_join leads ahead joins left) answer

/-- Links are answered if each of their operands is. -/
theorem answers_links
    (answers : ∀ cursor, Leads (.start scan) cursor → cursor.tooDeep = false →
      Answers scan allowance .operand cursor)
    (rounds : Nat) (left : Option Expression) (cursor : Cursor) (leads : Leads (.start scan) cursor)
    (spent : Spent cursor) (enough : cursor.ahead.length ≤ rounds) :
    Answers scan allowance (.links rounds left) cursor := by
  intro nesting frames within
  induction rounds generalizing left cursor with
  | zero =>
    have nothing : cursor.ahead = [] := List.eq_nil_of_length_eq_zero (Nat.le_zero.mp enough)
    exact arrives_step (step_links_stop leads (nothing ▸ stops_nil) left) (arrives_here _)
  | succ rounds inductionHypothesis =>
    have behind := leads_trans leads (leads_advance cursor)
    have round := round_links allowance rounds left cursor
    generalize (Task.links (rounds + 1) left).read allowance cursor = result at round
    cases round with
    | ended stops => exact arrives_step (step_links_stop leads stops left) (arrives_here _)
    | deep word connective rest right next tree ahead joins read joined deep =>
      -- The operand returns to links that give up, and these return at once.
      refine arrives_trans (arrives_right answers leads spent within ahead joins read left) ?_
      refine arrives_step ?_ (arrives_here _)
      rw [step, join_deep joined deep]
      rfl
    | next word connective rest right next ahead joins read shallow =>
      -- The operand returns to links that go on, with fewer words ahead than rounds are left.
      have onward := leads_task allowance .operand cursor.advance
      have further := spent_operand allowance cursor.advance (spent_advance spent)
      rw [read] at onward further
      have fewer : next.ahead.length ≤ rounds := by
        have bound : next.ahead.length ≤ cursor.advance.ahead.length := onward.ahead.length_le
        rw [Cursor.advance, List.length_tail] at bound
        omega
      refine arrives_trans (arrives_right answers leads spent within ahead joins read left) ?_
      refine arrives_step ?_ (inductionHypothesis _ next (leads_trans behind onward) further fewer)
      rw [step, join_within shallow]
      rfl

/-- A chain is answered if each of its operands is. -/
theorem answers_chain
    (answers : ∀ cursor, Leads (.start scan) cursor → cursor.tooDeep = false →
      Answers scan allowance .operand cursor)
    (leads : Leads (.start scan) cursor) (shallow : cursor.tooDeep = false) :
    Answers scan allowance .chain cursor := by
  intro nesting frames within
  have spent : Spent cursor := fun given => by rw [shallow] at given; cases given
  have first := answers cursor leads shallow nesting (.first :: frames) within
  have further := leads_trans leads (leads_task allowance .operand cursor)
  have later := answers_links answers _ (Task.operand.read allowance cursor).1 _ further
    (spent_operand allowance cursor spent) (Nat.le_refl _) nesting frames within
  rw [read_chain (Prod.eta _).symm]
  exact arrives_step rfl (arrives_trans first (arrives_step rfl later))

/-- A parenthesis that may not be opened any more is given up. -/
theorem begin_deep (leads : Leads (.start scan) cursor) {opening : Token} {rest : List Token}
    (ahead : cursor.ahead = opening :: rest) (opens : opening.kind = .opening)
    (full : maximumDepth ≤ nesting) :
    begin (entries scan) frames (seen scan nesting cursor) =
      some ⟨.operandRead none, frames, seen scan nesting (cursor.abandon opening.place)⟩ := by
  have place : cursor.place = opening.place := by simp [Cursor.place, ahead]
  have limit : maximumDepth ≤ (seen scan nesting cursor).nesting := full
  simp only [begin, peek_seen leads, Option.bind_eq_bind, Option.bind_some, kind_entryAt,
    Cursor.kind?, ahead, List.head?_cons, Option.map_some, opens, if_pos limit, place_entryAt,
    abandon_seen, place]

/-- A parenthesis that may be opened has a chain called behind it. -/
theorem begin_group (leads : Leads (.start scan) cursor) {opening : Token} {rest : List Token}
    (ahead : cursor.ahead = opening :: rest) (opens : opening.kind = .opening)
    (room : nesting < maximumDepth) :
    begin (entries scan) frames (seen scan nesting cursor) =
      some ⟨.chain, .group opening.place :: frames, seen scan (nesting + 1) cursor.advance⟩ := by
  have place : cursor.place = opening.place := by simp [Cursor.place, ahead]
  have limit : ¬ maximumDepth ≤ (seen scan nesting cursor).nesting := Nat.not_le.mpr room
  simp only [begin, peek_seen leads, advance_seen leads, Option.bind_eq_bind, Option.bind_some,
    kind_entryAt, Cursor.kind?, ahead, List.head?_cons, Option.map_some, opens, if_neg limit,
    place_entryAt, place]
  rfl

/-- A field has its comparison read. -/
theorem arrives_field (leads : Leads (.start scan) cursor) {word : Token} {rest : List Token}
    {name : String} (ahead : cursor.ahead = word :: rest) (names : word.kind = .field name) :
    ∃ next, begin (entries scan) frames (seen scan nesting cursor) = some next ∧
      Arrives (entries scan) next
        ⟨.operandRead (comparison ⟨name, word.place.column⟩ cursor.advance).1, frames,
          seen scan nesting (comparison ⟨name, word.place.column⟩ cursor.advance).2⟩ := by
  have place : cursor.place = word.place := by simp [Cursor.place, ahead]
  obtain ⟨control, state, compared, arrives⟩ := arrives_compared nesting frames
    (leads_trans leads (leads_advance cursor)) ⟨name, word.place.column⟩
  refine ⟨⟨control, frames, state⟩, ?_, arrives⟩
  simp only [begin, peek_seen leads, advance_seen leads, Option.bind_eq_bind, Option.bind_some,
    kind_entryAt, Cursor.kind?, ahead, List.head?_cons, Option.map_some, names, place_entryAt,
    place, compared]

/-- A word that begins no operand is a mismatch, and so is the end of the text. -/
theorem arrives_unexpected (leads : Leads (.start scan) cursor)
    (noOpening : cursor.kind? ≠ some .opening)
    (noField : ∀ name, cursor.kind? ≠ some (.field name)) :
    ∃ next, begin (entries scan) frames (seen scan nesting cursor) = some next ∧
      Arrives (entries scan) next
        ⟨.operandRead none, frames, seen scan nesting (cursor.mismatch .operand)⟩ := by
  refine ⟨_, ?_, arrives_mismatched leads .operand⟩
  simp only [begin, peek_seen leads, Option.bind_eq_bind, Option.bind_some, kind_entryAt]

/-- A group is ended as its chain was read. -/
theorem leave_seen (inner : Option Expression) (place : Place)
    (leads : Leads (.start scan) cursor) :
    leave (entries scan) inner place (seen scan (nesting + 1) cursor) =
      some (.operandRead (group place (inner, cursor)).1,
        seen scan nesting (group place (inner, cursor)).2) := by
  have outside : (seen scan (nesting + 1) cursor).exit = some (seen scan nesting cursor) := rfl
  have flag : (seen scan nesting cursor).tooDeep = cursor.tooDeep := rfl
  simp only [leave, outside, Option.bind_eq_bind, Option.bind_some, flag, close_seen leads, group]
  split
  · rfl
  · cases inner with
    | none => rfl
    | some inner =>
      have deeper : maximumDepth < (Expression.grouped inner).depth ↔
          maximumDepth ≤ inner.depth := by
        simp only [Expression.depth]
        omega
      by_cases deep : maximumDepth ≤ inner.depth
      · simp [deep, deeper, abandon_seen]
      · simp [deep, deeper]

/-- A call of an operand begins it, unless reading was given up. -/
theorem step_operand (shallow : cursor.tooDeep = false) :
    step (entries scan) ⟨.operand, frames, seen scan nesting cursor⟩ =
      begin (entries scan) frames (seen scan nesting cursor) := by
  have flag : (seen scan nesting cursor).tooDeep = false := shallow
  simp [step, flag]

/-- An operand that begins with a parenthesis leads to the end of its group, if a parenthesis may
be opened. -/
theorem answers_group
    (answers : ∀ cursor, Leads (.start scan) cursor → cursor.tooDeep = false →
      Answers scan allowance .operand cursor)
    (leads : Leads (.start scan) cursor) (shallow : cursor.tooDeep = false) {opening : Token}
    {rest : List Token} (ahead : cursor.ahead = opening :: rest) (opens : opening.kind = .opening) :
    Answers scan (allowance + 1) .operand cursor := by
  intro nesting frames within
  -- One more parenthesis is open inside, and one less may be opened there.
  have behind := leads_trans leads (leads_advance cursor)
  have inner := answers_chain answers behind shallow (nesting + 1) (.group opening.place :: frames)
    (by omega)
  rw [read_group ahead opens]
  refine arrives_step ((step_operand shallow).trans (begin_group leads ahead opens (by omega))) ?_
  refine arrives_trans inner (arrives_step ?_ (arrives_here _))
  simp only [returned, step,
    leave_seen _ _ (leads_trans behind (leads_task allowance .chain cursor.advance))]
  rfl

/-- An operand that begins with a parenthesis is given up where none may be opened any more. -/
theorem answers_full (leads : Leads (.start scan) cursor) (shallow : cursor.tooDeep = false)
    {opening : Token} {rest : List Token} (ahead : cursor.ahead = opening :: rest)
    (opens : opening.kind = .opening) : Answers scan 0 .operand cursor := by
  intro nesting frames within
  have read : Task.operand.read 0 cursor = (none, cursor.abandon opening.place) := by
    obtain ⟨kind, text, place⟩ := opening
    obtain rfl : kind = .opening := opens
    rw [Task.read, operand]
    simp only [ahead]
  rw [read]
  exact arrives_step
    ((step_operand shallow).trans (begin_deep leads ahead opens (by omega))) (arrives_here _)

/-- An operand that begins with a field is answered. -/
theorem answers_field (leads : Leads (.start scan) cursor) (shallow : cursor.tooDeep = false)
    {word : Token} {rest : List Token} {name : String} (ahead : cursor.ahead = word :: rest)
    (names : word.kind = .field name) : Answers scan allowance .operand cursor := by
  intro nesting frames within
  have read : Task.operand.read allowance cursor =
      comparison ⟨name, word.place.column⟩ cursor.advance := by
    obtain ⟨kind, text, place⟩ := word
    obtain rfl : kind = .field name := names
    rw [Task.read, operand]
    simp only [ahead]
  obtain ⟨next, begun, arrives⟩ := arrives_field leads ahead names
  rw [read]
  exact arrives_step ((step_operand shallow).trans begun) arrives

/-- Where no operand begins, a mismatch is answered. -/
theorem answers_unexpected (leads : Leads (.start scan) cursor) (shallow : cursor.tooDeep = false)
    (noOpening : cursor.kind? ≠ some .opening)
    (noField : ∀ name, cursor.kind? ≠ some (.field name)) :
    Answers scan allowance .operand cursor := by
  intro nesting frames within
  have read : Task.operand.read allowance cursor = (none, cursor.mismatch .operand) := by
    rw [Task.read]
    unfold operand
    split
    · rename_i text place rest ahead
      exact absurd (by simp [Cursor.kind?, ahead]) noOpening
    · rename_i name text place rest ahead
      exact absurd (by simp [Cursor.kind?, ahead]) (noField name)
    · rfl
  obtain ⟨next, begun, arrives⟩ := arrives_unexpected leads noOpening noField
  rw [read]
  exact arrives_step ((step_operand shallow).trans begun) arrives

/-- Where there is a kind ahead, there is a word of it. -/
theorem ahead_of_kind {kind : Token.Kind} (found : cursor.kind? = some kind) :
    ∃ word rest, cursor.ahead = word :: rest ∧ word.kind = kind := by
  cases ahead : cursor.ahead with
  | nil => simp [Cursor.kind?, ahead] at found
  | cons word rest =>
    simp only [Cursor.kind?, ahead, List.head?_cons, Option.map_some, Option.some.injEq] at found
    exact ⟨word, rest, rfl, found⟩

/-- An operand that begins with no parenthesis is answered. -/
theorem answers_plain (leads : Leads (.start scan) cursor) (shallow : cursor.tooDeep = false)
    (noOpening : cursor.kind? ≠ some .opening) : Answers scan allowance .operand cursor := by
  by_cases names : ∃ name, cursor.kind? = some (.field name)
  · obtain ⟨name, names⟩ := names
    obtain ⟨word, rest, ahead, names⟩ := ahead_of_kind names
    exact answers_field leads shallow ahead names
  · exact answers_unexpected leads shallow noOpening fun name same => names ⟨name, same⟩

/-- An operand is answered, however many parentheses may be opened in it.

The induction is on their number. It matters only where a parenthesis stands. -/
theorem answers_operand (allowance : Nat) (cursor : Cursor) (leads : Leads (.start scan) cursor)
    (shallow : cursor.tooDeep = false) : Answers scan allowance .operand cursor := by
  induction allowance generalizing cursor with
  | zero =>
    by_cases opens : cursor.kind? = some .opening
    · obtain ⟨opening, rest, ahead, opens⟩ := ahead_of_kind opens
      exact answers_full leads shallow ahead opens
    · exact answers_plain leads shallow opens
  | succ allowance inductionHypothesis =>
    by_cases opens : cursor.kind? = some .opening
    · obtain ⟨opening, rest, ahead, opens⟩ := ahead_of_kind opens
      exact answers_group inductionHypothesis leads shallow ahead opens
    · exact answers_plain leads shallow opens

/-- The end of the text is looked for behind a chain that is read. -/
theorem finish_seen (leads : Leads (.start scan) cursor) (tree : Option Expression) :
    finish (entries scan) tree (seen scan nesting cursor) =
      some (.finished tree, seen scan nesting cursor.finished) := by
  simp only [finish, peek_seen leads, Option.bind_eq_bind, Option.bind_some, entryAt,
    Cursor.finished]
  cases cursor.ahead <;> rfl

/-- The steps lead to the end, with the tree and the errors that the recursion reads. -/
theorem arrives_finished (scan : Scan) :
    Arrives (entries scan) .start
      ⟨.finished (Task.chain.read maximumDepth (.start scan)).1, [],
        seen scan 0 (Task.chain.read maximumDepth (.start scan)).2.finished⟩ := by
  have begun : Configuration.start = ⟨called .chain, [], seen scan 0 (.start scan)⟩ := by
    simp [Configuration.start, called, seen, Cursor.start]
  have chain : Answers scan maximumDepth .chain (.start scan) :=
    answers_chain (answers_operand maximumDepth) (leads_refl _) rfl
  rw [begun]
  refine arrives_trans (chain 0 [] (Nat.zero_add _)) (arrives_step ?_ (arrives_here _))
  simp only [returned, step, finish_seen (leads_task maximumDepth .chain (.start scan))]
  rfl

end Answering

end RecordRules.Returns
