import RecordRules.Proofs.Condition.Association
import RecordRules.Proofs.Condition.Refusal
import RecordRules.Proofs.Condition.Stages

/-!
# Errors about depth

A condition that is too deep is given up. The error that says so is the last one that is noted: no
stage of reading behind it notes another, and what was noted before it stays. Words that derive a
tree that is too deep have no other error at all.

Only parentheses that are opened and connectives add levels to a tree. A tree that is read is at
most one deeper than there are such words among those it took, whether or not they make a condition,
so a text with fewer than 128 of them never has the error.
-/

namespace RecordRules.DepthErrors

open Text Parsing Grammar Progress Stages Recognition DepthLimit Segments Refusal Wording
open NormalText Association Spelling Columns

/-- Whether an error says that the condition is too deep. -/
def isDepthError (error : SyntaxError) : Bool := decide (error.cause = .nestedTooDeeply)

/-- A cursor whose errors are none about depth, with the words behind it still to be read. -/
structure Clean (cursor : Cursor) : Prop where
  shallow : cursor.tooDeep = false
  other : ∀ error ∈ cursor.reported, error.cause ≠ .nestedTooDeeply

/-- Reading leads to a clean cursor, or gives up at one and finds no tree. -/
inductive Kept : Result → Prop
  | clean (tree : Option Expression) (cursor : Cursor) (clean : Clean cursor) : Kept (tree, cursor)
  | givenUp (cursor : Cursor) (place : Place) (clean : Clean cursor) :
      Kept (none, cursor.abandon place)

section Keeping

variable {cursor : Cursor}

/-- Reading a word. -/
theorem clean_advance (clean : Clean cursor) : Clean cursor.advance := ⟨clean.shallow, clean.other⟩

/-- Noting an error about something else. -/
theorem clean_report (clean : Clean cursor) {cause : SyntaxError.Cause}
    (other : cause ≠ .nestedTooDeeply) (place : Place) : Clean (cursor.report cause place) :=
  ⟨clean.shallow, List.forall_mem_cons.mpr ⟨other, clean.other⟩⟩

/-- Noting a mismatch and skipping what cannot be read behind it. -/
theorem clean_mismatch (clean : Clean cursor) (expected : Expected) :
    Clean (cursor.mismatch expected) :=
  have noted : Clean (cursor.report (.mismatched cursor.found expected) cursor.place) :=
    clean_report clean (by simp) _
  ⟨noted.shallow, noted.other⟩

/-- Reading or missing a closing parenthesis. -/
theorem clean_close (clean : Clean cursor) : Clean cursor.close := by
  unfold Cursor.close
  split
  · exact clean_advance clean
  · exact clean_report clean (by simp) _

/-- Looking for the end of the text. -/
theorem clean_finished (clean : Clean cursor) : Clean cursor.finished := by
  unfold Cursor.finished
  split
  · exact clean
  · exact clean_report clean (by simp) _

/-- A comparison, whether or not its words make one. -/
theorem clean_comparison (clean : Clean cursor) (field : FieldReference) :
    Clean (comparison field cursor).2 := by
  unfold comparison
  split
  · exact clean_mismatch clean _
  · split
    · exact clean_mismatch clean _
    · dsimp only
      split
      · exact clean_advance (clean_advance clean)
      · exact clean_mismatch (clean_advance clean) _

/-- Where words are ahead, reading has not been given up. -/
theorem clean_of_ahead {tree : Option Expression} (kept : Kept (tree, cursor)) {word : Token}
    {rest : List Token} (ahead : cursor.ahead = word :: rest) : Clean cursor := by
  cases kept with
  | clean _ _ clean => exact clean
  | givenUp before place clean => cases ahead

/-- Where there is a tree, reading has not been given up. -/
theorem clean_of_tree {tree : Expression} (kept : Kept (some tree, cursor)) : Clean cursor := by
  cases kept with
  | clean _ _ clean => exact clean

/-- What a connective joins is kept as the operand on its right is. -/
theorem kept_joint {right : Option Expression} (kept : Kept (right, cursor))
    (connective : Connective) (left : Option Expression) :
    Kept (joint connective left right, cursor) := by
  cases kept with
  | clean _ _ clean => exact .clean _ _ clean
  | givenUp before place clean =>
    have nothing : joint connective left none = none := by cases left <;> rfl
    rw [nothing]
    exact .givenUp before place clean

/-- Where reading was given up, there are no links to read. -/
theorem read_given_up (allowance rounds : Nat) (cursor : Cursor) (place : Place) :
    (Task.links rounds none).read allowance (cursor.abandon place) =
      (none, cursor.abandon place) :=
  links_stop stops_nil

/-- Links are kept if what is on their left is, and each of their operands. -/
theorem kept_links {allowance : Nat}
    (keeps : ∀ cursor, Clean cursor → Kept (Task.operand.read allowance cursor)) (rounds : Nat)
    (left : Option Expression) (cursor : Cursor) (kept : Kept (left, cursor)) :
    Kept ((Task.links rounds left).read allowance cursor) := by
  induction rounds generalizing left cursor with
  | zero => exact kept
  | succ rounds inductionHypothesis =>
    have round := round_links allowance rounds left cursor
    generalize (Task.links (rounds + 1) left).read allowance cursor = result at round
    cases round with
    | ended stops => exact kept
    | deep word connective rest right next tree ahead joins read joined deep =>
      have onRight := keeps cursor.advance (clean_advance (clean_of_ahead kept ahead))
      rw [read] at onRight
      exact .givenUp next word.place (clean_of_tree (joined ▸ kept_joint onRight connective left))
    | next word connective rest right next ahead joins read within =>
      have onRight := keeps cursor.advance (clean_advance (clean_of_ahead kept ahead))
      rw [read] at onRight
      exact inductionHypothesis _ next (kept_joint onRight connective left)

/-- A group is kept if what it holds is. -/
theorem kept_group {inner : Result} (kept : Kept inner) (place : Place) :
    Kept (group place inner) := by
  cases kept with
  | givenUp before inside clean => exact .givenUp before inside clean
  | clean tree cursor clean =>
    simp only [group, clean.shallow, Bool.false_eq_true, if_false]
    split
    · exact .clean _ _ (clean_close clean)
    · split
      · exact .givenUp _ _ (clean_close clean)
      · exact .clean _ _ (clean_close clean)

/-- A chain is kept if each of its operands is. -/
theorem kept_chain {allowance : Nat}
    (keeps : ∀ cursor, Clean cursor → Kept (Task.operand.read allowance cursor))
    (clean : Clean cursor) : Kept (Task.chain.read allowance cursor) := by
  rw [read_chain (Prod.eta _).symm]
  exact kept_links keeps _ _ _ (keeps cursor clean)

/-- An operand is kept, however many parentheses may be opened in it. -/
theorem kept_operand (allowance : Nat) (cursor : Cursor) (clean : Clean cursor) :
    Kept (Task.operand.read allowance cursor) := by
  induction allowance generalizing cursor with
  | zero =>
    rw [Task.read]
    unfold operand
    split
    · exact .givenUp cursor _ clean
    · exact .clean _ _ (clean_comparison (clean_advance clean) _)
    · exact .clean _ _ (clean_mismatch clean _)
  | succ allowance inductionHypothesis =>
    rw [Task.read]
    unfold operand
    split
    · exact kept_group (kept_chain inductionHypothesis (clean_advance clean)) _
    · exact .clean _ _ (clean_comparison (clean_advance clean) _)
    · exact .clean _ _ (clean_mismatch clean _)

end Keeping

section Sealing

/-- A task may begin at a cursor: at a clean one, or for links at what was kept on their left. -/
def Ready : Task → Cursor → Prop
  | .links _ left, cursor => Kept (left, cursor)
  | _, cursor => Clean cursor

/-- A stage is clean, or reading was given up just before it and its task ends there. -/
inductive Sealed (middle : Cursor) (result : Result) : Prop
  | clean (clean : Clean middle)
  | givenUp (cursor : Cursor) (place : Place) (clean : Clean cursor)
      (given : middle = cursor.abandon place) (treeless : result = (none, middle))

/-- A task that may begin is kept. -/
theorem kept_task (allowance : Nat) {task : Task} {cursor : Cursor} (ready : Ready task cursor) :
    Kept (task.read allowance cursor) := by
  cases task with
  | operand => exact kept_operand allowance cursor ready
  | chain => exact kept_chain (kept_operand allowance) ready
  | links rounds left => exact kept_links (kept_operand allowance) rounds left cursor ready

/-- What is kept is sealed at its end. -/
theorem sealed_of_kept {result : Result} (kept : Kept result) : Sealed result.2 result := by
  cases kept with
  | clean tree cursor clean => exact .clean clean
  | givenUp cursor place clean => exact .givenUp cursor place clean rfl rfl

/-- Every stage of a task is sealed.

The induction is on the way to the stage. Where reading was given up inside, nothing is ahead and
there is no tree, so every task around it ends at the same cursor. -/
theorem sealed_passes {allowance : Nat} {task : Task} {cursor middle : Cursor}
    (passes : Passes allowance task cursor middle) (ready : Ready task cursor) :
    Sealed middle (task.read allowance cursor) := by
  induction passes with
  | begins allowance task cursor =>
    cases task with
    | operand => exact .clean ready
    | chain => exact .clean ready
    | links rounds left =>
      cases ready with
      | clean _ _ clean => exact .clean clean
      | givenUp before place clean =>
        exact .givenUp before place clean rfl (read_given_up allowance rounds before place)
  | ends allowance task cursor => exact sealed_of_kept (kept_task allowance ready)
  | inside allowance cursor middle opening rest ahead opens passes inductionHypothesis =>
    cases inductionHypothesis (clean_advance ready) with
    | clean clean => exact .clean clean
    | givenUp before place clean given treeless =>
      refine .givenUp before place clean given ?_
      rw [read_group ahead opens, treeless, given]
      rfl
  | closed allowance cursor opening rest ahead opens shallow =>
    have kept := kept_chain (kept_operand allowance) (clean_advance ready)
    generalize Task.chain.read allowance cursor.advance = result at kept shallow
    cases kept with
    | clean tree last clean => exact .clean (clean_close clean)
    | givenUp before place clean => cases shallow
  | first allowance cursor middle passes inductionHypothesis =>
    cases inductionHypothesis ready with
    | clean clean => exact .clean clean
    | givenUp before place clean given treeless =>
      refine .givenUp before place clean given ?_
      rw [read_chain treeless, given]
      exact read_given_up allowance _ before place
  | behind allowance cursor middle next first read passes inductionHypothesis =>
    rw [read_chain read]
    have kept : Kept (first, next) := read ▸ kept_operand allowance cursor ready
    exact inductionHypothesis kept
  | right allowance rounds left cursor middle word connective rest ahead joins passes
      inductionHypothesis =>
    cases inductionHypothesis (clean_advance (clean_of_ahead ready ahead)) with
    | clean clean => exact .clean clean
    | givenUp before place clean given treeless =>
      refine .givenUp before place clean given ?_
      have nothing : joint connective left none = none := by cases left <;> rfl
      rw [read_link ahead joins treeless (by simp [nothing]), nothing, given]
      exact read_given_up allowance rounds before place
  | next allowance rounds left cursor middle next word connective rest right ahead joins read
      within passes inductionHypothesis =>
    rw [read_link ahead joins read within]
    have kept : Kept (right, next) :=
      read ▸ kept_operand allowance cursor.advance (clean_advance (clean_of_ahead ready ahead))
    exact inductionHypothesis (kept_joint kept connective left)

end Sealing

section Counting

/-- Whether a word adds a level to a tree. -/
def nests (word : Token) : Bool :=
  match word.kind with
  | .opening => true
  | .connective _ => true
  | _ => false

/-- Reading leads to a clean cursor, and a tree that it finds is at most one deeper than there were
words that add a level. -/
structure Flat (bound : Nat) (result : Result) : Prop where
  clean : Clean result.2
  depth : ∀ tree ∈ result.1, tree.depth + result.2.ahead.countP nests ≤ bound + 1

variable {cursor : Cursor}

/-- Words that are ahead later are ahead before. -/
theorem count_leads {before after : Cursor} (leads : Leads before after) :
    after.ahead.countP nests ≤ before.ahead.countP nests :=
  leads.ahead.sublist.countP_le

/-- A word that adds a level is one more than those behind it. -/
theorem count_advance {word : Token} {rest : List Token} (ahead : cursor.ahead = word :: rest)
    (adds : nests word = true) :
    cursor.ahead.countP nests = cursor.advance.ahead.countP nests + 1 := by
  simp [Cursor.advance, ahead, adds]

/-- Where there is no tree, none is too deep. -/
theorem flat_none (bound : Nat) (clean : Clean cursor) : Flat bound (none, cursor) :=
  ⟨clean, by simp⟩

/-- A comparison is one deep. -/
theorem flat_comparison (clean : Clean cursor) (field : FieldReference) :
    Flat (cursor.ahead.countP nests) (comparison field cursor.advance) := by
  refine ⟨clean_comparison (clean_advance clean) field, ?_⟩
  intro tree found
  obtain ⟨operator, literal, test, -, -, rfl⟩ := comparison_sound (Prod.ext found rfl)
  have fewer := count_leads (leads_trans (leads_advance cursor) (leads_comparison field _))
  simp only [Expression.depth]
  omega

/-- What a connective joins is flat if both of its sides are: the connective itself is the word that
makes the tree one deeper. -/
theorem flat_joint {bound : Nat} {connective : Connective} {left right : Option Expression}
    {next : Cursor} (one : cursor.ahead.countP nests = cursor.advance.ahead.countP nests + 1)
    (onLeft : Flat bound (left, cursor))
    (onRight : Flat (cursor.advance.ahead.countP nests) (right, next))
    (fewer : next.ahead.countP nests ≤ cursor.advance.ahead.countP nests) :
    Flat bound (joint connective left right, next) := by
  refine ⟨onRight.clean, ?_⟩
  intro tree joined
  cases left with
  | none => cases joined
  | some before =>
    cases right with
    | none => cases joined
    | some behind =>
      obtain rfl := Option.some.inj joined
      have first : before.depth + cursor.ahead.countP nests ≤ bound + 1 := onLeft.depth before rfl
      have second := onRight.depth behind rfl
      have positive := depth_pos before
      simp only [Expression.depth] at second ⊢
      omega

/-- Links are flat if each of their operands is and what is on their left. -/
theorem flat_links {allowance bound : Nat} (within : bound < maximumDepth)
    (flat : ∀ cursor : Cursor, Clean cursor → cursor.ahead.countP nests ≤ bound →
      Flat (cursor.ahead.countP nests) (Task.operand.read allowance cursor)) (rounds : Nat)
    (left : Option Expression) (cursor : Cursor) (few : cursor.ahead.countP nests ≤ bound)
    (start : Flat bound (left, cursor)) :
    Flat bound ((Task.links rounds left).read allowance cursor) := by
  induction rounds generalizing left cursor with
  | zero => exact start
  | succ rounds inductionHypothesis =>
    have round := round_links allowance rounds left cursor
    generalize (Task.links (rounds + 1) left).read allowance cursor = result at round
    -- What a round joins is flat, whether or not the limit then lets it go on.
    have grown : ∀ {word : Token} {connective : Connective} {rest : List Token}
        {right : Option Expression} {next : Cursor}, cursor.ahead = word :: rest →
        word.kind = .connective connective →
        Task.operand.read allowance cursor.advance = (right, next) →
        next.ahead.countP nests ≤ bound ∧ Flat bound (joint connective left right, next) := by
      intro word connective rest right next ahead joins read
      have one := count_advance ahead (by simp [nests, joins])
      have onRight := flat cursor.advance (clean_advance start.clean) (by omega)
      have fewer := count_leads (leads_task allowance .operand cursor.advance)
      rw [read] at onRight fewer
      exact ⟨by dsimp only at fewer; omega, flat_joint one start onRight fewer⟩
    cases round with
    | ended stops => exact start
    | deep word connective rest right next tree ahead joins read joined deep =>
      have bounded := (grown ahead joins read).2.depth tree joined
      omega
    | next word connective rest right next ahead joins read within =>
      obtain ⟨later, flatJoint⟩ := grown ahead joins read
      exact inductionHypothesis _ next later flatJoint

/-- A chain is flat if each of its operands is. -/
theorem flat_chain {allowance bound : Nat} (within : bound < maximumDepth)
    (flat : ∀ cursor : Cursor, Clean cursor → cursor.ahead.countP nests ≤ bound →
      Flat (cursor.ahead.countP nests) (Task.operand.read allowance cursor))
    (clean : Clean cursor) (few : cursor.ahead.countP nests = bound) :
    Flat bound (Task.chain.read allowance cursor) := by
  have first := flat cursor clean (by omega)
  have fewer := count_leads (leads_task allowance .operand cursor)
  rw [few] at first
  rw [read_chain (Prod.eta _).symm]
  exact flat_links within flat _ _ _ (by omega) first

/-- A group is flat if what it holds is. -/
theorem flat_group {bound : Nat} (within : bound + 1 < maximumDepth) {inner : Result}
    (flat : Flat bound inner) (place : Place) : Flat (bound + 1) (group place inner) := by
  obtain ⟨tree, cursor⟩ := inner
  have fewer := count_leads (leads_close cursor)
  have closed : Clean cursor.close := clean_close flat.clean
  have shallow : cursor.tooDeep = false := flat.clean.shallow
  simp only [group, shallow, Bool.false_eq_true, if_false]
  cases tree with
  | none => exact flat_none _ closed
  | some inside =>
    have depth : inside.depth + cursor.ahead.countP nests ≤ bound + 1 := flat.depth inside rfl
    have bounded : (Expression.grouped inside).depth + cursor.close.ahead.countP nests ≤
        bound + 1 + 1 := by
      simp only [Expression.depth]
      omega
    have enough : ¬ maximumDepth < (Expression.grouped inside).depth := by omega
    simp only [if_neg enough]
    refine ⟨closed, ?_⟩
    intro tree found
    obtain rfl := Option.some.inj found
    exact bounded

/-- An operand is flat where fewer words add a level than parentheses may be opened. -/
theorem flat_operand (allowance : Nat) (within : allowance ≤ maximumDepth) (cursor : Cursor)
    (clean : Clean cursor) (few : cursor.ahead.countP nests < allowance) :
    Flat (cursor.ahead.countP nests) (Task.operand.read allowance cursor) := by
  induction allowance generalizing cursor with
  | zero => omega
  | succ allowance inductionHypothesis =>
    rw [Task.read]
    unfold operand
    split
    · rename_i text place rest ahead
      have one := count_advance ahead rfl
      rw [one]
      refine flat_group (by omega) (flat_chain (by omega) ?_ (clean_advance clean) rfl) place
      intro inside cleanInside fewInside
      exact inductionHypothesis (by omega) inside cleanInside (by omega)
    · exact flat_comparison clean _
    · exact flat_none _ (clean_mismatch clean _)

end Counting

/-- The cursor when all words of a text have been read and its end was looked for. -/
def finalCursor (source : String) : Cursor :=
  (Task.chain.read maximumDepth (.start (Scan.ofText source.toList))).2.finished

/-- Before its words are read, nothing is noted about a text. -/
theorem clean_start (scan : Scan) : Clean (.start scan) := ⟨rfl, by simp [Cursor.start]⟩

/-- Looking for the end of the text takes back no error. -/
theorem reported_finished (cursor : Cursor) : cursor.reported <:+ cursor.finished.reported := by
  unfold Cursor.finished
  split
  · exact List.suffix_refl _
  · exact List.suffix_cons _ _

/-- No error of a scan is about depth. -/
theorem scanned_other {before ahead : List Char} {words : List Token} {faults : List SyntaxError}
    (segmented : Segmented before ahead words faults) :
    ∀ fault ∈ faults, fault.cause ≠ .nestedTooDeeply := by
  intro fault member
  rcases cause_of_segmented segmented fault member with ⟨quoted, cause⟩ | cause
  all_goals simp [cause]

/-- Errors of which none is about depth are counted as none. -/
theorem count_other {errors : List SyntaxError}
    (other : ∀ error ∈ errors, error.cause ≠ .nestedTooDeeply) :
    errors.countP isDepthError = 0 := by
  rw [List.countP_eq_zero]
  intro error member
  simpa [isDepthError] using other error member

/-- At most one error of a reading is about depth. -/
theorem count_reported {result : Result} (kept : Kept result) :
    result.2.finished.reported.countP isDepthError ≤ 1 := by
  cases kept with
  | clean tree cursor clean =>
    rw [count_other (clean_finished clean).other]
    exact Nat.zero_le 1
  | givenUp cursor place clean =>
    have last : (cursor.abandon place).finished.reported =
        ⟨.nestedTooDeeply, place⟩ :: cursor.reported := rfl
    simp [last, isDepthError, count_other clean.other]

/-- A text that is refused is told at most once that it is too deep. -/
theorem count_refused {source : String} {errors : List SyntaxError}
    (refused : Condition.compile source = .error errors) : errors.countP isDepthError ≤ 1 := by
  have scanned := count_other (scanned_other (segmented_text source.toList))
  have noted := count_reported (kept_task maximumDepth
    (show Ready .chain (.start (Scan.ofText source.toList)) from clean_start _))
  rw [refused_noted refused, SyntaxError.inOrder, (List.mergeSort_perm _ _).countP_eq,
    List.countP_append, scanned, List.countP_reverse, Nat.zero_add]
  exact noted

/-- What is noted up to a stage of reading is noted in the end. If the error about depth was noted up
to it, it was the last one to be noted, and nothing else is. -/
theorem reported_passes {source : String} {middle : Cursor}
    (passes : Passes maximumDepth .chain (.start (Scan.ofText source.toList)) middle) :
    middle.reported <:+ (finalCursor source).reported ∧
      ((∃ error ∈ middle.reported, error.cause = .nestedTooDeeply) →
        (finalCursor source).reported = middle.reported ∧
          ∃ place earlier, middle.reported = ⟨.nestedTooDeeply, place⟩ :: earlier) := by
  refine ⟨(leads_passes passes).2.reported.trans (reported_finished _), ?_⟩
  rintro ⟨error, member, deep⟩
  cases sealed_passes passes (clean_start _) with
  | clean clean => exact absurd deep (clean.other error member)
  | givenUp cursor place clean given treeless =>
    rw [finalCursor, treeless, given]
    exact ⟨rfl, place, cursor.reported, rfl⟩

/-- A text with fewer than 128 words that add a level is not told that it is too deep. -/
theorem refused_flat {source : String} {errors : List SyntaxError}
    (few : (Scan.ofText source.toList).tokens.countP nests < 128)
    (refused : Condition.compile source = .error errors) :
    ∀ error ∈ errors, error.cause ≠ .nestedTooDeeply := by
  have flat : ∀ cursor : Cursor, Clean cursor →
      cursor.ahead.countP nests ≤ (Scan.ofText source.toList).tokens.countP nests →
      Flat (cursor.ahead.countP nests) (Task.operand.read maximumDepth cursor) :=
    fun cursor clean fewer => flat_operand maximumDepth (Nat.le_refl _) cursor clean
      (Nat.lt_of_le_of_lt fewer few)
  have read := flat_chain few flat (clean_start (Scan.ofText source.toList)) rfl
  intro error member
  rw [refused_noted refused, SyntaxError.inOrder, List.mem_mergeSort, List.mem_append,
    List.mem_reverse] at member
  rcases member with fault | noted
  · exact scanned_other (segmented_text source.toList) error fault
  · exact (clean_finished read.clean).other error noted

/-- A text whose words derive a tree that is too deep is refused with one error, which says so. -/
theorem refused_deep {source : String} {tree : Expression}
    (faultless : (Scan.ofText source.toList).faults = [])
    (derived : Derives .condition (Scan.ofText source.toList).tokens tree)
    (deep : 128 < tree.depth) :
    ∃ place, Condition.compile source = .error [⟨.nestedTooDeeply, place⟩] := by
  obtain ⟨place, unread⟩ := parse_too_deep faultless derived deep
  exact ⟨place, by simp only [Condition.compile, unread]⟩

/-- The error about depth is the one with the message `expression nested too deeply`. The errors of a
text are those of its scan and those that reading its words has noted in the end, and at most one of
them is about depth. What is noted up to any stage of reading is noted in the end, and once it was
noted that the text is too deep, this is the last error that is noted. A text whose words derive a
tree that is more than 128 deep has this error only. A text with fewer than 128 opened parentheses
and connectives, whatever else is in it, does not have it. -/
theorem depth_error_once (source : String) :
    (∀ error : SyntaxError,
      (isDepthError error = true ↔ error.message = "expression nested too deeply") ∧
      (error.cause = .nestedTooDeeply ↔ error.message = "expression nested too deeply")) ∧
    (∀ errors, Condition.compile source = .error errors →
      errors = SyntaxError.inOrder
        ((Scan.ofText source.toList).faults ++ (finalCursor source).reported.reverse) ∧
      errors.countP isDepthError ≤ 1) ∧
    (∀ middle, Passes maximumDepth .chain (.start (Scan.ofText source.toList)) middle →
      middle.reported <:+ (finalCursor source).reported ∧
      ((∃ error ∈ middle.reported, error.cause = .nestedTooDeeply) →
        (finalCursor source).reported = middle.reported ∧
          ∃ place earlier, middle.reported = ⟨.nestedTooDeeply, place⟩ :: earlier)) ∧
    (∀ tree, (Scan.ofText source.toList).faults = [] →
      Derives .condition (Scan.ofText source.toList).tokens tree → 128 < tree.depth →
        ∃ place, Condition.compile source = .error [⟨.nestedTooDeeply, place⟩]) ∧
    ((Scan.ofText source.toList).tokens.countP nests < 128 →
      ∀ errors, Condition.compile source = .error errors →
        ∀ error ∈ errors, error.cause ≠ .nestedTooDeeply) := by
  refine ⟨?_, ?_, fun middle => reported_passes, fun tree => refused_deep, fun few errors =>
    refused_flat few⟩
  · intro error
    have wording : error.cause = .nestedTooDeeply ↔
        error.message = "expression nested too deeply" := message_nested_too_deeply_iff.symm
    exact ⟨decide_eq_true_iff.trans wording, wording⟩
  · intro errors refused
    exact ⟨refused_noted refused, count_refused refused⟩

/-- A comparison in so many groups. -/
def groups : Nat → Expression
  | 0 => .comparison ⟨⟨"a", 0⟩, .text .contains "x"⟩
  | levels + 1 => .grouped (groups levels)

/-- A comparison in 64 groups with so many links behind it, each with a group on its right. -/
def tower : Nat → Expression
  | 0 => groups 64
  | links + 1 => .joined .or (tower links) (groups 1)

/-- Every comparison in groups is valid. -/
theorem valid_groups (levels : Nat) : ∀ leaf ∈ (groups levels).comparisons, Valid leaf := by
  induction levels with
  | zero =>
    have named : IsName "a".toList := by decide +kernel
    have plain : ValidLiteral (.text .contains "x") := by simp [ValidLiteral]
    simp only [groups, Expression.comparisons, List.forall_mem_cons]
    exact ⟨⟨named, by simp, plain⟩, by simp⟩
  | succ levels inductionHypothesis => exact inductionHypothesis

/-- Every comparison of a tower is valid. -/
theorem valid_tower (links : Nat) : ∀ leaf ∈ (tower links).comparisons, Valid leaf := by
  induction links with
  | zero => exact valid_groups 64
  | succ links inductionHypothesis =>
    exact List.forall_mem_append.mpr ⟨inductionHypothesis, valid_groups 1⟩

/-- A text with groups and links that are 129 levels together is refused with the error about depth
only, and a text with errors of many kinds does not have it. -/
theorem deep_and_broken_refused :
    (∃ tree, Derives .condition (Scan.ofText (tower 64).normalText.toList).tokens tree ∧
      128 < tree.depth ∧
      ∃ place, Condition.compile (tower 64).normalText = .error [⟨.nestedTooDeeply, place⟩]) ∧
    Condition.compile brokenSource = .error brokenErrors ∧
      ∀ error ∈ brokenErrors, error.cause ≠ .nestedTooDeeply := by
  obtain ⟨faultless, tree, derived, agrees⟩ := derives_normal (valid_tower 64)
  have deep : 128 < tree.depth := by
    rw [← depth_unplaced, agrees, depth_unplaced]
    decide +kernel
  obtain ⟨-, -, -, onlyDeep, -⟩ := depth_error_once (tower 64).normalText
  obtain ⟨-, -, -, -, neverDeep⟩ := depth_error_once brokenSource
  exact ⟨⟨tree, derived, deep, onlyDeep tree faultless derived deep⟩, broken_refused,
    neverDeep (by decide +kernel) brokenErrors broken_refused⟩

end RecordRules.DepthErrors
