import RecordRules.Proofs.Condition.Rendering

/-!
# What a text is cut into

Whatever text is scanned, each of its words is a spelling of its kind: a field has a name that is
no keyword, a number is the value of a numeral, a text literal holds no quote and a list literal
is balanced to its last bracket. And in a text without an error no field named `not` stands in
front of an `in`, since the two would have been one word.

Spelling is therefore exact. What can be spelled is read as it is spelled, and what is read is
spelled.
-/

namespace RecordRules.Lexing

open Number Text Lexeme Characters Spelling Rendering

/-- How the first piece of a text comes about, by the first character of the text. Only a number
takes what stands in front of its digits for a sign. -/
inductive Cut (first : Char) (rest : List Char) : Piece × List Char → Prop
  | blank (isBlank : isBlank first = true) :
      Cut first rest (⟨first :: rest.takeWhile Text.isBlank, .blank⟩, rest.dropWhile Text.isBlank)
  | symbol (kind : Token.Kind) (chars behind : List Char)
      (found : Piece.splitSymbol (first :: rest) = some (kind, chars, behind)) :
      Cut first rest (⟨chars, .word kind⟩, behind)
  | text (quote : first = '"') : Cut first rest (Piece.ofText rest)
  | list (bracket : first = '[') : Cut first rest (Piece.ofList (first :: rest))
  | unsigned (digit : first.isDigit = true) : Cut first rest (Piece.ofNumber [] (first :: rest))
  | signed (sign : first = '-' ∨ first = '+') (follows : rest.head?.any Char.isDigit = true) :
      Cut first rest (Piece.ofNumber [first] rest)
  | word (begins : beginsWord first = true) : Cut first rest (Piece.ofWord (first :: rest))
  | stray : Cut first rest (⟨[first], .fault (.unrecognized (String.singleton first))⟩, rest)

/-- Every text is cut in one of these ways. -/
theorem cut_split (first : Char) (rest : List Char) :
    Cut first rest (Piece.split first rest) := by
  unfold Piece.split
  split
  · rename_i isBlank
    exact .blank isBlank
  · split
    · rename_i found
      exact .symbol _ _ _ found
    · split
      · rename_i quote
        exact .text quote
      · split
        · rename_i bracket
          exact .list bracket
        · split
          · rename_i digit
            exact .unsigned digit
          · split
            · rename_i signed
              exact .signed signed.1 signed.2
            · split
              · rename_i begins
                exact .word begins
              · exact .stray

/-- A symbol that is found is spelled as symbols are. -/
theorem symbol_of_split {text chars behind : List Char} {kind : Token.Kind}
    (found : Piece.splitSymbol text = some (kind, chars, behind)) : symbol? kind = some chars := by
  unfold Piece.splitSymbol at found
  split at found
  all_goals
    simp only [Option.some.injEq, Prod.mk.injEq, reduceCtorEq] at found
  all_goals
    obtain ⟨rfl, rfl, _⟩ := found
    rfl

/-- The content of a text literal ends at its first quote. -/
theorem plain_of_split {text content behind : List Char}
    (split : splitText text = some (content, behind)) : '"' ∉ content := by
  induction text generalizing content with
  | nil => simp [splitText] at split
  | cons char rest inductionHypothesis =>
    simp only [splitText] at split
    split at split
    · obtain ⟨rfl, _⟩ := Prod.mk.inj (Option.some.inj split)
      exact List.not_mem_nil
    · rename_i other
      simp only [Option.map_eq_some_iff, Prod.mk.injEq, Prod.exists] at split
      obtain ⟨later, _, found, rfl, rfl⟩ := split
      rw [List.mem_cons, not_or]
      exact ⟨fun same => other same.symm, inductionHypothesis found⟩

/-- A character in front of a split is in front of the literal of the split as well. -/
theorem extend_self {char : Char} {short : Option (List Char × List Char)}
    {long : List Char → Option (List Char × List Char)} {literal behind : List Char}
    (split : splitList.extend char short = some (literal, behind))
    (later : ∀ {literal : List Char}, short = some (literal, behind) →
      long literal = some (literal, [])) :
    ∃ tail, literal = char :: tail ∧ splitList.extend char (long tail) = some (literal, []) := by
  simp only [splitList.extend, Option.map_eq_some_iff, Prod.mk.injEq, Prod.exists] at split
  obtain ⟨tail, _, found, rfl, rfl⟩ := split
  refine ⟨tail, rfl, ?_⟩
  rw [later found]
  rfl

/-- A list literal that is split off is balanced by itself. -/
theorem balanced_of_split {depth : Nat} {mode : ListMode} {text literal behind : List Char}
    (split : splitList depth mode text = some (literal, behind)) :
    splitList depth mode literal = some (literal, []) := by
  fun_induction splitList depth mode text generalizing literal with
  | case1 => simp at split
  | case8 =>
    simp only [Option.some.injEq, Prod.mk.injEq] at split
    simp [splitList, ← split.1]
  | case2 | case3 | case4 | case5 | case6 | case7 | case9 | case10 =>
    obtain ⟨tail, rfl, again⟩ := extend_self split (by assumption)
    simp only [splitList, *, if_false, if_true]

/-- A list literal that is split off begins with a bracket if its text does. -/
theorem bracket_of_split {rest literal behind : List Char}
    (split : splitList 0 .bare ('[' :: rest) = some (literal, behind)) :
    ∃ tail, literal = '[' :: tail := by
  have noQuote : ('[' : Char) ≠ '"' := by decide
  simp only [splitList, if_neg noQuote, if_true, splitList.extend, Option.map_eq_some_iff,
    Prod.mk.injEq, Prod.exists] at split
  obtain ⟨tail, _, _, rfl, _⟩ := split
  exact ⟨tail, rfl⟩

/-- A fraction that is split off is a point with digits, or nothing. -/
theorem fraction_of_split (text : List Char) :
    ∃ fraction : List Char, (∀ char ∈ fraction, char.isDigit = true) ∧
      (Lexeme.splitFraction text).1 = if fraction = [] then [] else '.' :: fraction := by
  unfold Lexeme.splitFraction
  split
  · rename_i rest
    split
    · exact ⟨[], by simp, rfl⟩
    · rename_i some
      refine ⟨rest.takeWhile Char.isDigit, fun char => of_mem_takeWhile, ?_⟩
      rw [if_neg some]
  · exact ⟨[], by simp, rfl⟩

/-- What is read from a sign and digits is a numeral with its value. -/
theorem numeral_of_number {sign text : List Char}
    (signed : sign = [] ∨ sign = ['-'] ∨ sign = ['+'])
    (starts : text.takeWhile Char.isDigit ≠ []) :
    ∃ numeral : Numeral, (Piece.ofNumber sign text).1 =
      ⟨numeral.chars, .word (.number numeral.value)⟩ := by
  obtain ⟨fraction, digits, point⟩ := fraction_of_split (text.dropWhile Char.isDigit)
  let numeral : Numeral := ⟨sign, text.takeWhile Char.isDigit, fraction, signed, starts,
    fun char => of_mem_takeWhile, digits⟩
  have chars : sign ++ (splitNumber text).1 = numeral.chars := by
    simp only [splitNumber, point]
    rfl
  refine ⟨numeral, ?_⟩
  unfold Piece.ofNumber
  simp only [chars, numeral.read_chars]

/-- Where a digit stands first, there are digits. -/
theorem digits_of_head {text : List Char} (follows : text.head?.any Char.isDigit = true) :
    text.takeWhile Char.isDigit ≠ [] := by
  cases text with
  | nil => cases follows
  | cons digit others =>
    have isDigit : digit.isDigit = true := follows
    rw [List.takeWhile_cons, if_pos isDigit]
    exact List.cons_ne_nil _ _

/-- A sign is one of those that numerals have. -/
theorem sign_of_char {sign : Char} (isSign : sign = '-' ∨ sign = '+') :
    [sign] = [] ∨ [sign] = ['-'] ∨ [sign] = ['+'] := by
  rcases isSign with rfl | rfl
  · exact .inr (.inl rfl)
  · exact .inr (.inr rfl)

/-- A number that is read from a sign and digits is the value of their numeral. -/
theorem spelled_number {sign text : List Char} {kind : Token.Kind}
    (signed : sign = [] ∨ sign = ['-'] ∨ sign = ['+'])
    (starts : text.takeWhile Char.isDigit ≠ [])
    (word : (Piece.ofNumber sign text).1.content = .word kind) :
    Spells (Piece.ofNumber sign text).1.chars kind := by
  obtain ⟨numeral, read⟩ := numeral_of_number signed starts
  rw [read] at word ⊢
  obtain rfl := Piece.Content.word.inj word
  exact .number numeral

/-- How a run of letters becomes a word: it is a keyword, a `not` that takes an `in` with it, or a
field. -/
inductive Worded (run behind : List Char) : Piece × List Char → Prop
  | keyword (kind : Token.Kind) (word : String) (known : keyword? kind = some word)
      (spelled : spells run word = true) : Worded run behind (⟨run, .word kind⟩, behind)
  | notIn (consumed later : List Char) (denies : spells run "not" = true)
      (found : splitIn behind = some (consumed, later)) :
      Worded run behind (⟨run ++ consumed, .word .notAmong⟩, later)
  | field (free : spells run "and" = false ∧ spells run "or" = false ∧ spells run "in" = false ∧
        spells run "notin" = false)
      (alone : spells run "not" = true → splitIn behind = none) :
      Worded run behind (⟨run, .word (.field (String.ofList run))⟩, behind)

/-- Every run of letters becomes a word in one of these ways. -/
theorem worded_of_word (text : List Char) :
    Worded (text.takeWhile continuesWord) (text.dropWhile continuesWord) (Piece.ofWord text) := by
  unfold Piece.ofWord
  dsimp only
  split
  · rename_i spelled
    exact .keyword _ "and" rfl spelled
  · rename_i noAnd
    split
    · rename_i spelled
      exact .keyword _ "or" rfl spelled
    · rename_i noOr
      split
      · rename_i spelled
        exact .keyword _ "in" rfl spelled
      · rename_i noIn
        split
        · rename_i spelled
          exact .keyword _ "notin" rfl spelled
        · rename_i noNotIn
          simp only [Bool.not_eq_true] at noAnd noOr noIn noNotIn
          split
          · rename_i denies
            split
            · rename_i consumed later found
              exact .notIn consumed later denies found
            · rename_i nothing
              exact .field ⟨noAnd, noOr, noIn, noNotIn⟩ fun _ => nothing
          · rename_i other
            exact .field ⟨noAnd, noOr, noIn, noNotIn⟩ fun denies => absurd denies other

/-- What a `not` takes with it is blanks and an `in`. -/
theorem in_of_split {text consumed later : List Char}
    (split : splitIn text = some (consumed, later)) :
    ∃ blanks last, consumed = blanks ++ last ∧ blanks ≠ [] ∧
      (∀ char ∈ blanks, isBlank char = true) ∧ spells last "in" = true := by
  simp only [splitIn] at split
  split at split
  · rename_i found
    obtain ⟨rfl, _⟩ := Prod.mk.inj (Option.some.inj split)
    exact ⟨_, _, rfl, found.1, fun char => of_mem_takeWhile, found.2⟩
  · cases split

/-- A run of letters is spelled as the word that it becomes. -/
theorem spelled_word {first : Char} {rest : List Char} {kind : Token.Kind}
    (begins : beginsWord first = true)
    (word : (Piece.ofWord (first :: rest)).1.content = .word kind) :
    Spells (Piece.ofWord (first :: rest)).1.chars kind := by
  have worded := worded_of_word (first :: rest)
  generalize Piece.ofWord (first :: rest) = result at word worded
  cases worded with
  | keyword kind name known spelled =>
    obtain rfl := Piece.Content.word.inj word
    exact .keyword _ _ name known spelled
  | notIn consumed later denies found =>
    obtain rfl := Piece.Content.word.inj word
    obtain ⟨blanks, last, rfl, some, blank, contains⟩ := in_of_split found
    exact .notIn _ blanks last denies some blank contains
  | field free alone =>
    obtain rfl := Piece.Content.word.inj word
    have starts : (first :: rest).takeWhile continuesWord =
        first :: rest.takeWhile continuesWord := by
      rw [List.takeWhile_cons, if_pos (continues_of_begins begins)]
    exact .field _ ⟨⟨first, _, starts, begins⟩, fun char => of_mem_takeWhile, free⟩

/-- A text literal that is read is spelled with its quotes. -/
theorem spelled_text {rest : List Char} {kind : Token.Kind}
    (word : (Piece.ofText rest).1.content = .word kind) :
    Spells (Piece.ofText rest).1.chars kind := by
  unfold Piece.ofText at word ⊢
  cases split : splitText rest with
  | none => simp [split] at word
  | some parts =>
    simp only [split] at word ⊢
    obtain rfl := Piece.Content.word.inj word
    exact .text parts.1 (plain_of_split split)

/-- A list literal that is read is spelled as it stands. -/
theorem spelled_list {rest : List Char} {kind : Token.Kind}
    (word : (Piece.ofList ('[' :: rest)).1.content = .word kind) :
    Spells (Piece.ofList ('[' :: rest)).1.chars kind := by
  unfold Piece.ofList at word ⊢
  cases split : splitList 0 .bare ('[' :: rest) with
  | none => simp [split] at word
  | some parts =>
    obtain ⟨literal, behind⟩ := parts
    simp only [split] at word ⊢
    obtain rfl := Piece.Content.word.inj word
    obtain ⟨tail, rfl⟩ := bracket_of_split split
    exact .list tail (balanced_of_split split)

/-- The first word of a text is a spelling of its kind. -/
theorem spelled_split {first : Char} {rest : List Char} {kind : Token.Kind}
    (word : (Piece.split first rest).1.content = .word kind) :
    Spells (Piece.split first rest).1.chars kind := by
  have cut := cut_split first rest
  generalize Piece.split first rest = result at word cut
  cases cut with
  | blank | stray => cases word
  | symbol kind chars behind found =>
    obtain rfl := Piece.Content.word.inj word
    exact .symbol chars kind (symbol_of_split found)
  | text quote => exact spelled_text word
  | list bracket =>
    subst bracket
    exact spelled_list word
  | unsigned digit => exact spelled_number (.inl rfl) (digits_of_head digit) word
  | signed sign follows => exact spelled_number (sign_of_char sign) (digits_of_head follows) word
  | word begins => exact spelled_word begins word

/-- Every word that a text is cut into is a spelling of its kind. -/
theorem spelled_pieces (text : List Char) :
    ∀ piece ∈ pieces text, ∀ kind, piece.content = .word kind → Spells piece.chars kind := by
  induction text using pieces.induct with
  | case1 => simp [pieces]
  | case2 first rest inductionHypothesis =>
    intro piece member kind word
    rw [pieces, List.mem_cons] at member
    rcases member with rfl | later
    · exact spelled_split word
    · exact inductionHypothesis piece later kind word

/-- What reading a literal leads to: a word that stands for a value, or an error. -/
inductive Literal : Piece.Content → Prop
  | number (value : Binary64) : Literal (.word (.number value))
  | text (content : String) : Literal (.word (.text content))
  | list (literal : String) : Literal (.word (.list literal))
  | fault (cause : SyntaxError.Cause) : Literal (.fault cause)

/-- A text literal is read or left unterminated. -/
theorem literal_text (rest : List Char) : Literal (Piece.ofText rest).1.content := by
  unfold Piece.ofText
  split
  · exact .text _
  · exact .fault _

/-- A list literal is read or left unterminated. -/
theorem literal_list (text : List Char) : Literal (Piece.ofList text).1.content := by
  unfold Piece.ofList
  split
  · exact .list _
  · exact .fault _

/-- A number is read or refused. -/
theorem literal_number (sign text : List Char) : Literal (Piece.ofNumber sign text).1.content := by
  unfold Piece.ofNumber
  dsimp only
  split
  · exact .number _
  · exact .fault _

/-- A field or an `in` is a run of letters. -/
theorem worded_of_split {first : Char} {rest : List Char} {kind : Token.Kind}
    (word : (Piece.split first rest).1.content = .word kind)
    (letters : kind = .among ∨ ∃ name, kind = .field name) :
    Worded ((first :: rest).takeWhile continuesWord) ((first :: rest).dropWhile continuesWord)
      (Piece.split first rest) := by
  have foreign : ¬ Literal (.word kind) := by
    intro literal
    rcases letters with rfl | ⟨name, rfl⟩ <;> cases literal
  have cut := cut_split first rest
  generalize Piece.split first rest = result at word cut
  cases cut with
  | blank | stray => cases word
  | symbol kind chars behind found =>
    obtain rfl := Piece.Content.word.inj word
    have only := symbol_of_split found
    rcases letters with rfl | ⟨name, rfl⟩ <;> cases only
  | text quote => exact absurd (word ▸ literal_text rest) foreign
  | list bracket => exact absurd (word ▸ literal_list (first :: rest)) foreign
  | unsigned digit => exact absurd (word ▸ literal_number [] (first :: rest)) foreign
  | signed sign follows => exact absurd (word ▸ literal_number [first] rest) foreign
  | word begins => exact worded_of_word (first :: rest)

/-- A text whose first word is an `in` begins with the letters of one. -/
theorem in_of_among {first : Char} {rest : List Char}
    (word : (Piece.split first rest).1.content = .word .among) :
    spells ((first :: rest).takeWhile continuesWord) "in" = true := by
  have worded := worded_of_split word (.inl rfl)
  generalize Piece.split first rest = result at word worded
  cases worded with
  | keyword kind name known spelled =>
    obtain rfl := Piece.Content.word.inj word
    obtain rfl := Option.some.inj known
    exact spelled
  | notIn | field => cases word

/-- Behind a field named `not` there is no `in`, and no more of the field. -/
theorem alone_of_field {first : Char} {rest : List Char} {name : String}
    (word : (Piece.split first rest).1.content = .word (.field name))
    (denies : spells name.toList "not" = true) :
    splitIn (Piece.split first rest).2 = none ∧
      Clear continuesWord (Piece.split first rest).2 := by
  have worded := worded_of_split word (.inr ⟨name, rfl⟩)
  generalize Piece.split first rest = result at word worded
  cases worded with
  | keyword kind name known spelled =>
    obtain rfl := Piece.Content.word.inj word
    cases known
  | notIn => cases word
  | field free alone =>
    obtain rfl := Token.Kind.field.inj (Piece.Content.word.inj word)
    rw [String.toList_ofList] at denies
    exact ⟨alone denies, clear_dropWhile _ _⟩

/-- Only a text that begins with a blank has blanks for its first piece. -/
theorem blank_of_split {first : Char} {rest : List Char}
    (content : (Piece.split first rest).1.content = .blank) : isBlank first = true := by
  have foreign : ¬ Literal .blank := by
    rintro ⟨⟩
  have cut := cut_split first rest
  generalize Piece.split first rest = result at content cut
  cases cut with
  | blank isBlank => exact isBlank
  | symbol | stray => cases content
  | text quote => exact absurd (content ▸ literal_text rest) foreign
  | list bracket => exact absurd (content ▸ literal_list (first :: rest)) foreign
  | unsigned digit => exact absurd (content ▸ literal_number [] (first :: rest)) foreign
  | signed sign follows => exact absurd (content ▸ literal_number [first] rest) foreign
  | word begins =>
    have worded := worded_of_word (first :: rest)
    generalize Piece.ofWord (first :: rest) = result at content worded
    cases worded <;> cases content

/-- In a text without an error the first word is no `in` where neither an `in` nor more of a word
before it is found. -/
theorem first_not_among {text : List Char} (nothing : splitIn text = none)
    (clear : Clear continuesWord text) (faultless : (pieces text).filterMap cause? = []) :
    ((pieces text).filterMap kind?).head? ≠ some .among := by
  have shown : Clear isBlank (text.dropWhile isBlank) := clear_dropWhile _ _
  have joined : text.takeWhile isBlank ++ text.dropWhile isBlank = text :=
    List.takeWhile_append_dropWhile
  have blanks : ∀ char ∈ text.takeWhile isBlank, isBlank char = true :=
    fun char => of_mem_takeWhile
  have gap := pieces_gap blanks shown
  have other : spells ((text.dropWhile isBlank).takeWhile continuesWord) "in" = false := by
    cases contains : spells ((text.dropWhile isBlank).takeWhile continuesWord) "in" with
    | false => rfl
    | true =>
      have none : text.takeWhile isBlank = [] := by
        by_contra some
        simp [splitIn, some, contains] at nothing
      rw [none, List.nil_append] at joined
      rw [joined, (take_clear clear).1] at contains
      cases contains
  rw [joined] at gap
  rw [gap.1]
  rw [gap.2] at faultless
  generalize text.dropWhile isBlank = later at other shown faultless
  cases later with
  | nil => simp [pieces]
  | cons first rest =>
    rw [pieces] at faultless ⊢
    cases content : (Piece.split first rest).1.content with
    | blank =>
      have blank := blank_of_split content
      simp [shown first rfl] at blank
    | fault cause => simp [cause?, content] at faultless
    | word kind =>
      have known : kind? (Piece.split first rest).1 = some kind := by simp [kind?, content]
      rw [List.filterMap_cons_some known, List.head?_cons]
      rintro ⟨⟩
      rw [in_of_among content] at other
      cases other

/-- In a text without an error no two words in a row would have been read as one. -/
theorem apart_pieces (text : List Char) (faultless : (pieces text).filterMap cause? = []) :
    ((pieces text).filterMap kind?).IsChain fun kind next => ¬ Merges kind next := by
  induction text using pieces.induct with
  | case1 => simp [pieces]
  | case2 first rest inductionHypothesis =>
    rw [pieces] at faultless ⊢
    cases content : (Piece.split first rest).1.content with
    | blank =>
      have noKind : kind? (Piece.split first rest).1 = none := by simp [kind?, content]
      have noCause : cause? (Piece.split first rest).1 = none := by simp [cause?, content]
      rw [List.filterMap_cons_none noCause] at faultless
      rw [List.filterMap_cons_none noKind]
      exact inductionHypothesis faultless
    | fault cause => simp [cause?, content] at faultless
    | word kind =>
      have known : kind? (Piece.split first rest).1 = some kind := by simp [kind?, content]
      have noCause : cause? (Piece.split first rest).1 = none := by simp [cause?, content]
      rw [List.filterMap_cons_none noCause] at faultless
      rw [List.filterMap_cons_some known, List.isChain_cons]
      refine ⟨?_, inductionHypothesis faultless⟩
      rintro next member ⟨name, rfl, denies, rfl⟩
      obtain ⟨nothing, clear⟩ := alone_of_field content denies
      exact first_not_among nothing clear faultless member

/-- Every word of a text has a spelling, the one that it has in the text. -/
theorem spelled_scan (text : List Char) :
    ∀ kind ∈ (Scan.ofText text).tokens.map Token.kind, ∃ chars, Spells chars kind := by
  rw [(scan_text text).1]
  intro kind member
  obtain ⟨piece, cut, known⟩ := List.mem_filterMap.mp member
  have word : piece.content = .word kind := by
    unfold kind? at known
    split at known
    · rename_i content
      rw [content, Option.some.inj known]
    · cases known
  exact ⟨piece.chars, spelled_pieces text piece cut kind word⟩

/-- In a text without an error no field named `not` stands in front of an `in`. -/
theorem apart_scan (text : List Char) (faultless : (Scan.ofText text).faults = []) :
    ((Scan.ofText text).tokens.map Token.kind).IsChain fun kind next => ¬ Merges kind next := by
  rw [(scan_text text).1]
  exact apart_pieces text ((scan_text text).2.mp faultless)

end RecordRules.Lexing
