import RecordRules.Proofs.Condition.Spelling

/-!
# Cutting a text behind its first word

Whatever word a text begins with, the first piece of the text is that word and nothing more, if
the word ends there. One law for each class of words says so; together they cover every spelling.
A run of blanks is a piece of its own, so the pieces of a written text are its words and the
blanks between them.
-/

namespace RecordRules.Cutting

open Number Text Lexeme Characters Spelling

/-- A symbol is found at the beginning of a text. The symbols of one character need what is behind
them to be no part of a longer symbol; the parentheses need nothing. -/
theorem split_symbol {chars behind : List Char} {kind : Token.Kind}
    (only : symbol? kind = some chars) (ends : kind = .opening ∨ Ends behind) :
    Piece.splitSymbol (chars ++ behind) = some (kind, chars, behind) := by
  have apart : ∀ rest, kind ≠ .opening → behind ≠ '=' :: rest := by
    intro rest other
    rcases ends with opening | ended
    · exact absurd opening other
    · exact not_head ended (by decide) (by decide) rest
  cases kind <;> simp only [symbol?, Option.some.injEq, reduceCtorEq] at only
  case greater | less =>
    subst only
    cases behind with
    | nil => rfl
    | cons char rest =>
      have other : char ≠ '=' := by
        rintro rfl
        exact apart rest (by simp) rfl
      simp [Piece.splitSymbol, other]
  all_goals
    subst only
    rfl

/-- A text that begins with none of the characters of symbols begins with no symbol. -/
theorem split_symbol_none {first : Char} (rest : List Char)
    (foreign : first ∉ ['(', ')', '>', '<', '=', '!']) :
    Piece.splitSymbol (first :: rest) = none := by
  simp only [List.mem_cons, List.not_mem_nil, or_false, not_or] at foreign
  unfold Piece.splitSymbol
  split
  all_goals simp_all

/-- A symbol is cut off. -/
theorem cut_symbol {chars behind : List Char} {kind : Token.Kind}
    (only : symbol? kind = some chars) (ends : kind = .opening ∨ Ends behind) :
    ∃ first tail, chars = first :: tail ∧
      Piece.split first (tail ++ behind) = (⟨chars, .word kind⟩, behind) := by
  have found := split_symbol only ends
  obtain ⟨first, tail, rfl, shown, _⟩ := first_symbol only
  refine ⟨first, tail, rfl, ?_⟩
  rw [List.cons_append] at found
  simp [Piece.split, shown, found]

/-- A text that begins like a word is looked at as a word. -/
theorem cut_word {first : Char} (rest : List Char) (begins : beginsWord first = true) :
    Piece.split first rest = Piece.ofWord (first :: rest) := by
  have shown : isBlank first = false := blank_of_continues (continues_of_begins begins)
  have outside : ∀ char, beginsWord char = false → first ≠ char :=
    fun char => ne_of_class begins
  have noSymbol : Piece.splitSymbol (first :: rest) = none := by
    apply split_symbol_none rest
    simp only [List.mem_cons, List.not_mem_nil, or_false, not_or]
    exact ⟨outside _ (by decide), outside _ (by decide), outside _ (by decide),
      outside _ (by decide), outside _ (by decide), outside _ (by decide)⟩
  have noDigit : first.isDigit = false := by
    cases digit : first.isDigit with
    | false => rfl
    | true => simp [begins_of_digit digit] at begins
  have noQuote : first ≠ '"' := outside _ (by decide)
  have noBracket : first ≠ '[' := outside _ (by decide)
  have noMinus : first ≠ '-' := outside _ (by decide)
  have noPlus : first ≠ '+' := outside _ (by decide)
  simp [Piece.split, shown, noSymbol, noQuote, noBracket, noDigit, noMinus, noPlus, begins]

/-- Letters begin words and go on with them. -/
theorem word_of_letters {chars : List Char}
    (letters : ∀ char ∈ chars, isAlphabetic char = true) :
    (∀ char ∈ chars, beginsWord char = true) ∧ ∀ char ∈ chars, continuesWord char = true := by
  have begins : ∀ char ∈ chars, beginsWord char = true := by
    intro char member
    simp [beginsWord, letters char member]
  exact ⟨begins, fun char member => continues_of_begins (begins char member)⟩

/-- A keyword is cut off, in whatever letter case it is written. -/
theorem cut_keyword {chars behind : List Char} {kind : Token.Kind} {word : String}
    (known : keyword? kind = some word) (spelled : spells chars word = true)
    (ends : Ends behind) :
    ∃ first tail, chars = first :: tail ∧
      Piece.split first (tail ++ behind) = (⟨chars, .word kind⟩, behind) := by
  have reserved : word ∈ reservedWords := reserved_keyword known
  obtain ⟨begins, continues⟩ := word_of_letters (letters_of_spells reserved spelled)
  obtain ⟨taken, dropped⟩ := take_run continues (clear_continues ends)
  obtain ⟨first, tail, rfl⟩ := cons_of_spells reserved spelled
  refine ⟨first, tail, rfl, ?_⟩
  rw [cut_word _ (begins first (by simp)), ← List.cons_append]
  have other : ∀ different, word ≠ different → spells (first :: tail) different = false :=
    fun different => spells_unique spelled
  simp only [Piece.ofWord, taken, dropped]
  cases kind with
  | connective joint =>
    cases joint <;> obtain rfl := Option.some.inj known
    · simp [spelled]
    · simp [spelled, other "and" (by decide)]
  | among =>
    obtain rfl := Option.some.inj known
    simp [spelled, other "and" (by decide), other "or" (by decide)]
  | notAmong =>
    obtain rfl := Option.some.inj known
    simp [spelled, other "and" (by decide), other "or" (by decide), other "in" (by decide)]
  | _ => simp [keyword?] at known

/-- The blanks and the `in` behind a `not` are found. -/
theorem split_in {blanks last behind : List Char} (some : blanks ≠ [])
    (blank : ∀ char ∈ blanks, isBlank char = true) (contains : spells last "in" = true)
    (ends : Ends behind) :
    splitIn (blanks ++ (last ++ behind)) = .some (blanks ++ last, behind) := by
  obtain ⟨begins, continues⟩ := word_of_letters
    (letters_of_spells (by simp [reservedWords]) contains)
  obtain ⟨first, tail, rfl⟩ := cons_of_spells (by simp [reservedWords]) contains
  have shown : Clear isBlank (first :: tail ++ behind) :=
    clear_cons (blank_of_continues (continues first (by simp)))
  obtain ⟨blanksTaken, blanksDropped⟩ := take_run blank shown
  obtain ⟨taken, dropped⟩ := take_run continues (clear_continues ends)
  simp only [splitIn, blanksTaken, blanksDropped, taken, dropped]
  rw [if_pos ⟨some, contains⟩]

/-- A `not` with an `in` behind it is cut off as one word. -/
theorem cut_not_in {first blanks last behind : List Char} (denies : spells first "not" = true)
    (some : blanks ≠ []) (blank : ∀ char ∈ blanks, isBlank char = true)
    (contains : spells last "in" = true) (ends : Ends behind) :
    ∃ head tail, first ++ (blanks ++ last) = head :: tail ∧
      Piece.split head (tail ++ behind) =
        (⟨first ++ (blanks ++ last), .word .notAmong⟩, behind) := by
  obtain ⟨begins, continues⟩ := word_of_letters
    (letters_of_spells (by simp [reservedWords]) denies)
  obtain ⟨head, tail, rfl⟩ := cons_of_spells (by simp [reservedWords]) denies
  obtain ⟨taken, dropped⟩ := take_run continues (clear_blanks some blank (last ++ behind))
  have other : ∀ different, "not" ≠ different → spells (head :: tail) different = false :=
    fun different => spells_unique denies
  refine ⟨head, tail ++ (blanks ++ last), rfl, ?_⟩
  rw [cut_word _ (begins head (by simp)), List.append_assoc, List.append_assoc,
    ← List.cons_append]
  simp only [Piece.ofWord, taken, dropped, split_in some blank contains ends]
  simp [denies, other "and" (by decide), other "or" (by decide), other "in" (by decide),
    other "notin" (by decide)]

/-- A name is cut off as a field; a name spelled `not` only if no `in` follows it. -/
theorem cut_field {chars behind : List Char} (name : IsName chars) (ends : Ends behind)
    (alone : spells chars "not" = true → splitIn behind = none) :
    ∃ first tail, chars = first :: tail ∧
      Piece.split first (tail ++ behind) =
        (⟨chars, .word (.field (String.ofList chars))⟩, behind) := by
  obtain ⟨first, tail, rfl, begins⟩ := name.begins
  obtain ⟨taken, dropped⟩ := take_run name.continues (clear_continues ends)
  obtain ⟨noAnd, noOr, noIn, noNotIn⟩ := name.free
  refine ⟨first, tail, rfl, ?_⟩
  rw [cut_word _ begins, ← List.cons_append]
  simp only [Piece.ofWord, taken, dropped, noAnd, noOr, noIn, noNotIn]
  cases denies : spells (first :: tail) "not" with
  | false => simp
  | true => simp [alone denies]

/-- A word that ends is followed by no digit and by no point, so its fraction ends too. -/
theorem split_fraction (numeral : Numeral) {behind : List Char} (ends : Ends behind) :
    Lexeme.splitFraction (numeral.point ++ behind) = (numeral.point, behind) := by
  obtain ⟨taken, dropped⟩ := take_run numeral.fraction_digits (clear_digits ends)
  unfold Numeral.point
  split
  · rw [List.nil_append]
    unfold Lexeme.splitFraction
    split
    · rename_i rest
      exact absurd rfl (not_head ends (by decide) (by decide) rest)
    · rfl
  · rename_i some
    simp [Lexeme.splitFraction, taken, dropped, some]

/-- The digits of a numeral are split off with their point. -/
theorem split_number (numeral : Numeral) {behind : List Char} (ends : Ends behind) :
    splitNumber (numeral.whole ++ (numeral.point ++ behind)) =
      (numeral.whole ++ numeral.point, behind) := by
  have separated : Clear Char.isDigit (numeral.point ++ behind) := by
    cases point : numeral.point with
    | nil => exact clear_digits ends
    | cons char rest =>
      have clear := numeral.clear_point
      rw [point] at clear
      exact clear_cons (clear char rfl)
  obtain ⟨taken, dropped⟩ := take_run numeral.whole_digits separated
  simp only [splitNumber, taken, dropped, split_fraction numeral ends]

/-- The piece of a numeral is its value. -/
theorem of_number (numeral : Numeral) {behind : List Char} (ends : Ends behind) :
    Piece.ofNumber numeral.sign (numeral.whole ++ (numeral.point ++ behind)) =
      (⟨numeral.chars, .word (.number numeral.value)⟩, behind) := by
  have read := numeral.read_chars
  unfold Numeral.chars at read
  simp only [Piece.ofNumber, split_number numeral ends, read, Numeral.chars]

/-- A text that begins with a digit is looked at as a number without a sign. -/
theorem cut_digit {first : Char} (rest : List Char) (digit : first.isDigit = true) :
    Piece.split first rest = Piece.ofNumber [] (first :: rest) := by
  have outside : ∀ char, char.isDigit = false → first ≠ char :=
    fun char => ne_of_class digit
  have noSymbol : Piece.splitSymbol (first :: rest) = none := by
    apply split_symbol_none rest
    simp only [List.mem_cons, List.not_mem_nil, or_false, not_or]
    exact ⟨outside _ (by decide), outside _ (by decide), outside _ (by decide),
      outside _ (by decide), outside _ (by decide), outside _ (by decide)⟩
  have shown : isBlank first = false := blank_of_continues (continues_of_digit digit)
  have noQuote : first ≠ '"' := outside _ (by decide)
  have noBracket : first ≠ '[' := outside _ (by decide)
  simp [Piece.split, shown, noSymbol, noQuote, noBracket, digit]

/-- A text that begins with a sign and a digit is looked at as a number with that sign. -/
theorem cut_sign {sign : Char} {rest : List Char} (isSign : sign = '-' ∨ sign = '+')
    (follows : rest.head?.any Char.isDigit = true) :
    Piece.split sign rest = Piece.ofNumber [sign] rest := by
  have noSymbol : Piece.splitSymbol (sign :: rest) = none :=
    split_symbol_none rest (by rcases isSign with rfl | rfl <;> decide)
  have plain : isBlank sign = false ∧ sign ≠ '"' ∧ sign ≠ '[' ∧ sign.isDigit = false := by
    rcases isSign with rfl | rfl <;> decide
  simp [Piece.split, plain, noSymbol, isSign, follows]

/-- A numeral is cut off. Its sign is taken for one because a digit follows it. -/
theorem cut_number (numeral : Numeral) {behind : List Char} (ends : Ends behind) :
    ∃ first tail, numeral.chars = first :: tail ∧
      Piece.split first (tail ++ behind) =
        (⟨numeral.chars, .word (.number numeral.value)⟩, behind) := by
  obtain ⟨digit, rest, starts, isDigit⟩ := numeral.whole_eq_cons
  have piece := of_number numeral ends
  have signed : ∀ sign : Char, (sign = '-' ∨ sign = '+') → numeral.sign = [sign] →
      Piece.split sign (numeral.whole ++ numeral.point ++ behind) =
        (⟨numeral.chars, .word (.number numeral.value)⟩, behind) := by
    intro sign isSign known
    have follows : (numeral.whole ++ numeral.point ++ behind).head?.any Char.isDigit = true := by
      simp [starts, isDigit]
    rw [cut_sign isSign follows, ← known, List.append_assoc, piece]
  rcases numeral.signed with none | minus | plus
  · have chars : numeral.chars = digit :: (rest ++ numeral.point) := by
      simp [Numeral.chars, none, starts]
    refine ⟨digit, rest ++ numeral.point, chars, ?_⟩
    rw [none, starts] at piece
    rw [cut_digit _ isDigit, List.append_assoc, ← List.cons_append, piece]
  · exact ⟨'-', numeral.whole ++ numeral.point, by simp [Numeral.chars, minus],
      signed '-' (.inl rfl) minus⟩
  · exact ⟨'+', numeral.whole ++ numeral.point, by simp [Numeral.chars, plus],
      signed '+' (.inr rfl) plus⟩

/-- The content of a text literal ends at the first quote. -/
theorem split_text {content : List Char} (plain : '"' ∉ content) (behind : List Char) :
    splitText (content ++ '"' :: behind) = some (content, behind) := by
  induction content with
  | nil => rfl
  | cons char rest inductionHypothesis =>
    rw [List.mem_cons, not_or] at plain
    have other : char ≠ '"' := fun same => plain.1 same.symm
    simp [splitText, other, inductionHypothesis plain.2]

/-- A text literal is cut off, whatever stands behind its closing quote. -/
theorem cut_text {content : List Char} (plain : '"' ∉ content) (behind : List Char) :
    Piece.split '"' (content ++ ['"'] ++ behind) =
      (⟨'"' :: (content ++ ['"']), .word (.text (String.ofList content))⟩, behind) := by
  have shown : isBlank '"' = false := by decide
  have noSymbol : Piece.splitSymbol ('"' :: (content ++ ['"'] ++ behind)) = none :=
    split_symbol_none _ (by decide)
  have found : splitText (content ++ ['"'] ++ behind) = some (content, behind) := by
    rw [List.append_assoc]
    exact split_text plain behind
  simp [Piece.split, shown, noSymbol, Piece.ofText, -List.append_assoc, found]

/-- A character in front of a split that is found in a longer text as well is in front of both. -/
theorem extend_append {char : Char} {short long : Option (List Char × List Char)}
    {literal behind more : List Char}
    (split : splitList.extend char short = some (literal, behind))
    (later : ∀ {literal : List Char}, short = some (literal, behind) →
      long = some (literal, behind ++ more)) :
    splitList.extend char long = some (literal, behind ++ more) := by
  simp only [splitList.extend, Option.map_eq_some_iff, Prod.mk.injEq, Prod.exists] at split
  obtain ⟨inner, _, found, rfl, rfl⟩ := split
  rw [later found]
  rfl

/-- A list literal that ends in a text ends at the same bracket in a longer text. Only the bracket
that closes the literal decides; every other character is in front of the same split of both. -/
theorem split_list_append {depth : Nat} {mode : ListMode} {text literal behind : List Char}
    (split : splitList depth mode text = some (literal, behind)) (more : List Char) :
    splitList depth mode (text ++ more) = some (literal, behind ++ more) := by
  fun_induction splitList depth mode text generalizing literal with
  | case1 => simp at split
  | case8 =>
    simp only [Option.some.injEq, Prod.mk.injEq] at split
    simp [splitList, ← split.1, ← split.2]
  | case2 | case3 | case4 | case5 | case6 | case7 | case9 | case10 =>
    simp only [List.cons_append, splitList, *, if_false, if_true]
    exact extend_append split (by assumption)

/-- A list literal is cut off, whatever stands behind its last bracket. -/
theorem cut_list {rest : List Char}
    (balanced : splitList 0 .bare ('[' :: rest) = some ('[' :: rest, [])) (behind : List Char) :
    Piece.split '[' (rest ++ behind) =
      (⟨'[' :: rest, .word (.list (String.ofList ('[' :: rest)))⟩, behind) := by
  have shown : isBlank '[' = false := by decide
  have noSymbol : Piece.splitSymbol ('[' :: (rest ++ behind)) = none :=
    split_symbol_none _ (by decide)
  have found : splitList 0 .bare ('[' :: (rest ++ behind)) = some ('[' :: rest, behind) :=
    split_list_append balanced behind
  simp [Piece.split, shown, noSymbol, Piece.ofList, found]

/-- A word is cut off in whatever way it is spelled, where it ends: a parenthesis that opens ends
by itself, every other word at a blank, at a closing parenthesis or with the text. A field named
`not` must not be followed by blanks and an `in`. -/
theorem cut_spelled {chars behind : List Char} {kind : Token.Kind} (spelled : Spells chars kind)
    (ends : kind = .opening ∨ Ends behind)
    (alone : ∀ name, kind = .field name → spells chars "not" = true → splitIn behind = none) :
    ∃ first tail, chars = first :: tail ∧
      Piece.split first (tail ++ behind) = (⟨chars, .word kind⟩, behind) := by
  have ended : kind ≠ .opening → Ends behind := ends.resolve_left
  cases spelled with
  | symbol _ _ only => exact cut_symbol only ends
  | keyword _ _ word known spelled =>
    refine cut_keyword known spelled (ended ?_)
    rintro rfl
    cases known
  | notIn first blanks last denies some blank contains =>
    exact cut_not_in denies some blank contains (ended (by simp))
  | field _ name => exact cut_field name (ended (by simp)) (alone _ rfl)
  | number numeral => exact cut_number numeral (ended (by simp))
  | text content plain => exact ⟨'"', content ++ ['"'], rfl, cut_text plain behind⟩
  | list rest balanced => exact ⟨'[', rest, rfl, cut_list balanced behind⟩

/-- The first piece of a text that begins with a word is that word. -/
theorem pieces_spelled {chars behind : List Char} {kind : Token.Kind}
    (spelled : Spells chars kind) (ends : kind = .opening ∨ Ends behind)
    (alone : ∀ name, kind = .field name → spells chars "not" = true → splitIn behind = none) :
    pieces (chars ++ behind) = ⟨chars, .word kind⟩ :: pieces behind := by
  obtain ⟨first, tail, rfl, cut⟩ := cut_spelled spelled ends alone
  rw [List.cons_append, pieces, cut]

/-- The first piece of a text that begins with blanks is all of them. -/
theorem pieces_blanks {blanks behind : List Char} (some : blanks ≠ [])
    (blank : ∀ char ∈ blanks, isBlank char = true) (clear : Clear isBlank behind) :
    pieces (blanks ++ behind) = ⟨blanks, .blank⟩ :: pieces behind := by
  cases blanks with
  | nil => exact absurd rfl some
  | cons first rest =>
    have inside : ∀ char ∈ rest, isBlank char = true :=
      fun char member => blank char (List.mem_cons_of_mem first member)
    obtain ⟨taken, dropped⟩ := take_run inside clear
    rw [List.cons_append, pieces]
    simp [Piece.split, blank first (by simp), taken, dropped]

end RecordRules.Cutting
