import SqlBuilder.Query

set_option autoImplicit false

/-! # Reading SQL text

How a database reads quoted names in a text. A delimiter opens a name. Inside it a doubled delimiter
stands for one, and a single delimiter closes it, so the reader looks one character ahead. These
rules leave one way to read a text, also if its last name stays open, and the reader finds it. What
is written for a name is read as that name without its NULs, and the placeholders that are found
without looking ahead are the question marks that this reader finds outside names. -/

namespace SqlBuilder

/-- A piece of SQL text. -/
inductive Lexeme where
  /-- A character outside quoted names. -/
  | bare (c : Char)
  | name (text : List Char)
  /-- A name at the end of a text that does not close it. -/
  | unclosed (text : List Char)
deriving DecidableEq, Repr

/-- Reads a text, given what was read of the name that is open, if one is. -/
def lexFrom : Option (List Char) → List Char → List Lexeme
  | none, [] => []
  | none, c :: rest =>
    if c = delimiter then lexFrom (some []) rest else .bare c :: lexFrom none rest
  | some read, [] => [.unclosed read]
  | some read, [c] => if c = delimiter then [.name read] else [.unclosed (read ++ [c])]
  | some read, c :: d :: rest =>
    if c = delimiter then
      if d = delimiter then lexFrom (some (read ++ [delimiter])) rest
      else .name read :: lexFrom none (d :: rest)
    else lexFrom (some (read ++ [c])) (d :: rest)

/-- Reads a text. -/
def lex (sql : List Char) : List Lexeme :=
  lexFrom none sql

example : lex "a`b``c`.*".toList = [.bare 'a', .name "b`c".toList, .bare '.', .bare '*'] := by
  decide

/-! ## The rules of quoting -/

/-- What stands between the delimiters of a name. -/
def doubled (text : List Char) : List Char :=
  text.flatMap fun c => if c = delimiter then [delimiter, delimiter] else [c]

/-- Which pieces a text is made of. A name ends at a delimiter that no other one follows at once. A
name that is not closed goes on to the end of the text. -/
inductive MadeOf : List Char → List Lexeme → Prop
  | nil : MadeOf [] []
  | bare {c : Char} {rest : List Char} {lexemes : List Lexeme} (other : c ≠ delimiter)
      (tail : MadeOf rest lexemes) : MadeOf (c :: rest) (.bare c :: lexemes)
  | name (text : List Char) {rest : List Char} {lexemes : List Lexeme}
      (single : rest.head? ≠ some delimiter) (tail : MadeOf rest lexemes) :
      MadeOf (delimiter :: (doubled text ++ delimiter :: rest)) (.name text :: lexemes)
  | unclosed (text : List Char) : MadeOf (delimiter :: doubled text) [.unclosed text]

/-! ## The reader follows the rules -/

theorem lexFrom_bare {c : Char} (other : c ≠ delimiter) (rest : List Char) :
    lexFrom none (c :: rest) = .bare c :: lexFrom none rest := by
  rw [lexFrom, if_neg other]

theorem lexFrom_open (rest : List Char) :
    lexFrom none (delimiter :: rest) = lexFrom (some []) rest := by
  rw [lexFrom, if_pos rfl]

theorem lexFrom_inside {c : Char} (other : c ≠ delimiter) (read rest : List Char) :
    lexFrom (some read) (c :: rest) = lexFrom (some (read ++ [c])) rest := by
  cases rest with
  | nil => simp only [lexFrom, if_neg other]
  | cons d rest => rw [lexFrom, if_neg other]

theorem lexFrom_doubled (read rest : List Char) :
    lexFrom (some read) (delimiter :: delimiter :: rest)
      = lexFrom (some (read ++ [delimiter])) rest := by
  rw [lexFrom, if_pos rfl, if_pos rfl]

/-- A single delimiter closes a name. -/
theorem lexFrom_close (read : List Char) {rest : List Char} (single : rest.head? ≠ some delimiter) :
    lexFrom (some read) (delimiter :: rest) = .name read :: lexFrom none rest := by
  cases rest with
  | nil => rfl
  | cons d rest =>
      have other : d ≠ delimiter := fun same => single (congrArg some same)
      conv => lhs; rw [lexFrom, if_pos rfl, if_neg other]

/-- What stands between delimiters is read as the name, however the text goes on. -/
theorem lexFrom_doubled_append (read text rest : List Char) :
    lexFrom (some read) (doubled text ++ rest) = lexFrom (some (read ++ text)) rest := by
  induction text generalizing read with
  | nil => rw [List.append_nil, doubled, List.flatMap_nil, List.nil_append]
  | cons c text ih =>
      rw [doubled, List.flatMap_cons, List.append_assoc, ← doubled, List.append_cons read, ← ih]
      by_cases closes : c = delimiter
      · -- the delimiter is written twice and read once
        rw [if_pos closes, closes]
        exact lexFrom_doubled read _
      · rw [if_neg closes]
        exact lexFrom_inside closes read _

/-- The text from the beginning of the open name on, if one is open. -/
def sourceFrom : Option (List Char) → List Char → List Char
  | none, cs => cs
  | some read, cs => delimiter :: (doubled read ++ cs)

theorem sourceFrom_doubled (read rest : List Char) :
    sourceFrom (some (read ++ [delimiter])) rest
      = sourceFrom (some read) (delimiter :: delimiter :: rest) := by
  simp [sourceFrom, doubled]

theorem sourceFrom_inside {c : Char} (other : c ≠ delimiter) (read rest : List Char) :
    sourceFrom (some (read ++ [c])) rest = sourceFrom (some read) (c :: rest) := by
  simp [sourceFrom, doubled, other]

/-- What the reader finds follows the rules. -/
theorem madeOf_lexFrom (opened : Option (List Char)) (cs : List Char) :
    MadeOf (sourceFrom opened cs) (lexFrom opened cs) := by
  induction opened, cs using lexFrom.induct with
  | case1 => exact .nil
  | case2 rest ih =>
      rw [lexFrom_open]
      exact ih
  | case3 c rest other ih =>
      rw [lexFrom_bare other]
      exact .bare other ih
  | case4 read =>
      rw [sourceFrom, List.append_nil]
      exact .unclosed read
  | case5 read => exact .name read (by simp) .nil
  | case6 read c other =>
      rw [lexFrom_inside other, ← sourceFrom_inside other, sourceFrom, List.append_nil]
      exact .unclosed (read ++ [c])
  | case7 read rest ih =>
      rw [lexFrom_doubled, ← sourceFrom_doubled]
      exact ih
  | case8 read d rest other ih =>
      have single : (d :: rest).head? ≠ some delimiter := fun same => other (Option.some.inj same)
      rw [lexFrom_close read single]
      exact .name read single ih
  | case9 read c d rest other ih =>
      rw [lexFrom_inside other, ← sourceFrom_inside other]
      exact ih

theorem madeOf_lex (sql : List Char) : MadeOf sql (lex sql) :=
  madeOf_lexFrom none sql

/-- Whatever follows the rules is what the reader finds. -/
theorem MadeOf.eq_lex {sql : List Char} {lexemes : List Lexeme} (h : MadeOf sql lexemes) :
    lexemes = lex sql := by
  unfold lex
  induction h with
  | nil => rfl
  | bare other tail ih => rw [lexFrom_bare other, ih]
  | name text single tail ih =>
      rw [lexFrom_open, lexFrom_doubled_append, List.nil_append, lexFrom_close text single, ih]
  | unclosed text =>
      have read := lexFrom_doubled_append [] text []
      rw [List.append_nil, List.nil_append] at read
      rw [lexFrom_open, read]
      rfl

/-- A text is made of pieces in one way. -/
theorem madeOf_iff {sql : List Char} {lexemes : List Lexeme} :
    MadeOf sql lexemes ↔ lexemes = lex sql := by
  constructor
  · exact MadeOf.eq_lex
  · rintro rfl
    exact madeOf_lex sql

/-! ## What is written is read back -/

/-- A name as it is read back: no quoted name holds a NUL. -/
def withoutNul (name : List Char) : List Char :=
  name.filter (· != '\x00')

theorem flatMap_quotedChar (name : List Char) :
    name.flatMap quotedChar = doubled (withoutNul name) := by
  have other : '\x00' ≠ delimiter := by decide
  induction name with
  | nil => rfl
  | cons c name ih =>
      rw [List.flatMap_cons, ih, quotedChar]
      by_cases gone : c = '\x00'
      · simp [withoutNul, gone, other]
      · simp [withoutNul, doubled, gone]

/-- A quoted name is read as the name without its NULs, if no second name follows at once. -/
theorem lexFrom_quoteChars (name : List Char) {rest : List Char}
    (single : rest.head? ≠ some delimiter) :
    lexFrom none (quoteChars name ++ rest) = .name (withoutNul name) :: lexFrom none rest := by
  rw [quoteChars, List.cons_append, List.append_assoc, lexFrom_open, flatMap_quotedChar,
    lexFrom_doubled_append, List.nil_append]
  exact lexFrom_close _ single

/-! ## Placeholders -/

/-- The text that a piece was read from. -/
def Lexeme.source : Lexeme → List Char
  | bare c => [c]
  | name text => delimiter :: (doubled text ++ [delimiter])
  | unclosed text => delimiter :: doubled text

/-- The characters of a piece, each with a mark that says whether it is a placeholder. In names
there are none. -/
def Lexeme.marks : Lexeme → List (Char × Bool)
  | bare c => [(c, c == '?')]
  | name text => (name text).source.map (·, false)
  | unclosed text => (unclosed text).source.map (·, false)

theorem markPlaceholders_delimiter (quoted : Bool) (rest : List Char) :
    markPlaceholders quoted (delimiter :: rest)
      = (delimiter, false) :: markPlaceholders (!quoted) rest := rfl

/-- Between the delimiters of a name nothing is marked: a doubled delimiter closes the name and
opens it again, with no character in between. -/
theorem markPlaceholders_doubled_append (text rest : List Char) :
    markPlaceholders true (doubled text ++ rest)
      = (doubled text).map (·, false) ++ markPlaceholders true rest := by
  induction text with
  | nil => rfl
  | cons c text ih =>
      rw [doubled, List.flatMap_cons, List.append_assoc, List.map_append, List.append_assoc,
        ← doubled, ← ih]
      by_cases closes : c = delimiter
      · rw [if_pos closes]
        rfl
      · simp [markPlaceholders, closes]

/-- Every delimiter may as well be read as opening or closing a name: the placeholders are the same,
and no character is lost. -/
theorem MadeOf.markPlaceholders_eq {sql : List Char} {lexemes : List Lexeme}
    (h : MadeOf sql lexemes) : markPlaceholders false sql = lexemes.flatMap Lexeme.marks := by
  induction h with
  | nil => rfl
  | bare other tail ih =>
      rw [List.flatMap_cons, ← ih, markPlaceholders]
      simp [other, Lexeme.marks]
  | name text single tail ih =>
      rw [markPlaceholders_delimiter, Bool.not_false, markPlaceholders_doubled_append,
        markPlaceholders_delimiter, Bool.not_true, ih]
      simp [Lexeme.marks, Lexeme.source]
  | unclosed text =>
      have marks := markPlaceholders_doubled_append text []
      rw [List.append_nil] at marks
      rw [markPlaceholders_delimiter, Bool.not_false, marks]
      simp [markPlaceholders, Lexeme.marks, Lexeme.source]

theorem markPlaceholders_eq_marks (sql : List Char) :
    markPlaceholders false sql = (lex sql).flatMap Lexeme.marks :=
  (madeOf_lex sql).markPlaceholders_eq

theorem map_fst_markPlaceholders (quoted : Bool) (cs : List Char) :
    (markPlaceholders quoted cs).map (·.1) = cs := by
  induction cs generalizing quoted with
  | nil => rfl
  | cons c rest ih => rw [markPlaceholders, List.map_cons, ih]

theorem Lexeme.map_fst_marks (lexeme : Lexeme) : lexeme.marks.map (·.1) = lexeme.source := by
  cases lexeme <;> simp [marks, source, Function.comp_def]

/-- Reading a text loses nothing of it. -/
theorem source_lex (sql : List Char) : (lex sql).flatMap Lexeme.source = sql := by
  calc (lex sql).flatMap Lexeme.source
    _ = ((lex sql).flatMap Lexeme.marks).map (·.1) := by
        simp only [List.map_flatMap, Lexeme.map_fst_marks]
    _ = sql := by rw [← markPlaceholders_eq_marks, map_fst_markPlaceholders]

end SqlBuilder
