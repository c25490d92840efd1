import TypeGraph.Json.Token

/-!
# TypeGraph.Toml.Token

The tokens of a TOML 0.5 text.

1. A carriage return counts only in front of a line feed, as one line break.
   One byte order mark at the start is passed over.
2. A word is a run of letters, digits, `-` and `_`; keys, numbers, dates and
   truth values are made of words.
3. A basic text is escaped with backslashes, a literal one is not; either may
   take one line between single quotes or many between triple ones.  A line
   break right after the opening triple quote is dropped, and up to two
   quotes may stand right before the closing one.
4. No control character but tab may stand in a text or a comment.
-/

namespace TypeGraph.Toml

inductive Token where
  /-- A run of spaces and tabs; `single` if it is one space. -/
  | blank (single : Bool)
  | newline
  | comment
  | equals
  | period
  | comma
  | colon
  | plus
  | openBrace
  | closeBrace
  | openBracket
  | closeBracket
  /-- A run of letters, digits, `-` and `_`. -/
  | word (chars : List Char)
  /-- A quoted text; `multiline` if its quotes are triple. -/
  | text (chars : List Char) (multiline : Bool)

/-- The text with one line feed for each line break. -/
def foldBreaks : List Char → List Char
  | '\r' :: '\n' :: rest => '\n' :: foldBreaks rest
  | c :: rest => c :: foldBreaks rest
  | [] => []

def isWordChar (c : Char) : Bool := c.isAlphanum || c == '-' || c == '_'

def isCommentChar (c : Char) : Bool := c == '\t' || 0x20 ≤ c.toNat

def isTextChar (c : Char) : Bool := isCommentChar c && c != '\x7f'

def isBlank (c : Char) : Bool := c == ' ' || c == '\t'

def isBlankOrBreak (c : Char) : Bool := isBlank c || c == '\n'

/-! ## Texts -/

/-- The character that an escape of one character stands for. -/
def escaped? : Char → Option Char
  | '"' => some '"'
  | '\\' => some '\\'
  | 'b' => some '\x08'
  | 'f' => some '\x0c'
  | 'n' => some '\n'
  | 'r' => some '\r'
  | 't' => some '\t'
  | _ => none

/-- What comes after a backslash that ends a line, and the blanks and breaks
after it; `c` is the character after the backslash. -/
def afterContinuation? (c : Char) (rest : List Char) : Option (List Char) :=
  if c = '\n' then some (rest.dropWhile isBlankOrBreak)
  else match rest.dropWhile isBlank with
    | [] => some []
    | '\n' :: after => some (after.dropWhile isBlankOrBreak)
    | _ => none

/-- What an escape stands for and what comes after it, given the character
after the backslash. -/
def escape? (multiline : Bool) (c : Char) (rest : List Char) :
    Option (List Char × List Char) :=
  if c = 'u' then
    (Text.hexChar? 4 (rest.take 4)).map fun e => ([e], rest.drop 4)
  else if c = 'U' then
    (Text.hexChar? 8 (rest.take 8)).map fun e => ([e], rest.drop 8)
  else if multiline ∧ (c = ' ' ∨ c = '\t' ∨ c = '\n') then
    (afterContinuation? c rest).map (([], ·))
  else (escaped? c).map fun e => ([e], rest)

theorem length_afterContinuation? {c : Char} {rest after : List Char}
    (h : afterContinuation? c rest = some after) : after.length ≤ rest.length := by
  unfold afterContinuation? at h
  split at h
  · cases h
    exact Json.length_dropWhile_le _ _
  · split at h
    · cases h
      simp
    · next after' heq =>
      cases h
      have h1 := Json.length_dropWhile_le isBlank rest
      have h2 := Json.length_dropWhile_le isBlankOrBreak after'
      rw [heq, List.length_cons] at h1
      omega
    · cases h

theorem length_escape? {multiline : Bool} {c : Char} {rest after value : List Char}
    (h : escape? multiline c rest = some (value, after)) : after.length ≤ rest.length := by
  unfold escape? at h
  repeat' split at h
  all_goals
    simp only [Option.map_eq_some_iff, Prod.mk.injEq] at h
    obtain ⟨_, hx, -, rfl⟩ := h
  · simp
  · simp
  · exact length_afterContinuation? hx
  · exact Nat.le_refl _

/-- The end of a text between triple quotes, given what comes after one
quote: the quotes that still belong to the text, and what comes after it. -/
def closing? (delimiter : Char) : List Char → Option (List Char × List Char)
  | d :: e :: after =>
    if d = delimiter ∧ e = delimiter then
      let extra := (after.take 2).takeWhile (· == delimiter)
      some (extra, after.drop extra.length)
    else none
  | _ => none

/-- The text up to its closing quotes, and what comes after them. -/
def textBody? (delimiter : Char) (multiline : Bool) :
    List Char → Option (List Char × List Char)
  | [] => none
  | c :: rest =>
    if c = delimiter then
      if multiline then
        match closing? delimiter rest with
        | some result => some result
        | none =>
          (textBody? delimiter multiline rest).map fun (cs, out) => (delimiter :: cs, out)
      else some ([], rest)
    else if c = '\n' ∧ multiline then
      (textBody? delimiter multiline rest).map fun (cs, out) => ('\n' :: cs, out)
    else if c = '\\' ∧ delimiter = '"' then
      match rest with
      | [] => none
      | e :: rest =>
        match _h : escape? multiline e rest with
        | none => none
        | some (value, after) =>
          (textBody? delimiter multiline after).map fun (cs, out) => (value ++ cs, out)
    else if isTextChar c then
      (textBody? delimiter multiline rest).map fun (cs, out) => (c :: cs, out)
    else none
termination_by cs => cs.length
decreasing_by
  · simp
  · simp
  · have := length_escape? _h
    simp only [List.length_cons]
    omega
  · simp

/-- The text after an opening quote, and what comes after it. -/
def text? (delimiter : Char) (rest : List Char) : Option (Token × List Char) :=
  if rest.take 2 = [delimiter, delimiter] then
    let body := match rest.drop 2 with
      | '\n' :: body => body
      | body => body
    (textBody? delimiter true body).map fun (value, after) => (.text value true, after)
  else
    (textBody? delimiter false rest).map fun (value, after) => (.text value false, after)

theorem length_closing? {delimiter : Char} {cs value after : List Char}
    (h : closing? delimiter cs = some (value, after)) : after.length ≤ cs.length := by
  unfold closing? at h
  split at h
  · split at h
    · cases h
      simp only [List.length_drop, List.length_cons]
      omega
    · cases h
  · cases h

theorem length_textBody? {delimiter : Char} {multiline : Bool} {cs value after : List Char}
    (h : textBody? delimiter multiline cs = some (value, after)) : after.length ≤ cs.length := by
  fun_induction textBody? delimiter multiline cs generalizing value with
  | case1 => cases h
  | case2 rest _ result hclose =>
    cases h
    exact Nat.le_succ_of_le (length_closing? hclose)
  | case3 rest _ _ ih =>
    simp only [Option.map_eq_some_iff, Prod.mk.injEq] at h
    obtain ⟨_, hx, -, rfl⟩ := h
    exact Nat.le_succ_of_le (ih hx)
  | case4 => cases h; simp
  | case5 _ _ _ _ ih =>
    simp only [Option.map_eq_some_iff, Prod.mk.injEq] at h
    obtain ⟨_, hx, -, rfl⟩ := h
    exact Nat.le_succ_of_le (ih hx)
  | case6 => cases h
  | case7 => cases h
  | case8 _ _ _ _ _ _ _ _ hesc ih =>
    simp only [Option.map_eq_some_iff, Prod.mk.injEq] at h
    obtain ⟨_, hx, -, rfl⟩ := h
    have h1 := ih hx
    have h2 := length_escape? hesc
    simp only [List.length_cons]
    omega
  | case9 _ _ _ _ _ _ ih =>
    simp only [Option.map_eq_some_iff, Prod.mk.injEq] at h
    obtain ⟨_, hx, -, rfl⟩ := h
    exact Nat.le_succ_of_le (ih hx)
  | case10 => cases h

theorem length_text? {delimiter : Char} {rest after : List Char} {token : Token}
    (h : text? delimiter rest = some (token, after)) : after.length ≤ rest.length := by
  unfold text? at h
  split at h
  all_goals
    simp only [Option.map_eq_some_iff, Prod.mk.injEq] at h
    obtain ⟨_, hx, -, rfl⟩ := h
    have h1 := length_textBody? hx
  · have h2 : (rest.drop 2).length ≤ rest.length := by simp
    split at h1
    · next heq =>
      rw [heq, List.length_cons] at h2
      omega
    · omega
  · exact h1

/-! ## The scanner -/

/-- The first token of a text that starts with the character `c`, and what
comes after it. -/
def first? (c : Char) (rest : List Char) : Option (Token × List Char) :=
  match c with
  | '\n' => some (.newline, rest)
  | '#' => some (.comment, rest.dropWhile isCommentChar)
  | '=' => some (.equals, rest)
  | '.' => some (.period, rest)
  | ',' => some (.comma, rest)
  | ':' => some (.colon, rest)
  | '+' => some (.plus, rest)
  | '\x7b' => some (.openBrace, rest)
  | '\x7d' => some (.closeBrace, rest)
  | '[' => some (.openBracket, rest)
  | ']' => some (.closeBracket, rest)
  | '"' => text? '"' rest
  | '\'' => text? '\'' rest
  | c =>
    if isBlank c then
      some (.blank (c == ' ' && !(rest.head?.any isBlank)), rest.dropWhile isBlank)
    else if isWordChar c then
      some (.word (c :: rest.takeWhile isWordChar), rest.dropWhile isWordChar)
    else none

/-- A token takes at least the character that it starts with. -/
theorem length_first? {c : Char} {rest after : List Char} {token : Token}
    (h : first? c rest = some (token, after)) : after.length ≤ rest.length := by
  unfold first? at h
  split at h
  all_goals first
    | (cases h; exact Nat.le_refl _)
    | (cases h; exact Json.length_dropWhile_le _ _)
    | exact length_text? h
    | skip
  split at h
  · cases h
    exact Json.length_dropWhile_le _ _
  · split at h
    · cases h
      exact Json.length_dropWhile_le _ _
    · cases h

/-- The tokens of a text whose line breaks are single characters. -/
def scan? : List Char → Option (List Token)
  | [] => some []
  | c :: rest =>
    match _h : first? c rest with
    | none => none
    | some (token, after) => (scan? after).map (token :: ·)
termination_by cs => cs.length
decreasing_by exact Nat.lt_succ_of_le (length_first? _h)

def tokens? (text : List Char) : Option (List Token) :=
  match foldBreaks text with
  | '\uFEFF' :: rest => scan? rest
  | cs => scan? cs

end TypeGraph.Toml
