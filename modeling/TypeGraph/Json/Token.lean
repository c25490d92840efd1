import TypeGraph.Json.Basic
import TypeGraph.Text.Hexadecimal

/-!
# TypeGraph.Json.Token

The tokens of a JSON text.

1. Blanks between tokens are space, tab, line feed and carriage return.
2. A number has no leading zeros, and digits on both sides of a point.
3. Between quotes every character stands for itself but the quote, the
   backslash and the control characters; the escapes are the usual eight and
   `\u` with four hexadecimal digits, which are UTF-16 units.

Nothing else is accepted: no comments, no byte order mark.
-/

namespace TypeGraph.Json

inductive Token where
  | openArray
  | closeArray
  | openObject
  | closeObject
  | comma
  | colon
  | text (value : Option String)
  /-- A number, a truth value or null. -/
  | literal (value : Json)

/-! ## Texts -/

/-- What stands between quotes, one character or escape at a time. -/
inductive Piece where
  | char (c : Char)
  /-- A UTF-16 unit given by its number. -/
  | unit (n : Nat)

/-- The character that an escape of one character stands for. -/
def escaped? : Char → Option Char
  | '"' => some '"'
  | '\\' => some '\\'
  | '/' => some '/'
  | 'b' => some '\x08'
  | 'f' => some '\x0c'
  | 'n' => some '\n'
  | 'r' => some '\r'
  | 't' => some '\t'
  | _ => none

/-- The pieces up to the closing quote, and what comes after it. -/
def pieces? : List Char → Option (List Piece × List Char)
  | [] => none
  | '"' :: rest => some ([], rest)
  | '\\' :: 'u' :: a :: b :: c :: d :: rest =>
    match Text.hexNumber? [a, b, c, d], pieces? rest with
    | some n, some (pieces, after) => some (.unit n :: pieces, after)
    | _, _ => none
  | '\\' :: c :: rest =>
    match escaped? c, pieces? rest with
    | some e, some (pieces, after) => some (.char e :: pieces, after)
    | _, _ => none
  | c :: rest =>
    if c.toNat < 0x20 ∨ c = '\\' then none
    else match pieces? rest with
      | some (pieces, after) => some (.char c :: pieces, after)
      | none => none

def isHighSurrogate (n : Nat) : Bool := 0xD800 ≤ n && n < 0xDC00

def isLowSurrogate (n : Nat) : Bool := 0xDC00 ≤ n && n < 0xE000

/-- The characters that pieces stand for, unless half a pair is on its own. -/
def joinPieces : List Piece → Option (List Char)
  | [] => some []
  | .char c :: rest => (joinPieces rest).map (c :: ·)
  | .unit high :: .unit low :: rest =>
    if isHighSurrogate high then
      if isLowSurrogate low then
        (joinPieces rest).map
          (Char.ofNat (0x10000 + (high - 0xD800) * 0x400 + (low - 0xDC00)) :: ·)
      else none
    else if isLowSurrogate high then none
    else (joinPieces (.unit low :: rest)).map (Char.ofNat high :: ·)
  | .unit n :: rest =>
    if isHighSurrogate n || isLowSurrogate n then none
    else (joinPieces rest).map (Char.ofNat n :: ·)

/-! ## Numbers -/

def isDigit (c : Char) : Bool := '0' ≤ c && c ≤ '9'

def afterMinus : List Char → List Char
  | '-' :: rest => rest
  | rest => rest

/-- What comes after at least one digit. -/
def afterDigits? : List Char → Option (List Char)
  | c :: rest => if isDigit c then some (rest.dropWhile isDigit) else none
  | [] => none

/-- What comes after the digits before the point. -/
def afterInteger? : List Char → Option (List Char)
  | '0' :: rest => some rest
  | rest => afterDigits? rest

/-- What comes after the point and its digits, if there is a point. -/
def afterFraction? : List Char → Option (List Char)
  | '.' :: rest => afterDigits? rest
  | rest => some rest

/-- What comes after the exponent, if there is one. -/
def afterExponent? : List Char → Option (List Char)
  | [] => some []
  | c :: rest =>
    if c = 'e' ∨ c = 'E' then
      match rest with
      | '+' :: digits => afterDigits? digits
      | '-' :: digits => afterDigits? digits
      | digits => afterDigits? digits
    else some (c :: rest)

def afterNumber? (cs : List Char) : Option (List Char) := do
  let fraction ← afterInteger? (afterMinus cs)
  let exponent ← afterFraction? fraction
  afterExponent? exponent

/-- Whether a character occurs in numbers.  In a well-formed text no such
character follows a number. -/
def isNumberChar (c : Char) : Bool :=
  isDigit c || c == '-' || c == '+' || c == '.' || c == 'e' || c == 'E'

/-! ## The scanner -/

/-- What comes after a word. -/
def afterWord? : List Char → List Char → Option (List Char)
  | [], rest => some rest
  | w :: word, c :: rest => if w = c then afterWord? word rest else none
  | _ :: _, [] => none

def isSpace (c : Char) : Bool := c == ' ' || c == '\t' || c == '\n' || c == '\r'

/-- The first token of a text that starts with the character `c`, and what
comes after it. -/
def first? (c : Char) (rest : List Char) : Option (Token × List Char) :=
  match c with
  | '[' => some (.openArray, rest)
  | ']' => some (.closeArray, rest)
  | '\x7b' => some (.openObject, rest)
  | '\x7d' => some (.closeObject, rest)
  | ',' => some (.comma, rest)
  | ':' => some (.colon, rest)
  | '"' => (pieces? rest).map fun (pieces, after) =>
    (.text ((joinPieces pieces).map String.ofList), after)
  | 't' => (afterWord? ['r', 'u', 'e'] rest).map (.literal (.bool true), ·)
  | 'f' => (afterWord? ['a', 'l', 's', 'e'] rest).map (.literal (.bool false), ·)
  | 'n' => (afterWord? ['u', 'l', 'l'] rest).map (.literal .null, ·)
  | _ => (afterNumber? (c :: rest)).map
    (.literal (.number (String.ofList ((c :: rest).takeWhile isNumberChar))), ·)

theorem length_dropWhile_le (p : Char → Bool) (cs : List Char) :
    (cs.dropWhile p).length ≤ cs.length :=
  (List.dropWhile_sublist p).length_le

theorem length_pieces? {cs after : List Char} {pieces : List Piece}
    (h : pieces? cs = some (pieces, after)) : after.length < cs.length := by
  fun_induction pieces? cs generalizing pieces with
  | case1 => cases h
  | case2 rest => cases h; simp
  | case3 a b c d rest n pieces' after' hrest _ ih =>
    cases h
    have := ih hrest
    simp only [List.length_cons]
    omega
  | case4 => cases h
  | case5 c rest _ e pieces' after' hrest _ ih =>
    cases h
    have := ih hrest
    simp only [List.length_cons]
    omega
  | case6 => cases h
  | case7 => cases h
  | case8 c rest _ _ _ _ pieces' after' hrest ih =>
    cases h
    have := ih hrest
    simp only [List.length_cons]
    omega
  | case9 => cases h

theorem length_afterMinus (cs : List Char) : (afterMinus cs).length ≤ cs.length := by
  fun_cases afterMinus cs <;> simp

theorem length_afterDigits? {cs after : List Char} (h : afterDigits? cs = some after) :
    after.length < cs.length := by
  fun_cases afterDigits? cs with
  | case1 c rest hc =>
    simp only [afterDigits?, hc, if_true, Option.some.injEq] at h
    subst h
    exact Nat.lt_succ_of_le (length_dropWhile_le _ _)
  | case2 c rest hc => simp [afterDigits?, hc] at h
  | case3 => simp [afterDigits?] at h

theorem length_afterInteger? {cs after : List Char} (h : afterInteger? cs = some after) :
    after.length < cs.length := by
  fun_cases afterInteger? cs with
  | case1 rest =>
    simp only [afterInteger?, Option.some.injEq] at h
    simp [h]
  | case2 _ hne =>
    rw [afterInteger?.eq_2 _ hne] at h
    exact length_afterDigits? h

theorem length_afterFraction? {cs after : List Char} (h : afterFraction? cs = some after) :
    after.length ≤ cs.length := by
  fun_cases afterFraction? cs with
  | case1 rest =>
    rw [afterFraction?] at h
    exact Nat.le_succ_of_le (Nat.le_of_lt (length_afterDigits? h))
  | case2 _ hne =>
    rw [afterFraction?.eq_2 _ hne] at h
    cases h
    exact Nat.le_refl _

theorem length_afterExponent? {cs after : List Char} (h : afterExponent? cs = some after) :
    after.length ≤ cs.length := by
  unfold afterExponent? at h
  split at h
  · cases h
    exact Nat.le_refl _
  · split at h
    · split at h
      all_goals
        have := length_afterDigits? h
        simp only [List.length_cons]
        omega
    · cases h
      exact Nat.le_refl _

theorem length_afterNumber? {cs after : List Char} (h : afterNumber? cs = some after) :
    after.length < cs.length := by
  simp only [afterNumber?, Option.bind_eq_bind, Option.bind_eq_some_iff] at h
  obtain ⟨fraction, hf, exponent, he, ha⟩ := h
  have h1 := length_afterInteger? hf
  have h2 := length_afterFraction? he
  have h3 := length_afterExponent? ha
  have h4 := length_afterMinus cs
  omega

theorem length_afterWord? {word cs after : List Char} (h : afterWord? word cs = some after) :
    after.length ≤ cs.length := by
  fun_induction afterWord? word cs with
  | case1 rest => cases h; exact Nat.le_refl _
  | case2 w word rest ih => exact Nat.le_succ_of_le (ih h)
  | case3 => cases h
  | case4 => cases h

/-- A token takes at least the character that it starts with. -/
theorem length_first? {c : Char} {rest after : List Char} {token : Token}
    (h : first? c rest = some (token, after)) : after.length ≤ rest.length := by
  unfold first? at h
  split at h
  all_goals first
    | (cases h; exact Nat.le_refl _)
    | (simp only [Option.map_eq_some_iff, Prod.mk.injEq] at h
       obtain ⟨x, hx, -, rfl⟩ := h
       first
        | exact Nat.le_of_lt (length_pieces? hx)
        | exact length_afterWord? hx
        | exact Nat.le_of_lt_succ (length_afterNumber? hx))

def tokens? : List Char → Option (List Token)
  | [] => some []
  | c :: rest =>
    if isSpace c then tokens? rest
    else match _h : first? c rest with
      | none => none
      | some (token, after) => (tokens? after).map (token :: ·)
termination_by cs => cs.length
decreasing_by
  · simp
  · exact Nat.lt_succ_of_le (length_first? _h)

end TypeGraph.Json
