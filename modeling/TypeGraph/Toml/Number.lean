import TypeGraph.Toml.Token

/-!
# TypeGraph.Toml.Number

Numbers and dates in TOML 0.5.  No declaration has a use for either, so all
that matters is which spellings are accepted and where they end:

1. an integer may have a sign, has no leading zeros, may have single
   underscores between digits, and fits in 64 bits; with `0x`, `0o` or `0b` in
   front it has another base, no sign, and may have leading zeros;
2. a float has a fraction or an exponent, whose digits may have leading
   zeros, and is finite; `inf` and `nan` are floats too;
3. a date or time is a word with a `T` or a dash in it, or one followed by a
   colon, and the words that belong to it; its parts are not looked at.
-/

namespace TypeGraph.Toml

/-- Whether a character is a digit of a base up to 16. -/
def isDigitOf (base : Nat) (c : Char) : Bool := (Text.hexValue? c).any (· < base)

/-- How the digits of a number have begun. -/
structure DigitRun where
  /-- Nothing yet. -/
  first : Bool
  /-- The first digit was zero. -/
  leadingZero : Bool
  /-- The last character was an underscore. -/
  underscore : Bool

/-- The digits at the front of a text, without underscores, and what comes
after them. -/
def digits? (base : Nat) (zerosAllowed : Bool) (run : DigitRun) :
    List Char → Option (List Char × List Char)
  | [] => if run.first || run.underscore then none else some ([], [])
  | c :: rest =>
    if c = '0' ∧ run.first then
      (digits? base zerosAllowed ⟨false, true, false⟩ rest).map fun (ds, out) => (c :: ds, out)
    else if isDigitOf base c then
      if !run.first && run.leadingZero && !zerosAllowed then none
      else (digits? base zerosAllowed ⟨false, run.leadingZero, false⟩ rest).map
        fun (ds, out) => (c :: ds, out)
    else if c = '_' ∧ run.first then none
    else if c = '_' ∧ !run.underscore then
      digits? base zerosAllowed ⟨false, run.leadingZero, true⟩ rest
    else if run.first || run.underscore then none
    else some ([], c :: rest)

def numberOf (base : Nat) (ds : List Char) : Nat :=
  ds.foldl (fun n c => base * n + (Text.hexValue? c).getD 0) 0

/-- Whether there is a minus, its digits and what comes after them. -/
def signedDigits? (zerosAllowed : Bool) (cs : List Char) :
    Option (Bool × List Char × List Char) :=
  match cs with
  | '-' :: rest => (digits? 10 zerosAllowed ⟨true, false, false⟩ rest).map (true, ·)
  | rest => (digits? 10 zerosAllowed ⟨true, false, false⟩ rest).map (false, ·)

def isInteger (cs : List Char) : Bool :=
  match signedDigits? false cs with
  | some (negative, ds, []) =>
    numberOf 10 ds < Nat.pow 2 63 || (negative && numberOf 10 ds == Nat.pow 2 63)
  | _ => false

/-- Whether what follows the mark of a base is an integer in that base. -/
def isIntegerOf (base : Nat) (cs : List Char) : Bool :=
  match digits? base true ⟨true, false, false⟩ cs with
  | some (ds, []) => numberOf base ds < Nat.pow 2 63
  | _ => false

/-- Whether a decimal number is below the least that rounds to infinity in 64
bits.  `ds` are all digits and `scale` is the power of ten of the last one. -/
def isFinite (ds : List Char) (scale : Int) : Bool :=
  let significant := ds.dropWhile (· == '0')
  let size : Int := significant.length + scale
  if significant.isEmpty || size < 300 then true
  else if 310 < size then false
  else
    let bound := Nat.pow 2 1024 - Nat.pow 2 970
    if 0 ≤ scale then numberOf 10 significant * Nat.pow 10 scale.toNat < bound
    else numberOf 10 significant < bound * Nat.pow 10 (-scale).toNat

/-- What comes after the float that starts with the word `cs`, which is
followed by `fraction` after a point if there is one. -/
def afterFloat? (cs : List Char) (fraction : Option (List Char)) (rest : List Token) :
    Option (List Token) := do
  let (_, whole, suffix) ← signedDigits? false cs
  let (fractional, suffix) ← match fraction with
    | none => some ([], suffix)
    | some after => if suffix.isEmpty then digits? 10 true ⟨true, false, false⟩ after else none
  let check (negative : Bool) (exponent : List Char) (rest : List Token) : Option (List Token) :=
    let power : Int := numberOf 10 exponent
    let scale : Int := (if negative then -power else power) - fractional.length
    if isFinite (whole ++ fractional) scale then some rest else none
  match suffix with
  | [] => check false [] rest
  | [e] =>
    if e = 'e' ∨ e = 'E' then
      let rest := match rest with
        | .plus :: rest => rest
        | rest => rest
      match rest with
      | .word power :: rest =>
        match ← digits? 10 true ⟨true, false, false⟩ power with
        | (exponent, []) => check false exponent rest
        | _ => none
      | _ => none
    else none
  | e :: power =>
    if e = 'e' ∨ e = 'E' then
      match ← signedDigits? true power with
      | (negative, exponent, []) => check negative exponent rest
      | _ => none
    else none

def afterNumber? (cs : List Char) (rest : List Token) : Option (List Token) :=
  match cs, rest with
  | '0' :: 'x' :: ds, rest => if isIntegerOf 16 ds then some rest else none
  | '0' :: 'o' :: ds, rest => if isIntegerOf 8 ds then some rest else none
  | '0' :: 'b' :: ds, rest => if isIntegerOf 2 ds then some rest else none
  | cs, rest =>
    if cs.contains 'e' || cs.contains 'E' then afterFloat? cs none rest
    else match rest with
      | .period :: .word fraction :: rest => afterFloat? cs (some fraction) rest
      | .period :: _ => none
      | rest =>
        if cs = ['i', 'n', 'f'] ∨ cs = ['-', 'i', 'n', 'f'] ∨ cs = ['n', 'a', 'n']
          ∨ cs = ['-', 'n', 'a', 'n'] then some rest
        else if isInteger cs then some rest
        else none

/-- What comes after one word, if the mark is there. -/
def afterMarked? (isMark : Token → Bool) (rest : List Token) : Option (List Token) :=
  match rest with
  | mark :: after =>
    if isMark mark then
      match after with
      | .word _ :: rest => some rest
      | _ => none
    else some rest
  | [] => some []

/-- What comes after the minutes and all that may follow them. -/
def afterMinutes? (rest : List Token) : Option (List Token) := do
  match rest with
  | .word _ :: .colon :: .word _ :: rest =>
    let rest ← afterMarked? (· matches .period) rest
    let rest ← afterMarked? (· matches .plus) rest
    afterMarked? (· matches .colon) rest
  | _ => none

/-- What comes after a date or time whose first word has been read;
`inTime` if the colon after the hour has been read too. -/
def afterDate? (inTime : Bool) (rest : List Token) : Option (List Token) :=
  let rest := match rest with
    | .blank true :: .word _ :: after => after
    | rest => rest
  if inTime then afterMinutes? rest
  else match rest with
    | .colon :: rest => afterMinutes? rest
    | rest => some rest

/-- Whether a word holds one character right before another. -/
def hasPair (a b : Char) : List Char → Bool
  | c :: d :: rest => (c == a && d == b) || hasPair a b (d :: rest)
  | _ => false

/-- Whether a word starts a date rather than a number. -/
def startsDate (cs : List Char) : Bool :=
  cs.contains 'T' || cs.contains 't'
    || ((cs.drop 1).contains '-' && !hasPair 'e' '-' cs && !hasPair 'E' '-' cs)

/-- Whether a number or a date starts with the word `cs` (true for a date), and
what comes after it. -/
def afterScalar? (cs : List Char) (rest : List Token) : Option (Bool × List Token) :=
  if startsDate cs then (afterDate? false rest).map (true, ·)
  else match rest with
    | .colon :: rest => (afterDate? true rest).map (true, ·)
    | rest => (afterNumber? cs rest).map (false, ·)

end TypeGraph.Toml
