/-!
# Settings documents

A settings document has one setting a line, `key = value`, where a value is text or an
integer; blanks, empty lines and comments behind `#` are allowed.  A key is bare or
quoted.  Text stands between single or double quotes, or between three of them, in which
case it may go on over several lines; between double quotes a backslash escapes.  An
integer is decimal, or has the base that `0x`, `0o` or `0b` names.  `settings?` reads a
document into its settings, in order, and gives nothing when a line is of another form.
-/

namespace BoundSql

namespace Document

/-- The value of a setting. -/
inductive Scalar where
  | text (s : String)
  | number (n : Int)
deriving DecidableEq

/-! ### Characters -/

/-- A space of a line: a blank or a tab. -/
def isSpace (c : Char) : Bool := c = ' ' || c = '\t'

/-- A control character, which may not occur inside a line.  The tab is not one. -/
def isControl (c : Char) : Bool := (c.toNat < 0x20 && c != '\t') || c.toNat = 0x7f

/-- A character of a bare key. -/
def isKeyChar (c : Char) : Bool := c.isAlphanum || c = '_' || c = '-'

/-- The value of a digit of the given base. -/
def digit? (base : Nat) (c : Char) : Option Nat :=
  let value :=
    if '0' ≤ c ∧ c ≤ '9' then c.toNat - '0'.toNat
    else if 'a' ≤ c ∧ c ≤ 'f' then c.toNat - 'a'.toNat + 10
    else if 'A' ≤ c ∧ c ≤ 'F' then c.toNat - 'A'.toNat + 10
    else base
  if value < base then some value else none

/-! ### Integers -/

/-- The number that digits stand for after `value`, with underscores between digits
only; `afterDigit` says whether a digit stands before. -/
def digits? (base : Nat) : Bool → Nat → List Char → Option Nat
  | afterDigit, value, [] => if afterDigit then some value else none
  | afterDigit, value, c :: cs =>
    if c = '_' then
      if afterDigit then digits? base false value cs else none
    else
      match digit? base c with
      | some d => digits? base true (base * value + d) cs
      | none => none

/-- A decimal number, which begins with a zero only when it is zero. -/
def decimal? (cs : List Char) : Option Nat :=
  match cs with
  | '0' :: _ :: _ => none
  | _ => digits? 10 false 0 cs

/-- An integer: decimal with or without a sign, or in the base that is named. -/
def integer? : List Char → Option Int
  | '0' :: 'x' :: cs => (digits? 16 false 0 cs).map Int.ofNat
  | '0' :: 'o' :: cs => (digits? 8 false 0 cs).map Int.ofNat
  | '0' :: 'b' :: cs => (digits? 2 false 0 cs).map Int.ofNat
  | '+' :: cs => (decimal? cs).map Int.ofNat
  | '-' :: cs => (decimal? cs).map fun n => -Int.ofNat n
  | cs => (decimal? cs).map Int.ofNat

/-! ### Texts -/

/-- Cuts text that is closed by one `quote` into its inside and what follows. -/
def cutShort (quote : Char) (escapes : Bool) : List Char → Option (List Char × List Char)
  | [] => none
  | c :: cs =>
    if c = quote then some ([], cs)
    else
      match cs with
      | d :: ds =>
        if escapes && c = '\\' then
          (cutShort quote escapes ds).map fun cut => (c :: d :: cut.1, cut.2)
        else (cutShort quote escapes (d :: ds)).map fun cut => (c :: cut.1, cut.2)
      | [] => none

/-- Cuts text that is closed by three `quote`s into its inside and what follows.  Up to
two more quotes before the closing ones belong to the inside. -/
def cutLong (quote : Char) (escapes : Bool) : List Char → Option (List Char × List Char)
  | [] => none
  | c :: cs =>
    let run := ((c :: cs).take 5).takeWhile (· = quote)
    if 3 ≤ run.length then
      some (List.replicate (run.length - 3) quote, (c :: cs).drop run.length)
    else
      match cs with
      | d :: ds =>
        if escapes && c = '\\' then
          (cutLong quote escapes ds).map fun cut => (c :: d :: cut.1, cut.2)
        else (cutLong quote escapes (d :: ds)).map fun cut => (c :: cut.1, cut.2)
      | [] => none

/-- How the inside of a text is read. -/
structure Style where
  /-- A backslash escapes. -/
  escapes : Bool
  /-- Lines may end inside. -/
  long : Bool

/-- Where a reader stands inside a text. -/
inductive Place where
  /-- Between characters. -/
  | plain
  /-- Behind a carriage return, which a line feed has to follow. -/
  | carriage
  /-- Behind a backslash. -/
  | escape
  /-- Before the last `count + 1` digits of a character number. -/
  | number (count value : Nat)
  /-- Behind a backslash at the end of a line, before the next text; `ended` says
  whether the line has ended. -/
  | folded (ended : Bool)
  /-- Behind a carriage return in the same position. -/
  | foldedCarriage
deriving DecidableEq

/-- The character that an escape letter stands for. -/
def unescape? (letter : Char) : Option Char :=
  match letter with
  | '"' => some '"'
  | '\\' => some '\\'
  | 'b' => some '\x08'
  | 'e' => some '\x1b'
  | 'f' => some '\x0c'
  | 'n' => some '\n'
  | 'r' => some '\r'
  | 't' => some '\t'
  | _ => none

/-- The character of a number, if it has one. -/
def charOfNat? (n : Nat) : Option Char :=
  if h : n.isValidChar then some (Char.ofNatAux n h) else none

/-- Reads a character between characters: where the reader stands afterwards, and what
is read. -/
def stepPlain (style : Style) (c : Char) : Option (Place × List Char) :=
  if style.escapes && c = '\\' then some (.escape, [])
  else if style.long && c = '\n' then some (.plain, [c])
  else if style.long && c = '\r' then some (.carriage, [c])
  else if isControl c then none
  else some (.plain, [c])

/-- Reads a character behind a backslash. -/
def stepEscape (style : Style) (c : Char) : Option (Place × List Char) :=
  if c = 'x' then some (.number 1 0, [])
  else if c = 'u' then some (.number 3 0, [])
  else if c = 'U' then some (.number 7 0, [])
  else if style.long && isSpace c then some (.folded false, [])
  else if style.long && c = '\n' then some (.folded true, [])
  else if style.long && c = '\r' then some (.foldedCarriage, [])
  else (unescape? c).map fun meant => (.plain, [meant])

/-- Reads one character inside a text. -/
def step (style : Style) : Place → Char → Option (Place × List Char)
  | .plain, c => stepPlain style c
  | .carriage, c => if c = '\n' then some (.plain, [c]) else none
  | .escape, c => stepEscape style c
  | .number count value, c =>
    match digit? 16 c with
    | none => none
    | some d =>
      match count with
      | 0 => (charOfNat? (16 * value + d)).map fun meant => (.plain, [meant])
      | count + 1 => some (.number count (16 * value + d), [])
  | .folded ended, c =>
    if isSpace c then some (.folded ended, [])
    else if c = '\n' then some (.folded true, [])
    else if c = '\r' then some (.foldedCarriage, [])
    else if ended then stepPlain style c
    else none
  | .foldedCarriage, c => if c = '\n' then some (.folded true, []) else none

/-- Decides whether a text may end where the reader stands. -/
def Place.isEnd : Place → Bool
  | .plain | .folded true => true
  | _ => false

/-- Reads the inside of a text from a place. -/
def inside? (style : Style) : Place → List Char → Option (List Char)
  | place, [] => if place.isEnd then some [] else none
  | place, c :: cs =>
    match step style place c with
    | some (next, read) => (inside? style next cs).map (read ++ ·)
    | none => none

/-- Drops a line end at the beginning of a text. -/
def dropLineEnd : List Char → List Char
  | '\n' :: cs => cs
  | '\r' :: '\n' :: cs => cs
  | cs => cs

/-- Reads a text between single quotes of the given kind, behind the first of them. -/
def short? (quote : Char) (cs : List Char) : Option (String × List Char) := do
  let escapes := quote = '"'
  let cut ← cutShort quote escapes cs
  let inside ← inside? ⟨escapes, false⟩ .plain cut.1
  pure (String.ofList inside, cut.2)

/-- Reads a text between three quotes of the given kind, behind the first three. -/
def long? (quote : Char) (cs : List Char) : Option (String × List Char) := do
  let escapes := quote = '"'
  let cut ← cutLong quote escapes cs
  let inside ← inside? ⟨escapes, true⟩ .plain (dropLineEnd cut.1)
  pure (String.ofList inside, cut.2)

/-! ### Lines -/

/-- Drops the spaces at the beginning. -/
def dropSpaces (cs : List Char) : List Char := cs.dropWhile isSpace

/-- Reads a key: a bare word, or a text on one line. -/
def key? : List Char → Option (String × List Char)
  | '"' :: cs => short? '"' cs
  | '\'' :: cs => short? '\'' cs
  | cs =>
    let word := cs.takeWhile isKeyChar
    if word.isEmpty then none else some (String.ofList word, cs.dropWhile isKeyChar)

/-- A character that may stand in the word of an integer. -/
def isWordChar (c : Char) : Bool := !(isSpace c || isControl c || c = '#')

/-- Reads the value of a setting. -/
def scalar? : List Char → Option (Scalar × List Char)
  | '"' :: '"' :: '"' :: cs => (long? '"' cs).map fun read => (.text read.1, read.2)
  | '"' :: cs => (short? '"' cs).map fun read => (.text read.1, read.2)
  | '\'' :: '\'' :: '\'' :: cs =>
    (long? '\'' cs).map fun read => (.text read.1, read.2)
  | '\'' :: cs => (short? '\'' cs).map fun read => (.text read.1, read.2)
  | cs =>
    (integer? (cs.takeWhile isWordChar)).map fun n =>
      (.number n, cs.dropWhile isWordChar)

/-- Reads what may stand behind a setting, and the end of the line. -/
def lineEnd? (cs : List Char) : Option (List Char) :=
  let rest :=
    match dropSpaces cs with
    | '#' :: comment => comment.dropWhile fun c => !isControl c
    | rest => rest
  match rest with
  | [] => some []
  | '\n' :: cs => some cs
  | '\r' :: '\n' :: cs => some cs
  | _ => none

/-- Reads a setting and the rest of its line. -/
def setting? (cs : List Char) : Option ((String × Scalar) × List Char) := do
  let (key, afterKey) ← key? cs
  match dropSpaces afterKey with
  | '=' :: afterEquals =>
    let (value, afterValue) ← scalar? (dropSpaces afterEquals)
    let rest ← lineEnd? afterValue
    pure ((key, value), rest)
  | _ => none

/-- Reads the settings of at most `count` lines. -/
def lines? : Nat → List Char → Option (List (String × Scalar))
  | 0, _ => none
  | _ + 1, [] => some []
  | count + 1, c :: cs =>
    match lineEnd? (c :: cs) with
    | some rest => lines? count rest
    | none => do
      let (setting, rest) ← setting? (dropSpaces (c :: cs))
      let settings ← lines? count rest
      pure (setting :: settings)

/-- The settings of a document, in order.  A byte order mark may stand at the beginning.
Every line takes at least one character, so there are no more lines than characters. -/
def settings? (document : String) : Option (List (String × Scalar)) :=
  let cs :=
    match document.toList with
    | '\uFEFF' :: cs => cs
    | cs => cs
  lines? (cs.length + 1) cs

end Document

end BoundSql
