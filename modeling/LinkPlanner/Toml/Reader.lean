import LinkPlanner.Text.Hex
import LinkPlanner.Toml.Character
import LinkPlanner.Toml.Tables

/-! Reading documents written in TOML. A text is read as a list of statements, which are then put into tables.
The fuel of the reading functions is the length of the text, since every step consumes at least one character. -/

namespace LinkPlanner.Toml

/-! ### Blanks, comments and line ends -/

def skipSpaces (cs : List Char) : List Char := cs.dropWhile isSpace

/-- What follows a line end, if one is here. A carriage return is one only together with a line feed. -/
def lineEnd? : List Char → Option (List Char)
  | '\n' :: rest => some rest
  | '\r' :: '\n' :: rest => some rest
  | _ => none

/-- Drops blanks and a comment. -/
def skipComment (cs : List Char) : List Char :=
  match skipSpaces cs with
  | '#' :: rest => rest.dropWhile isVisible
  | rest => rest

/-- Drops blanks, comments and line ends. -/
def skipLines : Nat → List Char → List Char
  | 0, cs => cs
  | fuel + 1, cs =>
    let rest := skipComment cs
    match lineEnd? rest with
    | some rest => skipLines fuel rest
    | none => rest

/-! ### Strings -/

/-- A character by its number in `count` hexadecimal digits. -/
def numbered? (count : Nat) (cs : List Char) : Option (Char × List Char) := do
  let c ← Text.charOfHex? (cs.take count)
  if count ≤ cs.length then some (c, cs.drop count) else none

/-- The character that an escape stands for, after its backslash. -/
def escaped? : List Char → Option (Char × List Char)
  | 'b' :: rest => some ('\x08', rest)
  | 't' :: rest => some ('\t', rest)
  | 'n' :: rest => some ('\n', rest)
  | 'f' :: rest => some ('\x0c', rest)
  | 'r' :: rest => some ('\r', rest)
  | 'e' :: rest => some ('\x1b', rest)
  | '"' :: rest => some ('"', rest)
  | '\\' :: rest => some ('\\', rest)
  | 'x' :: rest => numbered? 2 rest
  | 'u' :: rest => numbered? 4 rest
  | 'U' :: rest => numbered? 8 rest
  | _ => none

/-- The rest of a string in double quotes on one line. -/
def readBasic? : Nat → List Char → Option (List Char × List Char)
  | 0, _ => none
  | fuel + 1, cs =>
    match cs with
    | '"' :: rest => some ([], rest)
    | '\\' :: rest => do
      let (c, rest) ← escaped? rest
      (readBasic? fuel rest).map fun (s, rest) => (c :: s, rest)
    | c :: rest => if isVisible c then (readBasic? fuel rest).map fun (s, rest) => (c :: s, rest) else none
    | [] => none

/-- The rest of a string in single quotes on one line. -/
def readLiteral? : List Char → Option (List Char × List Char)
  | '\'' :: rest => some ([], rest)
  | c :: rest => if isVisible c then (readLiteral? rest).map fun (s, rest) => (c :: s, rest) else none
  | [] => none

/-- A run of delimiters ends a string over several lines if there are three. Up to two more belong to the
string. -/
def closing? (delimiter : Char) (cs : List Char) : Option (List Char × List Char) :=
  let n := (cs.takeWhile (· == delimiter)).length
  if n < 3 then none
  else
    let inside := min (n - 3) 2
    some (List.replicate inside delimiter, cs.drop (inside + 3))

/-- A backslash at the end of a line: it and all blanks and line ends after it stand for nothing. -/
def continuation? (fuel : Nat) (cs : List Char) : Option (List Char) := do
  let rest ← lineEnd? (skipSpaces cs)
  some (blankLines fuel rest)
where
  blankLines : Nat → List Char → List Char
    | 0, cs => cs
    | fuel + 1, cs =>
      let rest := skipSpaces cs
      match lineEnd? rest with
      | some rest => blankLines fuel rest
      | none => rest

/-- The rest of a string in triple double quotes. A line end in it is a line feed, however it is written. -/
def readBasicLines? : Nat → List Char → Option (List Char × List Char)
  | 0, _ => none
  | fuel + 1, cs =>
    match closing? '"' cs with
    | some done => some done
    | none =>
      match cs with
      | '\\' :: rest =>
        match continuation? fuel rest with
        | some rest => readBasicLines? fuel rest
        | none => do
          let (c, rest) ← escaped? rest
          (readBasicLines? fuel rest).map fun (s, rest) => (c :: s, rest)
      | c :: rest =>
        match lineEnd? cs with
        | some rest => (readBasicLines? fuel rest).map fun (s, rest) => ('\n' :: s, rest)
        | none =>
          if isVisible c then (readBasicLines? fuel rest).map fun (s, rest) => (c :: s, rest) else none
      | [] => none

/-- The rest of a string in triple single quotes, which stands as it is written. -/
def readLiteralLines? : Nat → List Char → Option (List Char × List Char)
  | 0, _ => none
  | fuel + 1, cs =>
    match closing? '\'' cs with
    | some done => some done
    | none =>
      match cs with
      | '\r' :: '\n' :: rest => (readLiteralLines? fuel rest).map fun (s, rest) => ('\r' :: '\n' :: s, rest)
      | c :: rest =>
        if isVisible c || c == '\n' then (readLiteralLines? fuel rest).map fun (s, rest) => (c :: s, rest)
        else none
      | [] => none

/-- A line end right after the opening delimiter does not belong to the string. -/
def dropFirstLineEnd (cs : List Char) : List Char := (lineEnd? cs).getD cs

/-- A string in any of its forms. -/
def readString? (fuel : Nat) : List Char → Option (String × List Char)
  | '"' :: '"' :: '"' :: rest => (readBasicLines? fuel (dropFirstLineEnd rest)).map fun (s, r) => (.ofList s, r)
  | '\'' :: '\'' :: '\'' :: rest =>
    (readLiteralLines? fuel (dropFirstLineEnd rest)).map fun (s, r) => (.ofList s, r)
  | '"' :: rest => (readBasic? fuel rest).map fun (s, r) => (.ofList s, r)
  | '\'' :: rest => (readLiteral? rest).map fun (s, r) => (.ofList s, r)
  | _ => none

/-! ### Keys -/

def readKey? (fuel : Nat) (cs : List Char) : Option (String × List Char) :=
  match cs with
  | '"' :: rest => (readBasic? fuel rest).map fun (s, r) => (.ofList s, r)
  | '\'' :: rest => (readLiteral? rest).map fun (s, r) => (.ofList s, r)
  | _ =>
    let key := cs.takeWhile isBareKeyChar
    if key.isEmpty then none else some (.ofList key, cs.dropWhile isBareKeyChar)

/-- Keys with dots between them, and blanks around the dots. -/
def readDottedKey? : Nat → List Char → Option (List String × List Char)
  | 0, _ => none
  | fuel + 1, cs => do
    let (key, rest) ← readKey? fuel (skipSpaces cs)
    match skipSpaces rest with
    | '.' :: rest => (readDottedKey? fuel rest).map fun (keys, rest) => (key :: keys, rest)
    | rest => some ([key], rest)

/-! ### Numbers, dates and times -/

/-- Digits of a number, with single underscores between them. -/
def areDigits (isDigit : Char → Bool) (cs : List Char) : Bool :=
  (cs.splitOn '_').all fun part => !part.isEmpty && part.all isDigit

/-- Decimal digits without a needless zero in front. -/
def isWhole (cs : List Char) : Bool := areDigits Char.isDigit cs && (cs.head? != some '0' || cs.length == 1)

def dropSign : List Char → List Char
  | '+' :: rest | '-' :: rest => rest
  | cs => cs

def isExponentMark (c : Char) : Bool := c == 'e' || c == 'E'

/-- A decimal number, with a fraction and an exponent or without. -/
def isDecimal (cs : List Char) : Bool :=
  let mantissa := cs.takeWhile (!isExponentMark ·)
  let whole := mantissa.takeWhile (· != '.')
  isWhole whole &&
    (match mantissa.drop whole.length with
      | [] => true
      | _ :: fraction => areDigits Char.isDigit fraction) &&
    match cs.drop mantissa.length with
    | [] => true
    | _ :: exponent => areDigits Char.isDigit (dropSign exponent)

def isNumber (cs : List Char) : Bool :=
  match cs with
  | '0' :: 'x' :: rest => areDigits (fun c => (Text.hexValue? c).isSome) rest
  | '0' :: 'o' :: rest => areDigits (fun c => '0' ≤ c && c ≤ '7') rest
  | '0' :: 'b' :: rest => areDigits (fun c => c == '0' || c == '1') rest
  | _ => let rest := dropSign cs; rest == "inf".toList || rest == "nan".toList || isDecimal rest

/-- The text has the shape of `form`, in which `0` stands for any digit. -/
def hasForm (form : String) (cs : List Char) : Bool :=
  form.length == cs.length &&
    (form.toList.zip cs).all fun (f, c) => if f == '0' then c.isDigit else f == c

def isDate (cs : List Char) : Bool := hasForm "0000-00-00" cs

/-- A time of day; the seconds may be left out. -/
def isTime (cs : List Char) : Bool :=
  hasForm "00:00" cs ||
    (hasForm "00:00:00" (cs.take 8) &&
      match cs.drop 8 with
      | [] => true
      | '.' :: fraction => !fraction.isEmpty && fraction.all Char.isDigit
      | _ => false)

/-- A time of day with the distance of its zone. -/
def isZonedTime (cs : List Char) : Bool :=
  match cs.reverse with
  | 'Z' :: before | 'z' :: before => isTime before.reverse
  | _ =>
    let zone := cs.drop (cs.length - 6)
    (hasForm "+00:00" zone || hasForm "-00:00" zone) && isTime (cs.take (cs.length - 6))

def isDateTime (cs : List Char) : Bool :=
  isDate cs || isTime cs ||
    (isDate (cs.take 10) &&
      match cs.drop 10 with
      | c :: time => (c == 'T' || c == 't' || c == ' ') && (isTime time || isZonedTime time)
      | [] => false)

def isWordChar (c : Char) : Bool := c.isAlphanum || c == '+' || c == '-' || c == '_' || c == '.' || c == ':'

/-- A value that is a single word, or a date and a time with a blank between them. -/
def readWord? (cs : List Char) : Option (Document × List Char) :=
  let word := cs.takeWhile isWordChar
  let rest := cs.drop word.length
  let withTime := match rest with
    | ' ' :: after => word ++ ' ' :: after.takeWhile isWordChar
    | _ => word
  if word == "true".toList then some (.bool true, rest)
  else if word == "false".toList then some (.bool false, rest)
  else if isDate word && isDateTime withTime then
    some (.datetime (.ofList withTime), cs.drop withTime.length)
  else if isDateTime word then some (.datetime (.ofList word), rest)
  else if isNumber word then some (.number (.ofList word), rest)
  else none

/-! ### Values -/

mutual

/-- A value of any kind. -/
def readValue? : Nat → List Char → Option (Document × List Char)
  | 0, _ => none
  | fuel + 1, cs =>
    match cs with
    | '[' :: rest => do
      let (items, rest) ← readItems? fuel rest
      some (.array items, rest)
    | '\x7b' :: rest => do
      let (entries, rest) ← readEntries? fuel .empty rest
      some (entries.toDocument, rest)
    | '"' :: _ | '\'' :: _ => (readString? fuel cs).map fun (s, rest) => (.string s, rest)
    | _ => readWord? cs

/-- The rest of a list up to and with its closing bracket. -/
def readItems? : Nat → List Char → Option (List Document × List Char)
  | 0, _ => none
  | fuel + 1, cs =>
    match skipLines fuel cs with
    | ']' :: rest => some ([], rest)
    | cs => do
      let (item, rest) ← readValue? fuel cs
      match skipLines fuel rest with
      | ',' :: rest => (readItems? fuel rest).map fun (items, rest) => (item :: items, rest)
      | ']' :: rest => some ([item], rest)
      | _ => none

/-- The rest of a table between braces, up to and with the closing one. -/
def readEntries? : Nat → Table → List Char → Option (Table × List Char)
  | 0, _, _ => none
  | fuel + 1, table, cs =>
    match skipLines fuel cs with
    | '\x7d' :: rest => some (table, rest)
    | cs => do
      let (key, value, rest) ← readEntry? fuel cs
      let table ← table.assign? key value
      match skipLines fuel rest with
      | ',' :: rest => readEntries? fuel table rest
      | '\x7d' :: rest => some (table, rest)
      | _ => none

/-- A key with its value. -/
def readEntry? : Nat → List Char → Option (List String × Document × List Char)
  | 0, _ => none
  | fuel + 1, cs => do
    let (key, rest) ← readDottedKey? fuel cs
    match rest with
    | '=' :: rest =>
      let (value, rest) ← readValue? fuel (skipSpaces rest)
      some (key, value, rest)
    | _ => none

end

/-! ### Statements -/

/-- What follows the line, if nothing but blanks and a comment is left on it. -/
def finishLine? (cs : List Char) : Option (List Char) :=
  match skipComment cs with
  | [] => some []
  | rest => lineEnd? rest

/-- One statement, with what follows its line. -/
def readStatement? (fuel : Nat) (cs : List Char) : Option (Statement × List Char) :=
  match cs with
  | '[' :: '[' :: rest => do
    match ← readDottedKey? fuel rest with
    | (path, ']' :: ']' :: rest) => some (.item path, ← finishLine? rest)
    | _ => none
  | '[' :: rest => do
    match ← readDottedKey? fuel rest with
    | (path, ']' :: rest) => some (.header path, ← finishLine? rest)
    | _ => none
  | _ => do
    let (key, value, rest) ← readEntry? fuel cs
    some (.entry key value, ← finishLine? rest)

def readStatements? : Nat → List Char → Option (List Statement)
  | 0, _ => none
  | fuel + 1, cs =>
    match skipLines fuel cs with
    | [] => some []
    | cs => do
      let (s, rest) ← readStatement? fuel cs
      (readStatements? fuel rest).map (s :: ·)

/-- The document that the text writes, if it writes one. A mark of the byte order at the start says nothing. -/
def read? (text : String) : Option Document := do
  let cs := match text.toList with
    | '\ufeff' :: rest => rest
    | cs => cs
  let statements ← readStatements? (4 * cs.length + 4) cs
  some (← Table.ofStatements? statements).toDocument

end LinkPlanner.Toml
