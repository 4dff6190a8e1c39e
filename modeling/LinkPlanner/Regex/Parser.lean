import LinkPlanner.Regex.Pattern
import LinkPlanner.Text.Hex

/-! The written form of regular expressions. A pattern is read from left to right; the fuel of the reading
functions is the length of the pattern, since each step consumes at least one character. A pattern that breaks
the grammar has no reading at all. The reader is the one that the program is run with: classes of characters by
Unicode property (`\p`) have no reading here, and what is proved of options holds of every reader. -/

namespace LinkPlanner.Regex

/-- The settings that a pattern can change for the rest of the group it stands in. -/
structure Flags where
  caseless : Bool := false
  multiLine : Bool := false
  dotAll : Bool := false
  wideLines : Bool := false
  unicode : Bool := true
  /-- Blanks and comments in the pattern mean nothing. -/
  spaced : Bool := false
  /-- Greed is inverted, which makes no difference to whether a match exists. -/
  swapGreed : Bool := false

namespace Flags

def digit (f : Flags) : CharSet := if f.unicode then .digit else .asciiDigit

def blank (f : Flags) : CharSet := if f.unicode then .blank else .asciiBlank

def word (f : Flags) : CharSet := if f.unicode then .word else .asciiWord

/-- The set with what the flags say about case. -/
def cased (f : Flags) (s : CharSet) : CharSet :=
  if !f.caseless then s else if f.unicode then .caseless s else .asciiCaseless s

/-- The complement; without Unicode a set could hold half of a character, so there is none. -/
def complement? (f : Flags) (s : CharSet) : Option CharSet := if f.unicode then some s.compl else none

def dot? (f : Flags) : Option CharSet :=
  if f.dotAll then f.complement? .none
  else if f.wideLines then f.complement? ((CharSet.single '\n').union (.single '\r'))
  else f.complement? (.single '\n')

def lineStart (f : Flags) : Look :=
  if !f.multiLine then .textStart else if f.wideLines then .wideLineStart else .lineStart

def lineEnd (f : Flags) : Look :=
  if !f.multiLine then .textEnd else if f.wideLines then .wideLineEnd else .lineEnd

/-- The flags with the one named by a letter set to `on`. -/
def set? (f : Flags) (on : Bool) : Char → Option Flags
  | 'i' => some { f with caseless := on }
  | 'm' => some { f with multiLine := on }
  | 's' => some { f with dotAll := on }
  | 'R' => some { f with wideLines := on }
  | 'u' => some { f with unicode := on }
  | 'x' => some { f with spaced := on }
  | 'U' => some { f with swapGreed := on }
  | _ => none

/-- Reads flags up to the `)` or `:` that ends them. Each flag may stand once, and so may the `-` that turns
off what follows it; a `-` has to be followed by a flag. -/
def read? (f : Flags) (on : Bool) (seen : List Char) : List Char → Option (Flags × List Char × List Char)
  | [] => none
  | c :: rest =>
    if c = ')' || c = ':' then
      if seen.head? = some '-' then none else some (f, seen, c :: rest)
    else if seen.contains c then none
    else if c = '-' then f.read? false (c :: seen) rest
    else do (← f.set? on c).read? on (c :: seen) rest

end Flags

/-! ### Escapes -/

/-- What an escape can stand for. -/
inductive Escape where
  | literal (c : Char)
  | set (s : CharSet)
  | look (l : Look)

/-- A character by its number: `count` digits, or any number of them in braces. -/
def readHex? (count : Nat) : List Char → Option (Char × List Char)
  | '\x7b' :: rest =>
    match rest.dropWhile (· != '\x7d') with
    | _ :: after => (Text.charOfHex? (rest.takeWhile (· != '\x7d'))).map (·, after)
    | [] => none
  | rest =>
    if count ≤ rest.length then (Text.charOfHex? (rest.take count)).map (·, rest.drop count) else none

/-- The braces after `\b` name a one-sided boundary, unless they hold a count. -/
def readBoundary? (w : CharSet) : List Char → Option (Look × List Char)
  | '\x7b' :: rest =>
    match rest with
    | [] => none
    | c :: _ =>
      if c.isAlpha || c = '-' then
        let isNameChar := fun c : Char => c.isAlpha || c = '-'
        match rest.dropWhile isNameChar with
        | '\x7d' :: after =>
          match String.ofList (rest.takeWhile isNameChar) with
          | "start" => some (.wordStart w, after)
          | "end" => some (.wordEnd w, after)
          | "start-half" => some (.wordStartHalf w, after)
          | "end-half" => some (.wordEndHalf w, after)
          | _ => none
        | _ => none
      else some (.wordBoundary w, '\x7b' :: rest)
  | rest => some (.wordBoundary w, rest)

/-- Reads what follows a backslash. Letters and digits without a meaning are kept for meanings to come. -/
def readEscape? (f : Flags) : List Char → Option (Escape × List Char)
  | [] => none
  | c :: rest =>
    match c with
    | 'x' => (readHex? 2 rest).map fun (c, r) => (.literal c, r)
    | 'u' => (readHex? 4 rest).map fun (c, r) => (.literal c, r)
    | 'U' => (readHex? 8 rest).map fun (c, r) => (.literal c, r)
    | 'd' => some (.set f.digit, rest)
    | 's' => some (.set f.blank, rest)
    | 'w' => some (.set f.word, rest)
    | 'D' => (f.complement? f.digit).map (.set ·, rest)
    | 'S' => (f.complement? f.blank).map (.set ·, rest)
    | 'W' => (f.complement? f.word).map (.set ·, rest)
    | 'a' => some (.literal '\x07', rest)
    | 'f' => some (.literal '\x0c', rest)
    | 't' => some (.literal '\t', rest)
    | 'n' => some (.literal '\n', rest)
    | 'r' => some (.literal '\r', rest)
    | 'v' => some (.literal '\x0b', rest)
    | 'A' => some (.look .textStart, rest)
    | 'z' => some (.look .textEnd, rest)
    | 'b' => (readBoundary? f.word rest).map fun (l, r) => (.look l, r)
    | 'B' => some (.look (.notWordBoundary f.word), rest)
    | '<' => some (.look (.wordStart f.word), rest)
    | '>' => some (.look (.wordEnd f.word), rest)
    | c => if c.toNat < 128 && !c.isAlphanum then some (.literal c, rest) else none

/-! ### Blanks and comments -/

/-- Drops blanks and comments if the flags make them meaningless. -/
def skipBlanks (f : Flags) (cs : List Char) : List Char :=
  if f.spaced then go false cs else cs
where
  go (inComment : Bool) : List Char → List Char
    | [] => []
    | c :: rest =>
      if inComment then go (c != '\n') rest
      else if Text.isBlank c then go false rest
      else if c = '#' then go true rest
      else c :: rest

/-! ### Bracketed sets -/

/-- How two sets inside brackets are put together. -/
inductive SetOp where
  | inter
  | diff
  | symmDiff

def SetOp.apply : SetOp → CharSet → CharSet → CharSet
  | .inter => CharSet.inter
  | .diff => CharSet.diff
  | .symmDiff => CharSet.symmDiff

/-- The set so far, with an operation that waits for its right side. -/
def pending (left : Option (CharSet × SetOp)) (right : CharSet) : CharSet :=
  left.elim right fun (s, op) => op.apply s right

/-- A character or an escape inside brackets; conditions on positions have no place there. -/
def readSetItem? (f : Flags) : List Char → Option ((Char ⊕ CharSet) × List Char)
  | [] => none
  | '\\' :: rest => do
    match ← readEscape? f rest with
    | (.literal c, rest) => some (.inl c, rest)
    | (.set s, rest) => some (.inr s, rest)
    | (.look _, _) => none
  | c :: rest => some (.inl c, rest)

/-- A single item or a range of characters. A `-` before the closing bracket stands for itself. -/
def readSetRange? (f : Flags) (cs : List Char) : Option (CharSet × List Char) := do
  let (first, rest) ← readSetItem? f cs
  let rest := skipBlanks f rest
  let single := match first with
    | .inl c => f.cased (.single c)
    | .inr s => s
  match rest with
  | [] => none
  | '-' :: after =>
    let after := skipBlanks f after
    match after with
    | [] => none
    | ']' :: _ | '-' :: _ => some (single, rest)
    | _ =>
      match first, ← readSetItem? f after with
      | .inl a, (.inl b, rest) => if a ≤ b then some (f.cased (.range a.toNat b.toNat), rest) else none
      | _, _ => none
  | _ => some (single, rest)

/-- A named class such as `[:alpha:]`; anything else that starts like one is a set of its own. -/
def readNamedSet? (f : Flags) (cs : List Char) : Option (CharSet × List Char) := do
  let (negated, rest) := match cs with
    | '[' :: ':' :: '^' :: rest => (true, some rest)
    | '[' :: ':' :: rest => (false, some rest)
    | _ => (false, none)
  let rest ← rest
  match rest.dropWhile (· != ':') with
  | ':' :: ']' :: after =>
    let s := f.cased (← CharSet.ofName? (String.ofList (rest.takeWhile (· != ':'))))
    some (← if negated then f.complement? s else some s, after)
  | _ => none

/-- The start of a set: whether it is negated, and the `-` and `]` that stand for themselves there. -/
def readSetOpening? (f : Flags) (cs : List Char) : Option (Bool × CharSet × List Char) := do
  let cs := skipBlanks f cs
  let (negated, cs) := match cs with
    | '^' :: rest => (true, skipBlanks f rest)
    | _ => (false, cs)
  let dashes := cs.takeWhile (· == '-')
  let rest := skipBlanks f (cs.drop dashes.length)
  if !dashes.isEmpty then some (negated, .single '-', rest)
  else match rest with
    | ']' :: rest => some (negated, .single ']', skipBlanks f rest)
    | _ => some (negated, .none, rest)

/-- Reads the rest of a set up to and with its `]`. -/
def readSet? (f : Flags) : Nat → Bool → Option (CharSet × SetOp) → CharSet → List Char →
    Option (CharSet × List Char)
  | 0, _, _, _, _ => none
  | fuel + 1, negated, left, items, cs =>
    match skipBlanks f cs with
    | [] => none
    | ']' :: rest => do
      let s := pending left items
      some (← if negated then f.complement? s else some s, rest)
    | '[' :: rest =>
      match readNamedSet? f ('[' :: rest) with
      | some (s, rest) => readSet? f fuel negated left (items.union s) rest
      | none => do
        let (innerNegated, start, rest) ← readSetOpening? f rest
        let (inner, rest) ← readSet? f fuel innerNegated none start rest
        readSet? f fuel negated left (items.union inner) rest
    | '&' :: '&' :: rest => readSet? f fuel negated (some (pending left items, .inter)) .none rest
    | '-' :: '-' :: rest => readSet? f fuel negated (some (pending left items, .diff)) .none rest
    | '~' :: '~' :: rest => readSet? f fuel negated (some (pending left items, .symmDiff)) .none rest
    | cs => do
      let (s, rest) ← readSetRange? f cs
      readSet? f fuel negated left (items.union s) rest

/-! ### Repetition -/

/-- A decimal number with blanks around it. -/
def readCount? (cs : List Char) : Option (Nat × List Char) :=
  let cs := cs.dropWhile Text.isBlank
  let digits := cs.takeWhile Char.isDigit
  if digits.isEmpty then none
  else
    let n := digits.foldl (fun n d => 10 * n + (d.toNat - '0'.toNat)) 0
    if n < Nat.pow 2 32 then some (n, (cs.dropWhile Char.isDigit).dropWhile Text.isBlank) else none

/-- The bounds of a counted repetition, after its opening brace. -/
def readBounds? (cs : List Char) : Option ((Nat × Option Nat) × List Char) := do
  let (least, rest) ← readCount? cs
  match rest with
  | '\x7d' :: rest => some ((least, some least), rest)
  | ',' :: '\x7d' :: rest => some ((least, none), rest)
  | ',' :: rest =>
    match ← readCount? rest with
    | (most, '\x7d' :: rest) => if least ≤ most then some ((least, some most), rest) else none
    | _ => none
  | _ => none

/-- Changes the last item. Items are listed with the last one first; one without a pattern only sets flags
and cannot be repeated. -/
def repeatLast? (change : Pattern → Pattern) : List (Option Pattern) → Option (List (Option Pattern))
  | some r :: items => some (some (change r) :: items)
  | _ => none

def dropLazyMark : List Char → List Char
  | '?' :: rest => rest
  | cs => cs

/-! ### Groups and sequences -/

/-- What an opening parenthesis begins. -/
inductive Opening where
  /-- A group to be read with the given flags. -/
  | group (flags : Flags)
  /-- Only flags, for the rest of the group around it. -/
  | setting (flags : Flags)

/-- A name for a group: a letter or `_`, then also digits, `.`, `[` and `]`. -/
def isGroupName : List Char → Bool
  | [] => false
  | c :: rest =>
    (c == '_' || Text.isAlphabetic c) &&
      rest.all fun c => c == '_' || c == '.' || c == '[' || c == ']' || Text.isAlphabetic c || Text.isDecimalDigit c

/-- Reads what follows an opening parenthesis. Names must not be given twice; looking ahead and behind is not
part of the grammar. -/
def readOpening? (f : Flags) (names : List (List Char)) (cs : List Char) :
    Option (Opening × List (List Char) × List Char) :=
  let named := fun rest : List Char =>
    let name := rest.takeWhile (· != '>')
    if !isGroupName name || names.contains name then none
    else match rest.dropWhile (· != '>') with
      | _ :: rest => some (.group f, name :: names, rest)
      | [] => none
  match skipBlanks f cs with
  | '?' :: '=' :: _ | '?' :: '!' :: _ | '?' :: '<' :: '=' :: _ | '?' :: '<' :: '!' :: _ => none
  | '?' :: 'P' :: '<' :: rest => named rest
  | '?' :: '<' :: rest => named rest
  | '?' :: rest => do
    match ← f.read? true [] rest with
    | (flags, _, ':' :: rest) => some (.group flags, names, rest)
    | (flags, seen, _ :: rest) => if seen.isEmpty then none else some (.setting flags, names, rest)
    | _ => none
  | rest => some (.group f, names, rest)

/-- The alternative that ends here. -/
def alternative (items : List (Option Pattern)) : Pattern := .concat (items.reverse.filterMap id)

/-- Reads alternatives up to the end of the pattern or the `)` that closes their group. -/
def readAlternatives? : Nat → Flags → List (List Char) → Option Pattern → List (Option Pattern) → List Char →
    Option (Pattern × List (List Char) × List Char)
  | 0, _, _, _, _, _ => none
  | fuel + 1, f, names, before, items, cs =>
    let done := (before.elim id Pattern.alt) (alternative items)
    let next := fun item rest => readAlternatives? fuel f names before (item :: items) rest
    let repeated := fun change rest => do
      readAlternatives? fuel f names before (← repeatLast? change items) (dropLazyMark rest)
    match skipBlanks f cs with
    | [] => some (done, names, [])
    | ')' :: rest => some (done, names, ')' :: rest)
    | '|' :: rest => readAlternatives? fuel f names (some done) [] rest
    | '(' :: rest => do
      match ← readOpening? f names rest with
      | (.setting flags, names, rest) => readAlternatives? fuel flags names before (none :: items) rest
      | (.group flags, names, rest) =>
        match ← readAlternatives? fuel flags names none [] rest with
        | (inner, names, ')' :: rest) => readAlternatives? fuel f names before (some inner :: items) rest
        | _ => none
    | '[' :: rest => do
      let (negated, start, rest) ← readSetOpening? f rest
      let (s, rest) ← readSet? f fuel negated none start rest
      next (some (.chars s)) rest
    | '?' :: rest => repeated .opt rest
    | '*' :: rest => repeated .star rest
    | '+' :: rest => repeated .plus rest
    | '\x7b' :: rest => do
      let ((least, most), rest) ← readBounds? rest
      repeated (.between least most) rest
    | '.' :: rest => do next (some (.chars (← f.dot?))) rest
    | '^' :: rest => next (some (.look f.lineStart)) rest
    | '$' :: rest => next (some (.look f.lineEnd)) rest
    | '\\' :: rest => do
      match ← readEscape? f rest with
      | (.literal c, rest) => next (some (.chars (f.cased (.single c)))) rest
      | (.set s, rest) => next (some (.chars s)) rest
      | (.look l, rest) => next (some (.look l)) rest
    | c :: rest => next (some (.chars (f.cased (.single c)))) rest

/-- Patterns that are larger than this are refused. -/
def maxPatternSize : Nat := 10 * Nat.pow 2 15

/-- The pattern that the text writes, if it writes one. -/
def Pattern.ofText? (cs : List Char) : Option Pattern :=
  match readAlternatives? (cs.length + 1) {} [] none [] cs with
  | some (r, _, []) => if r.size ≤ maxPatternSize then some r else none
  | _ => none

/-- Where the pattern is found that the text writes, if it writes one. -/
def matcher? (cs : List Char) : Option (List Char → Bool) := (Pattern.ofText? cs).map (·.matchesIn)

end LinkPlanner.Regex
