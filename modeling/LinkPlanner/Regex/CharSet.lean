import LinkPlanner.Text.Blank
import LinkPlanner.Text.CaseFold
import LinkPlanner.Text.Word

/-! Sets of characters, as classes in patterns describe them. -/

namespace LinkPlanner.Regex

/-- A set of characters. -/
inductive CharSet where
  | none
  /-- Every character whose code point lies between the two, both included. -/
  | range (first last : Nat)
  /-- Decimal digits of every script. -/
  | digit
  /-- Unicode white space. -/
  | blank
  /-- Characters that make up words. -/
  | word
  /-- What differs from a member at most in case. -/
  | caseless (s : CharSet)
  /-- What differs from a member at most in the case of an ASCII letter. -/
  | asciiCaseless (s : CharSet)
  | union (s t : CharSet)
  | inter (s t : CharSet)
  | compl (s : CharSet)
deriving Repr, Inhabited

namespace CharSet

def mem : CharSet → Char → Bool
  | none, _ => false
  | range first last, c => first ≤ c.toNat && c.toNat ≤ last
  | digit, c => Text.isDecimalDigit c
  | blank, c => Text.isBlank c
  | word, c => Text.isWordChar c
  | caseless s, c => (Text.caseVariants c).any s.mem
  | asciiCaseless s, c => s.mem c || s.mem c.toLower || s.mem c.toUpper
  | union s t, c => s.mem c || t.mem c
  | inter s t, c => s.mem c && t.mem c
  | compl s, c => !s.mem c

def single (c : Char) : CharSet := range c.toNat c.toNat

/-- The characters that the predicate of ranges holds for. -/
def ofRanges (rs : List (Char × Char)) : CharSet :=
  rs.foldl (fun s r => s.union (range r.1.toNat r.2.toNat)) none

def any : CharSet := compl none

def diff (s t : CharSet) : CharSet := s.inter t.compl

def symmDiff (s t : CharSet) : CharSet := (s.diff t).union (t.diff s)

def asciiDigit : CharSet := ofRanges [('0', '9')]

def asciiBlank : CharSet := ofRanges [('\t', '\r'), (' ', ' ')]

def asciiWord : CharSet := ofRanges [('0', '9'), ('A', 'Z'), ('_', '_'), ('a', 'z')]

/-- The named ASCII classes of bracketed sets. -/
def ofName? : String → Option CharSet
  | "alnum" => some (ofRanges [('0', '9'), ('A', 'Z'), ('a', 'z')])
  | "alpha" => some (ofRanges [('A', 'Z'), ('a', 'z')])
  | "ascii" => some (ofRanges [('\x00', '\x7f')])
  | "blank" => some (ofRanges [('\t', '\t'), (' ', ' ')])
  | "cntrl" => some (ofRanges [('\x00', '\x1f'), ('\x7f', '\x7f')])
  | "digit" => some asciiDigit
  | "graph" => some (ofRanges [('!', '~')])
  | "lower" => some (ofRanges [('a', 'z')])
  | "print" => some (ofRanges [(' ', '~')])
  | "punct" => some (ofRanges [('!', '/'), (':', '@'), ('[', '\x60'), ('\x7b', '~')])
  | "space" => some asciiBlank
  | "upper" => some (ofRanges [('A', 'Z')])
  | "word" => some asciiWord
  | "xdigit" => some (ofRanges [('0', '9'), ('A', 'F'), ('a', 'f')])
  | _ => Option.none

end CharSet
end LinkPlanner.Regex
