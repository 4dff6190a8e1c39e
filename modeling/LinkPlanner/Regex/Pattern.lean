import LinkPlanner.Regex.CharSet

/-! Regular expressions and where they match. Only whether a match exists is asked for, so groups capture
nothing and greed makes no difference. A matcher works on all positions of the text at once: the positions are
numbered from 0, before the first character, and a set of positions is a number whose bit `i` stands for
position `i`. -/

namespace LinkPlanner.Regex

/-- A condition on a position, told from the characters on its two sides. -/
inductive Look where
  | textStart
  | textEnd
  | lineStart
  | lineEnd
  /-- Line ends are `\n`, `\r` and the pair `\r\n`. -/
  | wideLineStart
  | wideLineEnd
  /-- Exactly one side belongs to a word. -/
  | wordBoundary (letters : CharSet)
  | notWordBoundary (letters : CharSet)
  | wordStart (letters : CharSet)
  | wordEnd (letters : CharSet)
  /-- No word character stands before. -/
  | wordStartHalf (letters : CharSet)
  /-- No word character follows. -/
  | wordEndHalf (letters : CharSet)
deriving Repr, Inhabited

/-- Whether the condition holds between two characters; at the ends of the text there is none. -/
def Look.holds (before after : Option Char) : Look → Bool
  | .textStart => before.isNone
  | .textEnd => after.isNone
  | .lineStart => before.all (· == '\n')
  | .lineEnd => after.all (· == '\n')
  | .wideLineStart => before.all (· == '\n') || (before == some '\r' && after != some '\n')
  | .wideLineEnd => after.all (· == '\r') || (after == some '\n' && before != some '\r')
  | .wordBoundary w => before.any w.mem != after.any w.mem
  | .notWordBoundary w => before.any w.mem == after.any w.mem
  | .wordStart w => !before.any w.mem && after.any w.mem
  | .wordEnd w => before.any w.mem && !after.any w.mem
  | .wordStartHalf w => !before.any w.mem
  | .wordEndHalf w => !after.any w.mem

/-- A regular expression. -/
inductive Pattern where
  | empty
  | chars (s : CharSet)
  | look (l : Look)
  | seq (r s : Pattern)
  | alt (r s : Pattern)
  | star (r : Pattern)
  /-- Exactly `n` times. -/
  | times (n : Nat) (r : Pattern)
deriving Repr, Inhabited

namespace Pattern

/-! ### Positions -/

/-- The positions that a character of the set follows. -/
def positionsBefore (s : CharSet) : List Char → Nat
  | [] => 0
  | c :: rest => (if s.mem c then 1 else 0) + 2 * positionsBefore s rest

/-- The positions at which the condition holds, given what stands before the text. -/
def positionsWhere (l : Look) (before : Option Char) : List Char → Nat
  | [] => if l.holds before none then 1 else 0
  | c :: rest => (if l.holds before (some c) then 1 else 0) + 2 * positionsWhere l (some c) rest

/-- Adds what `step` leads to until nothing new comes. The fuel bounds how often. -/
def closure (step : Nat → Nat) : Nat → Nat → Nat
  | 0, at_ => at_
  | fuel + 1, at_ =>
    let more := at_ ||| step at_
    if more = at_ then at_ else closure step fuel more

/-- Takes `n` steps. Once a step leads nowhere else, neither do the steps after it. -/
def iterate (step : Nat → Nat) : Nat → Nat → Nat
  | 0, at_ => at_
  | n + 1, at_ =>
    let next := step at_
    if next = at_ then at_ else iterate step n next

/-- The positions at which a match can end that starts at one of `starts`. A closure adds a position at every
step, so it is complete after as many steps as there are positions. -/
def reach (text : List Char) : Pattern → Nat → Nat
  | empty, starts => starts
  | chars s, starts => (starts &&& positionsBefore s text) <<< 1
  | look l, starts => starts &&& positionsWhere l none text
  | seq r s, starts => s.reach text (r.reach text starts)
  | alt r s, starts => r.reach text starts ||| s.reach text starts
  | star r, starts => closure (r.reach text) (text.length + 1) starts
  | times n r, starts => iterate (r.reach text) n starts

/-- The pattern matches somewhere in the text. -/
def matchesIn (r : Pattern) (text : List Char) : Bool :=
  r.reach text (Nat.pow 2 (text.length + 1) - 1) != 0

/-- How many sets of characters the pattern consists of when its counted repetitions are written out. -/
def size : Pattern → Nat
  | empty | look _ => 0
  | chars _ => 1
  | seq r s | alt r s => r.size + s.size
  | star r => r.size
  | times n r => n * r.size

/-! ### Derived forms -/

def opt (r : Pattern) : Pattern := alt r empty

def plus (r : Pattern) : Pattern := seq r (star r)

/-- At least `n` times, and at most `m` times if that is given. -/
def between (n : Nat) (m : Option Nat) (r : Pattern) : Pattern :=
  match m with
  | none => seq (times n r) (star r)
  | some m => if m = n then times n r else seq (times n r) (times (m - n) (opt r))

def concat : List Pattern → Pattern
  | [] => empty
  | [r] => r
  | r :: rest => seq r (concat rest)

end Pattern
end LinkPlanner.Regex
