/-! Which characters may stand where in a TOML text. -/

namespace LinkPlanner.Toml

/-- What a key may hold without quotes. -/
def isBareKeyChar (c : Char) : Bool := c.isAlphanum || c == '_' || c == '-'

/-- A blank within a line. -/
def isSpace (c : Char) : Bool := c == ' ' || c == '\t'

/-- What a comment or a string on one line may hold: tabs, and everything but control characters. -/
def isVisible (c : Char) : Bool := c == '\t' || (0x20 ≤ c.toNat && c.toNat ≠ 0x7f)

/-- What has to be escaped wherever it stands. Tabs and line ends are judged apart. -/
def isControl (c : Char) : Bool := !isVisible c && c != '\n'

end LinkPlanner.Toml
