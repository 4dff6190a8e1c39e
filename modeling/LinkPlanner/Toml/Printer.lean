import LinkPlanner.Document.Basic
import LinkPlanner.Text.Hex
import LinkPlanner.Toml.Character

/-! The written form of documents in TOML. A table is its header, then its plain values, then the tables in it;
an empty line stands before every header. -/

namespace LinkPlanner.Toml

/-! ### Strings -/

/-- Some character stands `n` times in a row. -/
def hasRun (c : Char) (n : Nat) : List Char → Bool
  | [] => n == 0
  | d :: rest => (List.replicate n c).isPrefixOf (d :: rest) || hasRun c n rest

/-- Escapes what a quoted string cannot hold as it is. A string over several lines keeps its line ends, and of
three quotes in a row it escapes the third; `quotes` counts those that stand before. -/
def escape (severalLines : Bool) : Nat → List Char → List Char
  | _, [] => []
  | quotes, c :: rest =>
    match c with
    | '"' =>
      if severalLines && quotes < 2 then c :: escape severalLines (quotes + 1) rest
      else '\\' :: c :: escape severalLines 0 rest
    | '\n' => (if severalLines then ['\n'] else ['\\', 'n']) ++ escape severalLines 0 rest
    | '\x08' => '\\' :: 'b' :: escape severalLines 0 rest
    | '\t' => '\\' :: 't' :: escape severalLines 0 rest
    | '\x0c' => '\\' :: 'f' :: escape severalLines 0 rest
    | '\r' => '\\' :: 'r' :: escape severalLines 0 rest
    | '\\' => '\\' :: '\\' :: escape severalLines 0 rest
    | _ =>
      (if isControl c then '\\' :: 'u' :: Text.hex4 c.toNat else [c]) ++ escape severalLines 0 rest

def basic (cs : List Char) : List Char := '"' :: escape false 0 cs ++ ['"']

def literal (cs : List Char) : List Char := '\'' :: cs ++ ['\'']

/-- Text between delimiters of three; a text with line ends begins on a line of its own. -/
def tripled (delimiter : Char) (cs written : List Char) : List Char :=
  List.replicate 3 delimiter ++ (if cs.contains '\n' then ['\n'] else []) ++ written ++ List.replicate 3 delimiter

def basicLines (cs : List Char) : List Char := tripled '"' cs (escape true 0 cs)

def literalLines (cs : List Char) : List Char := tripled '\'' cs cs

/-- A string in the first form that needs no escapes, tried in a fixed order; if there is none, escaped. -/
def stringText (cs : List Char) : List Char :=
  let hasControl := cs.any isControl
  let hasLineEnd := cs.contains '\n'
  if !hasControl && !hasLineEnd && !cs.contains '\\' && !cs.contains '"' then basic cs
  else if !hasControl && !hasLineEnd && !cs.contains '\'' then literal cs
  else if !hasControl && !cs.contains '\\' && !hasRun '"' 3 cs then basicLines cs
  else if !hasControl && !hasRun '\'' 3 cs then literalLines cs
  else if hasLineEnd then basicLines cs
  else basic cs

/-! ### Keys -/

def keyText (cs : List Char) : List Char :=
  let hasControl := cs.any fun c => isControl c || c == '\n'
  if !cs.isEmpty && cs.all isBareKeyChar then cs
  else if !hasControl && !cs.contains '"' && !cs.contains '\\' then basic cs
  else if !hasControl && !cs.contains '\'' then literal cs
  else basic cs

/-- A key within a table within a table. -/
def pathText (path : List String) : List Char := ['.'].intercalate (path.map (keyText ·.toList))

/-! ### Values and tables -/

/-- Text that is neither in a table nor a list. -/
def plainText : Document → List Char
  | .bool b => (if b then "true" else "false").toList
  | .number text | .datetime text => text.toList
  | .string s => stringText s.toList
  | _ => []

/-- A list of several values has each on a line of its own. -/
def listText : List Document → List Char
  | [] => "[]".toList
  | [d] => '[' :: plainText d ++ [']']
  | ds => '[' :: '\n' :: ds.flatMap (fun d => "    ".toList ++ plainText d ++ [',', '\n']) ++ [']']

def valueText : Document → List Char
  | .array items => listText items
  | d => plainText d

/-- A list that is written as a table for each of its items. -/
def isTableList : Document → Bool
  | .array items => !items.isEmpty && items.all Document.isTable
  | _ => false

/-- What is written after the equals sign of a key, as opposed to under a header. -/
def isPlain (d : Document) : Bool := !d.isTable && !isTableList d

/-- The kind of header that a table has. -/
inductive Header where
  /-- The whole document has none. -/
  | none
  /-- A header that says nothing may be left out if tables follow inside. -/
  | table (path : List String)
  /-- Every item of a list of tables has its header. -/
  | item (path : List String)

namespace Header

def path : Header → List String
  | none => []
  | table path | item path => path

def text : Header → List Char
  | none => []
  | table path => '[' :: pathText path ++ [']', '\n']
  | item path => '[' :: '[' :: pathText path ++ [']', ']', '\n']

end Header

/-- The header and the plain values of a table, if they say anything. -/
def ownBlock (header : Header) (entries : List (String × Document)) : List (List Char) :=
  let plain := entries.filter fun e => isPlain e.2
  let needed := match header with
    | .none => !plain.isEmpty
    | .table _ => !plain.isEmpty || entries.isEmpty
    | .item _ => true
  if needed then
    [header.text ++ plain.flatMap fun e => keyText e.1.toList ++ [' ', '=', ' '] ++ valueText e.2 ++ ['\n']]
  else []

mutual

/-- The blocks of a document under a header: its own and those of the tables in it. -/
def blocks (header : Header) : Document → List (List Char)
  | .table entries => ownBlock header entries ++ entryBlocks header.path entries
  | .array items => itemBlocks header.path items
  | _ => []

def entryBlocks (path : List String) : List (String × Document) → List (List Char)
  | [] => []
  | (key, d) :: rest => (if isPlain d then [] else blocks (.table (path ++ [key])) d) ++ entryBlocks path rest

def itemBlocks (path : List String) : List Document → List (List Char)
  | [] => []
  | d :: rest => blocks (.item path) d ++ itemBlocks path rest

end

/-- The written form of a document. -/
def print (d : Document) : String := String.ofList (['\n'].intercalate (blocks .none d))

end LinkPlanner.Toml
