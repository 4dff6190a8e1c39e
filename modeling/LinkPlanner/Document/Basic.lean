/-! Documents: values made of text, truth values, lists and tables, as configuration files and requests hold
them. Tables keep the order of their entries. -/

namespace LinkPlanner

inductive Document where
  | null
  | bool (b : Bool)
  /-- A number as it was written. -/
  | number (text : String)
  /-- A date or a time as it was written. -/
  | datetime (text : String)
  | string (s : String)
  | array (items : List Document)
  | table (entries : List (String × Document))
deriving Inhabited

namespace Document

def isTable : Document → Bool
  | table _ => true
  | _ => false

/-- A table without the entries that have no value. -/
def record (entries : List (String × Option Document)) : Document :=
  table (entries.filterMap fun (k, d) => d.map (k, ·))

def strings (ss : List String) : Document := array (ss.map string)

end Document
end LinkPlanner
