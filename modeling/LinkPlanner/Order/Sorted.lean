/-! Sets and maps of names that are listed in the order of the names. -/

namespace LinkPlanner

/-- Entries in increasing order of their names. -/
abbrev NameMap (υ : Type) := List (String × υ)

namespace NameMap

variable {υ : Type}

/-- Gives `name` the value `v`, whatever value it had. -/
def insert (name : String) (v : υ) : NameMap υ → NameMap υ
  | [] => [(name, v)]
  | (n, w) :: rest =>
    if name < n then (name, v) :: (n, w) :: rest
    else if name = n then (name, v) :: rest
    else (n, w) :: insert name v rest

def ofList (es : List (String × υ)) : NameMap υ := es.foldl (fun m e => insert e.1 e.2 m) []

def get? (m : NameMap υ) (name : String) : Option υ := (m.find? (·.1 == name)).map (·.2)

end NameMap

/-- Names in increasing order. -/
abbrev NameSet := List String

namespace NameSet

def insert (name : String) : NameSet → NameSet
  | [] => [name]
  | n :: rest => if name < n then name :: n :: rest else if name = n then n :: rest else n :: insert name rest

def ofList (names : List String) : NameSet := names.foldl (fun s n => insert n s) []

end NameSet
end LinkPlanner
