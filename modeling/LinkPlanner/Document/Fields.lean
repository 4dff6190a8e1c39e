import LinkPlanner.Document.Basic
import LinkPlanner.Files.Path
import LinkPlanner.Order.Sorted

/-! Reading values out of documents. A record is a table of its fields, or the list of their values in the order
in which the record declares them; fields that it does not declare make it unreadable. Nothing is converted: a
number is no text, and text is no truth value. -/

namespace LinkPlanner

/-- Where two languages for documents differ in what they let pass for a record or for a name. -/
structure Dialect where
  /-- A list given for a record may go on after the last field. -/
  allowsLongLists : Bool
  /-- What may stand beside a name that carries no value of its own. -/
  isNothing : Document → Bool

namespace Dialect

def json : Dialect where
  allowsLongLists := false
  isNothing
    | .null => true
    | _ => false

def toml : Dialect where
  allowsLongLists := true
  isNothing
    | .array [] | .table [] => true
    | _ => false

end Dialect

namespace Document

def bool? : Document → Option Bool
  | bool b => some b
  | _ => none

def string? : Document → Option String
  | string s => some s
  | _ => none

def path? (d : Document) : Option Path := d.string?.map Path.ofString

def list? {α : Type} (read : Document → Option α) : Document → Option (List α)
  | array items => items.mapM read
  | _ => none

def stringList? : Document → Option (List String) := list? string?

def nameSet? (d : Document) : Option NameSet := d.stringList?.map .ofList

def nameMap? {α : Type} (read : Document → Option α) : Document → Option (NameMap α)
  | table es => (es.mapM fun e => (read e.2).map (e.1, ·)).map NameMap.ofList
  | _ => none

/-- One of several values that are told apart by their names. The name may carry nothing beside it. -/
def choice? {α : Type} (dialect : Dialect) (all : List α) (name : α → String) : Document → Option α
  | string s => all.find? (name · == s)
  | table [(k, d)] => if dialect.isNothing d then all.find? (name · == k) else none
  | _ => none

end Document

/-- The fields of a record. -/
structure Fields where
  get? : String → Option Document
  /-- The record was given as a list. -/
  positional : Bool

namespace Fields

/-- The fields of a document that holds no others than the named ones. -/
def of? (dialect : Dialect) (names : List String) : Document → Option Fields
  | .table es => if es.all (names.contains ·.1) then some ⟨(es.lookup ·), false⟩ else none
  | .array items =>
    if items.length ≤ names.length || dialect.allowsLongLists then
      some ⟨fun n => (names.idxOf? n).bind (items[·]?), true⟩
    else none
  | _ => none

variable {α : Type}

def required (f : Fields) (name : String) (read : Document → Option α) : Option α := (f.get? name).bind read

/-- A field that may be left out. -/
def withDefault (f : Fields) (name : String) (default : α) (read : Document → Option α) : Option α :=
  match f.get? name with
  | some d => read d
  | none => some default

/-- A field that may be null. -/
def nullable (f : Fields) (name : String) (read : Document → Option α) : Option (Option α) :=
  f.withDefault name none fun
    | .null => some none
    | d => (read d).map some

/-- A field that may be null, and that may be left out of a table but not of a list. -/
def optional (f : Fields) (name : String) (read : Document → Option α) : Option (Option α) :=
  if f.positional && (f.get? name).isNone then none else f.nullable name read

def flag (f : Fields) (name : String) : Option Bool := f.withDefault name false Document.bool?

end Fields
end LinkPlanner
