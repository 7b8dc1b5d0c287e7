import TestMigration.Table
/-!
# Documents

Profiles, settings and reports are documents: trees of records and lists with texts, numbers and
truth values at their leaves. A record keeps its fields in writing order.
-/

namespace TestMigration

inductive Document where
  | null
  | flag (b : Bool)
  | int (n : Int)
  | real (x : Float)
  | text (s : String)
  | list (items : List Document)
  | record (fields : List (String × Document))
  deriving Inhabited, Repr

namespace Document

def field? (name : String) : Document → Option Document
  | record fields => Table.get? name fields
  | _ => none

def text? : Document → Option String
  | text s => some s
  | _ => none

def list? : Document → Option (List Document)
  | list items => some items
  | _ => none

def record? : Document → Option (List (String × Document))
  | record fields => some fields
  | _ => none

def texts (items : List String) : Document := list (items.map text)

def ofTable (t : Table String String) : Document := record (t.map fun (k, v) => (k, text v))

mutual

/-- A patched document: a record is patched field by field, where a null removes a field; anything
else is replaced. -/
def patch : Document → Document → Document
  | record fields, record changes => record (patchFields fields changes)
  | _, change => change

/-- The fields of a record changed one after the other. -/
def patchFields (fields : List (String × Document)) :
    List (String × Document) → List (String × Document)
  | [] => fields
  | (name, change) :: rest => patchFields (patchField fields name change) rest

/-- One field changed: a new one comes last, and a null removes it. -/
def patchField (fields : List (String × Document)) (name : String) (change : Document) :
    List (String × Document) :=
  match change with
  | null => fields.filter fun f => f.1 != name
  | change =>
    match Table.get? name fields with
    | some old => Table.put name (patch old change) fields
    | none => fields ++ [(name, change)]

end

end Document

end TestMigration
