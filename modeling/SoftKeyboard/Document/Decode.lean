import SoftKeyboard.Document.Basic
import SoftKeyboard.SortedMap

/-!
# Values from documents

Readers of single values, and `Document.toRecord?`, which reads a structure from an object or from
an array of its fields.  In an object, members of unknown names are skipped, the order of the
members does not matter and a field written twice is refused; in an array the fields come in their
order.  A field that is not written keeps the value of the structure that reading starts from,
unless it is required.
-/

namespace SoftKeyboard

namespace Document

variable {α : Type}

/-! ### Single values -/

/-- The truth value of a document. -/
def toBool? : Document → Option Bool
  | .bool value => some value
  | _ => none

/-- The text of a document. -/
def toText? : Document → Option String
  | .text value => value
  | _ => none

/-- The 32-bit word of a document. -/
def toWord? : Document → Option UInt32
  | .number numeral => numeral.toWord?
  | _ => none

/-- The single-precision number of a document. -/
def toSingle? : Document → Option Single
  | .number numeral => numeral.toSingle?
  | _ => none

/-- The list of a document, each item read by `item`. -/
def toList? (item : Document → Option α) : Document → Option (List α)
  | .array items => items.mapM item
  | _ => none

/-- The value of a document that may be null. -/
def toNullable? (value : Document → Option α) : Document → Option (Option α)
  | .null => some none
  | d => (value d).map some

/-- The map of a document, each value read by `value`; of a repeated key the last value counts. -/
def toMap? (value : Document → Option α) : Document → Option (SortedMap α)
  | .object members => do
    let entries ← members.mapM fun (key, d) => do some (← key, ← value d)
    some (SortedMap.ofList entries)
  | _ => none

/-- The choice that a document names, either as a text or as the only key of an object, with the
value null. -/
def toChoice? (choices : List (String × α)) : Document → Option α
  | .text (some name) => choices.lookup name
  | .object [(some name, .null)] => choices.lookup name
  | _ => none

/-! ### Structures -/

/-- A field of a structure: its name, whether it has to be written, and how its document changes
the structure. -/
structure Field (α : Type) where
  name : String
  required : Bool
  set? : α → Document → Option α

/-- A field read by `read?` and put in place by `put`, which has to be written. -/
def requiredField {β : Type} (name : String) (read? : Document → Option β) (put : β → α → α) :
    Field α :=
  ⟨name, true, fun a d => (read? d).map (put · a)⟩

/-- A field read by `read?` and put in place by `put`, which may be missing. -/
def optionalField {β : Type} (name : String) (read? : Document → Option β) (put : β → α → α) :
    Field α :=
  ⟨name, false, fun a d => (read? d).map (put · a)⟩

/-- The structure after one of its fields is read from the members of an object. -/
def Field.ofMembers? (members : List (Option String × Document)) (a : α) (field : Field α) :
    Option α :=
  match members.filter (fun member => member.1 = some field.name) with
  | [] => if field.required then none else some a
  | [member] => field.set? a member.2
  | _ => none

/-- The structure after all of its fields are read from the members of an object, whose keys must
all have a text. -/
def ofMembers? (fields : List (Field α)) (base : α) (members : List (Option String × Document)) :
    Option α :=
  if members.all (fun member => member.1.isSome) then
    fields.foldlM (Field.ofMembers? members) base
  else none

/-- The structure after its fields are read from the items of an array. -/
def ofItems? : List (Field α) → α → List Document → Option α
  | [], a, [] => some a
  | [], _, _ :: _ => none
  | field :: fields, a, [] => if field.required then none else ofItems? fields a []
  | field :: fields, a, d :: items => (field.set? a d).bind fun a => ofItems? fields a items

/-- The structure that a document spells, starting from `base`. -/
def toRecord? (fields : List (Field α)) (base : α) : Document → Option α
  | .object members => ofMembers? fields base members
  | .array items => ofItems? fields base items
  | _ => none

/-! ### Writing -/

/-- The document of a 32-bit word. -/
def word (n : UInt32) : Document := nat n.toNat

/-- The document of a single-precision number; an infinity or a missing number is written as
null. -/
def single (x : Single) : Document :=
  match Numeral.ofSingle? x with
  | some numeral => .number numeral
  | none => .null

/-- The document of a value that may be missing. -/
def nullable (write : α → Document) : Option α → Document
  | none => .null
  | some a => write a

/-- The document of a map. -/
def map (write : α → Document) (m : SortedMap α) : Document :=
  record (m.entries.map fun (key, a) => (key, write a))

end Document

end SoftKeyboard
