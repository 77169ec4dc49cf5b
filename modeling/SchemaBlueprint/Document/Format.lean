import SchemaBlueprint.Document.Datum
import SchemaBlueprint.Error

/-!
What a blueprint or a configuration needs of the format that it is written in. The same records are
read from values that bear their own type and from YAML nodes, which differ in what they accept as a
text, a number or nothing at all.
-/

namespace SchemaBlueprint.Document

set_option autoImplicit false

abbrev Read (α : Type) := Except DecodeFault α

/-- The fields of a record as a document gives them: by keys, or one after the other in the order of
their declaration. -/
inductive Fields (ν : Type) where
  | keyed (entries : List (Key × ν))
  | positional (values : List ν)

structure Format (ν : Type) where
  isNull : ν → Bool
  text : ν → Read String
  bool : ν → Read Bool
  natural : Nat → ν → Read Nat
  items : ν → Read (List ν)
  fields : ν → Read (Fields ν)
  /-- The node as a value of its own type. The number says how many lists and objects it stands in,
  which matters where only so many may stand in each other. -/
  value : Nat → ν → Read Datum

namespace Format

variable {ν : Type}

def optional {α : Type} (format : Format ν) (read : ν → Read α) (node : ν) : Read (Option α) :=
  if format.isNull node then .ok none else (read node).map some

def texts (format : Format ν) (node : ν) : Read (List String) := do
  (← format.items node).mapM format.text

def word32 (format : Format ν) (node : ν) : Read UInt32 :=
  (format.natural 0xFFFFFFFF node).map UInt32.ofNat

def word16 (format : Format ν) (node : ν) : Read UInt16 :=
  (format.natural 0xFFFF node).map UInt16.ofNat

end Format

/-- A field of a record: its name, and what its value does to the draft of the record. -/
structure Field (ν ρ : Type) where
  name : String
  set : ρ → ν → Read ρ

def Field.of {ν ρ α : Type} (name : String) (read : ν → Read α) (put : ρ → α → ρ) : Field ν ρ :=
  ⟨name, fun draft node => (read node).map (put draft)⟩

def fieldOf? {ν ρ : Type} (fields : List (Field ν ρ)) : Key → Read (Option (Field ν ρ))
  | .name name => .ok (fields.find? (·.name == name))
  | .place index => .ok fields[index]?
  | .other => .error .misshapen

/-- Fills a draft from keyed entries in their order. A known field may stand only once; unknown ones
are passed over. -/
def fillKeyed {ν ρ : Type} (fields : List (Field ν ρ)) (seen : List String) (draft : ρ) :
    List (Key × ν) → Read ρ
  | [] => .ok draft
  | (key, node) :: rest =>
      match fieldOf? fields key with
      | .error fault => .error fault
      | .ok none => fillKeyed fields seen draft rest
      | .ok (some field) =>
          if seen.contains field.name then .error .misshapen
          else match field.set draft node with
            | .error fault => .error fault
            | .ok filled => fillKeyed fields (field.name :: seen) filled rest

/-- Fills a draft from values in the order of the fields. There may be fewer values than fields, but
not more. -/
def fillPositional {ν ρ : Type} (draft : ρ) : List (Field ν ρ) → List ν → Read ρ
  | _, [] => .ok draft
  | [], _ :: _ => .error .misshapen
  | field :: fields, node :: rest =>
      match field.set draft node with
      | .error fault => .error fault
      | .ok filled => fillPositional filled fields rest

/-- Reads a record: fills a draft and completes it. A field that is wanting is named only when the
others were given by keys. -/
def readFields {ν ρ α : Type} (fields : List (Field ν ρ)) (start : ρ) (complete : ρ → Read α) :
    Fields ν → Read α
  | .keyed entries => do complete (← fillKeyed fields [] start entries)
  | .positional values => do
      let draft ← fillPositional start fields values
      match complete draft with
      | .ok record => .ok record
      | .error _ => .error .misshapen

def require {α : Type} (name : String) : Option α → Read α
  | some value => .ok value
  | none => .error (.missingField name)

end SchemaBlueprint.Document
