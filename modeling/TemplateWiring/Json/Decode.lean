import TemplateWiring.Json.Scan

/-! Decoders. A value is decoded while its text is read, so that the first problem in the order of
the text is the one reported; or it is decoded after it was read as a whole, as the choice between
the variants of a type asks for. -/

namespace TemplateWiring.Json

/-- How the value at hand was come by: it is being read, and so many collections may still be
entered; or it was read before. -/
inductive Source where
  | reading (room : Nat)
  | held
  deriving DecidableEq, Repr

namespace Source

def enter : Source → Except Problem Source
  | reading 0 => .error .tooDeep
  | reading (room + 1) => .ok (reading room)
  | held => .ok held

def readWhole : Source → Reading → Except Problem Unit
  | reading room, r => failing (r.problem? room)
  | held, _ => .ok ()

def skip : Source → Reading → Except Problem Unit
  | reading _, r => failing r.skipProblem?
  | held, _ => .ok ()

end Source

abbrev Decoder (α : Type) := Source → Reading → Except Problem α

namespace Decoder

def refuse {α : Type} (r : Reading) (wanted : String) : Except Problem α :=
  match r.found with
  | .ok found => .error (.wrongType found wanted)
  | .error p => .error p

def string : Decoder String
  | _, .str s => .ok s
  | _, r => refuse r "a string"

def boolean : Decoder Bool
  | _, .bool b => .ok b
  | _, r => refuse r "a boolean"

def natural (limit : Nat) (title : String) : Decoder Nat
  | _, .int n =>
    if 0 ≤ n ∧ n < limit then .ok n.toNat
    else .error (.wrongValue ("integer " ++ Problem.ticked (toString n)) title)
  | _, r => refuse r title

def word32 : Decoder UInt32 := fun source r => (natural 4294967296 "u32" source r).map Nat.toUInt32

def size : Decoder Nat := natural 18446744073709551616 "usize"

def nullable {α : Type} (d : Decoder α) : Decoder (Option α)
  | _, .null => .ok none
  | source, r => (d source r).map some

def listItems {α : Type} (d : Decoder α) (source : Source) : List Reading → Except Problem (List α)
  | [] => .ok []
  | r :: rs => do
    let a ← d source r
    let as ← listItems d source rs
    return a :: as

def list {α : Type} (d : Decoder α) : Decoder (List α)
  | source, .list items stop => do
    let source ← source.enter
    let as ← listItems d source items
    Stop.atEnd stop
    return as
  | _, r => refuse r "a sequence"

def elements (n : Nat) : String := toString n ++ (if n = 1 then " element" else " elements")

def close (source : Source) (taken : Nat) (rest : List Reading) (stop : Option Stop) :
    Except Problem Unit :=
  match source with
  | .reading _ => if rest.isEmpty then Stop.atClose stop else .error .trailingCharacters
  | .held =>
    if rest.isEmpty then .ok ()
    else .error (.wrongLength (taken + rest.length) (elements taken ++ " in sequence"))

end Decoder

structure Slot (σ : Type) where
  name : String
  decode : Source → Reading → Except Problem (σ → σ)
  /-- An object has to have it. -/
  needed : Bool
  /-- A list has to have it. -/
  neededInList : Bool

namespace Slot

variable {σ α : Type}

def reading (d : Decoder α) (store : α → σ → σ) : Source → Reading → Except Problem (σ → σ) :=
  fun source r => (d source r).map store

def required (name : String) (d : Decoder α) (store : α → σ → σ) : Slot σ :=
  ⟨name, reading d store, true, true⟩

def defaulted (name : String) (d : Decoder α) (store : α → σ → σ) : Slot σ :=
  ⟨name, reading d store, false, false⟩

/-- A field that may be null, and may be missing from an object. -/
def nullable (name : String) (d : Decoder α) (store : Option α → σ → σ) : Slot σ :=
  ⟨name, reading (Decoder.nullable d) store, false, true⟩

end Slot

/-- A record: the value with nothing stored yet, and the fields. It is written as an object, or as
the list of its fields in order. -/
structure Shape (σ : Type) where
  title : String
  blank : σ
  fields : List (Slot σ)

namespace Shape

variable {σ : Type}

/-- Stores the members in turn. Fields that are not known are passed over. -/
def storeMembers (sh : Shape σ) (source : Source) : (seen : List String) → σ →
    List (Key × Reading) → Except Problem (List String × σ)
  | seen, s, [] => .ok (seen, s)
  | seen, s, (key, r) :: ms => do
    let name ← key.read
    match sh.fields.find? (·.name == name) with
    | none =>
      source.skip r
      storeMembers sh source seen s ms
    | some f =>
      if name ∈ seen then throw (.duplicateField name)
      else
        let store ← f.decode source r
        storeMembers sh source (name :: seen) (store s) ms

def missing? (sh : Shape σ) (seen : List String) : Option String :=
  (sh.fields.find? fun f => f.needed && !seen.contains f.name).map (·.name)

def ofObject (sh : Shape σ) (source : Source) (ms : List (Key × Reading)) (stop : Option Stop) :
    Except Problem σ := do
  let (seen, s) ← sh.storeMembers source [] sh.blank ms
  Stop.atEnd stop
  match sh.missing? seen with
  | some name => throw (.missingField name)
  | none => return s

def lengthText (sh : Shape σ) : String :=
  sh.title ++ " with " ++ Decoder.elements sh.fields.length

def storeItems (sh : Shape σ) (source : Source) (stop : Option Stop) : (taken : Nat) → σ →
    List (Slot σ) → List Reading → Except Problem σ
  | taken, s, [], rest => do
    Decoder.close source taken rest stop
    return s
  | taken, s, f :: fs, r :: rs => do
    let store ← f.decode source r
    storeItems sh source stop (taken + 1) (store s) fs rs
  | taken, s, f :: fs, [] => do
    Stop.atEnd stop
    if f.neededInList then throw (.wrongLength taken sh.lengthText)
    else storeItems sh source stop taken s fs []

def decode (sh : Shape σ) : Decoder σ
  | source, .object ms stop => do
    let source ← source.enter
    sh.ofObject source ms stop
  | source, .list items stop => do
    let source ← source.enter
    sh.storeItems source stop 0 sh.blank sh.fields items
  | _, r => Decoder.refuse r sh.title

end Shape

/-- A variant of a type that names the variant beside its fields. -/
structure Variant (σ : Type) where
  name : String
  decode : Decoder σ

namespace Variant

variable {σ : Type}

/-- Without fields: what an object holds does not matter. -/
def constant (name : String) (value : σ) : Variant σ where
  name := name
  decode
    | _, .list items _ => do
      Decoder.close .held 0 items none
      return value
    | _, _ => .ok value

def names (variants : List (Variant σ)) : List String := variants.map (·.name)

end Variant

/-- Which of some names a tag gives; a value that was read before may give its number instead. -/
def chooseTag (names : List String) : Decoder Nat
  | _, .str s =>
    match names.findIdx? (· == s) with
    | some i => .ok i
    | none => .error (.unknownVariant s names)
  | .held, .int n =>
    if n < 0 then Decoder.refuse (.int n) "variant identifier"
    else if n < names.length then .ok n.toNat
    else
      .error (.wrongValue ("integer " ++ Problem.ticked (toString n))
        ("variant index 0 <= i < " ++ toString names.length))
  | _, r => Decoder.refuse r "variant identifier"

/-- A type with variants, whose name is a field beside theirs. The whole value is read before the
fields of the variant are looked at. -/
structure Tagged (σ : Type) where
  title : String
  tag : String
  variants : List (Variant σ)

namespace Tagged

variable {σ : Type}

def choose (t : Tagged σ) : Decoder (Variant σ) := fun source r => do
  let i ← chooseTag (Variant.names t.variants) source r
  match t.variants[i]? with
  | some v => return v
  | none => throw (.missingField t.tag)

def splitTag (t : Tagged σ) (source : Source) : (variant : Option (Variant σ)) →
    List (Key × Reading) → Except Problem (Option (Variant σ) × List (Key × Reading))
  | variant, [] => .ok (variant, [])
  | variant, (key, r) :: ms => do
    let name ← key.read
    if name = t.tag then
      if variant.isSome then throw (.duplicateField t.tag)
      else
        let v ← t.choose source r
        splitTag t source (some v) ms
    else
      source.readWhole r
      let (found, rest) ← splitTag t source variant ms
      return (found, (key, r) :: rest)

def readAll (source : Source) : List Reading → Except Problem Unit
  | [] => .ok ()
  | r :: rs => do
    source.readWhole r
    readAll source rs

def decode (t : Tagged σ) : Decoder σ
  | source, .object ms stop => do
    let source ← source.enter
    let (variant, rest) ← t.splitTag source none ms
    Stop.atEnd stop
    match variant with
    | none => throw (.missingField t.tag)
    | some v => v.decode .held (.object rest none)
  | source, .list items stop => do
    let source ← source.enter
    match items with
    | [] =>
      Stop.atEnd stop
      throw (.missingField t.tag)
    | first :: rest =>
      let v ← t.choose source first
      readAll source rest
      Stop.atEnd stop
      v.decode .held (.list rest none)
  | _, r => Decoder.refuse r ("internally tagged enum " ++ t.title)

end Tagged

/-- A variant of a type that keeps its content under a name of its own. -/
structure Case (σ : Type) where
  name : String
  decode : Decoder σ
  bare : Option σ

namespace Case

variable {σ : Type}

def constant (title name variant : String) (value : σ) : Case σ where
  name := name
  decode
    | _, .null => .ok value
    | source, r => do
      match r with
      | .list .. | .object .. => let _ ← source.enter
      | _ => pure ()
      Decoder.refuse r ("unit variant " ++ title ++ "::" ++ variant)
  bare := some value

end Case

structure Adjacent (σ : Type) where
  title : String
  tag : String
  content : String
  cases : List (Case σ)

namespace Adjacent

variable {σ : Type}

def choose (a : Adjacent σ) : Decoder (Case σ) := fun source r => do
  let i ← chooseTag (a.cases.map (·.name)) source r
  match a.cases[i]? with
  | some c => return c
  | none => throw (.missingField a.tag)

def next (a : Adjacent σ) (source : Source) (stop : Option Stop) :
    List (Key × Reading) → Except Problem (Option (Bool × Reading × List (Key × Reading)))
  | [] => do
    Stop.atEnd stop
    return none
  | (key, r) :: ms => do
    let name ← key.read
    if name = a.tag then return some (true, r, ms)
    else if name = a.content then return some (false, r, ms)
    else
      source.skip r
      next a source stop ms

def finish (a : Adjacent σ) (source : Source) (stop : Option Stop) (ms : List (Key × Reading)) :
    Except Problem Unit := do
  match ← a.next source stop ms with
  | none => return
  | some (isTag, _, _) => throw (.duplicateField (if isTag then a.tag else a.content))

def ofObject (a : Adjacent σ) (source : Source) (ms : List (Key × Reading)) (stop : Option Stop) :
    Except Problem σ := do
  match ← a.next source stop ms with
  | none => throw (.missingField a.tag)
  | some (true, r, ms) =>
    let c ← a.choose source r
    match ← a.next source stop ms with
    | none =>
      match c.bare with
      | some value => return value
      | none => throw (.missingField a.content)
    | some (true, _, _) => throw (.duplicateField a.tag)
    | some (false, r, ms) =>
      let value ← c.decode source r
      a.finish source stop ms
      return value
  | some (false, r, ms) =>
    source.readWhole r
    match ← a.next source stop ms with
    | none => throw (.missingField a.tag)
    | some (false, _, _) => throw (.duplicateField a.content)
    | some (true, tag, ms) =>
      let c ← a.choose source tag
      let value ← c.decode .held r
      a.finish source stop ms
      return value

def kind (a : Adjacent σ) : String := "adjacently tagged enum " ++ a.title

def ofList (a : Adjacent σ) (source : Source) (items : List Reading) (stop : Option Stop) :
    Except Problem σ := do
  match items with
  | [] =>
    Stop.atEnd stop
    throw (.wrongLength 0 a.kind)
  | [tag] =>
    let _ ← a.choose source tag
    Stop.atEnd stop
    throw (.wrongLength 1 a.kind)
  | tag :: r :: rest =>
    let c ← a.choose source tag
    let value ← c.decode source r
    Decoder.close source 2 rest stop
    return value

def decode (a : Adjacent σ) : Decoder σ
  | source, .object ms stop => do
    let source ← source.enter
    a.ofObject source ms stop
  | source, .list items stop => do
    let source ← source.enter
    a.ofList source items stop
  | _, r => Decoder.refuse r a.kind

end Adjacent

/-- The number of collections that may be within each other in a text. -/
def maxDepth : Nat := 127

def decodeText {α : Type} (d : Decoder α) (text : String) : Except Problem α := do
  let (r, more) := Reading.ofText text
  let a ← d (.reading maxDepth) r
  if more then throw .trailingCharacters else return a

end TemplateWiring.Json
