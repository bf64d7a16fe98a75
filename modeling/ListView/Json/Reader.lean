import ListView.Json.Token

/-!
# Reading JSON

Tokens are taken in order with a stack of the arrays and objects that wait for
a value. Of a key that is repeated the last value counts, and containers may be
nested to a depth of 127.
-/

namespace ListView.Json

/-- A container that waits for a value; the items of an array are in reverse. -/
inductive Frame where
  | array (items : List Json)
  | object (fields : List (String × Json)) (key : String)

/-- What may come next. -/
inductive Awaiting where
  | value
  | firstItem
  | afterItem (items : List Json)
  | key (fields : List (String × Json)) (first : Bool)
  | colon (fields : List (String × Json)) (key : String)
  | afterField (fields : List (String × Json))
  | nothing (result : Json)

def depthLimit : Nat := 127

structure Reading where
  frames : List Frame
  awaiting : Awaiting

namespace Reading

def start : Reading := ⟨[], .value⟩

/-- Hands a finished value to the container that waits for it. -/
def deliver (v : Json) : List Frame → Reading
  | [] => ⟨[], .nothing v⟩
  | .array items :: frames => ⟨frames, .afterItem (v :: items)⟩
  | .object fields key :: frames => ⟨frames, .afterField (insert key v fields)⟩

def openContainer (isArray : Bool) (frames : List Frame) : Option Reading :=
  if frames.length < depthLimit then
    some (if isArray then ⟨.array [] :: frames, .firstItem⟩ else ⟨frames, .key [] true⟩)
  else none

/-- A token where a value may stand. -/
def takeValue (frames : List Frame) : Token → Option Reading
  | .opening isArray => openContainer isArray frames
  | .string s => some (deliver (.string s) frames)
  | .value v => some (deliver v frames)
  | _ => none

def step (r : Reading) (t : Token) : Option Reading :=
  match r.awaiting, t with
  | .value, t => takeValue r.frames t
  | .firstItem, .closing true => some (deliver (.array []) (r.frames.drop 1))
  | .firstItem, t => takeValue r.frames t
  | .afterItem items, .comma => some ⟨.array items :: r.frames, .value⟩
  | .afterItem items, .closing true => some (deliver (.array items.reverse) r.frames)
  | .key fields true, .closing false => some (deliver (.object fields) r.frames)
  | .key fields _, .string s => some ⟨r.frames, .colon fields s⟩
  | .colon fields key, .colon => some ⟨.object fields key :: r.frames, .value⟩
  | .afterField fields, .comma => some ⟨r.frames, .key fields false⟩
  | .afterField fields, .closing false => some (deliver (.object fields) r.frames)
  | _, _ => none

def result? (r : Reading) : Option Json :=
  match r.awaiting with
  | .nothing v => some v
  | _ => none

end Reading

/-- The value that a JSON text denotes. -/
def read (cs : List Char) : Option Json := do
  let tokens ← Token.scan cs
  let final ← tokens.foldlM Reading.step .start
  final.result?

end ListView.Json
