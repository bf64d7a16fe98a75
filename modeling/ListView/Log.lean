import ListView.Text.Quoted

/-!
# Log events

What the library has to say about input that it put up with. An event is a
cause; its level and wording are functions of it. A `Logged` value comes with
the events of its making, oldest first.
-/

namespace ListView

/-- The numbers that describe one page of a list. -/
inductive CountField where
  | first
  | rows
  | length
  | all
  | filtered
  deriving DecidableEq, Repr

def CountField.name : CountField → String
  | first => "first"
  | rows => "rows"
  | length => "length"
  | all => "all"
  | filtered => "filtered"

inductive Level where
  | debug
  | info
  | warn
  deriving DecidableEq, Repr

def Level.name : Level → String
  | debug => "DEBUG"
  | info => "INFO"
  | warn => "WARN"

inductive Event where
  | tokenSkipped (token : String)
  | notInteger (keyword value : String)
  | notBoolean (keyword value : String)
  | countsUnknown
  | countMissing (field : CountField)
  | countRejected (field : CountField) (n : Int)
  | noSubtree (path : List String)
  | noFilterText
  | decoded (entities : Nat) (keyword : String) (matching : Nat)
  deriving DecidableEq, Repr

namespace Event

def level : Event → Level
  | countsUnknown => .warn
  | decoded .. => .info
  | _ => .debug

def message : Event → String
  | tokenSkipped token => "skipping filter token without keyword: " ++ Text.quoted token
  | notInteger keyword value => "ignoring non-integer " ++ keyword ++ " value " ++ Text.quoted value
  | notBoolean keyword value => "ignoring non-boolean " ++ keyword ++ " value " ++ Text.quoted value
  | countsUnknown =>
    "cannot determine correct counts: response has neither count nor paging information"
  | countMissing field => "missing " ++ field.name ++ " count treated as 0"
  | countRejected .rows n => "invalid rows count " ++ toString n ++ " treated as 0"
  | countRejected field n => "negative " ++ field.name ++ " count " ++ toString n ++ " treated as 0"
  | noSubtree path => "response has no " ++ Text.quotedList path ++ " sub-tree"
  | noFilterText => "response carries no filter string"
  | decoded n keyword matching =>
    "decoded " ++ toString n ++ " " ++ keyword ++ " entities (" ++ toString matching ++ " matching)"

def line (e : Event) : String := e.level.name ++ " " ++ e.message

/-- Whether the event tells about this count. -/
def covers (field : CountField) : Event → Bool
  | countsUnknown => true
  | countMissing f => f == field
  | countRejected f _ => f == field
  | _ => false

end Event

structure Logged (α : Type) where
  value : α
  events : List Event
  deriving Repr

namespace Logged

instance : Monad Logged where
  pure a := ⟨a, []⟩
  bind x f := ⟨(f x.value).value, x.events ++ (f x.value).events⟩

@[simp] theorem value_pure (a : α) : (pure a : Logged α).value = a := rfl

@[simp] theorem events_pure (a : α) : (pure a : Logged α).events = [] := rfl

@[simp] theorem value_bind (x : Logged α) (f : α → Logged β) :
    (x >>= f).value = (f x.value).value := rfl

@[simp] theorem events_bind (x : Logged α) (f : α → Logged β) :
    (x >>= f).events = x.events ++ (f x.value).events := rfl

@[simp] theorem value_map (g : α → β) (x : Logged α) : (g <$> x).value = g x.value := rfl

@[simp] theorem events_map (g : α → β) (x : Logged α) : (g <$> x).events = x.events := by
  simp [Functor.map]

instance : LawfulMonad Logged :=
  LawfulMonad.mk' Logged
    (fun x => by cases x; simp [Functor.map])
    (fun _ _ => by simp [bind, pure])
    (fun _ _ _ => by simp [bind, List.append_assoc])

/-- An event on its own. -/
def note (e : Event) : Logged Unit := ⟨(), [e]⟩

@[simp] theorem events_note (e : Event) : (note e).events = [e] := rfl

end Logged

end ListView
