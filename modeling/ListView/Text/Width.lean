import ListView.Text.Ligature

/-!
# Columns

How many columns of a terminal a text fills. A sequence of emoji that is drawn
as one sign counts once, as does a ligature, so the text is read from its end:
a character is measured by what follows it.
-/

namespace ListView.Text

/-- What stands after a character, as far as it decides how the character is drawn. -/
inductive Following where
  | plain
  | lineFeed
  | emoji
  | modifier
  /-- Regional indicators: one, or more. -/
  | region (several : Bool)
  /-- An emoji behind a joiner; what comes before merges with it. -/
  | joined
  | joinedKeycap
  /-- Regional indicators in front of a joined emoji, and whether they make up whole flags. -/
  | joinedRegions (first whole : Bool)
  /-- The end of a flag's tags in front of a joined emoji: letters, and digits before them. -/
  | joinedTags (letters digits : Nat)
  | ligature (l : Ligature)
  deriving DecidableEq, Repr

/-- A mark that asks for the sign before it to be drawn as text or as emoji. -/
inductive Selector where
  | text
  | emoji
  deriving DecidableEq, Repr

structure Context where
  selector : Option Selector
  next : Following
  deriving DecidableEq, Repr

namespace Context

def of (next : Following) : Context := ⟨none, next⟩

/-- The context of the end of a text. -/
def atEnd : Context := of .plain

end Context

namespace Following

def isLigature : Following → Bool
  | ligature _ => true
  | _ => false

def isJoined (f : Following) : Bool := f = joined || f = joinedKeycap

/-- What a selector that is not used leaves. -/
def withoutSelector (f : Following) : Following := if f.isLigature then f else plain

end Following

def isRegion (c : Char) : Bool := 0x1F1E6 ≤ c.toNat && c.toNat ≤ 0x1F1FF

def isModifier (c : Char) : Bool := 0x1F3FB ≤ c.toNat && c.toNat ≤ 0x1F3FF

def isTagLetter (c : Char) : Bool := 0xE0061 ≤ c.toNat && c.toNat ≤ 0xE007A

def isTagDigit (c : Char) : Bool := 0xE0030 ≤ c.toNat && c.toNat ≤ 0xE0039

/-- Whether the mark for text makes an emoji narrow. -/
def isTextBase (c : Char) : Bool :=
  emojiBase.hasChar c && emojiPresentation.hasChar c && !(0x1F200 ≤ c.toNat && c.toNat ≤ 0x1F2FF)

/-- What a character is to the one before it. -/
def asFollowing (c : Char) : Following :=
  if isRegion c then .region false
  else if isModifier c then .modifier
  else if emojiPresentation.hasChar c then .emoji
  else match Ligature.ending? c with
    | some l => .ligature l
    | none => .plain

/-- A flag of tags, read from its end, may have up to six letters, or up to four and three
digits. -/
def beforeTags (c : Char) (letters digits : Nat) : Option (Int × Following) :=
  if isTagLetter c && digits = 0 && letters < 6 then some (0, .joinedTags (letters + 1) 0)
  else if isTagDigit c && ((digits = 0 && letters ≤ 4) || digits = 1 || digits = 2) then
    some (0, .joinedTags letters (digits + 1))
  else if c.toNat = 0x1F3F4 && ((digits = 0 && 3 ≤ letters) || digits = 3) then some (0, .emoji)
  else none

/-- Columns that a character adds in front of an emoji behind a joiner. -/
def beforeJoined (c : Char) : Option (Int × Following) :=
  if c = '\u20E3' then some (0, .joinedKeycap)
  else if isRegion c then some (1, .joinedRegions true false)
  else if isModifier c then some (0, .modifier)
  else if c.toNat = 0xE007F then some (0, .joinedTags 0 0)
  else if emojiPresentation.hasChar c then some (0, .emoji)
  else none

/-- Columns that a character adds within a sequence that is drawn as one, and what it then is to the
character before it; `none` if it belongs to no such sequence. -/
def sequenceColumns (c : Char) (next : Following) : Option (Int × Following) :=
  let isJoiner := c = '\u200D'
  match next with
  | .ligature l => (l.before? c).map fun (n, rest) => (n, rest.elim .plain .ligature)
  | .emoji => if isJoiner then some (0, .joined) else none
  | .modifier =>
    if emojiModifierBase.hasChar c then some (0, .emoji)
    else if isJoiner then some (0, .joined)
    else none
  | .region several =>
    if isRegion c then some (1, .region true)
    else if isJoiner && several then some (0, .joined)
    else none
  | .joined => beforeJoined c
  | .joinedRegions first whole =>
    if isRegion c then if whole then some (3, .joinedRegions false false)
      else some (-1, .joinedRegions false true)
    else if isJoiner && !first then some (0, .joined)
    else none
  | .joinedTags letters digits => beforeTags c letters digits
  | _ => none

/-- Columns that a character adds, and the context of the one before it. -/
def columnsBefore (c : Char) (context : Context) : Int × Context :=
  if context.selector = some .emoji && emojiBase.hasChar c then
    (if context.next.isJoined then 0 else 2, .of .emoji)
  else
    let context :=
      if context.selector = some .emoji then .of context.next.withoutSelector else context
    if c = '\n' then (1, .of .lineFeed)
    else if c.toNat ≤ 0xA0 then (if c = '\r' && context.next = .lineFeed then 0 else 1, .atEnd)
    else if c = '\uFE0F' then
      (0, ⟨some .emoji,
        if context.next.isJoined then context.next else context.next.withoutSelector⟩)
    else if c = '\uFE0E' then (0, ⟨some .text, context.next.withoutSelector⟩)
    else if context.selector = some .text && isTextBase c then (1, .atEnd)
    else
      let next :=
        if context.selector = some .text then context.next.withoutSelector else context.next
      match sequenceColumns c next with
      | some (n, following) => (n, .of following)
      | none => (charColumns c, .of (asFollowing c))

def columns (cs : List Char) : Nat :=
  (cs.foldr (fun c (total, context) =>
    let (n, here) := columnsBefore c context
    (total + n, here)) ((0 : Int), Context.atEnd)).1.toNat

end ListView.Text
