import PascalWorkspace.Console.Emoji
import PascalWorkspace.Console.Style

/-! Marked text: tags in square brackets begin and end styles, a backslash in front of a bracket
keeps it, and what is shown is the text between the tags. -/
namespace PascalWorkspace.Console

inductive MarkupFault where
  /-- A tag ends what has not begun. -/
  | unopened
  /-- The parameters of an action are not those of a call. -/
  | badAction
  /-- A colour lacks one of its parts. -/
  | colorPartMissing
  deriving DecidableEq, Repr

namespace Markup

structure Tag where
  name : String
  parameters : Option String
  deriving DecidableEq, Repr

inductive Piece where
  | text (cs : List Char)
  | tag (t : Tag)
  deriving DecidableEq, Repr

def startsTag (c : Char) : Bool :=
  'a' ≤ c && c ≤ 'z' || c == '#' || c == '/' || c == '@'

/-- The text of a tag behind its opening bracket, and what follows the closing one. -/
def tagText? : List Char → Option (List Char × List Char)
  | [] => none
  | c :: rest =>
    if !startsTag c then none
    else
      let inner := rest.takeWhile fun d => d ≠ ']' && d ≠ '['
      match rest.drop inner.length with
      | ']' :: behind => some (c :: inner, behind)
      | _ => none

def parseTag (cs : List Char) : Tag :=
  let name := cs.takeWhile (· ≠ '=')
  match cs.drop name.length with
  | _ :: parameters => ⟨String.ofList name, some (String.ofList parameters)⟩
  | [] => ⟨String.ofList name, none⟩

/-- A tag with backslashes in front: two stand for one, and an odd one keeps the tag as text. -/
def escapedTag (backslashes : Nat) (tag : List Char) : List Piece :=
  let kept := List.replicate (backslashes / 2) '\\'
  let front := if kept.isEmpty then [] else [Piece.text kept]
  if backslashes % 2 = 1 then front ++ [.text ('[' :: (tag ++ [']']))]
  else front ++ [.tag (parseTag tag)]

/-- The tags of a text and the pieces between them. `plain` holds what came before, in reverse. -/
def pieces : Nat → (plain : List Char) → List Char → List Piece
  | 0, plain, cs => [.text (plain.reverse ++ cs)]
  | fuel + 1, plain, cs =>
    let backslashes := (cs.takeWhile (· = '\\')).length
    match cs.drop backslashes with
    | [] => [.text (plain.reverse ++ cs)]
    | c :: rest =>
      match if c = '[' then tagText? rest else none with
      | some (tag, behind) =>
        .text plain.reverse :: (escapedTag backslashes tag ++ pieces fuel [] behind)
      | none => pieces fuel (c :: (List.replicate backslashes '\\' ++ plain)) rest

/-- A bracket that begins no tag is kept without its backslash. -/
def dropEscapes : List Char → List Char
  | '\\' :: '[' :: rest => '[' :: dropEscapes rest
  | c :: rest => c :: dropEscapes rest
  | [] => []

def isWordChar (c : Char) : Bool := c.isAlphanum || c == '_' || c == '.'

def isSimpleLiteral (cs : List Char) : Bool :=
  !cs.isEmpty && cs.all Char.isDigit ||
    ["True".toList, "False".toList, "None".toList].contains cs ||
    (match cs with
      | mark :: rest =>
        (mark == '\'' || mark == '"') && rest.getLast? == some mark &&
          rest.dropLast.all fun c => c ≠ mark && c ≠ '\\' && c ≠ '\n'
      | [] => false)

/-- Whether the parameters of an action are a name, a name with arguments, or a value. -/
def isAction (parameters : List Char) : Bool :=
  let trimmed := Text.trimBlank parameters
  match trimmed.dropWhile isWordChar with
  | [] => true
  | '(' :: rest =>
    let arguments := Style.splitCommas rest.dropLast
    rest.getLast? = some ')' &&
      (rest.dropLast.isEmpty || arguments.all fun a => isSimpleLiteral (Text.trimBlank a))
  | _ => isSimpleLiteral trimmed

/-- The end of a tag, which may hold an action. -/
def closeTag (t : Tag) : Except MarkupFault Unit :=
  match t.parameters with
  | none => .ok ()
  | some parameters =>
    if "@".toList.isPrefixOf t.name.toList ∧ !parameters.isEmpty ∧ !isAction parameters.toList then
      .error .badAction
    else .ok ()

def normalName (name : String) : Except MarkupFault String :=
  (Style.normalName name).mapError fun _ => .colorPartMissing

/-- The tags that are open, innermost first, after another tag. -/
def applyTag (opened : List Tag) (t : Tag) : Except MarkupFault (List Tag) :=
  match t.name.toList with
  | '/' :: rest => do
    let closing := Text.trimBlank rest
    if closing.isEmpty then
      match opened with
      | [] => throw .unopened
      | innermost :: others =>
        closeTag innermost
        return others
    else
      let name ← normalName (String.ofList closing)
      match opened.find? (·.name == name) with
      | none => throw .unopened
      | some found =>
        closeTag found
        return opened.eraseP (·.name == name)
  | _ => do
    let name ← normalName t.name
    return { t with name } :: opened

/-- The text of the pieces, with the tags that are open. -/
def assemble (opened : List Tag) : List Piece → Except MarkupFault (List Char)
  | [] => .ok []
  | .text cs :: rest => do
    let others ← assemble opened rest
    return withEmoji (dropEscapes cs) ++ others
  | .tag t :: rest => do
    let opened ← applyTag opened t
    assemble opened rest

/-- Characters that a terminal acts upon and that are never shown. -/
def isControl (c : Char) : Bool := ['\x07', '\x08', '\x0b', '\x0c', '\r'].contains c

end Markup

/-- What a marked text shows. -/
def render (markup : String) : Except MarkupFault String := do
  let cs := markup.toList
  let shown ← if cs.contains '[' then Markup.assemble [] (Markup.pieces (cs.length + 1) [] cs)
    else .ok (withEmoji cs)
  return String.ofList (shown.filter fun c => !Markup.isControl c)

end PascalWorkspace.Console
