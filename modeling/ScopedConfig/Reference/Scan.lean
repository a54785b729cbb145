import ScopedConfig.Text.WordCharacter
import ScopedConfig.Reference.Modifier

/-! References in text.  A reference is a name in braces, or in parentheses behind
a dollar sign; a modifier and a colon may precede the name.  Braces behind a
dollar sign are no reference.  A text is read as a sequence of pieces, each a
reference or a character outside all of them, so that nothing of it is lost. -/
namespace ScopedConfig

/-- What encloses a reference: `$(…)` or `{…}`. -/
inductive Enclosure where
  | parentheses
  | braces
  deriving DecidableEq, Repr

/-- A reference, with all that it encloses. -/
structure Reference where
  enclosure : Enclosure
  inner : Text
  deriving DecidableEq, Repr

namespace Reference

/-- A character that may stand in a reference. -/
def isNameCharacter (c : Char) : Bool :=
  Text.isWordCharacter c || c = '.' || c = '-' || c = ':' || c = '#' || c = '@'

/-- The modifier and the name, given what a reference encloses. -/
def parts (inner : Text) : Option Modifier × Text :=
  match Text.cut ':' inner with
  | none => (none, inner)
  | some (before, after) =>
    match Modifier.ofName? before with
    | some modifier => (some modifier, after)
    | none => (none, inner)

/-- The modifier before the name. -/
def modifier? (reference : Reference) : Option Modifier := (parts reference.inner).1

/-- The name that is referred to. -/
def name (reference : Reference) : Text := (parts reference.inner).2

/-- The text of a reference. -/
def token (reference : Reference) : Text :=
  match reference.enclosure with
  | .parentheses => '$' :: '(' :: reference.inner ++ [')']
  | .braces => '\x7b' :: reference.inner ++ ['\x7d']

/-- The text that the reference stands for, given that of its name. -/
def modify (reference : Reference) (value : Text) : Text :=
  match reference.modifier? with
  | some modifier => modifier.apply value
  | none => value

/-- The name characters at the start of a text, of which there has to be one, if
`closing` follows them. -/
def innerBefore? (closing : Char) (text : Text) : Option Text :=
  match text.takeWhile isNameCharacter with
  | [] => none
  | inner => if (text.dropWhile isNameCharacter).head? = some closing then some inner else none

/-- The reference at the start of a text, given the character before it. -/
def at? (before : Option Char) : Text → Option Reference
  | '$' :: '(' :: rest => (innerBefore? ')' rest).map (Reference.mk .parentheses)
  | '\x7b' :: rest =>
    if before = some '$' then none
    else (innerBefore? '\x7d' rest).map (Reference.mk .braces)
  | _ => none

end Reference

/-- A part of a text: a character outside all references, or a reference. -/
inductive Piece where
  | char (c : Char)
  | reference (r : Reference)
  deriving DecidableEq, Repr

namespace Piece

/-- The text of a piece. -/
def text : Piece → Text
  | char c => [c]
  | reference r => r.token

/-- The pieces of a text, given the character before it; the first `skip`
characters belong to a reference that has been read. -/
def scanFrom (before : Option Char) (skip : Nat) : Text → List Piece
  | [] => []
  | c :: rest =>
    match skip with
    | n + 1 => scanFrom (some c) n rest
    | 0 =>
      match Reference.at? before (c :: rest) with
      | some r => .reference r :: scanFrom (some c) (r.token.length - 1) rest
      | none => .char c :: scanFrom (some c) 0 rest

/-- The pieces of a text. -/
def scan (text : Text) : List Piece := scanFrom none 0 text

/-- The reference that a piece is. -/
def reference? : Piece → Option Reference
  | char _ => none
  | reference r => some r

end Piece

/-- A reference and the bytes of the text that it takes, the last one excluded. -/
structure Located where
  start : Nat
  stop : Nat
  reference : Reference
  deriving DecidableEq, Repr

/-- The references among pieces, the first of which starts at an offset. -/
def locate (offset : Nat) : List Piece → List Located
  | [] => []
  | piece :: rest =>
    let stop := offset + Text.byteSize piece.text
    match piece.reference? with
    | some r => ⟨offset, stop, r⟩ :: locate stop rest
    | none => locate stop rest

namespace Reference

/-- The references of a text, in order. -/
def all (text : Text) : List Reference := (Piece.scan text).filterMap Piece.reference?

/-- The names that a text refers to, in order and with repetitions. -/
def names (text : Text) : List Text := (all text).map name

/-- The references of a text and where they stand. -/
def located (text : Text) : List Located := locate 0 (Piece.scan text)

/-- Whether a text has a reference. -/
def occursIn (text : Text) : Bool := !(all text).isEmpty

/-- The text with every reference replaced by what `resolve` makes of it, from
left to right; the rest of the text stays. -/
def substitute {m : Type → Type} [Monad m] (resolve : Reference → m Text) (text : Text) : m Text :=
  do
  let parts ← (Piece.scan text).mapM fun
    | .char c => pure [c]
    | .reference r => resolve r
  pure parts.flatten

end Reference
end ScopedConfig
