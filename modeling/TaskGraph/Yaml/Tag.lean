import TaskGraph.Yaml.Cursor
import TaskGraph.Json.Parser

/-!
# Names, tags and directives

Everything in a YAML text that is written with a mark and a name: anchors and references to them,
tags, and the directives at the head of a document.
-/

namespace TaskGraph.Yaml

def isNameChar (c : Char) : Bool := c.isAlphanum || c = '_' || c = '-'

/-- A name and the place behind it. -/
def nameText (c : Cursor) : String × Cursor :=
  (String.ofList (c.rest.takeWhile isNameChar), c.skipWhile isNameChar)

/-- The name of an anchor, after its mark. -/
def anchorName? (c : Cursor) : Option (String × Cursor) :=
  let (name, after) := nameText c
  if !name.isEmpty && after.rest.head?.all fun ch =>
      isSpace ch || ch ∈ ['?', ':', ',', ']', '\x7d', '%', '@', '\x60'] then
    some (name, after)
  else none

def isTagChar (c : Char) : Bool :=
  isNameChar c ||
    c ∈ [';', '/', '?', ':', '@', '&', '=', '+', '$', '.', '!', '~', '*', '\'', '(', ')']

/-- The characters of a tag, with every escaped octet as the character of its number. Flow marks
belong to it only between angle brackets and in directives. -/
def tagChars (fuel : Nat) (closed : Bool) (c : Cursor) : Option (List Char × Cursor) :=
  match fuel with
  | 0 => none
  | fuel + 1 =>
    match c.rest with
    | '%' :: high :: low :: _ => do
      let octet := 16 * (← Json.hexDigit? high) + (← Json.hexDigit? low)
      let (chars, after) ← tagChars fuel closed (c.skip 3)
      return (Char.ofNat octet :: chars, after)
    | '%' :: _ => none
    | ch :: _ =>
      if isTagChar ch || closed && ch ∈ [',', '[', ']'] then do
        let (chars, after) ← tagChars fuel closed c.advance
        return (ch :: chars, after)
      else some ([], c)
    | [] => some ([], c)

/-- A tag is the name of a namespace and a name in it. -/
structure TagName where
  handle : String
  suffix : String

/-- The handle at a place: an exclamation mark, and perhaps a name and another one. -/
def tagHandle? (c : Cursor) : Option (String × Cursor) :=
  if c.rest.head? = some '!' then
    let (name, after) := nameText c.advance
    if after.rest.head? = some '!' then some ("!" ++ name ++ "!", after.advance)
    else some ("!" ++ name, after)
  else none

/-- A tag at its exclamation mark. -/
def tagName? (fuel : Nat) (flow : Bool) (c : Cursor) : Option (TagName × Cursor) := do
  let (tag, after) ←
    if c.rest.take 2 = ['!', '<'] then do
      let (chars, after) ← tagChars fuel true (c.skip 2)
      if chars.isEmpty || after.rest.head? ≠ some '>' then none
      pure (⟨"", String.ofList chars⟩, after.advance)
    else do
      let (handle, after) ← tagHandle? c
      if 1 < handle.length && handle.endsWith "!" then do
        let (chars, after) ← tagChars fuel false after
        if chars.isEmpty then none
        pure (⟨handle, String.ofList chars⟩, after)
      else do
        let (chars, after) ← tagChars fuel false after
        let suffix := (handle.drop 1).toString ++ String.ofList chars
        pure (if suffix.isEmpty then ⟨"", "!"⟩ else ⟨"!", suffix⟩, after)
  if after.separatedAfter 0 || flow && after.rest.head? = some ',' then some (tag, after) else none

inductive Directive where
  | version (major minor : Nat)
  | namespaceTag (handle start : String)

/-- A number of at most nine digits. -/
def versionNumber? (c : Cursor) : Option (Nat × Cursor) :=
  let digits := c.rest.takeWhile Char.isDigit
  if digits.isEmpty || 9 < digits.length then none
  else some (Json.digitsValue digits, c.skip digits.length)

def directiveBody? (fuel : Nat) (name : String) (c : Cursor) :
    Option (Directive × Cursor) :=
  match name with
  | "YAML" => do
    let (major, c) ← versionNumber? c.skipBlanks
    if c.rest.head? ≠ some '.' then none
    let (minor, c) ← versionNumber? c.advance
    return (.version major minor, c)
  | "TAG" => do
    let (handle, c) ← tagHandle? c.skipBlanks
    if !(handle = "!" || handle.endsWith "!") || !(c.rest.head?.any isBlank) then none
    let (chars, c) ← tagChars fuel true c.skipBlanks
    if chars.isEmpty || !c.separatedAfter 0 then none
    return (.namespaceTag handle (String.ofList chars), c)
  | _ => none

/-- A directive at its percent sign; it takes the whole line. -/
def directive? (fuel : Nat) (c : Cursor) : Option (Directive × Cursor) := do
  let (name, c) := nameText c.advance
  if name.isEmpty || !c.separatedAfter 0 then none
  let (directive, c) ← directiveBody? fuel name c
  let c := c.skipComment
  if c.atLineEnd then some (directive, c.advance) else none

end TaskGraph.Yaml
