import PatternFactory.PathName

/-!
# File name patterns

In a glob `?` stands for one character, `*` for any characters, slashes included, and a class in
square brackets for one character of it, or for one outside of it if the class begins with `!`.  A
component `**` stands for any number of whole components, and for anything at the end of a glob.
-/

namespace PatternFactory

/-- A part of a character class. -/
inductive ClassPart where
  | char (c : Char)
  | range (low high : Char)
  deriving DecidableEq, Repr

namespace ClassPart

/-- Is the character in the part? -/
def contains (c : Char) : ClassPart → Bool
  | char d => c = d
  | range low high => low ≤ c && c ≤ high

/-- Reads the inside of a class. -/
def ofChars : List Char → List ClassPart
  | a :: '-' :: b :: rest => range a b :: ofChars rest
  | a :: rest => char a :: ofChars rest
  | [] => []

end ClassPart

/-- A part of a glob. -/
inductive GlobPart where
  | char (c : Char)
  | anyChar
  | anyChars
  | anyComponents
  | charClass (negated : Bool) (parts : List ClassPart)
  deriving DecidableEq, Repr

namespace GlobPart

/-- Does the part, which stands for one character, stand for this one? -/
def containsChar (c : Char) : GlobPart → Bool
  | char d => c = d
  | anyChar => true
  | charClass negated parts => parts.any (ClassPart.contains c) != negated
  | anyChars => false
  | anyComponents => false

end GlobPart

/-! ### Matching -/

/-- A text and what is left of it behind each of its characters. -/
def suffixes : List Char → List (List Char)
  | [] => [[]]
  | c :: cs => (c :: cs) :: suffixes cs

/-- What is left of a text behind each of its slashes. -/
def behindSlashes : List Char → List (List Char)
  | [] => []
  | c :: cs => if c = '/' then cs :: behindSlashes cs else behindSlashes cs

/-- A file name pattern. -/
structure Glob where
  parts : List GlobPart
  deriving DecidableEq, Repr

namespace Glob

/-- Do the parts match the whole text? -/
def matchParts : List GlobPart → List Char → Bool
  | [], cs => cs.isEmpty
  | .anyChars :: ps, cs => (suffixes cs).any (matchParts ps)
  | [.anyComponents], _ => true
  | .anyComponents :: ps, cs => (cs :: behindSlashes cs).any (matchParts ps)
  | _ :: _, [] => false
  | p :: ps, c :: cs => p.containsChar c && matchParts ps cs

/-- Does the pattern match the path name? -/
def «matches» (g : Glob) (p : PathName) : Bool := matchParts g.parts p.text.toList

end Glob

/-! ### Reading -/

/-- Why a text is no glob. -/
inductive GlobFault where
  /-- More than two stars in a row. -/
  | wildcards (pos : Nat)
  /-- Two stars that are no component of their own. -/
  | components (pos : Nat)
  /-- A class that is not closed or is empty. -/
  | charClass (pos : Nat)
  deriving DecidableEq, Repr

namespace GlobFault

/-- The wording. -/
def message : GlobFault → String
  | wildcards pos => at_ pos "wildcards are either regular `*` or recursive `**`"
  | components pos => at_ pos "recursive wildcards must form a single path component"
  | charClass pos => at_ pos "invalid range pattern"
where
  at_ (pos : Nat) (text : String) : String :=
    "Pattern syntax error near position " ++ toString pos ++ ": " ++ text

end GlobFault

namespace Glob

/-- A class from behind its opening bracket, and what follows it.  Its first character belongs to it
even if it is a closing bracket. -/
def charClass? (cs : List Char) : Option (GlobPart × List Char) :=
  let (negated, body) := match cs with
    | '!' :: rest => (true, rest)
    | _ => (false, cs)
  match body with
  | [] => none
  | first :: rest =>
    let inner := rest.takeWhile (· ≠ ']')
    match rest.drop inner.length with
    | _ :: after => some (.charClass negated (ClassPart.ofChars (first :: inner)), after)
    | [] => none

/-- Reads the parts of a glob.  `before` is the character in front, and `pos` the number of
characters in front. -/
def readParts (pos : Nat) (before : Option Char) (cs : List Char) :
    Except GlobFault (List GlobPart) :=
  let goOn (part : GlobPart) (before : Char) (rest : List Char) :
      Except GlobFault (List GlobPart) :=
    if rest.length < cs.length then
      (part :: ·) <$> readParts (pos + (cs.length - rest.length)) (some before) rest
    else .ok [part]
  match cs with
  | [] => .ok []
  | '?' :: rest => goOn .anyChar '?' rest
  | '*' :: '*' :: '*' :: _ => .error (.wildcards (pos + 2))
  | '*' :: '*' :: rest =>
    if before.all (· = '/') then
      match rest with
      | [] => .ok [.anyComponents]
      | '/' :: rest => goOn .anyComponents '/' rest
      | _ => .error (.components (pos + 2))
    else .error (.components (pos - 1))
  | '*' :: rest => goOn .anyChars '*' rest
  | '[' :: rest =>
    match charClass? rest with
    | some (part, after) => goOn part ']' after
    | none => .error (.charClass pos)
  | c :: rest => goOn (.char c) c rest
termination_by cs.length

/-- Reads a glob. -/
def parse (text : String) : Except GlobFault Glob := do
  return ⟨← readParts 0 none text.toList⟩

end Glob

end PatternFactory
