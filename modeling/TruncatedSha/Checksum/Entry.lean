import TruncatedSha.Hex

/-!
# Checksum lines

A checksum line is a digest, a space, a mode mark and a file name. The mark is a space or a star;
both are read, and lines are written with a space. The name is all the rest, and is not empty.

A line that says something has three parts, with a space behind the first. Of every other line it is
said what is missing from its front on.
-/
namespace TruncatedSha.Checksum

structure Entry where
  digest : Digest
  name : String
  deriving DecidableEq

/-- What is wrong with a line; the first thing that is, in this order. -/
inductive EntryError where
  | noSpace
  | badDigest (text : List Char) (error : Hex.HexError)
  | noMark
  | noName
  deriving DecidableEq

namespace EntryError

/-- What was being done when a deeper cause came up, if there is a deeper cause. -/
def summary : EntryError → String
  | noSpace | noMark => "expected `<digest>  <name>`"
  | badDigest text _ => "invalid SHA-512/256 digest " ++ Text.quoted text
  | noName => "missing file name"

def message : EntryError → String
  | badDigest text error => (badDigest text error).summary ++ ": " ++ error.message
  | error => error.summary

end EntryError

namespace Entry

def format (e : Entry) : String :=
  String.ofList (Hex.encode e.digest.toList) ++ "  " ++ e.name

/-- Reads what follows the digest and its space. -/
def parseName (digest : Digest) : List Char → Except EntryError Entry
  | [] => .error .noMark
  | mark :: name =>
    if mark = ' ' ∨ mark = '*' then
      if name.isEmpty then .error .noName else .ok ⟨digest, String.ofList name⟩
    else .error .noMark

def parseChars (line : List Char) : Except EntryError Entry :=
  match line.dropWhile (· ≠ ' ') with
  | [] => .error .noSpace
  | _ :: rest =>
    let text := line.takeWhile (· ≠ ' ')
    match Hex.decode text with
    | .error e => .error (.badDigest text e)
    | .ok digest => parseName digest rest

def parse (line : String) : Except EntryError Entry := parseChars line.toList

end Entry

/-! ## What a line says -/

def IsMark (c : Char) : Prop := c = ' ' ∨ c = '*'

structure Parts where
  digits : List Char
  mark : Char
  name : List Char

namespace Parts

def chars (p : Parts) : List Char := p.digits ++ ' ' :: p.mark :: p.name

def line (p : Parts) : String := String.ofList p.chars

/-- The parts stand for an entry. The name may begin with spaces and stars like any other name. -/
structure Say (p : Parts) (e : Entry) : Prop where
  digits : Hex.Spells p.digits e.digest
  mark : IsMark p.mark
  present : p.name ≠ []
  name : String.ofList p.name = e.name

end Parts

/-- What a line comes to, with the checks in their order: each is made on what passes those before
it. -/
inductive Reading : List Char → Except EntryError Entry → Prop
  | noSpace {line : List Char} (unspaced : ' ' ∉ line) : Reading line (.error .noSpace)
  | badDigest {text rest : List Char} {error : Hex.HexError} (unspaced : ' ' ∉ text)
      (unspelled : ∀ digest, ¬ Hex.Spells text digest) (found : Hex.decode text = .error error) :
      Reading (text ++ ' ' :: rest) (.error (.badDigest text error))
  | noMark {text rest : List Char} {digest : Digest} (digits : Hex.Spells text digest)
      (unmarked : ∀ c ∈ rest.head?, ¬ IsMark c) :
      Reading (text ++ ' ' :: rest) (.error .noMark)
  | noName {text : List Char} {mark : Char} {digest : Digest} (digits : Hex.Spells text digest)
      (marked : IsMark mark) : Reading (text ++ [' ', mark]) (.error .noName)
  | entry {p : Parts} {e : Entry} (said : p.Say e) : Reading p.chars (.ok e)

end TruncatedSha.Checksum
