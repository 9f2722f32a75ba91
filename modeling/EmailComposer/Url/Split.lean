import EmailComposer.Number.Reading
import EmailComposer.Text.Case
import EmailComposer.Url.Address

namespace EmailComposer

/-!
# The parts of a URL

A URL splits into a scheme, an authority behind two slashes, a path, and a query
and fragment that nothing here asks for. The authority holds the host and the
port. Splitting fails where brackets in the authority enclose no address, or a
character of the authority stands for a delimiter.
-/

open EmailComposer.Text

/-- The parts of a URL that decide whether it can be used. -/
structure Url where
  scheme : Text
  authority : Text
  path : Text
  deriving Repr, DecidableEq

namespace Url

/-- A character that schemes are made of. -/
def isSchemeChar (char : Char) : Bool :=
  isAsciiAlphanumeric char || char ∈ ['+', '-', '.']

/-- The scheme before the first colon, in lower case, and what follows; a text
that begins with no scheme has the empty one. -/
def splitScheme (text : Text) : Text × Text :=
  match cut ':' text with
  | (scheme, some rest) =>
      if (scheme.head?.map isAsciiLetter).getD false && scheme.all isSchemeChar then
        (lower scheme, rest)
      else
        ([], text)
  | (_, none) => ([], text)

/-- A character that ends the authority. -/
def endsAuthority (char : Char) : Bool :=
  char ∈ ['/', '?', '#']

/-- The authority behind two slashes, and what follows it. -/
def splitAuthority (text : Text) : Text × Text :=
  match after? "//" text with
  | some rest => (rest.takeWhile (!endsAuthority ·), rest.dropWhile (!endsAuthority ·))
  | none => ([], text)

/-- The characters whose compatibility form holds a delimiter of a URL. -/
def disguisedDelimiters : List Char :=
  ['\u2047', '\u2048', '\u2049', '\u2100', '\u2101', '\u2105', '\u2106', '\u2a74',
    '\ufe13', '\ufe16', '\ufe55', '\ufe56', '\ufe5f', '\ufe6b', '\uff03', '\uff0f',
    '\uff1a', '\uff1f', '\uff20']

/-- The part of an authority that names host and port, without the user. -/
def hostPart (authority : Text) : Text :=
  (cutLast '@' authority).2

/-- Brackets in an authority come in pairs, start the host, enclose an address and
are followed by nothing but a port. -/
def areBracketsSound (authority : Text) : Bool :=
  if authority.contains '[' && authority.contains ']' then
    match cut '[' (hostPart authority) with
    | (before, some bracketed) =>
        let (host, ending) := cut ']' bracketed
        let ending := ending.getD []
        before.isEmpty && (ending.isEmpty || startsWith ":" ending) && isBracketedHost host
    | (unbracketed, none) => isBracketedHost (cut ':' unbracketed).1
  else
    !authority.contains '[' && !authority.contains ']'

/-- The host and the port of an authority; a missing port is empty. -/
def hostAndPort (authority : Text) : Text × Text :=
  match cut '[' (hostPart authority) with
  | (_, some bracketed) =>
      let (host, ending) := cut ']' bracketed
      (host, (cut ':' (ending.getD [])).2.getD [])
  | (unbracketed, none) =>
      let (host, port) := cut ':' unbracketed
      (host, port.getD [])

/-- A port is left out, or a decimal number up to 65535 with no more digits than are read
as an integer. -/
def isPort (port : Text) : Bool :=
  port.all isAsciiDigit && port.length ≤ Number.digitLimit && Number.ofDigits port ≤ 65535

/-- The parts of a URL, if its authority is well formed. Control characters and
blanks before it are skipped, tabs and line breaks anywhere in it removed. -/
def split? (text : Text) : Option Url :=
  let text := (text.dropWhile (·.toNat ≤ 32)).filter (· ∉ ['\t', '\r', '\n'])
  let (scheme, rest) := splitScheme text
  let (authority, rest) := splitAuthority rest
  if areBracketsSound authority && authority.all (· ∉ disguisedDelimiters) then
    some {
      scheme := scheme
      authority := authority
      path := (cut '?' (cut '#' rest).1).1
    }
  else
    none

end Url

end EmailComposer
