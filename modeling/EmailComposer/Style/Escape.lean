import EmailComposer.Text.CharClass
import EmailComposer.Text.Pattern

namespace EmailComposer.Style

/-!
# Escapes in names

A backslash takes away the meaning of the character behind it, so that a name may hold
it. With hexadecimal digits behind it, it stands for the character of their code; one
blank behind the digits belongs to the escape.
-/

open EmailComposer.Text

/-- A blank between the words of a style. -/
def isBlankInStyle (char : Char) : Bool :=
  char ∈ [' ', '\t', '\n', '\r', '\x0c']

/-- A character that ends a line. -/
def isLineEnd (char : Char) : Bool :=
  char ∈ ['\n', '\r', '\x0c']

/-- An escape by a code: its digits and the blank behind them. -/
structure CodeEscape where
  digits : Text
  blank : Text
  deriving Repr, DecidableEq

namespace CodeEscape

/-- The most digits of a code. -/
def digitLimit : Nat := 6

/-- An escape as it is written. -/
def written (escape : CodeEscape) : Text :=
  '\\' :: (escape.digits ++ escape.blank)

/-- The text that an escape stands for. A code beyond all characters leaves the escape as
it is, and half of a pair of codes stands for what is no character. -/
def meaning (escape : CodeEscape) : Text :=
  let code := escape.digits.foldl (fun value char => value * 16 + hexValue char) 0
  if 0x10ffff < code then
    escape.written
  else if 0xd800 ≤ code && code < 0xe000 then
    ['\uffff']
  else
    [Char.ofNat code]

end CodeEscape

/-- The blank at the beginning of a text, and the rest. -/
def splitBlank : Text → Text × Text
  | '\r' :: '\n' :: rest => (['\r', '\n'], rest)
  | first :: rest =>
      if isBlankInStyle first then
        ([first], rest)
      else
        ([], first :: rest)
  | [] => ([], [])

/-- The digits at the beginning of a text that make a code. -/
def codeDigits (text : Text) : Text :=
  (text.take CodeEscape.digitLimit).takeWhile isHexDigit

/-- The escape by a code at the beginning of a text, and what follows. -/
def readCode? : Text → Option (CodeEscape × Text)
  | '\\' :: rest =>
      let digits := codeDigits rest
      let behind := splitBlank (rest.drop digits.length)
      if digits.isEmpty then
        none
      else
        some (⟨digits, behind.1⟩, behind.2)
  | _ => none

theorem length_splitBlank_le
    (text : Text) :
    (splitBlank text).2.length ≤ text.length := by
  unfold splitBlank
  split
  · simp only [List.length_cons]
    omega
  · split <;> simp
  · simp

theorem length_of_readCode?
    {text rest : Text}
    {escape : CodeEscape}
    (found : readCode? text = some (escape, rest)) :
    rest.length < text.length := by
  unfold readCode? at found
  split at found
  · rename_i following
    have short := length_splitBlank_le (following.drop (codeDigits following).length)
    simp only [List.length_drop] at short
    simp only at found
    split at found
    · simp at found
    · simp only [Option.some.injEq, Prod.mk.injEq] at found
      rw [← found.2]
      simp only [List.length_cons]
      omega
  · simp at found

/-- Recognises one escape by a code. -/
def codePattern : Pattern CodeEscape where
  read? := readCode?
  uses := length_of_readCode?

/-- The text with the characters that its codes stand for. -/
def resolveCodes (text : Text) : Text :=
  codePattern.replace CodeEscape.meaning text

/-- The escape at the beginning of a text as it is written, and what follows. -/
def readEscape? (text : Text) : Option (Text × Text) :=
  match readCode? text with
  | some (escape, rest) => some (escape.written, rest)
  | none =>
      match text with
      | '\\' :: first :: rest =>
          if isLineEnd first then
            none
          else
            some (['\\', first], rest)
      | _ => none

/-- A text without the backslashes of its escapes, those in front of digits aside. -/
def dropBackslashes : Text → Text
  | [] => []
  | '\\' :: next :: rest =>
      if isHexDigit next then
        '\\' :: dropBackslashes (next :: rest)
      else
        next :: dropBackslashes rest
  | first :: rest => first :: dropBackslashes rest

/-- A name in small letters and without backslashes. -/
def plainName (name : Text) : Text :=
  (dropBackslashes name).map lowerAscii

end EmailComposer.Style
