import EmailComposer.Text.CharClass
import EmailComposer.Text.CaseTable

namespace EmailComposer.Text

/-!
# Letter case

Lower case over all of Unicode. A capital letter becomes one lower-case letter,
with two exceptions: a dotted capital I becomes an i and a combining dot, and a
capital sigma that ends a word becomes a final sigma.
-/

/-- A letter that comes in an upper and a lower case. -/
def isCased (char : Char) : Bool :=
  if char.toNat < 0x80 then
    isAsciiLetter char
  else
    inRanges casedRanges char.toNat

/-- A character that letter case looks past, such as an apostrophe. -/
def isCaseIgnorable (char : Char) : Bool :=
  if char.toNat < 0x80 then
    char ∈ ['\x27', '.', ':', '^', '\x60']
  else
    inRanges caseIgnorableRanges char.toNat

/-- The lower case of a letter that has one, by the table of capitals. -/
def lowerChar (char : Char) : Char :=
  if char.toNat < 0x80 then
    lowerAscii char
  else
    match caseRuns.find? fun run =>
        run.first ≤ char.toNat && char.toNat ≤ run.last &&
          (char.toNat - run.first) % run.step == 0 with
    | some run => Char.ofNat (char.toNat + run.offset).toNat
    | none => char

/-- A capital sigma is final if the nearest character before it that matters is a
cased letter and the nearest one behind it is not. -/
def isFinalSigma (before after : Text) : Bool :=
  let adjoins (side : Text) : Bool :=
    ((side.dropWhile isCaseIgnorable).head?.map isCased).getD false
  adjoins before && !adjoins after

/-- Lower case, with the characters already passed in reverse order. -/
def lowerFrom (passed : Text) : Text → Text
  | [] => []
  | first :: rest =>
      let lowered : Text :=
        if first == 'İ' then
          ['i', '\u0307']
        else if first == 'Σ' then
          [if isFinalSigma passed rest then 'ς' else 'σ']
        else
          [lowerChar first]
      lowered ++ lowerFrom (first :: passed) rest

/-- The text in lower case. -/
def lower (text : Text) : Text :=
  lowerFrom [] text

end EmailComposer.Text
