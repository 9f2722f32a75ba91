import EmailComposer.Html.Tree
import EmailComposer.Style.Token

namespace EmailComposer.Style

/-!
# Selectors

A selector picks elements by their names, classes, identifiers and attributes, and by
the elements around them.
-/

open EmailComposer.Text
open EmailComposer.Html

/-! ## Selectors in normal form -/

/-- The mark of a relation between elements. -/
def isCombinator (char : Char) : Bool :=
  char ∈ ['>', '+', '~']

/-- Text without the spaces at its end. -/
def dropSpaces (text : Text) : Text :=
  dropEndWhile (· == ' ') text

/-- A selector with one more token behind it. -/
def appendToken (text : Text) : Token → Text
  | .blank => if text.getLast? = some ' ' then text else text ++ " "
  | .word name => text ++ name
  | .hash name => text ++ "#" ++ name
  | .quantity spelling => text ++ spelling
  | .string content => text ++ "\"" ++ content ++ "\""
  | .function name => text ++ name ++ "("
  | .mark char =>
      if isCombinator char then
        dropSpaces text ++ [' ', char, ' ']
      else
        text ++ [char]
  | _ => text

/-- A selector with single spaces, also around the marks of relations. -/
def printSelector (tokens : List Token) : Text :=
  strip (tokens.foldl appendToken [])

/-! ## What selectors ask -/

/-- How the value of an attribute has to match. -/
inductive Comparison where
  | present
  | equal
  | word
  | dashed
  | start
  | ending
  deriving Repr, DecidableEq

/-- What a selector asks of an attribute. -/
structure AttributeTest where
  name : Text
  comparison : Comparison
  value : Text
  deriving Repr, DecidableEq

/-- What a selector asks of one element. -/
structure Compound where
  element : Option Text
  tests : List AttributeTest
  deriving Repr, DecidableEq

/-- How an element stands to the next one of a selector. -/
inductive Combinator where
  | descendant
  | child
  | next
  | later
  deriving Repr, DecidableEq

/-- A selector: what it asks of the element itself, and of others around it, nearest
first. -/
structure Selector where
  subject : Compound
  context : List (Combinator × Compound)
  deriving Repr, DecidableEq

/-- An element in its place: what it is, and the elements before it, nearest first. -/
structure Site where
  name : Text
  attributes : Attributes
  earlier : List (Text × Attributes)
  deriving Repr

/-- An element with the elements around it, innermost first. -/
abbrev Path := List Site

/-- The words of an attribute. -/
def wordsOf (value : Text) : List Text :=
  (fields ' ' (value.map fun char => if isBlankInStyle char then ' ' else char)).filter
    fun word => !word.isEmpty

namespace AttributeTest

/-- An attribute passes a test. -/
def passes (test : AttributeTest) (attributes : Attributes) : Bool :=
  match attributes.get? test.name with
  | none => false
  | some value =>
      match test.comparison with
      | .present => true
      | .equal => value = test.value
      | .word => !test.value.isEmpty && test.value ∈ wordsOf value
      | .dashed => value = test.value || startsWith (test.value ++ "-") value
      | .start => !test.value.isEmpty && startsWith test.value value
      | .ending => !test.value.isEmpty && endsWith test.value value

end AttributeTest

namespace Compound

/-- An element is what a selector asks. -/
def fits (compound : Compound) (name : Text) (attributes : Attributes) : Bool :=
  (compound.element.isNone || compound.element = some name) &&
    compound.tests.all fun test => test.passes attributes

end Compound

/-- The ends of a list, itself first. -/
def endings : List Item → List (List Item)
  | [] => [[]]
  | first :: rest => (first :: rest) :: endings rest

/-- An element is what a selector asks, and so are the elements around it. -/
def fitsAt (compound : Compound) : List (Combinator × Compound) → Path → Bool
  | _, [] => false
  | [], site :: _ => compound.fits site.name site.attributes
  | (combinator, other) :: context, site :: around =>
      compound.fits site.name site.attributes &&
        match combinator with
        | .child => fitsAt other context around
        | .descendant => (endings around).any fun path => fitsAt other context path
        | .next =>
            match site.earlier with
            | [] => false
            | (name, attributes) :: earlier =>
                fitsAt other context (⟨name, attributes, earlier⟩ :: around)
        | .later =>
            (endings site.earlier).any fun
              | [] => false
              | (name, attributes) :: earlier =>
                  fitsAt other context (⟨name, attributes, earlier⟩ :: around)

namespace Selector

/-- A selector picks an element. -/
def picks (selector : Selector) (path : Path) : Bool :=
  fitsAt selector.subject selector.context path

end Selector

/-! ## Reading selectors -/

/-- The comparison of a mark in front of an equals sign. -/
def comparisonOf? (char : Char) : Option Comparison :=
  [('~', Comparison.word), ('|', .dashed), ('^', .start), ('$', .ending)].lookup char

/-- A value in the brackets of an attribute test, up to the closing bracket. -/
def readTestValue? (name : Text) (comparison : Comparison) :
    List Token → Option (AttributeTest × List Token)
  | .word value :: .mark ']' :: rest => some (⟨name, comparison, value⟩, rest)
  | .string value :: .mark ']' :: rest => some (⟨name, comparison, value⟩, rest)
  | _ => none

/-- An attribute test behind its opening bracket. -/
def readTest? : List Token → Option (AttributeTest × List Token)
  | .word name :: .mark ']' :: rest => some (⟨name, .present, []⟩, rest)
  | .word name :: .mark '=' :: rest => readTestValue? name .equal rest
  | .word name :: .mark char :: .mark '=' :: rest =>
      (comparisonOf? char).bind fun comparison => readTestValue? name comparison rest
  | _ => none

/-- The tests at the beginning of some tokens, and what follows; `fuel` bounds the number
of tests. -/
def testsFrom? : Nat → List Token → Option (List AttributeTest × List Token)
  | 0, _ => none
  | fuel + 1, .hash name :: rest =>
      (testsFrom? fuel rest).map fun found => (⟨"id", .equal, name⟩ :: found.1, found.2)
  | fuel + 1, .mark '.' :: .word name :: rest =>
      (testsFrom? fuel rest).map fun found => (⟨"class", .word, name⟩ :: found.1, found.2)
  | fuel + 1, .mark '[' :: rest =>
      match readTest? (rest.filter (· ≠ .blank)) with
      | some (test, _) =>
          (testsFrom? fuel ((rest.dropWhile (· ≠ .mark ']')).drop 1)).map fun found =>
            (test :: found.1, found.2)
      | none => none
  | _ + 1, rest => some ([], rest)

/-- What is asked of one element at the beginning of some tokens, and what follows. -/
def readCompound? (tokens : List Token) : Option (Compound × List Token) :=
  match tokens with
  | .word name :: rest =>
      (testsFrom? (rest.length + 1) rest).map fun found => (⟨some name, found.1⟩, found.2)
  | _ =>
      match testsFrom? (tokens.length + 1) tokens with
      | some (test :: tests, rest) => some (⟨none, test :: tests⟩, rest)
      | _ => none

/-- The combinator at the beginning of some tokens, and what follows it. -/
def readCombinator? (tokens : List Token) : Option (Combinator × List Token) :=
  let blanks := tokens.takeWhile (· = .blank)
  match tokens.drop blanks.length with
  | .mark '>' :: rest => some (.child, rest.dropWhile (· = .blank))
  | .mark '+' :: rest => some (.next, rest.dropWhile (· = .blank))
  | .mark '~' :: rest => some (.later, rest.dropWhile (· = .blank))
  | rest => if blanks.isEmpty then none else some (.descendant, rest)

/-- Reads the rest of a selector; `fuel` bounds the number of its elements. -/
def selectorFrom? (selector : Selector) : Nat → List Token → Option Selector
  | _, [] => some selector
  | 0, _ => none
  | fuel + 1, tokens =>
      (readCombinator? tokens).bind fun (combinator, rest) =>
        (readCompound? rest).bind fun (compound, remaining) =>
          selectorFrom? ⟨compound, (combinator, selector.subject) :: selector.context⟩ fuel
            remaining

/-- Reads a selector without blanks around it. -/
def readSelector? (tokens : List Token) : Option Selector :=
  (readCompound? tokens).bind fun (compound, rest) =>
    selectorFrom? ⟨compound, []⟩ rest.length rest

end EmailComposer.Style
