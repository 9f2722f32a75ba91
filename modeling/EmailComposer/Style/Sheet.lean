import EmailComposer.Style.Reader
import EmailComposer.Style.Selector

namespace EmailComposer.Style

/-!
# Style sheets

A style sheet is a row of rules, each with selectors and a style. Rules for plain
selectors can be written into the elements they pick. Rules for elements in a certain
state and rules for certain media cannot: they are left over, and each of their
declarations is marked as important.
-/

open EmailComposer.Text

/-! ## Rules as they are written -/

/-- The opening brace of a block. -/
def blockStart : Char :=
  '\x7b'

/-- The closing brace of a block. -/
def blockEnd : Char :=
  '\x7d'

/-- A rule of a sheet: selectors with a style, or a word behind an at sign with what it
says and a block. -/
inductive Rule where
  | style (selectors : List (List Token)) (entries : List Entry)
  | media (condition : Text) (rules : List (List (List Token) × List Entry))
  | typeface (entries : List Entry)
  deriving Repr

/-- The pieces of tokens between the commas. -/
def splitAtCommas : List Token → List (List Token)
  | [] => [[]]
  | token :: rest =>
      if token = .mark ',' then
        [] :: splitAtCommas rest
      else
        match splitAtCommas rest with
        | [] => [[token]]
        | piece :: pieces => (token :: piece) :: pieces

/-- Tokens without blanks around them and without comments. -/
def trimTokens (tokens : List Token) : List Token :=
  let isComment : Token → Bool
    | .comment _ => true
    | _ => false
  let plain := (tokens.filter fun token => !isComment token).dropWhile (· = .blank)
  (plain.reverse.dropWhile (· = .blank)).reverse

/-- A selector asks for a state of elements, or for something that is compared in a way
of its own. -/
def hasState (selector : Text) : Bool :=
  selector.contains ':'

/-- A selector picks by more than names, or holds an asterisk. -/
def hasAsterisk (selector : Text) : Bool :=
  selector.contains '*'

/-- A selector is well formed. One that cannot be used is taken to be. -/
def isSoundSelector (tokens : List Token) : Bool :=
  let text := printSelector tokens
  !tokens.isEmpty && (hasState text || hasAsterisk text || (readSelector? tokens).isSome)

/-- The tokens of a block behind its opening brace, and what follows the block. -/
def splitBlock (tokens : List Token) : List Token × List Token :=
  let (inner, outer) := splitAtMark [blockEnd] 0 tokens
  (inner, outer.drop 1)

/-- The declarations of a block; none if a number is beyond all bounds. -/
def blockEntries? (tokens : List Token) : Option (List Entry) :=
  (entriesFrom? (tokens.length + 1) tokens).map effective

/-- Reads rules with selectors; `fuel` bounds the number of steps, each of which uses a
token. Rules with a malformed selector are left out. -/
def styleRulesFrom? : Nat → List Token → Option (List (List (List Token) × List Entry))
  | 0, _ => some []
  | fuel + 1, tokens =>
      match splitAtMark [blockStart] 0 (tokens.dropWhile isIdle) with
      | (_, []) => some []
      | (before, _ :: behind) =>
          let (inner, outer) := splitBlock behind
          let selectors := (splitAtCommas before).map trimTokens
          match blockEntries? inner, styleRulesFrom? fuel outer with
          | some entries, some rules =>
              if selectors.all isSoundSelector then
                some ((selectors, entries) :: rules)
              else
                some rules
          | _, _ => none

/-- The marks of a comment around a whole sheet. -/
def isSheetMark (token : Token) : Bool :=
  token ∈ [.mark '<', .mark '!', .mark '-', .mark '>']

/-- Reads the rules of a sheet; `fuel` bounds the number of steps, each of which uses a
token. -/
def rulesFrom? : Nat → List Token → Option (List Rule)
  | 0, _ => some []
  | fuel + 1, tokens =>
      match tokens.dropWhile fun token => isIdle token || isSheetMark token with
      | [] => some []
      | .keyword name :: rest =>
          match splitAtMark [';', blockStart] 0 rest with
          | (condition, .mark first :: behind) =>
              if first == blockStart then
                let (inner, outer) := splitBlock behind
                let others := rulesFrom? fuel outer
                match String.ofList (name.map lowerAscii) with
                | "media" =>
                    match styleRulesFrom? (inner.length + 1) inner, others with
                    | some nested, some rules =>
                        some (.media (printSelector condition) nested :: rules)
                    | _, _ => none
                | "font-face" =>
                    match blockEntries? inner, others with
                    | some entries, some rules => some (.typeface entries :: rules)
                    | _, _ => none
                | _ => others
              else
                rulesFrom? fuel behind
          | _ => some []
      | first :: rest =>
          match splitAtMark [blockStart] 0 (first :: rest) with
          | (_, []) => some []
          | (before, _ :: behind) =>
              let (inner, outer) := splitBlock behind
              let selectors := (splitAtCommas before).map trimTokens
              match blockEntries? inner, rulesFrom? fuel outer with
              | some entries, some rules =>
                  if selectors.all isSoundSelector then
                    some (.style selectors entries :: rules)
                  else
                    some rules
              | _, _ => none

/-! ## Rules that can be written into elements -/

/-- A rule for one selector: how it ranks among others, and its declarations. -/
structure InlineRule where
  rank : List Nat
  selector : Selector
  style : Style
  deriving Repr

/-- The number of names at the beginning of a selector and behind its spaces; `isStart`
says that one may begin. -/
def nameCount (isStart : Bool) : Text → Nat
  | [] => 0
  | first :: rest =>
      if isStart && isWord first then
        nameCount false rest + 1
      else
        nameCount (first == ' ') rest

/-- The rank of the selector of a rule without its place: identifiers, classes, names. -/
def selectorRank (selector : Text) : List Nat :=
  [selector.count '#', selector.count '.', nameCount true selector]

/-- Declarations in one text. -/
def printBulk (entries : List Entry) : Text :=
  joinWith ";" (entries.map fun entry =>
    entry.property ++ ":" ++ entry.toDeclaration.value)

/-- Declarations of a rank are important. -/
def isImportant (entry : Entry) : Bool :=
  entry.rank = Entry.importantRank

/-- The rules of one selector for important and other declarations, without their places
in the sheet. -/
def splitRanks? (selector : List Token) (entries : List Entry) : Option (List InlineRule) :=
  let text := printSelector selector
  match readSelector? selector with
  | none => some []
  | some parsed =>
      let kinds : List (Nat × List Entry) :=
        [(1, entries.filter isImportant), (0, entries.filter fun entry => !isImportant entry)]
      (kinds.filter fun kind => !kind.2.isEmpty).mapM fun kind =>
        (read? (printBulk kind.2)).map fun style =>
          ⟨kind.1 :: selectorRank text, parsed, style⟩

/-! ## Rules that are left over -/

/-- A declaration that is marked as important. -/
def markImportant (declaration : Text) : Text :=
  if endsWith "!important" declaration then
    declaration
  else
    declaration ++ " !important"

/-- The text of a rule for a state of elements. -/
def printStateRule (selector : Text) (entries : List Entry) : Text :=
  selector ++ [' ', blockStart] ++
    joinWith ";" ((fields ';' (printBulk entries)).map markImportant) ++ [blockEnd]

/-- One step of indentation. -/
def indentation : Text :=
  "    "

/-- The lines of a block with declarations or rules. -/
def blockLines (heading : Text) (lines : List Text) : List Text :=
  (heading ++ [' ', blockStart]) :: lines.map (indentation ++ ·) ++
    [indentation ++ [blockEnd]]

/-- The lines of declarations, with semicolons between them. -/
def entryLines (mark : Text) : List Entry → List Text
  | [] => []
  | [last] => [last.property ++ ": " ++ last.value ++ mark]
  | first :: rest => (first.property ++ ": " ++ first.value ++ mark ++ ";") :: entryLines mark rest

/-- The text of a rule for certain media. -/
def printMediaRule
    (condition : Text)
    (rules : List (List (List Token) × List Entry)) : Text :=
  let inner := rules.flatMap fun (selectors, entries) =>
    blockLines (joinWith ", " (selectors.map printSelector)) (entryLines " !important" entries)
  joinWith "\n" (blockLines ("@media " ++ condition) inner)

/-- The text of a rule for a typeface. -/
def printTypeface (entries : List Entry) : Text :=
  joinWith "\n" (blockLines "@font-face" (entryLines [] entries))

/-! ## Sheets -/

/-- A sheet taken apart: the rules that can be written into elements, and the texts of
those that are left over. -/
structure Sheet where
  rules : List InlineRule
  leftover : List Text
  deriving Repr

namespace Sheet

/-- A sheet with the rule for one selector behind its rules. -/
def addSelector?
    (index : Nat)
    (entries : List Entry)
    (sheet : Sheet)
    (selector : List Token) : Option Sheet :=
  let text := printSelector selector
  if hasState text then
    some { sheet with leftover := sheet.leftover ++ [printStateRule text entries] }
  else if hasAsterisk text then
    some sheet
  else
    (splitRanks? selector entries).map fun added =>
      let place (rule : InlineRule) (offset : Nat) : InlineRule :=
        { rule with rank := rule.rank ++ [index, sheet.rules.length + offset] }
      { sheet with rules := sheet.rules ++ added.zipIdx.map fun entry => place entry.1 entry.2 }

/-- A sheet with one more rule. -/
def addRule? (index : Nat) (sheet : Sheet) : Rule → Option Sheet
  | .style selectors entries => selectors.foldlM (addSelector? index entries) sheet
  | .media condition rules =>
      some { sheet with leftover := sheet.leftover ++ [printMediaRule condition rules] }
  | .typeface entries =>
      some { sheet with leftover := sheet.leftover ++ [printTypeface entries] }

/-- The sheet of a text that has a place among others; none if a number is beyond all
bounds. -/
def read? (index : Nat) (text : Text) : Option Sheet :=
  let tokens := Style.tokens text
  (rulesFrom? (tokens.length + 1) tokens).bind fun rules =>
    rules.foldlM (addRule? index) ⟨[], []⟩

end Sheet

/-- One list of numbers comes before another, the first difference deciding. -/
def ranksBelow : List Nat → List Nat → Bool
  | [], _ => true
  | _ :: _, [] => false
  | first :: rest, other :: others =>
      if first = other then
        ranksBelow rest others
      else
        first < other

/-- The rules of several sheets, the strongest last. -/
def ranked (rules : List InlineRule) : List InlineRule :=
  rules.mergeSort fun first second => ranksBelow first.rank second.rank

end EmailComposer.Style
