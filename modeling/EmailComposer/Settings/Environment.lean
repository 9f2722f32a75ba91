import EmailComposer.Text.Case

namespace EmailComposer

/-!
# The environment

Settings come from named texts in the environment. A blank text counts as absent.
-/

open EmailComposer.Text

/-- The names and texts of an environment. -/
structure Environment where
  entries : List (Text × Text)
  deriving Repr, DecidableEq

namespace Environment

/-- The text under a name. -/
def get? (environment : Environment) (name : Text) : Option Text :=
  (environment.entries.find? fun entry => entry.1 = name).map Prod.snd

/-- The text under a name without the blanks around it, or a default. -/
def text (environment : Environment) (name default : Text) : Text :=
  match environment.get? name with
  | none => default
  | some value => if isAllBlank value then default else strip value

/-- The words that turn a switch on. -/
def switchWords : List Text :=
  ["1", "true", "yes", "on"]

/-- A switch: on if the text under its name says so, or by default. -/
def switch (environment : Environment) (name : Text) (default : Bool) : Bool :=
  let defaultWord : Text := if default then "true" else "false"
  lower (environment.text name defaultWord) ∈ switchWords

/-- A name is present with a text that is not empty. -/
def hasText (environment : Environment) (name : Text) : Bool :=
  (environment.get? name).any fun value => !value.isEmpty

end Environment

end EmailComposer
