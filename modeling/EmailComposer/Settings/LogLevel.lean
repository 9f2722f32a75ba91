import EmailComposer.Json.Value
import EmailComposer.Settings.Basic

namespace EmailComposer.LogLevel

/-!
# Log levels

A log level is asked for by number or by name. A name may be in any case and have
blanks around it; an unknown one stands for the ordinary level.
-/

open EmailComposer.Text
open EmailComposer.Json

/-- The named levels. -/
def named : List (Text × Int) :=
  [("CRITICAL", 50), ("FATAL", 50), ("ERROR", 40), ("WARN", 30), ("WARNING", 30),
    ("INFO", 20), ("DEBUG", 10), ("NOTSET", 0)]

/-- The level of ordinary messages. -/
def ordinary : Int := 20

/-- The capital of a letter, as far as names of levels need it: besides the letters
of ASCII, a dotless i and a long s have a capital in ASCII. -/
def capital (char : Char) : Char :=
  if char == 'ı' then
    'I'
  else if char == 'ſ' then
    'S'
  else
    upperAscii char

/-- The level with a name. -/
def ofName (name : Text) : Int :=
  match named.find? fun level => level.1 = (strip name).map capital with
  | some level => level.2
  | none => ordinary

/-- A request for a level that is neither a number nor a text. -/
structure NoLevel where
  typeName : Text
  deriving Repr, DecidableEq

/-- The wording of a bad request. -/
def NoLevel.message (failure : NoLevel) : Text :=
  quoted failure.typeName ++ " object has no attribute 'strip'"

/-- The level that is asked for. A number and a truth value stand for themselves;
nothing, and whatever is empty, asks for the level of the settings. -/
def resolve (settings : Settings) (request : Value) : Except NoLevel Value :=
  match request with
  | .integer _ => .ok request
  | .boolean _ => .ok request
  | .string name => .ok (.integer (ofName (if name.isEmpty then settings.logLevel else name)))
  | _ =>
      if request.isTruthy then
        .error ⟨request.typeName⟩
      else
        .ok (.integer (ofName settings.logLevel))

end EmailComposer.LogLevel
