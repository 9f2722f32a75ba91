import EmailComposer.Proofs.Schema.Reader
import EmailComposer.Proofs.Text.Case
import EmailComposer.Proofs.Text.Run

namespace EmailComposer.Schema

/-!
# Spelled records

The fields of a record are found by either spelling of their names. So records that differ
in the spelling of names only are read as the same value, whatever mixture of spellings
they use, as long as no key is spelled like a field of another name.
-/

open EmailComposer.Text
open EmailComposer.Json

/-! ## Spellings -/

namespace Spelling

theorem upperAscii_eq_underscore_iff
    {char : Char} :
    upperAscii char = '_' ↔ char = '_' := by
  by_cases isAscii : char.toNat < 0x80
  · exact forall_ascii (motive := fun char => upperAscii char = '_' ↔ char = '_')
      (by decide +kernel) isAscii
  · have outside : ¬ ('a' ≤ char && char ≤ 'z') = true := by
      simp only [Bool.and_eq_true, decide_eq_true_eq, not_and]
      intro _ upper
      exact isAscii (Nat.lt_of_le_of_lt upper (by decide))
    rw [upperAscii, if_neg outside]

theorem underscore_not_mem_capitalized
    {word : Text}
    (plain : '_' ∉ word) :
    '_' ∉ capitalized word := by
  cases word with
  | nil => exact plain
  | cons first rest =>
      rw [List.mem_cons, not_or] at plain
      rw [capitalized, List.mem_cons, not_or]
      exact ⟨fun isCapital => plain.1 (upperAscii_eq_underscore_iff.mp isCapital.symm).symm,
        plain.2⟩

/-- Words run together have no underscore between them. -/
theorem underscore_not_mem_camel
    (name : Text) :
    '_' ∉ camel.apply name := by
  have plain : ∀ word ∈ fields '_' name, '_' ∉ word :=
    fun word isWord => not_mem_of_mem_fields isWord
  cases shape : fields '_' name with
  | nil =>
      have isNil : camel.apply name = [] := by
        simp [apply, shape]
      rw [isNil]
      exact List.not_mem_nil
  | cons first rest =>
      have isRun : camel.apply name = first ++ rest.flatMap capitalized := by
        simp [apply, shape]
      rw [shape, List.forall_mem_cons] at plain
      simp only [isRun, List.mem_append, List.mem_flatMap, not_or, not_exists, not_and]
      exact ⟨plain.1, fun word isWord => underscore_not_mem_capitalized (plain.2 word isWord)⟩

theorem camel_apply_of_not_mem
    {name : Text}
    (plain : '_' ∉ name) :
    camel.apply name = name := by
  simp [apply, fields_of_not_mem plain]

/-- Run together, a name is the same in either spelling. -/
theorem camel_apply_apply
    (spelling : Spelling)
    (name : Text) :
    camel.apply (spelling.apply name) = camel.apply name := by
  cases spelling with
  | snake => rfl
  | camel => exact camel_apply_of_not_mem (underscore_not_mem_camel name)

end Spelling

/-! ## Values without their faults -/

namespace Checked

variable {First Second : Type}

/-- The value that was read, if there is one. -/
def value? : Checked First → Option First
  | .valid value => some value
  | .invalid _ => none

theorem value?_eq_some_iff
    {outcome : Checked First}
    {value : First} :
    outcome.value? = some value ↔ outcome = .valid value := by
  cases outcome <;> simp [value?]

@[simp] theorem value?_under
    (step : Step)
    (outcome : Checked First) :
    (outcome.under step).value? = outcome.value? := by
  cases outcome <;> rfl

@[simp] theorem value?_map
    (function : First → Second)
    (outcome : Checked First) :
    (function <$> outcome).value? = outcome.value?.map function := by
  cases outcome <;> rfl

@[simp] theorem value?_seq
    (function : Checked (First → Second))
    (outcome : Checked First) :
    (function <*> outcome).value? =
      function.value?.bind fun apply => outcome.value?.map apply := by
  cases function <;> cases outcome <;> rfl

/-- Reading gives this value. -/
def Gives (outcome : Checked Model) (value : Model) : Prop :=
  outcome = .valid value

theorem Gives.map
    {outcome : Checked First}
    {value : First}
    (gives : outcome.Gives value)
    (function : First → Second) :
    (function <$> outcome).Gives (function value) :=
  map_eq_valid_iff.mpr ⟨value, gives, rfl⟩

theorem Gives.seq
    {function : Checked (First → Second)}
    {apply : First → Second}
    {outcome : Checked First}
    {value : First}
    (givesFunction : function.Gives apply)
    (gives : outcome.Gives value) :
    (function <*> outcome).Gives (apply value) :=
  seq_eq_valid_iff.mpr ⟨apply, value, givesFunction, gives, rfl⟩

/-- Two readings give the same value, whatever faults they have. -/
def Alike (first second : Checked Model) : Prop :=
  first.value? = second.value?

theorem Alike.map
    {first second : Checked First}
    (alike : first.Alike second)
    (function : First → Second) :
    (function <$> first).Alike (function <$> second) := by
  rw [Alike, value?_map, value?_map, alike]

theorem Alike.seq
    {firstFunction secondFunction : Checked (First → Second)}
    {first second : Checked First}
    (functionsAlike : firstFunction.Alike secondFunction)
    (alike : first.Alike second) :
    (firstFunction <*> first).Alike (secondFunction <*> second) := by
  rw [Alike, value?_seq, value?_seq, functionsAlike, alike]

end Checked

namespace Record

variable {Model : Type} {record : Record} {name : Text} {reader : Reader Model} {raw : Value}

/-- The value of a field in either spelling of its name. -/
def find? (record : Record) (name : Text) : Option Value :=
  (record.lookup? name).map Prod.snd

theorem value?_required :
    (record.required name reader).value? =
      (record.find? name).bind fun raw => (reader raw).value? := by
  rw [required, find?]
  cases record.lookup? name with
  | none => rfl
  | some entry => exact Checked.value?_under _ _

theorem value?_withDefault
    {default : Model} :
    (record.withDefault name default reader).value? =
      match record.find? name with
      | some raw => (reader raw).value?
      | none => some default := by
  rw [withDefault, find?]
  cases record.lookup? name with
  | none => rfl
  | some entry => exact Checked.value?_under _ _

theorem required_gives
    {value : Model}
    (gives : (reader raw).Gives value)
    (isHeld : record.find? name = some raw := by rfl) :
    (record.required name reader).Gives value := by
  rw [Checked.Gives, ← Checked.value?_eq_some_iff, value?_required, isHeld]
  exact Checked.value?_eq_some_iff.mpr gives

theorem withDefault_gives
    {value default : Model}
    (gives : (reader raw).Gives value)
    (isHeld : record.find? name = some raw := by rfl) :
    (record.withDefault name default reader).Gives value := by
  rw [Checked.Gives, ← Checked.value?_eq_some_iff, value?_withDefault, isHeld]
  exact Checked.value?_eq_some_iff.mpr gives

theorem maybe_gives
    {value : Option Model}
    (gives : (optional reader raw).Gives value)
    (isHeld : record.find? name = some raw := by rfl) :
    (record.maybe name reader).Gives value :=
  withDefault_gives gives isHeld

section Alike

variable {first second : Record} (sameRaw : first.find? name = second.find? name)

include sameRaw

theorem required_alike :
    (first.required name reader).Alike (second.required name reader) := by
  rw [Checked.Alike, value?_required, value?_required, sameRaw]

theorem withDefault_alike
    {default : Model} :
    (first.withDefault name default reader).Alike (second.withDefault name default reader) := by
  rw [Checked.Alike, value?_withDefault, value?_withDefault, sameRaw]

theorem maybe_alike :
    (first.maybe name reader).Alike (second.maybe name reader) :=
  withDefault_alike sameRaw

end Alike

end Record

/-! ## Respelled records -/

/-- The members of a record with a spelling chosen for each name. -/
def respell (spelling : Text → Spelling) (named : Members) : Members :=
  named.map fun field => ((spelling field.1).apply field.1, field.2)

/-- No key is spelled like a field that has another name. -/
def KeepsApart (names : List Text) (named : Members) : Prop :=
  ∀ member ∈ named, ∀ name ∈ names,
    Spelling.camel.apply member.1 = Spelling.camel.apply name → member.1 = name

instance (names : List Text) (named : Members) : Decidable (KeepsApart names named) :=
  inferInstanceAs (Decidable (∀ member ∈ named, ∀ name ∈ names,
    Spelling.camel.apply member.1 = Spelling.camel.apply name → member.1 = name))

section Respelled

variable
  {names : List Text}
  {named : Members}
  (keepsApart : KeepsApart names named)
  (spelling : Text → Spelling)
  {name : Text}
  (isName : name ∈ names)

include keepsApart isName

/-- Under its own spelling a field is found, and under another one nothing is. -/
theorem get?_respell
    (other : Spelling) :
    (respell spelling named).get? (other.apply name) =
      if (spelling name).apply name = other.apply name then named.get? name else none := by
  have same : ∀ member ∈ named,
      (spelling member.1).apply member.1 = other.apply name → member.1 = name := by
    intro member isMember isKey
    have together := congrArg Spelling.camel.apply isKey
    rw [Spelling.camel_apply_apply, Spelling.camel_apply_apply] at together
    exact keepsApart member isMember name isName together
  clear keepsApart isName
  induction named with
  | nil => simp [respell, Members.get?]
  | cons member rest inductionHypothesis =>
      obtain ⟨sameMember, sameRest⟩ := List.forall_mem_cons.mp same
      have restFound := inductionHypothesis sameRest
      by_cases isFirst : member.1 = name
      · by_cases isSpelled : (spelling name).apply name = other.apply name
        · simp [respell, Members.get?, isFirst, isSpelled]
        · rw [if_neg isSpelled] at restFound ⊢
          rw [← restFound]
          simp [respell, Members.get?, isFirst, isSpelled]
      · have notKey := mt sameMember isFirst
        simpa [respell, Members.get?, isFirst, notKey] using restFound

/-- A field is found under its name, however the names are spelled. -/
theorem find?_respell :
    Record.find? ⟨respell spelling named⟩ name = named.get? name := by
  have camelFound := get?_respell keepsApart spelling isName .camel
  have snakeFound := get?_respell keepsApart spelling isName .snake
  simp only [Record.find?, Record.lookup?, List.findSome?_cons, List.findSome?_nil, camelFound,
    snakeFound]
  cases spelling name with
  | camel => cases named.get? name <;> simp
  | snake =>
      by_cases same : Spelling.snake.apply name = Spelling.camel.apply name
      · cases named.get? name <;> simp [same]
      · cases named.get? name <;> simp [same]

end Respelled

/-- A tag is read together with what it stands for. -/
theorem value?_tagged
    {Model : Type}
    {discriminator : Text}
    {models : List (Text × (Record → Checked Model))}
    {members : Members} :
    (tagged discriminator models (.object members)).value? =
      match members.get? discriminator with
      | some (.string name) =>
          (models.find? fun entry => entry.1 = name).bind fun entry =>
            (entry.2 ⟨members⟩).value?
      | _ => none := by
  rw [tagged]
  cases members.get? discriminator with
  | none => rfl
  | some tag =>
      cases tag with
      | string name =>
          dsimp only
          cases models.find? fun entry => entry.1 = name with
          | none => rfl
          | some entry => exact Checked.value?_under _ _
      | _ => rfl

end EmailComposer.Schema
