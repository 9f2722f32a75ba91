import EmailComposer.Proofs.Text.Run
import EmailComposer.Token.Expand

namespace EmailComposer.Token

/-!
# Trees of formatting tokens

Formatted text is a tree: runs of plain text, and tokens around more formatted text. A
tree is printed with the markers of its tokens, and it is rendered by one recursion that
looks at one token at a time.
-/

open EmailComposer.Text

/-- Formatted text: what stands first, and what follows it. -/
inductive Formatted where
  | done
  | text (run : Text) (rest : Formatted)
  | token (kind : Kind) (spec : Text) (children rest : Formatted)
  deriving Repr, DecidableEq

/-- The text holds no brace. -/
def HasNoBrace (text : Text) : Prop :=
  '{' ∉ text ∧ '}' ∉ text

instance (text : Text) : Decidable (HasNoBrace text) :=
  inferInstanceAs (Decidable (_ ∧ _))

/-- The specification that a token may have: something on one line without braces. -/
structure IsSpec (spec : Text) : Prop where
  notEmpty : spec ≠ []
  noBrace : HasNoBrace spec
  oneLine : '\n' ∉ spec

instance (spec : Text) : Decidable (IsSpec spec) :=
  decidable_of_iff (spec ≠ [] ∧ HasNoBrace spec ∧ '\n' ∉ spec)
    ⟨fun parts => ⟨parts.1, parts.2.1, parts.2.2⟩,
      fun isSpec => ⟨isSpec.notEmpty, isSpec.noBrace, isSpec.oneLine⟩⟩

/-- The last modifier of a list that can be read, as what it is read as. -/
def lastOf (read? : Text → Option Value) (modifiers : List Text) : Option Value :=
  modifiers.reverse.findSome? read?

/-- The weight and the color that a style token ends up with. -/
def StyleSpec.last (spec : Text) : StyleSpec :=
  let weight := lastOf Weight.ofName? (modifiers spec)
  let color := lastOf modifierColor? (modifiers spec)
  ⟨weight, color, weight.isSome || color.isSome⟩

/-- The address, the weight and the color that a link token ends up with. -/
def LinkSpec.last (spec : Text) : LinkSpec :=
  match modifiers spec with
  | [] => ⟨[], false, none⟩
  | url :: others => ⟨url, "bold" ∈ others, lastOf modifierColor? others⟩

/-- A token around content that is rendered already. -/
def showToken (kind : Kind) (spec content : Text) : Text :=
  match kind with
  | .bold =>
      if Color.isHex spec then
        boldHtml ⟨spec, content⟩
      else
        (Span.mk spec content).raw .bold
  | .style =>
      let style := StyleSpec.last spec
      if style.recognised then
        styleHtml style content
      else
        content
  | .link =>
      let link := LinkSpec.last spec
      if Url.isSafeLink link.url then
        linkHtml link content
      else
        content

namespace Formatted

/-- A tree as it is written, with the markers of its tokens. -/
def print : Formatted → Text
  | .done => []
  | .text run rest => run ++ rest.print
  | .token kind spec children rest => (Span.mk spec children.print).raw kind ++ rest.print

/-- A tree as markup. -/
def render : Formatted → Text
  | .done => []
  | .text run rest => run ++ rest.render
  | .token kind spec children rest => showToken kind spec children.render ++ rest.render

/-- The kinds of the tokens of a tree, however deep they stand. -/
def kinds : Formatted → List Kind
  | .done => []
  | .text _ rest => rest.kinds
  | .token kind _ children rest => kind :: (children.kinds ++ rest.kinds)

/-- No run of text holds a brace, and no token holds one of its own kind or a line break. -/
def WellFormed : Formatted → Prop
  | .done => True
  | .text run rest => HasNoBrace run ∧ rest.WellFormed
  | .token kind spec children rest =>
      IsSpec spec ∧ kind ∉ children.kinds ∧ '\n' ∉ children.print ∧
        children.WellFormed ∧ rest.WellFormed

/-- Whether a tree is well-formed is checked from the root down. -/
instance decidableWellFormed : (tree : Formatted) → Decidable tree.WellFormed
  | .done => .isTrue trivial
  | .text run rest =>
      have := decidableWellFormed rest
      inferInstanceAs (Decidable (HasNoBrace run ∧ rest.WellFormed))
  | .token kind spec children rest =>
      have := decidableWellFormed children
      have := decidableWellFormed rest
      inferInstanceAs (Decidable (IsSpec spec ∧ kind ∉ children.kinds ∧
        '\n' ∉ children.print ∧ children.WellFormed ∧ rest.WellFormed))

/-- One tree behind another. -/
def append : Formatted → Formatted → Formatted
  | .done, other => other
  | .text run rest, other => .text run (rest.append other)
  | .token kind spec children rest, other => .token kind spec children (rest.append other)

@[simp] theorem print_append
    (tree other : Formatted) :
    (tree.append other).print = tree.print ++ other.print := by
  induction tree with
  | done => rfl
  | text run rest inductionHypothesis => simp [append, print, inductionHypothesis]
  | token kind spec children rest _ inductionHypothesis =>
      simp [append, print, inductionHypothesis]

theorem append_assoc
    (first second third : Formatted) :
    (first.append second).append third = first.append (second.append third) := by
  induction first with
  | done => rfl
  | text run rest inductionHypothesis => simp [append, inductionHypothesis]
  | token kind spec children rest _ inductionHypothesis => simp [append, inductionHypothesis]

@[simp] theorem kinds_append
    (tree other : Formatted) :
    (tree.append other).kinds = tree.kinds ++ other.kinds := by
  induction tree with
  | done => rfl
  | text run rest inductionHypothesis => simp [append, kinds, inductionHypothesis]
  | token kind spec children rest _ inductionHypothesis =>
      simp [append, kinds, inductionHypothesis]

theorem wellFormed_append
    {tree other : Formatted}
    (wellFormed : tree.WellFormed)
    (otherWellFormed : other.WellFormed) :
    (tree.append other).WellFormed := by
  induction tree with
  | done => exact otherWellFormed
  | text run rest inductionHypothesis =>
      exact ⟨wellFormed.1, inductionHypothesis wellFormed.2⟩
  | token kind spec children rest _ inductionHypothesis =>
      obtain ⟨isSpec, notNested, oneLine, childrenWellFormed, restWellFormed⟩ := wellFormed
      exact ⟨isSpec, notNested, oneLine, childrenWellFormed, inductionHypothesis restWellFormed⟩

end Formatted

/-! ## Modifiers of a token -/

@[simp] theorem lastOf_concat
    (read? : Text → Option Value)
    (others : List Text)
    (modifier : Text) :
    lastOf read? (others ++ [modifier]) = (read? modifier <|> lastOf read? others) := by
  cases isRead : read? modifier <;> simp [lastOf, isRead]

/-- A weight is no color. -/
theorem modifierColor?_eq_none_of_weight
    {modifier : Text}
    {weight : Weight}
    (isWeight : Weight.ofName? modifier = some weight) :
    modifierColor? modifier = none := by
  have named : weight.name = modifier := by
    simpa using List.find?_some isWeight
  subst named
  cases weight <;> decide

/-- A color is what stands behind its name in a modifier. -/
theorem suffix_of_modifierColor?
    {modifier color : Text}
    (found : modifierColor? modifier = some color) :
    color <:+ modifier := by
  unfold modifierColor? at found
  split at found
  · rename_i value isAfter
    split at found
    · rw [after?_eq_some_iff.mp isAfter, Option.some.inj found]
      exact List.suffix_append _ _
    · cases found
  · cases found

/-- A color avoids whatever is neither its sign nor a digit. -/
theorem avoids_of_isHex
    {color excluded : Text}
    (isHex : Color.isHex color = true)
    (apart : ∀ char ∈ excluded, char ≠ '#' ∧ isHexDigit char = false) :
    Avoids excluded color := by
  intro char member isExcluded
  obtain ⟨notSign, notDigit⟩ := apart char isExcluded
  unfold Color.isHex at isHex
  split at isHex
  · rw [Bool.and_eq_true, List.all_eq_true] at isHex
    rcases List.mem_cons.mp member with isSign | isDigit
    · exact notSign isSign
    · rw [isHex.2 char isDigit] at notDigit
      cases notDigit
  · cases isHex

/-- Modifiers are stripped, so the line break that the check of a color lets through is never
there. -/
theorem isHex_of_modifierColor?
    {spec modifier color : Text}
    (isModifier : modifier ∈ modifiers spec)
    (found : modifierColor? modifier = some color) :
    Color.isHex color = true := by
  have isLine : Color.isHexLine color = true := by
    unfold modifierColor? at found
    split at found
    · split at found
      · rename_i isLine
        exact Option.some.inj found ▸ isLine
      · cases found
    · cases found
  rw [Color.isHexLine, Bool.or_eq_true, Bool.and_eq_true] at isLine
  rcases isLine with isHex | ⟨isBroken, _⟩
  · exact isHex
  · exfalso
    obtain ⟨start, shape⟩ := suffix_of_modifierColor? found
    obtain ⟨field, _, rfl⟩ := List.mem_map.mp isModifier
    have isLast : '\n' ∈ (strip field).getLast? := by
      rw [← shape, List.getLast?_append, beq_iff_eq.mp isBroken]
      rfl
    have notBlank : isBlank '\n' = false := stopsAtEnd_dropEndWhile isBlank _ '\n' isLast
    exact absurd notBlank (by decide)

/-- So the color that a token ends up with is a plain one. -/
theorem isHex_of_lastOf
    {spec color : Text}
    {others : List Text}
    (areModifiers : others ⊆ modifiers spec)
    (isColor : color ∈ lastOf modifierColor? others) :
    Color.isHex color = true := by
  obtain ⟨modifier, isModifier, found⟩ := List.exists_of_findSome?_eq_some isColor
  exact isHex_of_modifierColor? (areModifiers (List.mem_reverse.mp isModifier)) found

theorem StyleSpec.add_eq
    (style : StyleSpec)
    (modifier : Text) :
    style.add modifier =
      ⟨Weight.ofName? modifier <|> style.weight, modifierColor? modifier <|> style.color,
        style.recognised || (Weight.ofName? modifier).isSome ||
          (modifierColor? modifier).isSome⟩ := by
  rw [StyleSpec.add]
  cases isWeight : Weight.ofName? modifier with
  | some weight => simp [modifierColor?_eq_none_of_weight isWeight]
  | none => cases modifierColor? modifier <;> simp

/-- The modifiers of a style are taken into account one after another, so the last weight
and the last color stand. -/
theorem StyleSpec.read_eq_last
    (spec : Text) :
    StyleSpec.read spec = StyleSpec.last spec := by
  rw [StyleSpec.read, StyleSpec.last]
  induction modifiers spec using List.reverseRecOn with
  | nil => rfl
  | append_singleton others modifier inductionHypothesis =>
      rw [List.foldl_concat, inductionHypothesis, StyleSpec.add_eq, lastOf_concat, lastOf_concat]
      cases Weight.ofName? modifier <;> cases modifierColor? modifier <;> simp

theorem LinkSpec.add_eq
    (link : LinkSpec)
    (modifier : Text) :
    link.add modifier =
      ⟨link.url, link.bold || modifier = "bold", modifierColor? modifier <|> link.color⟩ := by
  unfold LinkSpec.add
  split
  · rename_i isBold
    have noColor : modifierColor? modifier = none := by
      rw [isBold]
      decide
    simp only [noColor, decide_eq_true isBold, Bool.or_true]
    rfl
  · rename_i notBold
    cases modifierColor? modifier <;> simp only [decide_eq_false notBold, Bool.or_false] <;> rfl

/-- The same goes for the modifiers of a link. -/
theorem LinkSpec.read_eq_last
    (spec : Text) :
    LinkSpec.read spec = LinkSpec.last spec := by
  rw [LinkSpec.read, LinkSpec.last]
  cases modifiers spec with
  | nil => rfl
  | cons url others =>
      dsimp only
      induction others using List.reverseRecOn with
      | nil => rfl
      | append_singleton others modifier inductionHypothesis =>
          rw [List.foldl_concat, inductionHypothesis, LinkSpec.add_eq, lastOf_concat]
          simp [eq_comm]

/-- The color of a style is a plain one. -/
theorem StyleSpec.isHex_color
    (spec : Text) :
    ∀ color ∈ (StyleSpec.read spec).color, Color.isHex color = true := by
  rw [StyleSpec.read_eq_last]
  exact fun _ => isHex_of_lastOf (List.Subset.refl _)

/-- So is the color that a link is shown in. -/
theorem LinkSpec.isHex_shownColor
    (spec : Text) :
    Color.isHex ((LinkSpec.read spec).color.getD defaultLinkColor) = true := by
  rw [LinkSpec.read_eq_last, LinkSpec.last]
  cases shape : modifiers spec with
  | nil => decide
  | cons url others =>
      dsimp only
      cases chosen : lastOf modifierColor? others with
      | none => decide
      | some color =>
          have areModifiers : others ⊆ modifiers spec := shape ▸ List.subset_cons_self url others
          exact isHex_of_lastOf areModifiers chosen

end EmailComposer.Token
