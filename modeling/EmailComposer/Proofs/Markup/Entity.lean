import EmailComposer.Markup.Entity
import EmailComposer.Proofs.Text.Scan

namespace EmailComposer.Markup

/-!
# Laws of escaping

Escaped content holds no bracket, quote or slash, and decoding its entities once gives
the content back. The entities hold no digit zero, so a word that starts with one is
found in escaped content exactly where it is found in the content.
-/

open EmailComposer.Text

/-- The characters that content writes as entities. -/
def unsafeChars : List Char :=
  ['&', '<', '>', '"', '\x27', '/']

/-- The character whose entity a text begins with, and what follows the entity. -/
def readContentEntity? (text : Text) : Option (Char × Text) :=
  unsafeChars.findSome? fun char =>
    (after? (escapeChar contentTable char) text).map fun rest => (char, rest)

/-- Recognises one entity of content. -/
def contentEntityPattern : Pattern Char where
  read? := readContentEntity?
  uses := by
    intro text char rest found
    obtain ⟨other, isUnsafe, isEntity⟩ := List.exists_of_findSome?_eq_some found
    obtain ⟨remaining, isAfter, same⟩ := Option.map_eq_some_iff.mp isEntity
    have lengths := length_of_after? isAfter
    have shown : ∀ unsafeChar ∈ unsafeChars,
        0 < (escapeChar contentTable unsafeChar).length := by
      decide
    have positive := shown other isUnsafe
    cases same
    omega

/-- The text with the entities of content decoded, once and from left to right. -/
def unescape (text : Text) : Text :=
  contentEntityPattern.replace (fun char => [char]) text

/-- Only unsafe characters are written as entities. -/
theorem contentTable_eq_none_iff
    {char : Char} :
    contentTable char = none ↔ char ∉ unsafeChars := by
  unfold contentTable
  split <;> simp_all [unsafeChars]

/-- A specification is escaped like content, apart from its slashes. -/
theorem specTable_eq_none
    {char : Char}
    (isSafe : char ∉ unsafeChars) :
    specTable char = none := by
  unfold specTable
  split <;> simp_all [unsafeChars]

section Table

/-- Every entity of the table begins with an ampersand and holds no zero, and a bare
ampersand is never kept. -/
structure IsEntityTable (table : EscapeTable) : Prop where
  entity :
    ∀ char entity,
      table char = some entity →
      ∃ others, entity = '&' :: others ∧ '0' ∉ entity
  ampersand : table '&' ≠ none

theorem isEntityTable_contentTable : IsEntityTable contentTable where
  entity := by
    intro char entity isEntity
    unfold contentTable at isEntity
    split at isEntity <;> cases isEntity <;> exact ⟨_, rfl, by decide⟩
  ampersand := by decide

theorem isEntityTable_specTable : IsEntityTable specTable where
  entity := by
    intro char entity isEntity
    unfold specTable at isEntity
    split at isEntity <;> cases isEntity <;> exact ⟨_, rfl, by decide⟩
  ampersand := by decide

theorem escapeWith_cons
    (table : EscapeTable)
    (first : Char)
    (rest : Text) :
    escapeWith table (first :: rest) = escapeChar table first ++ escapeWith table rest := by
  simp [escapeWith]

theorem escapeWith_append
    (table : EscapeTable)
    (first second : Text) :
    escapeWith table (first ++ second) = escapeWith table first ++ escapeWith table second := by
  simp [escapeWith]

variable {table : EscapeTable}

/-- Text without characters of the table is written as it is. -/
theorem escapeWith_eq_self
    {text : Text}
    (isSafe : ∀ char ∈ text, table char = none) :
    escapeWith table text = text := by
  induction text with
  | nil => rfl
  | cons first rest inductionHypothesis =>
      rw [escapeWith_cons, escapeChar, isSafe first (by simp),
        inductionHypothesis fun char member => isSafe char (by simp [member])]
      rfl

variable (isTable : IsEntityTable table)

include isTable

/-- A word without characters of the table begins escaped text exactly if it begins the
text. -/
theorem prefix_escapeWith_iff
    {word text : Text}
    (isSafe : ∀ char ∈ word, table char = none) :
    word <+: escapeWith table text ↔ word <+: text := by
  constructor
  · intro isPrefix
    induction word generalizing text with
    | nil => exact List.nil_prefix
    | cons head tail inductionHypothesis =>
        cases text with
        | nil => simp [escapeWith] at isPrefix
        | cons first rest =>
            rw [escapeWith_cons, escapeChar] at isPrefix
            cases isEntity : table first with
            | some entity =>
                obtain ⟨others, rfl, _⟩ := isTable.entity first entity isEntity
                rw [isEntity, Option.getD_some, List.cons_append, List.cons_prefix_cons]
                  at isPrefix
                exact absurd (isPrefix.1 ▸ isSafe head (by simp)) isTable.ampersand
            | none =>
                rw [isEntity, Option.getD_none, List.singleton_append, List.cons_prefix_cons]
                  at isPrefix
                exact List.cons_prefix_cons.mpr ⟨isPrefix.1,
                  inductionHypothesis (fun char member => isSafe char (by simp [member]))
                    isPrefix.2⟩
  · rintro ⟨rest, rfl⟩
    rw [escapeWith_append, escapeWith_eq_self isSafe]
    exact List.prefix_append _ _

/-- Such a word that begins with a zero occurs in escaped text exactly if it does in the
text. -/
theorem infix_escapeWith_iff
    {others text : Text}
    (isSafe : ∀ char ∈ '0' :: others, table char = none) :
    '0' :: others <:+: escapeWith table text ↔ '0' :: others <:+: text := by
  induction text with
  | nil => simp [escapeWith]
  | cons first rest inductionHypothesis =>
      rw [List.infix_cons_iff, ← prefix_escapeWith_iff isTable isSafe, ← inductionHypothesis,
        escapeWith_cons, escapeChar]
      cases isEntity : table first with
      | some entity =>
          obtain ⟨_, _, noZero⟩ := isTable.entity first entity isEntity
          rw [Option.getD_some]
          constructor
          · exact fun isInfix => .inr (infix_of_infix_append noZero isInfix)
          · rintro (isPrefix | inRest)
            · exact isPrefix.isInfix
            · exact inRest.trans (List.suffix_append _ _).isInfix
      | none => rw [Option.getD_none, List.singleton_append, List.infix_cons_iff]

end Table

theorem escape_append
    (first second : Text) :
    escape (first ++ second) = escape first ++ escape second :=
  escapeWith_append contentTable first second

theorem escape_cons
    (first : Char)
    (rest : Text) :
    escape (first :: rest) = escapeChar contentTable first ++ escape rest :=
  escapeWith_cons contentTable first rest

theorem escape_cons_of_safe
    {first : Char}
    (isSafe : first ∉ unsafeChars)
    (rest : Text) :
    escape (first :: rest) = first :: escape rest := by
  simp [escape_cons, escapeChar, contentTable_eq_none_iff.mpr isSafe]

/-- Content without unsafe characters is written as it is. -/
theorem escape_eq_self
    {text : Text}
    (isSafe : ∀ char ∈ text, char ∉ unsafeChars) :
    escape text = text :=
  escapeWith_eq_self fun char member => contentTable_eq_none_iff.mpr (isSafe char member)

/-- A character of escaped text belongs to an entity or has none. -/
theorem mem_escapeWith
    {table : EscapeTable}
    {char : Char}
    {text : Text}
    (member : char ∈ escapeWith table text) :
    (∃ source entity, table source = some entity ∧ char ∈ entity) ∨ table char = none := by
  obtain ⟨source, _, shown⟩ := List.mem_flatMap.mp member
  cases isEntity : table source with
  | some entity =>
      rw [escapeChar, isEntity] at shown
      exact .inl ⟨source, entity, isEntity, shown⟩
  | none =>
      rw [escapeChar, isEntity, Option.getD_none, List.mem_singleton] at shown
      exact .inr (shown ▸ isEntity)

/-- Escaped content holds no bracket, quote or slash. -/
theorem mem_escape
    {char : Char}
    {text : Text}
    (member : char ∈ escape text) :
    char ∉ ['<', '>', '"', '\x27', '/'] := by
  rcases mem_escapeWith member with ⟨source, entity, isEntity, inEntity⟩ | isSafe
  · have inEntities : ∀ shown ∈ entity, shown ∉ ['<', '>', '"', '\x27', '/'] := by
      unfold contentTable at isEntity
      split at isEntity <;> cases isEntity <;> decide
    exact inEntities char inEntity
  · exact fun isListed =>
      contentTable_eq_none_iff.mp isSafe (List.mem_cons_of_mem _ isListed)

/-- A character that no entity holds comes from the content. -/
theorem mem_of_mem_escape
    {char : Char}
    (noEntity : ∀ unsafeChar ∈ unsafeChars, char ∉ escapeChar contentTable unsafeChar)
    {text : Text}
    (member : char ∈ escape text) :
    char ∈ text := by
  obtain ⟨source, isSource, shown⟩ := List.mem_flatMap.mp member
  by_cases isUnsafe : source ∈ unsafeChars
  · exact absurd shown (noEntity source isUnsafe)
  · rw [escapeChar, contentTable_eq_none_iff.mpr isUnsafe, Option.getD_none,
      List.mem_singleton] at shown
    exact shown ▸ isSource

/-- An escaped specification holds no bracket or quote. -/
theorem mem_escapeWith_specTable
    {char : Char}
    {text : Text}
    (member : char ∈ escapeWith specTable text) :
    char ∉ ['<', '>', '"', '\x27'] := by
  rcases mem_escapeWith member with ⟨source, entity, isEntity, inEntity⟩ | isSafe
  · have inEntities : ∀ shown ∈ entity, shown ∉ ['<', '>', '"', '\x27'] := by
      unfold specTable at isEntity
      split at isEntity <;> cases isEntity <;> decide
    exact inEntities char inEntity
  · intro isListed
    simp only [List.mem_cons, List.not_mem_nil, or_false] at isListed
    rcases isListed with rfl | rfl | rfl | rfl <;> cases isSafe

/-- An entity is decoded to the character it stands for. -/
theorem readContentEntity?_escapeChar
    {char : Char}
    (isUnsafe : char ∈ unsafeChars)
    (rest : Text) :
    readContentEntity? (escapeChar contentTable char ++ rest) = some (char, rest) := by
  simp only [unsafeChars, List.mem_cons, List.not_mem_nil, or_false] at isUnsafe
  rcases isUnsafe with rfl | rfl | rfl | rfl | rfl | rfl <;> rfl

/-- Only an ampersand starts an entity. -/
theorem readContentEntity?_of_ne
    {first : Char}
    (notAmpersand : first ≠ '&')
    (rest : Text) :
    readContentEntity? (first :: rest) = none := by
  rw [readContentEntity?, List.findSome?_eq_none_iff]
  intro char isUnsafe
  have starts : ∀ unsafeChar ∈ unsafeChars,
      ∃ others, escapeChar contentTable unsafeChar = '&' :: others := by
    simp [unsafeChars, escapeChar, contentTable]
  obtain ⟨others, shape⟩ := starts char isUnsafe
  rw [shape, after?, if_neg (Ne.symm notAmpersand), Option.map_none]

/-- A pattern that recognises each entity of content, and nothing at a safe character, goes
through escaped content as through the content, one character after the other. -/
theorem replace_escape
    {Value : Type}
    {pattern : Pattern Value}
    {display : Value → Text}
    {shown : Char → Text}
    (atEntity :
      ∀ char ∈ unsafeChars, ∃ value,
        display value = shown char ∧
          ∀ rest, pattern.read? (escapeChar contentTable char ++ rest) = some (value, rest))
    (atSafe :
      ∀ char, char ∉ unsafeChars →
        [char] = shown char ∧ ∀ rest, pattern.read? (char :: rest) = none)
    (text : Text) :
    pattern.replace display (escape text) = text.flatMap shown := by
  induction text with
  | nil => exact Pattern.replace_nil pattern display
  | cons first rest inductionHypothesis =>
      rw [List.flatMap_cons, ← inductionHypothesis]
      by_cases isUnsafe : first ∈ unsafeChars
      · obtain ⟨value, isShown, found⟩ := atEntity first isUnsafe
        rw [escape_cons, Pattern.replace_of_some (found (escape rest)), isShown]
      · obtain ⟨isShown, missing⟩ := atSafe first isUnsafe
        rw [escape_cons_of_safe isUnsafe, Pattern.replace_of_none (missing (escape rest)),
          ← isShown]
        rfl

/-- Decoding undoes escaping. -/
theorem unescape_escape
    (text : Text) :
    unescape (escape text) = text := by
  calc
    unescape (escape text) = text.flatMap fun char => [char] := by
      refine replace_escape ?_ ?_ text
      · intro char isUnsafe
        exact ⟨char, rfl, readContentEntity?_escapeChar isUnsafe⟩
      · intro char isSafe
        have notAmpersand : char ≠ '&' := by
          rintro rfl
          exact isSafe (by decide)
        exact ⟨rfl, readContentEntity?_of_ne notAmpersand⟩
    _ = text := List.flatMap_singleton' text

/-- Different texts are escaped differently. -/
theorem escape_injective : Function.Injective escape :=
  Function.LeftInverse.injective unescape_escape

theorem zero_not_mem_escapeChar
    {char : Char}
    (isUnsafe : char ∈ unsafeChars) :
    '0' ∉ escapeChar contentTable char := by
  have inEntities : ∀ unsafeChar ∈ unsafeChars,
      '0' ∉ escapeChar contentTable unsafeChar := by
    decide
  exact inEntities char isUnsafe

/-- A word of safe characters begins escaped content exactly if it begins the content. -/
theorem prefix_escape_iff
    {word text : Text}
    (isSafe : ∀ char ∈ word, char ∉ unsafeChars) :
    word <+: escape text ↔ word <+: text :=
  prefix_escapeWith_iff isEntityTable_contentTable
    fun char member => contentTable_eq_none_iff.mpr (isSafe char member)

section SafeWord

variable {others : Text} (isSafe : ∀ char ∈ '0' :: others, char ∉ unsafeChars)

include isSafe

/-- A word of safe characters occurs in escaped content exactly if it does in the content. -/
theorem infix_escape_iff
    {text : Text} :
    '0' :: others <:+: escape text ↔ '0' :: others <:+: text :=
  infix_escapeWith_iff isEntityTable_contentTable
    fun char member => contentTable_eq_none_iff.mpr (isSafe char member)

/-- Replacing such a word by safe characters may be done before or after escaping. -/
theorem replaceAll_escape
    {replacement : Text}
    (keepsSafe : ∀ char ∈ replacement, char ∉ unsafeChars)
    (text : Text) :
    replaceAll ('0' :: others) replacement (escape text) =
      escape (replaceAll ('0' :: others) replacement text) := by
  have notEmpty : '0' :: others ≠ [] := by simp
  induction text using replaceAll_induction notEmpty with
  | nil => simp [escape, escapeWith]
  | found rest inductionHypothesis =>
      rw [escape_append, escape_eq_self isSafe, replaceAll_append_target notEmpty,
        replaceAll_append_target notEmpty, escape_append, escape_eq_self keepsSafe,
        inductionHypothesis]
  | plain first rest missing inductionHypothesis =>
      rw [replaceAll_cons notEmpty missing]
      by_cases isUnsafe : first ∈ unsafeChars
      · rw [escape_cons, escape_cons,
          replaceAll_append (zero_not_mem_escapeChar isUnsafe), inductionHypothesis]
      · have stillMissing : ¬ '0' :: others <+: first :: escape rest := by
          rw [← escape_cons_of_safe isUnsafe, prefix_escape_iff isSafe]
          exact missing
        rw [escape_cons_of_safe isUnsafe, escape_cons_of_safe isUnsafe,
          replaceAll_cons notEmpty stillMissing, inductionHypothesis]

end SafeWord

end EmailComposer.Markup
