import EmailComposer.Proofs.Markup.Entity

namespace EmailComposer.Markup

/-!
# Reading escaped content

Decoding goes through a text once, from left to right: an entity is read as its character,
and a character at which no entity begins is read as itself. No entity begins another one,
so every text is read in exactly one way. Escaped content holds no unsafe character
outside its entities. It is read as the content, and it is the only such text that is.
-/

open EmailComposer.Text

/-- The characters that content writes as entities, each with its entity. -/
def contentEntities : List (Char × Text) :=
  [('&', "&amp;"), ('<', "&lt;"), ('>', "&gt;"), ('"', "&quot;"), ('\x27', "&#39;"),
    ('/', "&#x2F;")]

/-- A text begins with an entity of content. -/
def BeginsEntity (text : Text) : Prop :=
  ∃ char entity, (char, entity) ∈ contentEntities ∧ entity <+: text

/-- What a text is read as when its entities are decoded once, from left to right. -/
inductive Decodes : Text → Text → Prop where
  | nil : Decodes [] []
  | entity
      {char : Char}
      {entity rest content : Text}
      (isEntity : (char, entity) ∈ contentEntities)
      (decodes : Decodes rest content) :
      Decodes (entity ++ rest) (char :: content)
  | plain
      {first : Char}
      {rest content : Text}
      (beginsNone : ¬ BeginsEntity (first :: rest))
      (decodes : Decodes rest content) :
      Decodes (first :: rest) (first :: content)

/-- No bracket, quote or slash stands in the text, and every ampersand begins an entity. -/
structure IsEscaped (written : Text) : Prop where
  noUnsafe : ∀ char ∈ written, char ∉ ['<', '>', '"', '\x27', '/']
  begins : ∀ rest, '&' :: rest <:+ written → BeginsEntity ('&' :: rest)

/-- The entities are those that the table for content gives to the unsafe characters. -/
theorem contentEntities_eq :
    contentEntities = unsafeChars.map fun char => (char, escapeChar contentTable char) :=
  rfl

theorem mem_contentEntities_iff
    {char : Char}
    {entity : Text} :
    (char, entity) ∈ contentEntities ↔
      char ∈ unsafeChars ∧ escapeChar contentTable char = entity := by
  rw [contentEntities_eq, List.mem_map]
  constructor
  · rintro ⟨unsafeChar, isUnsafe, same⟩
    cases same
    exact ⟨isUnsafe, rfl⟩
  · rintro ⟨isUnsafe, rfl⟩
    exact ⟨char, isUnsafe, rfl⟩

/-- An entity begins with its only ampersand. -/
theorem entity_eq_cons
    {char : Char}
    {entity : Text}
    (isEntity : (char, entity) ∈ contentEntities) :
    ∃ others, entity = '&' :: others ∧ '&' ∉ others := by
  simp only [contentEntities, List.mem_cons, List.not_mem_nil, or_false, Prod.mk.injEq]
    at isEntity
  rcases isEntity with ⟨_, rfl⟩ | ⟨_, rfl⟩ | ⟨_, rfl⟩ | ⟨_, rfl⟩ | ⟨_, rfl⟩ | ⟨_, rfl⟩ <;>
    exact ⟨_, rfl, by decide⟩

section Reading

variable {char : Char} {text rest : Text}

/-- At an entity its character is read, whatever follows, and nothing is read elsewhere. -/
theorem readContentEntity?_eq_some_iff :
    readContentEntity? text = some (char, rest) ↔
      ∃ entity, (char, entity) ∈ contentEntities ∧ text = entity ++ rest := by
  constructor
  · intro found
    obtain ⟨unsafeChar, isUnsafe, isEntity⟩ := List.exists_of_findSome?_eq_some found
    obtain ⟨remaining, isAfter, same⟩ := Option.map_eq_some_iff.mp isEntity
    cases same
    exact ⟨_, mem_contentEntities_iff.mpr ⟨isUnsafe, rfl⟩, after?_eq_some_iff.mp isAfter⟩
  · rintro ⟨entity, isEntity, rfl⟩
    obtain ⟨isUnsafe, rfl⟩ := mem_contentEntities_iff.mp isEntity
    exact readContentEntity?_escapeChar isUnsafe rest

theorem readContentEntity?_eq_none_iff :
    readContentEntity? text = none ↔ ¬ BeginsEntity text := by
  constructor
  · rintro missing ⟨char, entity, isEntity, rest, rfl⟩
    rw [readContentEntity?_eq_some_iff.mpr ⟨entity, isEntity, rfl⟩] at missing
    cases missing
  · intro beginsNone
    rw [Option.eq_none_iff_forall_ne_some]
    intro ⟨char, rest⟩ found
    obtain ⟨entity, isEntity, shape⟩ := readContentEntity?_eq_some_iff.mp found
    exact beginsNone ⟨char, entity, isEntity, rest, shape.symm⟩

end Reading

/-- Every text is read in exactly one way. -/
theorem decodes_iff
    {written content : Text} :
    Decodes written content ↔ unescape written = content := by
  constructor
  · intro decodes
    induction decodes with
    | nil => exact Pattern.replace_nil _ _
    | @entity char entity rest content isEntity _ inductionHypothesis =>
        have found : contentEntityPattern.read? (entity ++ rest) = some (char, rest) :=
          readContentEntity?_eq_some_iff.mpr ⟨entity, isEntity, rfl⟩
        rw [unescape, Pattern.replace_of_some found]
        exact congrArg (List.cons char) inductionHypothesis
    | @plain first rest content beginsNone _ inductionHypothesis =>
        have missing : contentEntityPattern.read? (first :: rest) = none :=
          readContentEntity?_eq_none_iff.mpr beginsNone
        rw [unescape, Pattern.replace_of_none missing]
        exact congrArg (List.cons first) inductionHypothesis
  · rintro rfl
    -- The scan that decodes takes the same steps as a reading.
    induction written using Pattern.scan_induction contentEntityPattern with
    | nil =>
        rw [unescape, Pattern.replace_nil]
        exact .nil
    | found text char rest isFound inductionHypothesis =>
        obtain ⟨entity, isEntity, rfl⟩ := readContentEntity?_eq_some_iff.mp isFound
        rw [unescape, Pattern.replace_of_some isFound]
        exact .entity isEntity inductionHypothesis
    | plain first rest missing inductionHypothesis =>
        rw [unescape, Pattern.replace_of_none missing]
        exact .plain (readContentEntity?_eq_none_iff.mp missing) inductionHypothesis

/-- Every ampersand of escaped content begins an entity. -/
theorem beginsEntity_of_suffix_escape
    {content rest : Text}
    (isSuffix : '&' :: rest <:+ escape content) :
    BeginsEntity ('&' :: rest) := by
  induction content with
  | nil => simp [escape, escapeWith] at isSuffix
  | cons first others inductionHypothesis =>
      by_cases isUnsafe : first ∈ unsafeChars
      · have isEntity : (first, escapeChar contentTable first) ∈ contentEntities :=
          mem_contentEntities_iff.mpr ⟨isUnsafe, rfl⟩
        obtain ⟨tail, shape, onlyOne⟩ := entity_eq_cons isEntity
        rw [shape] at isEntity
        rw [escape_cons, shape, List.cons_append, List.suffix_cons_iff] at isSuffix
        rcases isSuffix with atStart | behind
        · have isPrefix : '&' :: tail <+: '&' :: rest := by
            rw [atStart, ← List.cons_append]
            exact List.prefix_append _ _
          exact ⟨first, _, isEntity, isPrefix⟩
        · -- No further ampersand stands in this entity, so this one lies behind it.
          exact inductionHypothesis (suffix_of_suffix_append onlyOne behind)
      · rw [escape_cons_of_safe isUnsafe, List.suffix_cons_iff] at isSuffix
        rcases isSuffix with atStart | behind
        · cases atStart
          exact absurd (by decide) isUnsafe
        · exact inductionHypothesis behind

theorem isEscaped_escape
    (content : Text) :
    IsEscaped (escape content) where
  noUnsafe _ := mem_escape
  begins _ := beginsEntity_of_suffix_escape

namespace IsEscaped

/-- What stands behind a part of escaped text is escaped text. -/
theorem of_append
    {start rest : Text}
    (isEscaped : IsEscaped (start ++ rest)) :
    IsEscaped rest where
  noUnsafe char member := isEscaped.noUnsafe char (List.mem_append_right start member)
  begins others isSuffix :=
    isEscaped.begins others (isSuffix.trans (List.suffix_append start rest))

/-- A character at which no entity of an escaped text begins is a safe one. -/
theorem not_mem_unsafeChars
    {first : Char}
    {rest : Text}
    (isEscaped : IsEscaped (first :: rest))
    (beginsNone : ¬ BeginsEntity (first :: rest)) :
    first ∉ unsafeChars := by
  intro isUnsafe
  rcases List.mem_cons.mp isUnsafe with rfl | isListed
  · exact beginsNone (isEscaped.begins rest List.suffix_rfl)
  · exact isEscaped.noUnsafe first List.mem_cons_self isListed

/-- Escaped text is the escaped form of what it is read as. -/
theorem eq_escape
    {written content : Text}
    (isEscaped : IsEscaped written)
    (decodes : Decodes written content) :
    written = escape content := by
  induction decodes with
  | nil => rfl
  | entity isEntity _ inductionHypothesis =>
      obtain ⟨_, rfl⟩ := mem_contentEntities_iff.mp isEntity
      rw [escape_cons, ← inductionHypothesis isEscaped.of_append]
  | @plain first rest content beginsNone _ inductionHypothesis =>
      have wholeEscaped : IsEscaped ([first] ++ rest) := isEscaped
      rw [escape_cons_of_safe (isEscaped.not_mem_unsafeChars beginsNone),
        ← inductionHypothesis wholeEscaped.of_append]

end IsEscaped

/--
Escaping is reversible. Escaped content holds no bracket, quote or slash, and an ampersand
only at the beginning of an entity. It is read as the content and as nothing else, also where
the content spells an entity itself, so different contents are escaped differently. No other
escaped text is read as this content.
-/
theorem escape_decodes_back
    (content : Text) :
    IsEscaped (escape content) ∧
      (∀ decoded, Decodes (escape content) decoded ↔ decoded = content) ∧
      (∀ other, escape other = escape content ↔ other = content) ∧
      ∀ written, IsEscaped written ∧ Decodes written content ↔ written = escape content := by
  have readsBack : ∀ decoded, Decodes (escape content) decoded ↔ decoded = content := by
    intro decoded
    rw [decodes_iff, unescape_escape, eq_comm]
  refine ⟨isEscaped_escape content, readsBack, fun _ => escape_injective.eq_iff, ?_⟩
  intro written
  constructor
  · rintro ⟨isEscaped, decodes⟩
    exact isEscaped.eq_escape decodes
  · rintro rfl
    exact ⟨isEscaped_escape content, (readsBack content).mpr rfl⟩

example : escape "&lt; &amp;#39; &&" = ("&amp;lt; &amp;amp;#39; &amp;&amp;" : Text) := by
  decide

end EmailComposer.Markup
