import EmailComposer.Markup.Plain
import EmailComposer.Proofs.Markup.Entity
import EmailComposer.Proofs.Markup.Visible

namespace EmailComposer.Markup

/-!
# Plain text that is reduced again

A plain text is escaped before it is stored, and a stored text is reduced to plain text and
escaped again. The decoder knows the entities of all unsafe characters but the slash, so
every round leaves what it finds as it is, except that slashes and the form feeds that a seam
has left behind do not come back.
-/

open EmailComposer.Text

section Entities

/-- A numeric entity that is not among the common ones. -/
def IsUnreadEntity (text : Text) : Prop :=
  ∃ marker ∈ [([] : Text), ['x'], ['X']], ∃ digits : Text,
    (∀ char ∈ digits, isHexDigit char = true) ∧
      text = "&" ++ ("#" ++ marker ++ digits) ++ ";"

/-- A numeric entity decodes to a common character or stays as it is, with a second semicolon
if it is written so. -/
theorem numericEntity?_eq_some
    {number value : Text}
    (found : numericEntity? number = some value) :
    ∃ decoded,
      (value = decoded ∨ value = decoded ++ ";") ∧
        ((∃ name, commonEntity? name = some decoded) ∨ IsUnreadEntity decoded) := by
  unfold numericEntity? at found
  split at found
  rename_i marker isDigit chosen
  have isMarker : marker ∈ [([] : Text), ['x'], ['X']] ∧
      ∀ char, isDigit char = true → isHexDigit char = true := by
    split at chosen
    all_goals
      obtain ⟨rfl, rfl⟩ := Prod.mk.inj chosen
      exact ⟨by simp, fun char isDigit => by simp_all [isHexDigit]⟩
  have areDigits : ∀ char ∈ (number.drop marker.length).takeWhile isDigit,
      isHexDigit char = true :=
    fun char member => isMarker.2 char (List.mem_takeWhile_imp member)
  dsimp only at found
  generalize (number.drop marker.length).takeWhile isDigit = digits at found areDigits
  have decoded : ∀ text,
      (commonEntity? ("#" ++ marker ++ digits)).getD ("&" ++ ("#" ++ marker ++ digits) ++ ";") =
          text →
        (∃ name, commonEntity? name = some text) ∨ IsUnreadEntity text := by
    rintro text rfl
    cases isCommon : commonEntity? ("#" ++ marker ++ digits) with
    | none => exact .inr ⟨marker, isMarker.1, digits, areDigits, rfl⟩
    | some shown => exact .inl ⟨_, isCommon⟩
  split at found
  · exact ⟨_, .inl (Option.some.inj found).symm, decoded _ rfl⟩
  · exact ⟨_, .inr (Option.some.inj found).symm, decoded _ rfl⟩
  · cases found

/-- An entity is a name between an ampersand and a semicolon. -/
theorem readEntity?_eq_some
    {text value rest : Text}
    (found : readEntity? text = some (value, rest)) :
    ∃ name,
      text = '&' :: (name ++ ';' :: rest) ∧
        (commonEntity? name = some value ∨
          ∃ number, name = '#' :: number ∧ numericEntity? number = some value) := by
  unfold readEntity? at found
  split at found
  · rename_i following
    dsimp only at found
    have shape := List.takeWhile_append_dropWhile (p := (!endsEntity ·)) (l := following)
    split at found
    · rename_i remaining isRest
      refine ⟨following.takeWhile (!endsEntity ·), ?_⟩
      rw [isRest] at shape
      split at found
      · rename_i number isNumber
        obtain ⟨decoded, isNumeric, same⟩ := Option.map_eq_some_iff.mp found
        obtain ⟨rfl, rfl⟩ := Prod.mk.inj same
        exact ⟨by rw [shape], .inr ⟨number, isNumber, isNumeric⟩⟩
      · obtain ⟨decoded, isCommon, same⟩ := Option.map_eq_some_iff.mp found
        obtain ⟨rfl, rfl⟩ := Prod.mk.inj same
        exact ⟨by rw [shape], .inl isCommon⟩
    · cases found
  · cases found

/-- What an unsafe character comes back as when it was escaped and is decoded. -/
def rereadChar (char : Char) : Text :=
  if char = '/' then
    "&#x2F;"
  else
    [char]

theorem readEntity?_escapeChar
    {char : Char}
    (isUnsafe : char ∈ unsafeChars)
    (rest : Text) :
    readEntity? (escapeChar contentTable char ++ rest) = some (rereadChar char, rest) := by
  simp only [unsafeChars, List.mem_cons, List.not_mem_nil, or_false] at isUnsafe
  rcases isUnsafe with rfl | rfl | rfl | rfl | rfl | rfl <;> rfl

/-- Only an ampersand starts an entity. -/
theorem readEntity?_of_ne
    {first : Char}
    (notAmpersand : first ≠ '&')
    (rest : Text) :
    readEntity? (first :: rest) = none := by
  unfold readEntity?
  split
  · rename_i shape
    exact absurd (List.cons.inj shape).1 notAmpersand
  · rfl

/-- Decoding undoes escaping for all characters but the slash. -/
theorem decodeEntities_escape
    (text : Text) :
    decodeEntities (escape text) = text.flatMap rereadChar := by
  refine replace_escape ?_ ?_ text
  · intro char isUnsafe
    exact ⟨rereadChar char, rfl, readEntity?_escapeChar isUnsafe⟩
  · intro char isSafe
    have notAmpersand : char ≠ '&' := by
      rintro rfl
      exact isSafe (by decide)
    have notSlash : char ≠ '/' := by
      rintro rfl
      exact isSafe (by decide)
    exact ⟨(if_neg notSlash).symm, readEntity?_of_ne notAmpersand⟩

end Entities

section Controls

/-- The only control characters of plain text are line feeds, tabs and form feeds. -/
def IsTamed (char : Char) : Prop :=
  char ≠ '\r' ∧ (isHiddenControl char = true → char = '\x0c')

instance (char : Char) : Decidable (IsTamed char) :=
  inferInstanceAs (Decidable (_ ∧ (_ → _)))

theorem IsTamed.of_isTagBlank
    {char : Char}
    (blank : isTagBlank char = true)
    (notReturn : char ≠ '\r') :
    IsTamed char := by
  have hidden : ∀ char ∈ ['\t', '\n', '\x0c', '\r', ' '],
      isHiddenControl char = true → char = '\x0c' := by
    decide
  exact ⟨notReturn, hidden char (of_decide_eq_true blank)⟩

theorem IsTamed.of_shown
    {char : Char}
    (notReturn : char ≠ '\r')
    (shown : isHiddenControl char = false) :
    IsTamed char :=
  ⟨notReturn, fun hidden => by rw [shown] at hidden; cases hidden⟩

/-- A control character is shown as a question mark. -/
theorem maskControl_eq_or
    (char : Char) :
    maskControl char = char ∨ maskControl char = '?' := by
  unfold maskControl
  split
  · exact .inr rfl
  · exact .inl rfl

theorem isTamed_maskControl
    {char : Char}
    (notReturn : char ≠ '\r') :
    IsTamed (maskControl char) := by
  unfold maskControl
  split
  · exact .of_shown (by decide) (by decide)
  · rename_i shown
    exact .of_shown notReturn (Bool.of_not_eq_true shown)

theorem isTamed_of_isHexDigit
    {char : Char}
    (isDigit : isHexDigit char = true) :
    IsTamed char := by
  have code : 48 ≤ char.toNat := by
    simp only [isHexDigit, isAsciiDigit, Bool.or_eq_true, Bool.and_eq_true, decide_eq_true_eq,
      Char.le_def, UInt32.le_iff_toNat_le] at isDigit
    simp only [Char.toNat]
    rcases isDigit with (⟨lower, _⟩ | ⟨lower, _⟩) | ⟨lower, _⟩ <;>
      exact Nat.le_trans (by decide) lower
  have notReturn : char ≠ '\r' := by
    rintro rfl
    exact absurd code (by decide)
  apply IsTamed.of_shown notReturn
  simp only [isHiddenControl, Bool.or_eq_false_iff, Bool.and_eq_false_iff, decide_eq_false_iff_not,
    beq_eq_false_iff_ne]
  omega

/-- A run without carriage returns is tamed by masking its control characters. -/
theorem isTamed_of_mem_maskRun
    {run : Text}
    (noReturn : '\r' ∉ run)
    {char : Char}
    (member : char ∈ maskRun run) :
    IsTamed char := by
  have notReturn : ∀ other ∈ run, other ≠ '\r' :=
    fun other isOther isReturn => noReturn (isReturn ▸ isOther)
  unfold maskRun at member
  dsimp only at member
  rw [List.mem_append, List.mem_append, List.mem_map, List.mem_reverse] at member
  rcases member with (inLeading | ⟨source, inMiddle, rfl⟩) | inTrailing
  · exact .of_isTagBlank (List.mem_takeWhile_imp inLeading)
      (notReturn char ((List.takeWhile_prefix _).subset inLeading))
  · obtain ⟨trailing, shape, _⟩ :=
      exists_append_dropEndWhile isTagBlank (run.dropWhile isTagBlank)
    have inRest : source ∈ run.dropWhile isTagBlank := by
      rw [shape]
      exact List.mem_append_left trailing inMiddle
    exact isTamed_maskControl (notReturn source ((List.dropWhile_suffix _).subset inRest))
  · have inRest := List.mem_reverse.mp ((List.takeWhile_prefix _).subset inTrailing)
    exact .of_isTagBlank (List.mem_takeWhile_imp inTrailing)
      (notReturn char ((List.dropWhile_suffix _).subset inRest))

/-- A common character is tamed. -/
theorem isTamed_of_commonEntity?
    {name value : Text}
    (isCommon : commonEntity? name = some value) :
    ∀ char ∈ value, IsTamed char := by
  unfold commonEntity? at isCommon
  repeat' split at isCommon
  all_goals
    first
      | cases isCommon; done
      | (cases isCommon; decide)

/-- What an entity decodes to is tamed. -/
theorem isTamed_of_readEntity?
    {text value rest : Text}
    (found : readEntity? text = some (value, rest)) :
    ∀ char ∈ value, IsTamed char := by
  obtain ⟨name, _, isCommon | ⟨number, _, isNumeric⟩⟩ := readEntity?_eq_some found
  · exact isTamed_of_commonEntity? isCommon
  · obtain ⟨decoded, isValue, sort⟩ := numericEntity?_eq_some isNumeric
    have decodedTamed : ∀ char ∈ decoded, IsTamed char := by
      rcases sort with ⟨other, isCommon⟩ | ⟨marker, isMarker, digits, areDigits, rfl⟩
      · exact isTamed_of_commonEntity? isCommon
      · have markerTamed : ∀ marker ∈ [([] : Text), ['x'], ['X']], ∀ char ∈ marker,
            IsTamed char := by
          decide
        simp only [List.forall_mem_append]
        exact ⟨⟨by decide, ⟨by decide, markerTamed marker isMarker⟩,
          fun char isDigit => isTamed_of_isHexDigit (areDigits char isDigit)⟩, by decide⟩
    rcases isValue with rfl | rfl
    · exact decodedTamed
    · exact List.forall_mem_append.mpr ⟨decodedTamed, by decide⟩

/-- Decoding leaves a tamed text tamed. -/
theorem isTamed_of_mem_decodeEntities
    {text : Text}
    (tamed : ∀ char ∈ text, IsTamed char) :
    ∀ char ∈ decodeEntities text, IsTamed char := by
  unfold decodeEntities
  induction text using entityPattern.scan_induction with
  | nil => simp
  | found text value rest isFound inductionHypothesis =>
      have restTamed : ∀ char ∈ rest, IsTamed char := by
        obtain ⟨name, rfl, _⟩ := readEntity?_eq_some isFound
        exact fun char member => tamed char (by simp [member])
      rw [Pattern.replace_of_some isFound]
      exact List.forall_mem_append.mpr
        ⟨isTamed_of_readEntity? isFound, inductionHypothesis restTamed⟩
  | plain first rest missing inductionHypothesis =>
      rw [List.forall_mem_cons] at tamed
      rw [Pattern.replace_of_none missing]
      exact List.forall_mem_cons.mpr ⟨tamed.1, inductionHypothesis tamed.2⟩

/-- Plain text is tamed. -/
theorem isTamed_of_mem_plainText
    {text : Text}
    {char : Char}
    (member : char ∈ plainText text) :
    IsTamed char := by
  obtain ⟨run, isRun, inRun⟩ := List.mem_flatMap.mp member
  have masked : ∀ other ∈ maskRun run, IsTamed other :=
    fun other isOther => isTamed_of_mem_maskRun (return_not_mem_visibleRuns isRun) isOther
  exact isTamed_of_mem_decodeEntities masked char inRun

end Controls

section Again

/-- A run without blanks at its ends is masked as a whole. -/
theorem maskRun_of_stops
    {run : Text}
    (stops : Stops isTagBlank run)
    (stopsAtEnd : StopsAtEnd isTagBlank run) :
    maskRun run = run.map maskControl := by
  have endStops : Stops isTagBlank run.reverse := by
    intro char isHead
    rw [List.head?_reverse] at isHead
    exact stopsAtEnd char isHead
  unfold maskRun
  dsimp only
  rw [takeWhile_of_stops stops, dropWhile_of_stops stops, takeWhile_of_stops endStops,
    dropEndWhile_eq_self stopsAtEnd]
  simp

/-- Masking control characters and escaping do not meet. -/
theorem map_maskControl_escape
    (text : Text) :
    (escape text).map maskControl = escape (text.map maskControl) := by
  have eachChar : ∀ char,
      (escapeChar contentTable char).map maskControl =
        escapeChar contentTable (maskControl char) := by
    intro char
    by_cases isUnsafe : char ∈ unsafeChars
    · have listed : ∀ unsafeChar ∈ unsafeChars,
          (escapeChar contentTable unsafeChar).map maskControl =
            escapeChar contentTable (maskControl unsafeChar) := by
        decide
      exact listed char isUnsafe
    · have stillSafe : maskControl char ∉ unsafeChars := by
        unfold maskControl
        split
        · decide
        · exact isUnsafe
      rw [escapeChar, escapeChar, contentTable_eq_none_iff.mpr isUnsafe,
        contentTable_eq_none_iff.mpr stillSafe]
      rfl
  rw [escape, escapeWith, List.map_flatMap, escape, escapeWith, List.flatMap_map]
  exact List.flatMap_congr fun char _ => eachChar char

/-- Escaped text begins and ends with blanks where the text does. -/
theorem stops_escape
    {keeps : Char → Bool}
    (noEntity : keeps '&' = false ∧ keeps ';' = false)
    {text : Text}
    (stops : Stops keeps text)
    (stopsAtEnd : StopsAtEnd keeps text) :
    Stops keeps (escape text) ∧ StopsAtEnd keeps (escape text) := by
  have ends : ∀ char, keeps char = false →
      (∃ first ∈ (escapeChar contentTable char).head?, keeps first = false) ∧
        ∃ last ∈ (escapeChar contentTable char).getLast?, keeps last = false := by
    intro char failed
    by_cases isUnsafe : char ∈ unsafeChars
    · have listed : ∀ unsafeChar ∈ unsafeChars,
          (escapeChar contentTable unsafeChar).head? = some '&' ∧
            (escapeChar contentTable unsafeChar).getLast? = some ';' := by
        decide
      exact ⟨⟨'&', (listed char isUnsafe).1, noEntity.1⟩,
        ⟨';', (listed char isUnsafe).2, noEntity.2⟩⟩
    · rw [escapeChar, contentTable_eq_none_iff.mpr isUnsafe]
      exact ⟨⟨char, rfl, failed⟩, ⟨char, rfl, failed⟩⟩
  exact ⟨stops.flatMap fun char failed => (ends char failed).1,
    stopsAtEnd.flatMap fun char failed => (ends char failed).2⟩

theorem isBlank_of_isTagBlank
    {char : Char}
    (blank : isTagBlank char = true) :
    isBlank char = true := by
  have listed : ∀ char ∈ ['\t', '\n', '\x0c', '\r', ' '], isBlank char = true := by
    decide
  exact listed char (of_decide_eq_true blank)

/-- What a character of a plain text has become when the text was stored and reduced again. -/
def returnedChar (char : Char) : Text :=
  rereadChar (maskControl char)

theorem returnedChar_eq_or
    (char : Char) :
    returnedChar char = "&#x2F;" ∨ returnedChar char = ['?'] ∨ returnedChar char = [char] := by
  unfold returnedChar rereadChar
  split
  · exact .inl rfl
  · rcases maskControl_eq_or char with same | masked
    · exact .inr (.inr (by rw [same]))
    · exact .inr (.inl (by rw [masked]))

theorem returnedChar_ne_nil
    (char : Char) :
    returnedChar char ≠ [] := by
  rcases returnedChar_eq_or char with shape | shape | shape <;> simp [shape]

/-- A character comes back as it was exactly if it is neither a slash nor a control character
that no text may show. -/
theorem returnedChar_eq_iff
    {char : Char} :
    returnedChar char = [char] ↔ char ≠ '/' ∧ isHiddenControl char = false := by
  unfold returnedChar rereadChar maskControl
  cases hidden : isHiddenControl char with
  | true =>
      have notMark : '?' ≠ char := by
        rintro rfl
        exact absurd hidden (by decide)
      simp [notMark]
  | false =>
      by_cases isSlash : char = '/'
      · simp [isSlash]
      · simp [isSlash]

section Stripped

variable {text : Text} (stops : Stops isBlank text) (stopsAtEnd : StopsAtEnd isBlank text)

include stops stopsAtEnd

/-- A stripped text that was stored and is reduced again has nothing to be stripped of. -/
theorem strip_flatMap_returnedChar :
    strip (text.flatMap returnedChar) = text.flatMap returnedChar := by
  have ends : ∀ char, isBlank char = false →
      (∃ first ∈ (returnedChar char).head?, isBlank first = false) ∧
        ∃ last ∈ (returnedChar char).getLast?, isBlank last = false := by
    intro char noBlank
    rcases returnedChar_eq_or char with shape | shape | shape
    · rw [shape]
      exact ⟨⟨'&', by decide, by decide⟩, ⟨';', by decide, by decide⟩⟩
    · rw [shape]
      exact ⟨⟨'?', by decide, by decide⟩, ⟨'?', by decide, by decide⟩⟩
    · rw [shape]
      exact ⟨⟨char, rfl, noBlank⟩, ⟨char, rfl, noBlank⟩⟩
  exact strip_eq_self (stops.flatMap fun char noBlank => (ends char noBlank).1)
    (stopsAtEnd.flatMap fun char noBlank => (ends char noBlank).2)

/-- The plain text of an escaped plain text. -/
theorem plainText_escape
    (tamed : ∀ char ∈ text, IsTamed char) :
    plainText (escape text) = text.flatMap returnedChar := by
  have isShown : IsShown (escape text) := by
    intro char member
    constructor
    · rintro rfl
      exact mem_escape member (by simp)
    · rintro rfl
      have hidden := (tamed _ (mem_of_mem_escape (by decide) member)).2 (by decide)
      exact absurd hidden (by decide)
  have noReturn : '\r' ∉ escape text :=
    fun member => (tamed _ (mem_of_mem_escape (by decide) member)).1 rfl
  have tagStops : Stops isTagBlank text := stops.of_imp fun _ => isBlank_of_isTagBlank
  have tagStopsAtEnd : StopsAtEnd isTagBlank text :=
    stopsAtEnd.of_imp fun _ => isBlank_of_isTagBlank
  obtain ⟨escapedStops, escapedStopsAtEnd⟩ :=
    stops_escape (by decide) tagStops tagStopsAtEnd
  calc
    plainText (escape text) = decodeEntities (maskRun (escape text)) := by
      rw [plainText, visibleRuns_of_isShown isShown noReturn, List.flatMap_singleton]
    _ = decodeEntities (escape (text.map maskControl)) := by
      rw [maskRun_of_stops escapedStops escapedStopsAtEnd, map_maskControl_escape]
    _ = text.flatMap returnedChar := by
      rw [decodeEntities_escape, List.flatMap_map]
      rfl

end Stripped

/-- What a field has become when it was stored and reduced again. -/
theorem plainField_plainField
    (text : Text) :
    plainField (plainField text) = escape ((strip (plainText text)).flatMap returnedChar) := by
  have tamed : ∀ char ∈ strip (plainText text), IsTamed char :=
    fun char member => isTamed_of_mem_plainText (mem_of_mem_strip member)
  have reduced := plainText_escape stops_strip stopsAtEnd_strip tamed
  rw [plainField, plainField, reduced, strip_flatMap_returnedChar stops_strip stopsAtEnd_strip]

/-- The plain text holds nothing that does not come back. -/
structure ReturnsWhole (plain : Text) : Prop where
  noSlash : '/' ∉ plain
  noFormFeed : '\x0c' ∉ plain

/-- A stored field is not changed by reducing it again exactly if its plain text returns
whole. -/
theorem plainField_plainField_eq_iff
    (text : Text) :
    plainField (plainField text) = plainField text ↔ ReturnsWhole (strip (plainText text)) := by
  have sameText : plainField (plainField text) = plainField text ↔
      (strip (plainText text)).flatMap returnedChar = strip (plainText text) := by
    rw [plainField_plainField]
    exact escape_injective.eq_iff
  rw [sameText, flatMap_eq_self_iff returnedChar_ne_nil]
  simp only [returnedChar_eq_iff]
  constructor
  · intro returned
    exact ⟨fun member => (returned '/' member).1 rfl,
      fun member => absurd (returned '\x0c' member).2 (by decide)⟩
  · intro whole char member
    refine ⟨fun isSlash => whole.noSlash (isSlash ▸ member), Bool.of_not_eq_true fun hidden => ?_⟩
    have isFormFeed := (isTamed_of_mem_plainText (mem_of_mem_strip member)).2 hidden
    exact whole.noFormFeed (isFormFeed ▸ member)

end Again

end EmailComposer.Markup
