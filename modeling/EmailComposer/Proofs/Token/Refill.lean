import EmailComposer.Proofs.Token.Marks

namespace EmailComposer.Token

/-!
# Tokens put back into a weave

Where no placeholder is spelled out by typed characters, putting the tokens back fills every
mark with its token and leaves all other strands as they are.
-/

open EmailComposer.Text
open EmailComposer.Markup

section Kept

variable {text : Text} {keepsFormatting : Bool} {entry other : Placeholder}

/-- The body of a token that is found stands in the text, and no closing brace in it. -/
theorem sound_of_mem_scan
    {body : Text}
    (member : .found body ∈ bodyPattern.scan text) :
    body ≠ [] ∧ (∀ char ∈ body, isInside char = true) ∧ body <:+: text := by
  induction text using bodyPattern.scan_induction with
  | nil =>
      rw [Pattern.scan_nil] at member
      cases member
  | found text first rest isFound inductionHypothesis =>
      obtain ⟨shape, notEmpty, inside⟩ := readBody?_eq_some_iff.mp isFound
      rw [Pattern.scan_of_some isFound, List.mem_cons] at member
      rcases member with same | inRest
      · cases same
        exact ⟨notEmpty, inside, ['{', '{'], '}' :: '}' :: rest,
          by rw [shape, braced_append]; simp⟩
      · obtain ⟨othersNotEmpty, othersInside, isInfix⟩ := inductionHypothesis inRest
        exact ⟨othersNotEmpty, othersInside,
          isInfix.trans (shape ▸ (List.suffix_append _ rest).isInfix)⟩
  | plain first rest missing inductionHypothesis =>
      rw [Pattern.scan_of_none missing, List.mem_cons] at member
      rcases member with same | inRest
      · cases same
      · obtain ⟨notEmpty, inside, isInfix⟩ := inductionHypothesis inRest
        exact ⟨notEmpty, inside, isInfix.trans (List.suffix_cons first rest).isInfix⟩

/-- The escaped specification of an opener is one again. -/
theorem sound_escapeWith_specTable
    {spec : Text}
    (hasSpec : spec ≠ [])
    (inside : ∀ char ∈ spec, isInside char = true) :
    escapeWith specTable spec ≠ [] ∧
      ∀ char ∈ escapeWith specTable spec, isInside char = true := by
  have sound : ∀ source ∈ spec, escapeChar specTable source ≠ [] ∧
      ∀ char ∈ escapeChar specTable source, isInside char = true := by
    intro source member
    have plain := inside source member
    unfold escapeChar specTable
    split
    all_goals first | decide | simpa using plain
  constructor
  · intro isEmpty
    obtain ⟨source, member⟩ := List.exists_mem_of_ne_nil spec hasSpec
    exact (sound source member).1 (List.flatMap_eq_nil_iff.mp isEmpty source member)
  · intro char member
    obtain ⟨source, isSource, shown⟩ := List.mem_flatMap.mp member
    exact (sound source isSource).2 char shown

/-- What a placeholder stands for is a known token in braces, and the stem is not in it. -/
theorem exists_braced_of_mem_mask
    (member : entry ∈ (mask text keepsFormatting).placeholders) :
    ∃ body,
      entry.2 = braced body ∧ body ≠ [] ∧ (∀ char ∈ body, isInside char = true) ∧
        IsKnown keepsFormatting body ∧ ¬ stemFor text <:+: body := by
  obtain ⟨body, recognised, _, isFound, isRecognised, _, rfl⟩ := exists_of_mem_maskPieces member
  obtain ⟨notEmpty, inside, isInfix⟩ := sound_of_mem_scan isFound
  have notInBody : ¬ stemFor text <:+: body :=
    fun inBody => not_infix_stemFor text (inBody.trans isInfix)
  rcases recognise?_eq_some isRecognised with
      ⟨isName, rfl⟩ | ⟨keeps, closes, rfl⟩ | ⟨kind, spec, keeps, isOpener, rfl⟩
  · exact ⟨body, rfl, notEmpty, inside, .personal isName, notInBody⟩
  · obtain ⟨kind, _, isName⟩ := List.any_eq_true.mp closes
    exact ⟨body, rfl, notEmpty, inside, .closer keeps kind (of_decide_eq_true isName), notInBody⟩
  · obtain ⟨hasSpec, shape⟩ := opener?_eq_some_iff.mp isOpener
    have specInside : ∀ char ∈ spec, isInside char = true :=
      fun char member => inside char (by rw [shape]; exact List.mem_append_right _ member)
    have nameInside : ∀ char ∈ kind.name ++ ":", isInside char = true := by
      cases kind <;> decide
    obtain ⟨escapedNotEmpty, escapedInside⟩ := sound_escapeWith_specTable hasSpec specInside
    refine ⟨_, rfl, List.append_ne_nil_of_right_ne_nil _ escapedNotEmpty, ?_,
      .opener keeps kind _ escapedNotEmpty rfl, fun inBody => notInBody ?_⟩
    · intro char member
      exact (List.mem_append.mp member).elim (nameInside char) (escapedInside char)
    · refine infix_of_infix_keptBody (isMark_stemFor text) ?_
      rwa [keptBody, isOpener]

/-- No placeholder of a text takes part in what another one stands for. -/
theorem isClosedTo_kept
    (member : entry ∈ (mask text keepsFormatting).placeholders)
    (otherMember : other ∈ (mask text keepsFormatting).placeholders) :
    IsClosedTo other.1 entry.2 := by
  obtain ⟨body, shape, _, _, _, noStem⟩ := exists_braced_of_mem_mask member
  have isMark := isMark_stemFor text
  rw [shape]
  refine ⟨⟨'{', by simp [braced], by decide⟩,
    ⟨'}', by simp [braced, List.getLast?_cons], by decide⟩, fun isInfix => ?_⟩
  have stemPrefix := stem_prefix_of_mem_mask text keepsFormatting other otherMember
  have stemInfix := stemPrefix.isInfix.trans isInfix
  have sides : stemFor text <:+: [] ++ (braced body ++ []) ↔ _ :=
    infix_append_braced_iff isMark.ne_nil ⟨isMark.not_mem (by decide), isMark.not_mem (by decide)⟩
  rw [List.nil_append, List.append_nil] at sides
  rcases sides.mp stemInfix with inNothing | inBody | inNothing
  · exact isMark.ne_nil (List.infix_nil.mp inNothing)
  · exact noStem inBody
  · exact isMark.ne_nil (List.infix_nil.mp inNothing)

end Kept

/-- A beginning that no occurrence starts in is kept. -/
theorem replaceAll_append_of_missing
    {target replacement start rest : Text}
    (notEmpty : target ≠ [])
    (missing :
      ∀ before middle,
        start = before ++ middle →
        middle ≠ [] →
        ¬ target <+: middle ++ rest) :
    replaceAll target replacement (start ++ rest) =
      start ++ replaceAll target replacement rest := by
  induction start with
  | nil => rfl
  | cons first others inductionHypothesis =>
      have notHere : ¬ target <+: first :: (others ++ rest) := missing [] _ rfl (by simp)
      have behind : ∀ before middle,
          others = before ++ middle →
          middle ≠ [] →
          ¬ target <+: middle ++ rest :=
        fun before middle shape => missing (first :: before) middle (by rw [shape]; rfl)
      rw [List.cons_append, replaceAll_cons notEmpty notHere, inductionHypothesis behind]
      rfl

/-- The text of a strand with its token put back. -/
def Strand.restored : Strand → Text
  | .mark entry => entry.2
  | strand => strand.spelling

/-- A strand with one token put back. -/
def Strand.fill (entry : Placeholder) (strand : Strand) : Strand :=
  if strand = .mark entry then .made entry.2 else strand

namespace Weave

/-- The text of a weave with all tokens put back. -/
def restored (weave : Weave) : Text :=
  weave.flatMap Strand.restored

/-- A weave with one token put back. -/
def fill (entry : Placeholder) (weave : Weave) : Weave :=
  weave.map (Strand.fill entry)

section Fill

variable {weave : Weave} {entry : Placeholder} {text : Text} {keepsFormatting : Bool}

theorem restored_fill
    (entry : Placeholder)
    (weave : Weave) :
    (weave.fill entry).restored = weave.restored := by
  rw [restored, fill, List.flatMap_map]
  refine List.flatMap_congr fun strand _ => ?_
  unfold Strand.fill
  split
  · rename_i isEntry
    rw [isEntry]
    rfl
  · rfl

/-- Replacing a placeholder fills its marks. -/
theorem TellsApart.replaceAll_spelling
    (tellsApart : weave.TellsApart entry)
    (isMark : IsMark entry.1)
    (isApart : IsApart entry.1)
    (notSpelled : ¬ weave.SpellsOut entry) :
    replaceAll entry.1 entry.2 weave.spelling = (weave.fill entry).spelling := by
  induction weave with
  | nil => simp [fill]
  | cons strand rest inductionHypothesis =>
      have restNotSpelled : ¬ SpellsOut rest entry :=
        fun isInfix => notSpelled (isInfix.trans (List.suffix_cons strand rest).isInfix)
      have onward := inductionHypothesis
        (tellsApart.of_subset (List.subset_cons_self strand rest)) restNotSpelled
      have filled : (fill entry (strand :: rest)).spelling =
          (Strand.fill entry strand).spelling ++ (fill entry rest).spelling := rfl
      rw [filled, ← onward, spelling_cons]
      by_cases isEntry : strand = .mark entry
      · rw [isEntry, Strand.fill, if_pos rfl]
        exact replaceAll_append_target isApart.ne_nil _
      · rw [Strand.fill, if_neg isEntry]
        refine replaceAll_append_of_missing isApart.ne_nil ?_
        rintro before middle shape notEmpty ⟨after, isWord⟩
        rcases (tellsApart.occurrence_at_head isMark isApart shape notEmpty isWord).2 with
            isMarkStrand | ⟨later, isTyped⟩
        · exact isEntry isMarkStrand
        · exact notSpelled ⟨[], later, by rw [List.nil_append, ← isTyped]⟩

theorem mem_fill
    {strand : Strand}
    (member : strand ∈ weave.fill entry) :
    strand = .made entry.2 ∨ strand ∈ weave ∧ strand ≠ .mark entry := by
  obtain ⟨source, isSource, rfl⟩ := List.mem_map.mp member
  unfold Strand.fill
  split
  · exact .inl rfl
  · rename_i notEntry
    exact .inr ⟨isSource, notEntry⟩

variable {other : Placeholder}

theorem TellsApart.fill
    (tellsApart : weave.TellsApart other)
    (isClosed : IsClosedTo other.1 entry.2) :
    (weave.fill entry).TellsApart other where
  made text member := by
    rcases mem_fill member with same | ⟨inWeave, _⟩
    · rw [Strand.made.inj same]
      exact isClosed
    · exact tellsApart.made text inWeave
  apart third member := by
    rcases mem_fill member with same | ⟨inWeave, _⟩
    · cases same
    · exact tellsApart.apart third inWeave
  same third member := by
    rcases mem_fill member with same | ⟨inWeave, _⟩
    · cases same
    · exact tellsApart.same third inWeave

/-- Where no strand becomes a typed character, typed characters are what they were. -/
theorem eq_map_typed_of_map
    {change : Strand → Strand}
    (keepsTyped : ∀ strand char, change strand = .typed char → strand = .typed char)
    {word : Weave}
    {letters : Text}
    (same : word.map change = letters.map .typed) :
    word = letters.map .typed := by
  induction letters generalizing word with
  | nil => simpa using same
  | cons first others inductionHypothesis =>
      obtain ⟨strand, rest, rfl, isFirst, areOthers⟩ := List.map_eq_cons_iff.mp same
      rw [inductionHypothesis areOthers, List.map_cons, keepsTyped strand first isFirst]

/-- Then nothing is spelled out that was not. -/
theorem spellsOut_of_map
    {change : Strand → Strand}
    (keepsTyped : ∀ strand char, change strand = .typed char → strand = .typed char)
    (spellsOut : SpellsOut (weave.map change) other) :
    weave.SpellsOut other := by
  obtain ⟨earlier, later, shape⟩ := spellsOut
  obtain ⟨front, back, rfl, frontShape, _⟩ := List.map_eq_append_iff.mp shape.symm
  obtain ⟨first, word, rfl, _, wordShape⟩ := List.map_eq_append_iff.mp frontShape
  exact ⟨first, back, by rw [eq_map_typed_of_map keepsTyped wordShape]⟩

theorem Strand.eq_typed_of_fill
    (strand : Strand)
    (char : Char)
    (isTyped : strand.fill entry = .typed char) :
    strand = .typed char := by
  unfold Strand.fill at isTyped
  split at isTyped
  · cases isTyped
  · exact isTyped

/-- Putting back tokens that are told apart and not spelled out fills every mark. -/
theorem restore_spelling
    {entries : List Placeholder}
    (hasMarks : ∀ entry, .mark entry ∈ weave → entry ∈ entries)
    (areMarks : ∀ entry ∈ entries, IsMark entry.1 ∧ IsApart entry.1)
    (areClosed : ∀ entry ∈ entries, ∀ other ∈ entries, IsClosedTo other.1 entry.2)
    (tellsApart : ∀ entry ∈ entries, weave.TellsApart entry)
    (notSpelled : ∀ entry ∈ entries, ¬ weave.SpellsOut entry) :
    restore weave.spelling entries = weave.restored := by
  induction entries generalizing weave with
  | nil =>
      -- No mark is left, so every strand is shown as it is spelled.
      refine List.flatMap_congr fun strand member => ?_
      cases strand with
      | mark entry => cases hasMarks entry member
      | typed char => rfl
      | made text => rfl
  | cons entry rest inductionHypothesis =>
      obtain ⟨isMark, isApart⟩ := areMarks entry (by simp)
      have step := (tellsApart entry (by simp)).replaceAll_spelling isMark isApart
        (notSpelled entry (by simp))
      have inEntries : ∀ {other}, other ∈ rest → other ∈ entry :: rest :=
        List.mem_cons_of_mem entry
      have unfolded : restore weave.spelling (entry :: rest) =
          restore (replaceAll entry.1 entry.2 weave.spelling) rest := rfl
      rw [unfolded, step, ← restored_fill entry]
      refine inductionHypothesis ?_ ?_ ?_ ?_ ?_
      · intro other member
        rcases mem_fill member with same | ⟨inWeave, notEntry⟩
        · cases same
        · exact (List.mem_cons.mp (hasMarks other inWeave)).resolve_left
            fun same => notEntry (congrArg Strand.mark same)
      · exact fun other member => areMarks other (inEntries member)
      · exact fun first isFirst second isSecond =>
          areClosed first (inEntries isFirst) second (inEntries isSecond)
      · exact fun other member => (tellsApart other (inEntries member)).fill
          (areClosed entry (by simp) other (inEntries member))
      · exact fun other member spellsOut =>
          notSpelled other (inEntries member) (spellsOut_of_map Strand.eq_typed_of_fill spellsOut)

/-- Putting the tokens of a masked text back fills every mark, where none is spelled out. -/
theorem IsMasked.restore_spelling_mask
    (isMasked : weave.IsMasked text keepsFormatting)
    (notSpelled :
      ∀ entry ∈ (mask text keepsFormatting).placeholders, ¬ weave.SpellsOut entry) :
    restore weave.spelling (mask text keepsFormatting).placeholders = weave.restored :=
  restore_spelling isMasked.marks
    (fun _ member => ⟨isMark_of_mem_mask member, isApart_of_mem_mask member⟩)
    (fun _ member _ otherMember => isClosedTo_kept member otherMember)
    (fun _ => isMasked.tellsApart) notSpelled

end Fill

end Weave

end EmailComposer.Token
