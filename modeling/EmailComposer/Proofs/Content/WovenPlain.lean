import EmailComposer.Proofs.Content.WovenMarkup
import EmailComposer.Proofs.Markup.Plain

namespace EmailComposer

/-!
# Reducing markup to plain text cuts and weaves

Plain text is what is left when line breaks are unified, markup is passed over, control
characters are masked, entities are decoded and the result is escaped. Each of these
steps is woven from the one before.
-/

open EmailComposer.Text
open EmailComposer.Markup
open EmailComposer.Token
open EmailComposer.Token.Weave

section LineBreaks

/-- The line break at the beginning of a text that unifying rewrites. -/
def readReturn? : Text → Option (Unit × Text)
  | '\r' :: '\n' :: rest => some ((), rest)
  | '\r' :: rest => some ((), rest)
  | _ => none

/-- Recognises one line break that begins with a carriage return. -/
def returnPattern : Pattern Unit where
  read? := readReturn?
  uses := by
    intro text value rest found
    unfold readReturn? at found
    split at found
    · obtain ⟨_, rfl⟩ := Prod.mk.inj (Option.some.inj found)
      simp only [List.length_cons]
      omega
    · obtain ⟨_, rfl⟩ := Prod.mk.inj (Option.some.inj found)
      simp
    · cases found

/-- Unifying line breaks replaces those that begin with a carriage return. -/
theorem unifyLineBreaks_eq_flatMap
    (text : Text) :
    unifyLineBreaks text =
      (returnPattern.scan text).flatMap (printPiece (fun char => [char]) fun _ => ['\n']) := by
  fun_induction unifyLineBreaks text with
  | case1 => rw [Pattern.scan_nil, List.flatMap_nil]
  | case2 rest inductionHypothesis =>
      have found : returnPattern.read? ('\r' :: '\n' :: rest) = some ((), rest) := rfl
      rw [Pattern.scan_of_some found, List.flatMap_cons, ← inductionHypothesis]
      rfl
  | case3 rest notPair inductionHypothesis =>
      have found : returnPattern.read? ('\r' :: rest) = some ((), rest) := by
        simp only [returnPattern]
        unfold readReturn?
        split
        · rename_i others shape
          exact absurd (List.cons.inj shape).2 (notPair _)
        · rename_i shape
          rw [(List.cons.inj shape).2]
        · rename_i notReturn
          exact absurd rfl (notReturn rest)
      rw [Pattern.scan_of_some found, List.flatMap_cons, ← inductionHypothesis]
      rfl
  | case4 first rest _ notReturn inductionHypothesis =>
      have missing : returnPattern.read? (first :: rest) = none := by
        simp only [returnPattern]
        unfold readReturn?
        split
        · rename_i shape
          exact absurd (List.cons.inj shape).1 notReturn
        · rename_i shape
          exact absurd (List.cons.inj shape).1 notReturn
        · rfl
      rw [Pattern.scan_of_none missing, List.flatMap_cons, ← inductionHypothesis]
      rfl

theorem isSign_lineFeed : IsSign ['\n'] :=
  ⟨_, rfl, by decide, by decide⟩

theorem weavesFound_returns :
    WeavesFound returnPattern (fun _ => ['\n']) IsSign := by
  intro text value rest found
  simp only [returnPattern] at found
  unfold readReturn? at found
  split at found
  · obtain ⟨_, rfl⟩ := Prod.mk.inj (Option.some.inj found)
    exact ⟨['\r', '\n'], rfl, stops_cons.mpr (by decide), stopsAtEnd_concat ['\r'] (by decide),
      fun _ _ _ => yields_made isSign_lineFeed⟩
  · obtain ⟨_, rfl⟩ := Prod.mk.inj (Option.some.inj found)
    exact ⟨['\r'], rfl, stops_cons.mpr (by decide), stopsAtEnd_concat [] (by decide),
      fun _ _ _ => yields_made isSign_lineFeed⟩
  · cases found

theorem yields_unifyLineBreaks
    {source : Weave}
    (isFine : source.IsFine) :
    source.Yields IsSign (unifyLineBreaks source.spelling) := by
  rw [unifyLineBreaks_eq_flatMap]
  exact yields_scan (fun _ isSign => isSign) (fun _ _ => rfl) (fun _ => .inl rfl)
    weavesFound_returns isFine

end LineBreaks

section Runs

/-- The texts are woven from the source one after another. -/
def YieldsRuns (source : Weave) (texts : List Text) : Prop :=
  ∃ weaves : List Weave,
    weaves.map Weave.spelling = texts ∧ Weave.IsCut IsSign weaves.flatten source

theorem yieldsRuns_nil : YieldsRuns [] [[]] :=
  ⟨[[]], rfl, List.Sublist.refl _, fun _ member => nomatch member⟩

/-- Visible text in front of the runs joins the first of them. -/
theorem YieldsRuns.prepend
    {first second : Weave}
    {shown : Text}
    {marks : List Mark}
    (fromFirst : first.Yields IsSign shown)
    (fromSecond : YieldsRuns second (runs marks)) :
    YieldsRuns (first ++ second) (runs (shown.map .char ++ marks)) := by
  obtain ⟨weave, rfl, isCut⟩ := fromFirst
  obtain ⟨weaves, shapes, areCut⟩ := fromSecond
  obtain ⟨run, others, areRuns⟩ := exists_runs_eq_cons marks
  rw [areRuns] at shapes
  rw [runs_append _ areRuns]
  cases weaves with
  | nil => cases shapes
  | cons head tail =>
      obtain ⟨rfl, rfl⟩ := List.cons.inj shapes
      refine ⟨(weave ++ head) :: tail, by simp, ?_⟩
      rw [List.flatten_cons, List.append_assoc]
      exact isCut.append areCut

/-- What is passed over shows nothing. -/
theorem YieldsRuns.skip
    (first : Weave)
    {second : Weave}
    {marks : List Mark}
    (fromSecond : YieldsRuns second (runs marks)) :
    YieldsRuns (first ++ second) (runs marks) :=
  fromSecond.prepend (yields_nil : first.Yields IsSign [])

/-- A seam begins a run of its own. -/
theorem YieldsRuns.seam
    {source : Weave}
    {marks : List Mark}
    (yields : YieldsRuns source (runs marks)) :
    YieldsRuns source (runs (.seam :: marks)) := by
  obtain ⟨weaves, shapes, areCut⟩ := yields
  exact ⟨[] :: weaves, by rw [List.map_cons, shapes]; rfl, areCut⟩

/-- What an opening bracket begins shows what it stands for. -/
theorem YieldsRuns.opened
    {first second : Weave}
    (isFine : first.IsFine)
    {text : Text}
    (spelled : first.spelling ++ (openBracket text).remaining = '<' :: text)
    (seenTag : Bool)
    {marks : List Mark}
    (yields : YieldsRuns second (runs marks)) :
    YieldsRuns (first ++ second) (runs ((openBracket text).marks seenTag ++ marks)) := by
  cases isOpened : openBracket text with
  | literal shown remaining =>
      rw [isOpened] at spelled
      have same : first.spelling = shown :=
        List.append_cancel_right (spelled.trans (shown_openBracket isOpened))
      exact YieldsRuns.prepend (same ▸ yields_self isFine.made) yields
  | tag startsBlock remaining =>
      unfold Opened.marks
      dsimp only
      split
      · have lineFeed : first.Yields IsSign ['\n'] := yields_made isSign_lineFeed
        exact YieldsRuns.prepend lineFeed yields
      · exact yields.skip first
  | comment remaining => exact (yields.skip first).seam
  | declaration remaining => exact yields.skip first

/-- What an opening bracket begins ends at a gap between words. -/
theorem exists_isGap_openBracket
    (text : Text) :
    ∃ used,
      '<' :: text = used ++ (openBracket text).remaining ∧
        IsGap used (openBracket text).remaining := by
  rcases remaining_openBracket text with isText | isEmpty | ⟨used, shape⟩
  · exact ⟨['<'], by rw [isText]; rfl, .inl (stopsAtEnd_concat [] (by decide))⟩
  · refine ⟨'<' :: text, by rw [isEmpty, List.append_nil], .inr ?_⟩
    rw [isEmpty]
    exact stops_nil
  · refine ⟨('<' :: used) ++ ['>'], ?_, .inl (stopsAtEnd_concat _ (by decide))⟩
    rw [List.append_assoc, List.cons_append, List.singleton_append, ← shape]

/-- The visible runs of a fine weave are woven from it. -/
theorem yieldsRuns_marksFrom
    {source : Weave}
    (isFine : source.IsFine)
    (seenTag : Bool) :
    YieldsRuns source (runs (marksFrom seenTag source.spelling)) := by
  induction isLength : source.length using Nat.strong_induction_on generalizing source seenTag with
  | _ length inductionHypothesis =>
  subst isLength
  cases source with
  | nil =>
      rw [spelling_nil, marksFrom]
      exact yieldsRuns_nil
  | cons strand rest =>
      obtain ⟨strandFine, restFine⟩ := isFine.of_cons
      have strandYields : Yields [strand] IsSign strand.spelling := by
        simpa using yields_self strandFine.made
      have restYields := fun seen => inductionHypothesis rest.length (by simp) restFine seen rfl
      rcases strandFine.isSolid with ⟨char, single⟩ | isWord
      · have spelled : spelling (strand :: rest) = char :: spelling rest := by
          rw [spelling_cons, single, List.singleton_append]
        rw [single] at strandYields
        rw [spelled, marksFrom]
        by_cases isBracket : char = '<'
        · -- The weave comes apart behind what the bracket begins.
          rw [isBracket] at spelled ⊢
          obtain ⟨used, shape, isGap⟩ := exists_isGap_openBracket (spelling rest)
          obtain ⟨first, second, split, firstShape, secondShape⟩ :=
            isFine.exists_split (spelled.trans shape) isGap
          obtain ⟨firstFine, secondFine⟩ := IsFine.of_append (split ▸ isFine)
          have shorter : second.length < (strand :: rest).length := by
            have notAll : first ≠ [] := by
              rintro rfl
              have short := length_openBracket_lt '<' (spelling rest)
              rw [shape, ← firstShape] at short
              simp at short
            have positive := List.length_pos_iff.mpr notAll
            rw [split, List.length_append]
            omega
          have onward := inductionHypothesis second.length shorter secondFine
            (seenTag || (openBracket (spelling rest)).isTag) rfl
          rw [secondShape] at onward
          rw [split]
          exact onward.opened firstFine (by rw [firstShape, shape]) seenTag
        · by_cases isNull : char = '\x00'
          · rw [if_neg (by simpa using isBracket), if_pos (by simpa using isNull)]
            exact (restYields seenTag).skip [strand]
          · rw [if_neg (by simpa using isBracket), if_neg (by simpa using isNull)]
            exact YieldsRuns.prepend strandYields (restYields seenTag)
      · rw [spelling_cons, marksFrom_word_append isWord]
        exact YieldsRuns.prepend strandYields (restYields seenTag)

end Runs

section Controls

theorem isAsciiAlphanumeric_of_isTagBlank
    {char : Char}
    (blank : isTagBlank char = true) :
    isAsciiAlphanumeric char = false := by
  have noWords : ∀ char ∈ ['\t', '\n', '\x0c', '\r', ' '], isAsciiAlphanumeric char = false := by
    decide
  exact noWords char (by simpa [isTagBlank] using blank)

theorem maskControl_of_isAsciiAlphanumeric
    {char : Char}
    (isWord : isAsciiAlphanumeric char = true) :
    maskControl char = char :=
  forall_ascii
    (motive := fun char => isAsciiAlphanumeric char = true → maskControl char = char)
    (by decide +kernel) (toNat_lt_of_isAsciiAlphanumeric isWord) isWord

theorem yields_map_maskControl
    {source : Weave}
    (isFine : source.IsFine) :
    source.Yields IsSign (source.spelling.map maskControl) := by
  have shows : ∀ char, [maskControl char] = [char] ∨ IsSign [maskControl char] := by
    intro char
    rcases maskControl_eq_or char with same | masked
    · exact .inl (by rw [same])
    · exact .inr ⟨_, rfl, by rw [masked]; decide, by rw [masked]; decide⟩
  rw [← List.flatMap_pure_eq_map]
  exact yields_flatMap (fun _ isSign => isSign)
    (fun char isWord => congrArg (fun other => [other]) (maskControl_of_isAsciiAlphanumeric isWord))
    shows isFine

/-- The blanks at the ends of a run stay, and between them control characters are masked. -/
theorem yields_maskRun
    {source : Weave}
    (isFine : source.IsFine) :
    source.Yields IsSign (maskRun source.spelling) := by
  have noWord : ∀ run : Text, (∀ char ∈ run, isTagBlank char = true) →
      ∀ char ∈ run, isAsciiAlphanumeric char = false :=
    fun run areBlank char member => isAsciiAlphanumeric_of_isTagBlank (areBlank char member)
  unfold maskRun
  dsimp only
  generalize isLeading : source.spelling.takeWhile isTagBlank = leading
  generalize isRest : source.spelling.dropWhile isTagBlank = rest
  generalize isTrailing : (rest.reverse.takeWhile isTagBlank).reverse = trailing
  have leadingShape : source.spelling = leading ++ rest := by
    rw [← isLeading, ← isRest, List.takeWhile_append_dropWhile]
  have restShape : rest = dropEndWhile isTagBlank rest ++ trailing := by
    rw [← isTrailing, dropEndWhile, ← List.reverse_append, List.takeWhile_append_dropWhile,
      List.reverse_reverse]
  have leadingBlank : ∀ char ∈ leading, isTagBlank char = true :=
    fun char member => List.mem_takeWhile_imp (isLeading ▸ member)
  have trailingBlank : ∀ char ∈ trailing, isTagBlank char = true := by
    intro char member
    rw [← isTrailing, List.mem_reverse] at member
    exact List.mem_takeWhile_imp member
  have leadingGap : IsGap leading rest :=
    .inl fun char isLast => noWord leading leadingBlank char (List.mem_of_getLast? isLast)
  have trailingGap : IsGap (dropEndWhile isTagBlank rest) trailing :=
    .inr fun char isHead => noWord trailing trailingBlank char (List.mem_of_head? isHead)
  obtain ⟨first, others, rfl, firstShape, othersShape⟩ :=
    isFine.exists_split leadingShape leadingGap
  obtain ⟨firstFine, othersFine⟩ := IsFine.of_append isFine
  obtain ⟨middle, last, rfl, middleShape, lastShape⟩ :=
    othersFine.exists_split (othersShape.trans restShape) trailingGap
  obtain ⟨middleFine, lastFine⟩ := IsFine.of_append othersFine
  have masked := yields_map_maskControl middleFine
  rw [middleShape] at masked
  rw [List.append_assoc, ← firstShape, ← lastShape]
  exact (yields_self firstFine.made).append (masked.append (yields_self lastFine.made))

end Controls

section Entities

/-- The entities that plain text is decoded from stand for signs. -/
theorem isSign_of_commonEntity?
    {name value : Text}
    (isCommon : commonEntity? name = some value) :
    IsSign value := by
  unfold commonEntity? at isCommon
  repeat' split at isCommon
  all_goals
    first
      | cases isCommon; done
      | (cases isCommon; exact ⟨_, rfl, by decide, by decide⟩)

/-- A numeric entity that has no meaning of its own stays as it is. -/
theorem isMade_of_isUnreadEntity
    {text : Text}
    (isUnread : IsUnreadEntity text) :
    IsMade text := by
  obtain ⟨marker, isMarker, digits, areDigits, rfl⟩ := isUnread
  have noLetter : ∀ letter, isHexDigit letter = false → letter ∉ digits := by
    intro letter noDigit member
    rw [areDigits letter member] at noDigit
    cases noDigit
  have markers : ∀ marker ∈ [([] : Text), ['x'], ['X']], 'k' ∉ marker ∧ '{' ∉ marker := by
    decide
  have isPlain := markers marker isMarker
  have shape : ("&" ++ ("#" ++ marker ++ digits) ++ ";" : Text) =
      '&' :: (('#' :: (marker ++ digits)) ++ [';']) := by
    simp
  rw [shape]
  refine IsMade.of_ends ⟨_, rfl, by decide, by decide⟩ ⟨_, rfl, by decide, by decide⟩ ?_ ?_
  · simp [isPlain, noLetter 'k' (by decide)]
  · simp [isPlain, noLetter '{' (by decide)]

theorem isMade_of_numericEntity?
    {number value : Text}
    (isNumeric : numericEntity? number = some value) :
    IsMade value := by
  obtain ⟨decoded, isValue, sort⟩ := numericEntity?_eq_some isNumeric
  have decodedMade : IsMade decoded := by
    rcases sort with ⟨name, isCommon⟩ | isUnread
    · exact (isSign_of_commonEntity? isCommon).isMade
    · exact isMade_of_isUnreadEntity isUnread
  rcases isValue with rfl | rfl
  · exact decodedMade
  · exact decodedMade.append (IsSign.isMade ⟨';', rfl, by decide, by decide⟩)

theorem exists_of_readEntity?
    {text value rest : Text}
    (found : readEntity? text = some (value, rest)) :
    ∃ name, text = '&' :: (name ++ ';' :: rest) ∧ IsMade value := by
  obtain ⟨name, shape, isCommon | ⟨number, _, isNumeric⟩⟩ := readEntity?_eq_some found
  · exact ⟨name, shape, (isSign_of_commonEntity? isCommon).isMade⟩
  · exact ⟨name, shape, isMade_of_numericEntity? isNumeric⟩

/-- Escaping keeps what is made apart from the words around it. -/
theorem isMade_escape
    {text : Text}
    (isMade : IsMade text) :
    IsMade (escape text) where
  starts := by
    obtain ⟨char, isHead, noWord⟩ := isMade.starts
    obtain ⟨rest, rfl⟩ := List.head?_eq_some_iff.mp isHead
    rw [escape_cons]
    rcases escapeChar_eq_or_isMade char with same | entityMade
    · exact ⟨char, by rw [same]; rfl, noWord⟩
    · obtain ⟨first, isFirst, firstNoWord⟩ := entityMade.starts
      exact ⟨first, by rw [List.head?_append, isFirst]; rfl, firstNoWord⟩
  ends := by
    obtain ⟨char, isLast, noWord⟩ := isMade.ends
    obtain ⟨start, rfl⟩ := List.getLast?_eq_some_iff.mp isLast
    rw [escape_append, escape_cons]
    rcases escapeChar_eq_or_isMade char with same | entityMade
    · exact ⟨char, by simp [same, escape, escapeWith], noWord⟩
    · obtain ⟨last, isFinal, lastNoWord⟩ := entityMade.ends
      refine ⟨last, ?_, lastNoWord⟩
      rw [List.getLast?_append, List.getLast?_append, isFinal]
      rfl
  stemless member := isMade.stemless (mem_of_mem_escape (by decide) member)
  braceless member := isMade.braceless (mem_of_mem_escape (by decide) member)

theorem weavesFound_entities :
    WeavesFound entityPattern escape IsMade := by
  intro text value rest found
  obtain ⟨name, shape, isMade⟩ := exists_of_readEntity? found
  exact ⟨('&' :: name) ++ [';'], by simp [shape], stops_cons.mpr (by decide),
    stopsAtEnd_concat _ (by decide), fun _ _ _ => yields_made (isMade_escape isMade)⟩

/-- Text is decoded and escaped again along the scan for its entities. -/
theorem yields_escape_decodeEntities
    {source : Weave}
    (isFine : source.IsFine) :
    source.Yields IsMade (escape (decodeEntities source.spelling)) := by
  have sameText : escape (decodeEntities source.spelling) =
      (entityPattern.scan source.spelling).flatMap
        (printPiece (escapeChar contentTable) escape) := by
    rw [decodeEntities, Pattern.replace, escape, escapeWith, List.flatMap_assoc]
    refine List.flatMap_congr fun piece _ => ?_
    cases piece with
    | plain char => exact List.flatMap_singleton _ _
    | found value => rfl
  rw [sameText]
  exact yields_scan_escape weavesFound_entities isFine

end Entities

section Plain

/-- Plain text is woven from the markup it was reduced from. -/
theorem yields_sanitizePlain
    {source : Weave}
    (isFine : source.IsFine) :
    source.Yields IsMade (ContentPolicy.sanitizePlain source.spelling).html := by
  obtain ⟨unified, unifiedShape, unifiedCut⟩ := yields_unifyLineBreaks isFine
  have unifiedFine := unifiedCut.isFine isFine
  obtain ⟨weaves, shapes, areCut⟩ := yieldsRuns_marksFrom unifiedFine false
  have areFine := areCut.isFine unifiedFine
  have sameText : (ContentPolicy.sanitizePlain source.spelling).html =
      weaves.flatMap fun weave => escape (decodeEntities (maskRun weave.spelling)) := by
    have visible : visibleRuns source.spelling = weaves.map Weave.spelling := by
      rw [visibleRuns, ← unifiedShape, shapes]
    rw [ContentPolicy.sanitizePlain, plainText, visible, List.flatMap_map]
    simp only [escape, escapeWith, List.flatMap_assoc]
  have eachYields : ∀ weave ∈ weaves,
      weave.Yields IsMade (escape (decodeEntities (maskRun weave.spelling))) := by
    intro weave member
    obtain ⟨masked, maskedShape, maskedCut⟩ := yields_maskRun (areFine.of_mem_flatten member)
    rw [← maskedShape]
    exact maskedCut.yields
      (yields_escape_decodeEntities (maskedCut.isFine (areFine.of_mem_flatten member)))
  rw [sameText]
  exact unifiedCut.yields (areCut.yields (yields_flatten
    (fun text => escape (decodeEntities (maskRun text))) eachYields))

/-- Whatever the policy, a sanitized masked text is woven from the masked text. -/
theorem yields_sanitizeMasked
    {policy : ContentPolicy}
    (isInline : policy.IsInline)
    {source : Weave}
    (isFine : source.IsFine)
    {masked : Masked}
    (spelled : source.spelling = masked.text) :
    source.Yields IsMade (policy.sanitizeMasked masked).html := by
  unfold ContentPolicy.sanitizeMasked
  rw [← spelled]
  split
  · exact yields_sanitizePlain isFine
  · exact yields_sanitizeDetailed isInline _ isFine

end Plain

end EmailComposer
