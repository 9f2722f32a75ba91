import EmailComposer.Markup.Visible
import EmailComposer.Proofs.Text.Run

namespace EmailComposer.Markup

/-!
# What the reader of visible text passes over

A tag, a comment or a declaration is passed over up to a closing bracket or to the end of
the text; what turns out to be no markup is visible as it stands.
-/

open EmailComposer.Text

/-- The remaining text is empty or follows a closing bracket of the whole. -/
def FollowsBracket (whole remaining : Text) : Prop :=
  remaining = [] ∨ ∃ used, whole = used ++ '>' :: remaining

theorem FollowsBracket.append
    {whole remaining : Text}
    (follows : FollowsBracket whole remaining)
    (start : Text) :
    FollowsBracket (start ++ whole) remaining := by
  refine follows.imp_right ?_
  rintro ⟨used, rfl⟩
  exact ⟨start ++ used, (List.append_assoc ..).symm⟩

section Tag

theorem nextBeforeAttribute_of_ne
    {char : Char}
    (notBracket : char ≠ '>') :
    TagPlace.nextBeforeAttribute char = .beforeAttribute ∨
      TagPlace.nextBeforeAttribute char = .slash ∨
        TagPlace.nextBeforeAttribute char = .attributeName := by
  unfold TagPlace.nextBeforeAttribute
  split
  · exact .inl rfl
  · rw [if_neg (by simpa using notBracket)]
    split
    · exact .inr (.inl rfl)
    · exact .inr (.inr rfl)

/-- Only a closing bracket closes a tag. -/
theorem next_ne_closed
    {place : TagPlace}
    {char : Char}
    (isOpen : place ≠ .closed)
    (notBracket : char ≠ '>') :
    place.next char ≠ .closed := by
  have onward := nextBeforeAttribute_of_ne notBracket
  cases place with
  | closed => exact absurd rfl isOpen
  | name => rcases onward with next | next | next <;> simp [TagPlace.next, next]
  | beforeAttribute | afterQuotedValue | slash =>
      rcases onward with next | next | next <;> simp [TagPlace.next, next]
  | attributeName | afterAttributeName =>
      simp only [TagPlace.next]
      split
      · simp
      · rcases onward with next | next | next <;> simp [next]
  | beforeValue =>
      simp only [TagPlace.next, beq_iff_eq, if_neg notBracket]
      split
      · simp
      · split <;> simp
  | bareValue =>
      simp only [TagPlace.next, beq_iff_eq, if_neg notBracket]
      split <;> simp
  | quotedValue quote =>
      simp only [TagPlace.next]
      split <;> simp

/-- A closed tag ends at a closing bracket. -/
theorem followsBracket_of_readTag
    {place : TagPlace}
    (isOpen : place ≠ .closed)
    {text remaining : Text}
    (ends : readTag place text = .closed remaining) :
    FollowsBracket text remaining := by
  induction text generalizing place with
  | nil => cases ends
  | cons first rest inductionHypothesis =>
      unfold readTag at ends
      dsimp only at ends
      by_cases closes : place.next first = .closed
      · rw [closes] at ends
        obtain rfl := TagEnd.closed.inj ends
        have isBracket : first = '>' := by
          by_contra notBracket
          exact next_ne_closed isOpen notBracket closes
        exact .inr ⟨[], by rw [isBracket]; rfl⟩
      · rw [if_neg (by simpa using closes)] at ends
        exact (inductionHypothesis closes ends).append [first]

theorem followsBracket_openTag
    (start : Text)
    (closing : Bool)
    (text : Text) :
    FollowsBracket text (openTag start closing text).remaining := by
  unfold openTag
  split
  · rename_i remaining ends
    exact followsBracket_of_readTag (by simp) ends
  · exact .inl rfl
  · exact .inl rfl

end Tag

section Comment

/-- Only a closing bracket ends a comment. -/
theorem eq_of_next?_eq_none
    {place : CommentPlace}
    {char : Char}
    (ends : place.next? char = none) :
    char = '>' := by
  cases place <;> simp only [CommentPlace.next?] at ends <;> grind

theorem followsBracket_afterComment
    (place : CommentPlace)
    (text : Text) :
    FollowsBracket text (afterComment place text) := by
  induction text generalizing place with
  | nil => exact .inl rfl
  | cons first rest inductionHypothesis =>
      unfold afterComment
      split
      · rename_i next _
        exact (inductionHypothesis next).append [first]
      · rename_i ends
        exact .inr ⟨[], by rw [eq_of_next?_eq_none ends]; rfl⟩

theorem followsBracket_afterBracket
    (text : Text) :
    FollowsBracket text (afterBracket text) := by
  have shape := List.takeWhile_append_dropWhile (p := (· != '>')) (l := text)
  have atBracket : Stops (· != '>') (text.dropWhile (· != '>')) := stops_dropWhile
  unfold afterBracket
  cases isRest : text.dropWhile (· != '>') with
  | nil => exact .inl rfl
  | cons head remaining =>
      rw [isRest, stops_cons] at atBracket
      have isBracket : head = '>' := by simpa using atBracket
      rw [isRest, isBracket] at shape
      exact .inr ⟨_, shape.symm⟩

end Comment

section Opened

theorem followsBracket_openExclamation
    (text : Text) :
    FollowsBracket text (openExclamation text).remaining := by
  unfold openExclamation
  split
  · rename_i rest found
    rw [after?_eq_some_iff.mp found]
    exact (followsBracket_afterComment .start rest).append _
  · split <;> exact followsBracket_afterBracket text

theorem followsBracket_openSlash
    (text : Text) :
    FollowsBracket text (openSlash text).remaining := by
  unfold openSlash
  split
  · exact .inl rfl
  · exact .inr ⟨[], rfl⟩
  · rename_i first rest _
    split
    · exact followsBracket_openTag _ _ _
    · have behind := followsBracket_afterBracket (first :: rest)
      unfold afterBracket at behind
      dsimp only
      split
      · exact .inl rfl
      · rename_i head remaining isRest
        rw [isRest] at behind
        exact behind

/-- What an opening bracket begins ends at that bracket, at a closing one or with the text. -/
theorem remaining_openBracket
    (text : Text) :
    (openBracket text).remaining = text ∨ FollowsBracket text (openBracket text).remaining := by
  unfold openBracket
  split
  · exact .inr ((followsBracket_openExclamation _).append ['!'])
  · exact .inr ((followsBracket_openSlash _).append ['/'])
  · exact .inr ((followsBracket_afterBracket _).append ['?'])
  · exact .inr (.inr ⟨[], rfl⟩)
  · split
    · exact .inr (followsBracket_openTag _ _ _)
    · exact .inl rfl
  · exact .inl rfl

theorem shown_openTag
    {start text shown remaining : Text}
    {closing : Bool}
    (isLiteral : openTag start closing text = .literal shown remaining) :
    start ++ text = shown ++ remaining := by
  unfold openTag at isLiteral
  split at isLiteral
  · cases isLiteral
  · obtain ⟨rfl, rfl⟩ := Opened.literal.inj isLiteral
    simp
  · cases isLiteral

theorem shown_openSlash
    {text shown remaining : Text}
    (isLiteral : openSlash text = .literal shown remaining) :
    '<' :: '/' :: text = shown ++ remaining := by
  unfold openSlash at isLiteral
  split at isLiteral
  · obtain ⟨rfl, rfl⟩ := Opened.literal.inj isLiteral
    rfl
  · cases isLiteral
  · rename_i first rest _
    split at isLiteral
    · exact shown_openTag isLiteral
    · have shape := List.takeWhile_append_dropWhile (p := (· != '>')) (l := first :: rest)
      have atBracket : Stops (· != '>') ((first :: rest).dropWhile (· != '>')) := stops_dropWhile
      dsimp only at isLiteral
      split at isLiteral
      · rename_i isRest
        obtain ⟨rfl, rfl⟩ := Opened.literal.inj isLiteral
        rw [isRest] at shape
        simpa using shape.symm
      · rename_i head behind isRest
        obtain ⟨rfl, rfl⟩ := Opened.literal.inj isLiteral
        rw [isRest, stops_cons] at atBracket
        have isBracket : head = '>' := by simpa using atBracket
        rw [isRest, isBracket] at shape
        simpa using shape.symm

/-- What turns out to be no markup is shown as it stands. -/
theorem shown_openBracket
    {text shown remaining : Text}
    (isLiteral : openBracket text = .literal shown remaining) :
    '<' :: text = shown ++ remaining := by
  unfold openBracket at isLiteral
  split at isLiteral
  · unfold openExclamation at isLiteral
    split at isLiteral
    · cases isLiteral
    · split at isLiteral <;> cases isLiteral
  · exact shown_openSlash isLiteral
  · cases isLiteral
  · obtain ⟨rfl, rfl⟩ := Opened.literal.inj isLiteral
    rfl
  · split at isLiteral
    · exact shown_openTag isLiteral
    · obtain ⟨rfl, rfl⟩ := Opened.literal.inj isLiteral
      rfl
  · obtain ⟨rfl, rfl⟩ := Opened.literal.inj isLiteral
    rfl

end Opened

section Runs

theorem exists_runs_eq_cons
    (marks : List Mark) :
    ∃ run others, runs marks = run :: others := by
  cases marks with
  | nil => exact ⟨[], [], rfl⟩
  | cons mark rest =>
      cases mark with
      | seam => exact ⟨[], runs rest, rfl⟩
      | char char =>
          rw [runs]
          split
          · exact ⟨_, _, rfl⟩
          · exact ⟨_, _, rfl⟩

/-- Visible characters in front of marks belong to the first run. -/
theorem runs_append
    (shown : Text)
    {marks : List Mark}
    {run : Text}
    {others : List Text}
    (areRuns : runs marks = run :: others) :
    runs (shown.map .char ++ marks) = (shown ++ run) :: others := by
  induction shown with
  | nil => exact areRuns
  | cons first rest inductionHypothesis =>
      rw [List.map_cons, List.cons_append, runs, inductionHypothesis]
      rfl

/-- The text holds nothing that starts markup and no null character. -/
def IsShown (text : Text) : Prop :=
  ∀ char ∈ text, char ≠ '<' ∧ char ≠ '\x00'

/-- What starts no markup is visible as it stands. -/
theorem marksFrom_shown_append
    {shown : Text}
    (isShown : IsShown shown)
    (seenTag : Bool)
    (rest : Text) :
    marksFrom seenTag (shown ++ rest) = shown.map .char ++ marksFrom seenTag rest := by
  induction shown with
  | nil => rfl
  | cons char others inductionHypothesis =>
      obtain ⟨notBracket, notNull⟩ := isShown char (by simp)
      have othersShown : IsShown others :=
        fun other member => isShown other (List.mem_cons_of_mem char member)
      rw [List.cons_append, marksFrom, beq_eq_false_iff_ne.mpr notBracket,
        beq_eq_false_iff_ne.mpr notNull, inductionHypothesis othersShown]
      rfl

/-- Letters and digits are visible as they stand. -/
theorem marksFrom_word_append
    {word : Text}
    (isWord : ∀ char ∈ word, isAsciiAlphanumeric char = true)
    (seenTag : Bool)
    (rest : Text) :
    marksFrom seenTag (word ++ rest) = word.map .char ++ marksFrom seenTag rest := by
  apply marksFrom_shown_append
  intro char member
  have isLetter := isWord char member
  constructor
  · rintro rfl
    exact absurd isLetter (by decide)
  · rintro rfl
    exact absurd isLetter (by decide)

/-- A text that starts no markup is one visible run. -/
theorem visibleRuns_of_isShown
    {text : Text}
    (isShown : IsShown text)
    (noReturn : '\r' ∉ text) :
    visibleRuns text = [text] := by
  have marked := marksFrom_shown_append isShown false []
  have ended : runs (marksFrom false []) = [[]] := by
    rw [marksFrom]
    rfl
  rw [List.append_nil] at marked
  rw [visibleRuns, unifyLineBreaks_eq_self noReturn, marked, runs_append text ended,
    List.append_nil]

theorem mem_marks_of_mem_runs
    {marks : List Mark}
    {run : Text}
    {char : Char}
    (isRun : run ∈ runs marks)
    (member : char ∈ run) :
    .char char ∈ marks := by
  induction marks generalizing run with
  | nil =>
      rw [List.mem_singleton.mp isRun] at member
      cases member
  | cons mark rest inductionHypothesis =>
      cases mark with
      | seam =>
          rcases List.mem_cons.mp isRun with rfl | inRest
          · cases member
          · exact List.mem_cons_of_mem _ (inductionHypothesis inRest member)
      | char first =>
          obtain ⟨restRun, others, areRuns⟩ := exists_runs_eq_cons rest
          rw [runs, areRuns] at isRun
          rcases List.mem_cons.mp isRun with rfl | inOthers
          · rcases List.mem_cons.mp member with rfl | inRun
            · exact List.mem_cons_self
            · exact List.mem_cons_of_mem _ (inductionHypothesis (by simp [areRuns]) inRun)
          · exact List.mem_cons_of_mem _
              (inductionHypothesis (by simp [areRuns, inOthers]) member)

theorem FollowsBracket.mem
    {whole remaining : Text}
    (follows : FollowsBracket whole remaining)
    {char : Char}
    (member : char ∈ remaining) :
    char ∈ whole := by
  rcases follows with rfl | ⟨used, rfl⟩
  · cases member
  · simp [member]

/-- What is behind an opened bracket was there before. -/
theorem mem_of_mem_remaining
    {text : Text}
    {char : Char}
    (member : char ∈ (openBracket text).remaining) :
    char ∈ text := by
  rcases remaining_openBracket text with same | follows
  · rwa [same] at member
  · exact follows.mem member

/-- What an opened bracket shows stands in the text, or is a line feed. -/
theorem mem_of_mem_marks
    {text : Text}
    {seenTag : Bool}
    {char : Char}
    (member : .char char ∈ (openBracket text).marks seenTag) :
    char ∈ '<' :: text ∨ char = '\n' := by
  cases opened : openBracket text with
  | literal shown remaining =>
      rw [opened, Opened.marks, List.mem_map] at member
      obtain ⟨source, isShown, same⟩ := member
      rw [shown_openBracket opened, ← Mark.char.inj same]
      exact .inl (List.mem_append_left remaining isShown)
  | tag startsBlock remaining =>
      rw [opened, Opened.marks] at member
      split at member
      · exact .inr (Mark.char.inj (List.mem_singleton.mp member))
      · cases member
  | comment remaining =>
      rw [opened, Opened.marks, List.mem_singleton] at member
      cases member
  | declaration remaining =>
      rw [opened] at member
      cases member

/-- A visible character stands in the text, or is a line feed. -/
theorem mem_of_mem_marksFrom
    {seenTag : Bool}
    {text : Text}
    {char : Char}
    (member : .char char ∈ marksFrom seenTag text) :
    char ∈ text ∨ char = '\n' := by
  fun_induction marksFrom seenTag text with
  | case1 => cases member
  | case2 seenTag first rest isBracket opened inductionHypothesis =>
      rw [beq_iff_eq.mp isBracket]
      rcases List.mem_append.mp member with inMarks | inRest
      · exact mem_of_mem_marks inMarks
      · exact (inductionHypothesis inRest).imp_left fun inRemaining =>
          List.mem_cons_of_mem _ (mem_of_mem_remaining inRemaining)
  | case3 seenTag first rest notBracket isNull inductionHypothesis =>
      exact (inductionHypothesis member).imp_left (List.mem_cons_of_mem first)
  | case4 seenTag first rest notBracket notNull inductionHypothesis =>
      rcases List.mem_cons.mp member with same | inRest
      · exact .inl (by rw [Mark.char.inj same]; exact List.mem_cons_self)
      · exact (inductionHypothesis inRest).imp_left (List.mem_cons_of_mem first)

/-- No visible character is a carriage return. -/
theorem return_not_mem_visibleRuns
    {text run : Text}
    (isRun : run ∈ visibleRuns text) :
    '\r' ∉ run := by
  intro member
  rcases mem_of_mem_marksFrom (mem_marks_of_mem_runs isRun member) with inText | isLineFeed
  · exact return_not_mem_unifyLineBreaks text inText
  · exact absurd isLineFeed (by decide)

end Runs

end EmailComposer.Markup
