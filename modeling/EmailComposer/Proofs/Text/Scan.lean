import Mathlib.Data.List.Infix
import EmailComposer.Text.Pattern

namespace EmailComposer.Text

/-!
# Laws of scans and replacements

A scan is followed by induction on what it recognises. Replacing then works piece
by piece: it leaves a text alone that no occurrence starts in, and it may be done
on both sides of a character that no occurrence holds.
-/

theorem startsWith_iff
    {start text : Text} :
    startsWith start text = true ↔ start <+: text := by
  simp [startsWith]

theorem includes_iff
    {part text : Text} :
    includes part text = true ↔ part <:+: text := by
  induction text with
  | nil =>
      cases part <;> simp [includes]
  | cons first rest inductionHypothesis =>
      simp [includes, startsWith_iff, inductionHypothesis, List.infix_cons_iff]

section Separator

variable {Item : Type} {separator : Item}

/-- A text without some character does not reach over that character, and so with any
list. -/
theorem prefix_of_prefix_append_cons
    {start before after : List Item}
    (apart : separator ∉ start)
    (isPrefix : start <+: before ++ separator :: after) :
    start <+: before := by
  obtain ⟨rest, same⟩ := isPrefix
  rcases List.append_eq_append_iff.mp same with
      ⟨middle, beforeShape, _⟩ | ⟨middle, startShape, restShape⟩
  · exact ⟨middle, beforeShape.symm⟩
  · cases middle with
    | nil => simp [startShape]
    | cons first others =>
        cases restShape
        exact absurd (by simp [startShape]) apart

/-- A part that does not hold a separator is found on one of the two sides of it. -/
theorem infix_append_cons_iff
    {part before after : List Item}
    (apart : separator ∉ part)
    (notEmpty : part ≠ []) :
    part <:+: before ++ separator :: after ↔ part <:+: before ∨ part <:+: after := by
  constructor
  · intro isInfix
    induction before with
    | nil =>
        rw [List.nil_append, List.infix_cons_iff] at isInfix
        rcases isInfix with atStart | inAfter
        · have onNothing : part <+: [] := prefix_of_prefix_append_cons apart atStart
          exact absurd (List.prefix_nil.mp onNothing) notEmpty
        · exact .inr inAfter
    | cons first rest inductionHypothesis =>
        rw [List.cons_append, List.infix_cons_iff] at isInfix
        rcases isInfix with atStart | inRest
        · have inBefore : part <+: first :: rest := prefix_of_prefix_append_cons apart atStart
          exact .inl inBefore.isInfix
        · exact (inductionHypothesis inRest).imp_left
            fun inBefore => inBefore.trans (List.suffix_cons first rest).isInfix
  · rintro (inBefore | inAfter)
    · exact inBefore.trans (List.prefix_append _ _).isInfix
    · have isSuffix : after <:+ before ++ separator :: after :=
        ⟨before ++ [separator], by simp⟩
      exact inAfter.trans isSuffix.isInfix

/-- In front of a text such a separator changes nothing. -/
theorem infix_cons_iff_of_not_mem
    {part rest : List Item}
    (apart : separator ∉ part)
    (notEmpty : part ≠ []) :
    part <:+: separator :: rest ↔ part <:+: rest := by
  have sides : part <:+: [] ++ separator :: rest ↔ part <:+: [] ∨ part <:+: rest :=
    infix_append_cons_iff apart notEmpty
  simpa [notEmpty] using sides

end Separator

/-- A part is not found where its first character is missing. -/
theorem infix_of_infix_append
    {head : Char}
    {others start rest : Text}
    (apart : head ∉ start)
    (isInfix : head :: others <:+: start ++ rest) :
    head :: others <:+: rest := by
  induction start with
  | nil => exact isInfix
  | cons first tail inductionHypothesis =>
      rw [List.mem_cons, not_or] at apart
      rw [List.cons_append, List.infix_cons_iff, List.cons_prefix_cons] at isInfix
      rcases isInfix with ⟨same, _⟩ | inRest
      · exact absurd same apart.1
      · exact inductionHypothesis apart.2 inRest

/-- An ending does not reach back over a beginning that its first character is missing from. -/
theorem suffix_of_suffix_append
    {head : Char}
    {others start rest : Text}
    (apart : head ∉ start)
    (isSuffix : head :: others <:+ start ++ rest) :
    head :: others <:+ rest := by
  induction start with
  | nil => exact isSuffix
  | cons first tail inductionHypothesis =>
      rw [List.mem_cons, not_or] at apart
      rcases List.suffix_cons_iff.mp isSuffix with same | inRest
      · exact absurd (List.cons.inj same).1 apart.1
      · exact inductionHypothesis apart.2 inRest

namespace Pattern

variable {Value : Type}

/-- What holds of the empty text, and behind a recognised value or a character that
stays whenever it holds of the rest, holds of every text. -/
@[elab_as_elim]
theorem scan_induction
    (pattern : Pattern Value)
    {motive : Text → Prop}
    (nil : motive [])
    (found :
      ∀ text value rest,
        pattern.read? text = some (value, rest) →
        motive rest →
        motive text)
    (plain :
      ∀ first rest,
        pattern.read? (first :: rest) = none →
        motive rest →
        motive (first :: rest))
    (text : Text) :
    motive text := by
  fun_induction pattern.scan text with
  | case1 => exact nil
  | case2 first rest value remaining isFound inductionHypothesis =>
      exact found _ value remaining isFound inductionHypothesis
  | case3 first rest missing inductionHypothesis =>
      exact plain first rest missing inductionHypothesis

@[simp] theorem replace_nil
    (pattern : Pattern Value)
    (display : Value → Text) :
    pattern.replace display [] = [] := by
  simp [replace, scan_nil]

theorem replace_of_some
    {pattern : Pattern Value}
    {display : Value → Text}
    {text rest : Text}
    {value : Value}
    (found : pattern.read? text = some (value, rest)) :
    pattern.replace display text = display value ++ pattern.replace display rest := by
  simp [replace, scan_of_some found, Piece.render]

theorem replace_of_none
    {pattern : Pattern Value}
    {display : Value → Text}
    {first : Char}
    {rest : Text}
    (missing : pattern.read? (first :: rest) = none) :
    pattern.replace display (first :: rest) = first :: pattern.replace display rest := by
  simp [replace, scan_of_none missing, Piece.render]

@[simp] theorem findAll_nil
    (pattern : Pattern Value) :
    pattern.findAll [] = [] := by
  simp [findAll, scan_nil]

theorem findAll_of_some
    {pattern : Pattern Value}
    {text rest : Text}
    {value : Value}
    (found : pattern.read? text = some (value, rest)) :
    pattern.findAll text = value :: pattern.findAll rest := by
  simp [findAll, scan_of_some found, Piece.value?]

theorem findAll_of_none
    {pattern : Pattern Value}
    {first : Char}
    {rest : Text}
    (missing : pattern.read? (first :: rest) = none) :
    pattern.findAll (first :: rest) = pattern.findAll rest := by
  rw [findAll, scan_of_none missing]
  rfl

/-- A beginning whose characters start no value is kept as it is. -/
theorem replace_append
    {pattern : Pattern Value}
    {display : Value → Text}
    {start : Text}
    (unread : ∀ char ∈ start, ∀ rest, pattern.read? (char :: rest) = none)
    (rest : Text) :
    pattern.replace display (start ++ rest) = start ++ pattern.replace display rest := by
  induction start with
  | nil => rfl
  | cons first others inductionHypothesis =>
      have firstUnread := unread first (by simp) (others ++ rest)
      have othersUnread : ∀ char ∈ others, ∀ rest, pattern.read? (char :: rest) = none :=
        fun char member => unread char (by simp [member])
      rw [List.cons_append, replace_of_none firstUnread, inductionHypothesis othersUnread]
      rfl

end Pattern

/-- An occurrence at the beginning of a text is recognised, and nothing else is. -/
theorem read?_literal_eq_some_iff
    {target text rest : Text}
    {value : Unit}
    (notEmpty : target ≠ []) :
    (Pattern.literal target).read? text = some (value, rest) ↔ text = target ++ rest := by
  simp [Pattern.literal, notEmpty, after?_eq_some_iff]

theorem read?_literal_eq_none_iff
    {target text : Text}
    (notEmpty : target ≠ []) :
    (Pattern.literal target).read? text = none ↔ ¬ target <+: text := by
  rw [Option.eq_none_iff_forall_ne_some]
  constructor
  · rintro unread ⟨rest, same⟩
    exact unread ((), rest) ((read?_literal_eq_some_iff notEmpty).mpr same.symm)
  · intro missing ⟨value, rest⟩ found
    exact missing ⟨rest, ((read?_literal_eq_some_iff notEmpty).mp found).symm⟩

@[simp] theorem replaceAll_nil
    (target replacement : Text) :
    replaceAll target replacement [] = [] :=
  Pattern.replace_nil _ _

section Replacement

variable {target replacement : Text}

/-- An occurrence at the beginning is replaced. -/
theorem replaceAll_append_target
    (notEmpty : target ≠ [])
    (rest : Text) :
    replaceAll target replacement (target ++ rest) =
      replacement ++ replaceAll target replacement rest := by
  have found : (Pattern.literal target).read? (target ++ rest) = some ((), rest) :=
    (read?_literal_eq_some_iff notEmpty).mpr rfl
  exact Pattern.replace_of_some found

/-- A character that no occurrence starts with is kept. -/
theorem replaceAll_cons
    (notEmpty : target ≠ [])
    {first : Char}
    {rest : Text}
    (missing : ¬ target <+: first :: rest) :
    replaceAll target replacement (first :: rest) =
      first :: replaceAll target replacement rest :=
  Pattern.replace_of_none ((read?_literal_eq_none_iff notEmpty).mpr missing)

/-- Induction along the occurrences of a text in another. -/
@[elab_as_elim]
theorem replaceAll_induction
    (notEmpty : target ≠ [])
    {motive : Text → Prop}
    (nil : motive [])
    (found : ∀ rest, motive rest → motive (target ++ rest))
    (plain :
      ∀ first rest,
        ¬ target <+: first :: rest →
        motive rest →
        motive (first :: rest))
    (text : Text) :
    motive text := by
  induction text using (Pattern.literal target).scan_induction with
  | nil => exact nil
  | found text value rest isFound inductionHypothesis =>
      rw [(read?_literal_eq_some_iff notEmpty).mp isFound]
      exact found rest inductionHypothesis
  | plain first rest missing inductionHypothesis =>
      exact plain first rest ((read?_literal_eq_none_iff notEmpty).mp missing)
        inductionHypothesis

/-- A beginning without the first character of the target is kept. -/
theorem replaceAll_append
    {head : Char}
    {others start : Text}
    (apart : head ∉ start)
    (rest : Text) :
    replaceAll (head :: others) replacement (start ++ rest) =
      start ++ replaceAll (head :: others) replacement rest := by
  refine Pattern.replace_append (fun char member rest => ?_) rest
  rw [read?_literal_eq_none_iff (by simp), List.cons_prefix_cons]
  rintro ⟨rfl, -⟩
  exact apart member

/-- Replacing works separately on both sides of a character that the target does not
hold. -/
theorem replaceAll_append_cons
    (notEmpty : target ≠ [])
    {separator : Char}
    (apart : separator ∉ target)
    (before after : Text) :
    replaceAll target replacement (before ++ separator :: after) =
      replaceAll target replacement before ++
        separator :: replaceAll target replacement after := by
  induction before using replaceAll_induction notEmpty with
  | nil =>
      have missing : ¬ target <+: separator :: after := by
        rintro ⟨rest, same⟩
        cases target with
        | nil => exact notEmpty rfl
        | cons head others =>
            cases same
            exact apart (by simp)
      simpa using replaceAll_cons notEmpty missing
  | found rest inductionHypothesis =>
      rw [List.append_assoc, replaceAll_append_target notEmpty, inductionHypothesis,
        replaceAll_append_target notEmpty, List.append_assoc]
  | plain first rest missing inductionHypothesis =>
      have stillMissing : ¬ target <+: first :: (rest ++ separator :: after) :=
        fun isPrefix => missing (prefix_of_prefix_append_cons apart isPrefix)
      rw [List.cons_append, replaceAll_cons notEmpty stillMissing, inductionHypothesis,
        replaceAll_cons notEmpty missing, List.cons_append]

/-- Replacing works separately on two texts if no occurrence can hold the first character
of the second one. -/
theorem replaceAll_append_of_head
    (notEmpty : target ≠ [])
    {rest : Text}
    (apart : ∀ char ∈ rest.head?, char ∉ target)
    (before : Text) :
    replaceAll target replacement (before ++ rest) =
      replaceAll target replacement before ++ replaceAll target replacement rest := by
  cases rest with
  | nil => simp
  | cons separator after =>
      have separatorApart := apart separator rfl
      have onward : replaceAll target replacement (separator :: after) = _ :=
        replaceAll_append_cons notEmpty separatorApart [] after
      rw [replaceAll_append_cons notEmpty separatorApart, onward]
      simp

theorem replaceAll_eq_self
    (notEmpty : target ≠ [])
    {text : Text}
    (missing : ¬ target <:+: text) :
    replaceAll target replacement text = text := by
  induction text with
  | nil => simp
  | cons first rest inductionHypothesis =>
      rw [List.infix_cons_iff, not_or] at missing
      rw [replaceAll_cons notEmpty missing.1, inductionHypothesis missing.2]

/-- Every character comes from the text or from the replacement. -/
theorem mem_replaceAll
    (notEmpty : target ≠ [])
    {char : Char}
    {text : Text}
    (member : char ∈ replaceAll target replacement text) :
    char ∈ text ∨ char ∈ replacement := by
  induction text using replaceAll_induction notEmpty with
  | nil => simp at member
  | found rest inductionHypothesis =>
      rw [replaceAll_append_target notEmpty, List.mem_append] at member
      rcases member with inReplacement | inRest
      · exact .inr inReplacement
      · exact (inductionHypothesis inRest).imp_left (List.mem_append_right target)
  | plain first rest missing inductionHypothesis =>
      rw [replaceAll_cons notEmpty missing, List.mem_cons] at member
      rcases member with rfl | inRest
      · exact .inl (by simp)
      · exact (inductionHypothesis inRest).imp_left (List.mem_cons_of_mem first)

theorem replaceAll_ne_nil
    (notEmpty : target ≠ [])
    (shown : replacement ≠ [])
    {text : Text}
    (hasText : text ≠ []) :
    replaceAll target replacement text ≠ [] := by
  cases text using replaceAll_induction notEmpty with
  | nil => exact absurd rfl hasText
  | found rest _ =>
      simp [replaceAll_append_target notEmpty, shown]
  | plain first rest missing _ =>
      simp [replaceAll_cons notEmpty missing]

/-- What a replaced text begins with was there before, unless it holds the first
character of the replacement. -/
theorem prefix_of_prefix_replaceAll
    (notEmpty : target ≠ [])
    {mark : Char}
    {others part text : Text}
    (apart : mark ∉ part)
    (isPrefix : part <+: replaceAll target (mark :: others) text) :
    part <+: text := by
  induction text using replaceAll_induction notEmpty generalizing part with
  | nil => simpa using isPrefix
  | found rest _ =>
      rw [replaceAll_append_target notEmpty] at isPrefix
      cases part with
      | nil => exact List.nil_prefix
      | cons head tail =>
          obtain ⟨rfl, _⟩ := List.cons_prefix_cons.mp isPrefix
          exact absurd (by simp) apart
  | plain first rest missing inductionHypothesis =>
      rw [replaceAll_cons notEmpty missing] at isPrefix
      cases part with
      | nil => exact List.nil_prefix
      | cons head tail =>
          obtain ⟨rfl, tailPrefix⟩ := List.cons_prefix_cons.mp isPrefix
          have tailApart : mark ∉ tail := fun member => apart (by simp [member])
          exact List.cons_prefix_cons.mpr ⟨rfl, inductionHypothesis tailApart tailPrefix⟩

/-- Replacing brings about no new occurrence of a part that shares neither its first
character with the replacement nor the first character of the replacement. -/
theorem infix_of_infix_replaceAll
    (notEmpty : target ≠ [])
    {mark head : Char}
    {others tail text : Text}
    (startApart : head ∉ mark :: others)
    (apart : mark ∉ head :: tail)
    (isInfix : head :: tail <:+: replaceAll target (mark :: others) text) :
    head :: tail <:+: text := by
  induction text using replaceAll_induction notEmpty with
  | nil => simp at isInfix
  | found rest inductionHypothesis =>
      rw [replaceAll_append_target notEmpty] at isInfix
      have inRest := infix_of_infix_append startApart isInfix
      exact (inductionHypothesis inRest).trans (List.suffix_append target rest).isInfix
  | plain first rest missing inductionHypothesis =>
      have shape : replaceAll target (mark :: others) (first :: rest) = _ :=
        replaceAll_cons notEmpty missing
      rcases List.infix_cons_iff.mp (shape ▸ isInfix) with atStart | inRest
      · exact (prefix_of_prefix_replaceAll notEmpty apart (shape ▸ atStart)).isInfix
      · exact (inductionHypothesis inRest).trans (List.suffix_cons first rest).isInfix

end Replacement

end EmailComposer.Text
