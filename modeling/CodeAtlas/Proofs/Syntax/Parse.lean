import CodeAtlas.Proofs.Syntax.Reading
import CodeAtlas.Proofs.Syntax.Sound
import CodeAtlas.Syntax.Parse

/-!
# What parsing gives

The rules of every covered language are sound, so that a source without a syntax error is a tree
whose nodes stand in order and begin as constructs do: `parse_wellFormed`.
-/
namespace CodeAtlas.Syntax

open Rule

/-- A phrase that may begin with a declaration. -/
def Phrase.isLeading : Phrase → Bool
  | .statement | .declaration => true
  | _ => false

namespace Grammar

variable {language : Language}

/-- The first that fits of rules has what each of them has, if the first of two rules, or else the
second, has what both have. -/
theorem anyOf_of_forall {holds : R → Prop} {rules : List R} (each : ∀ rule ∈ rules, holds rule)
    (nothing : rules = [] → holds (anyOf []))
    (alt : ∀ first second, holds first → holds second → holds (.alt first second)) :
    holds (anyOf rules) := by
  fun_induction anyOf rules with
  | case1 => exact nothing rfl
  | case2 rule => exact each rule (.head _)
  | case3 rule rules more ih =>
    obtain ⟨here, others⟩ := List.forall_mem_cons.mp each
    exact alt _ _ here (ih others fun none => absurd none more)

/-- The first that fits of rules that go on goes on. -/
theorem isStep_anyOf {rules : List R}
    (steps : rules.all (·.isStep language Phrase.isLeading) = true) :
    (anyOf rules).isStep language Phrase.isLeading = true := by
  refine anyOf_of_forall (List.all_eq_true.mp steps) (fun _ => rfl) fun first second one two => ?_
  rw [isStep, one, two]
  rfl

/-- What grows of a phrase that declares nothing fits, if only steps follow. -/
theorem fits_grow {phrase operand : Phrase} {follow : Follow} {rules : List R}
    (plain : operand.isLeading = false)
    (steps : rules.all (·.isStep language Phrase.isLeading) = true) :
    fits language Phrase.isLeading phrase
      (.grow (.ref operand) (.seq (unended follow) (anyOf rules))) = true := by
  have silent : (unended follow).isSilent = true := by
    unfold unended
    split <;> rfl
  have regular : (unended follow).isSound language Phrase.isLeading = true := by
    unfold unended
    split <;> rfl
  have goes : (Rule.seq (unended follow) (anyOf rules)).isStep language Phrase.isLeading =
      true := by
    rw [isStep, silent, regular, isStep_anyOf steps]
    rfl
  rw [fits, isSound, isSound, opening, opening, leads, leads, plain, goes, Bool.not_false,
    Bool.or_true]
  rfl

/-- The first that fits of two rules that fit a phrase fits it. -/
theorem fits_alt {phrase : Phrase} {first second : R}
    (one : fits language Phrase.isLeading phrase first = true)
    (two : fits language Phrase.isLeading phrase second = true) :
    fits language Phrase.isLeading phrase (.alt first second) = true := by
  simp only [fits, Bool.and_eq_true, beq_iff_eq, Bool.or_eq_true, Bool.not_eq_true'] at one two ⊢
  obtain ⟨⟨⟨regular, always⟩, outer⟩, plain⟩ := one
  obtain ⟨⟨⟨regularToo, alwaysToo⟩, outerToo⟩, plainToo⟩ := two
  refine ⟨⟨⟨?_, ?_⟩, ?_⟩, ?_⟩
  · rw [isSound, regular, regularToo]
    rfl
  · rw [opening, always, alwaysToo]
    rfl
  · rw [isOuter] at outer outerToo
    rw [isOuter, every, outer, outerToo]
    rfl
  · rcases plain with leading | plain
    · exact .inl leading
    rcases plainToo with leading | plainToo
    · exact .inl leading
    · exact .inr (by rw [leads, plain, plainToo]; rfl)

/-- The first that fits of rules that fit a phrase fits it. -/
theorem fits_anyOf {phrase : Phrase} {rule : R} {rules : List R}
    (each : (rule :: rules).all (fits language Phrase.isLeading phrase) = true) :
    fits language Phrase.isLeading phrase (anyOf (rule :: rules)) = true :=
  anyOf_of_forall (List.all_eq_true.mp each) (by rintro ⟨⟩) fun _ _ => fits_alt

/-- Operands fit. -/
theorem fits_operandRule (language : Language) (follow : Follow) :
    fits language Phrase.isLeading (.operand follow) (operandRule language follow) = true := by
  refine fits_anyOf ?_
  obtain ⟨semicolon, _, _, _, _⟩ := follow
  cases semicolon <;> cases language <;> rfl

/-- Binary operators of any level fit. -/
theorem fits_binaryRule (language : Language) (follow : Follow) (level : Nat) :
    fits language Phrase.isLeading (.binary follow level) (binaryRule language follow level) =
      true := by
  refine fits_grow rfl ?_
  rw [List.all_append, Bool.and_eq_true, List.all_map]
  refine ⟨List.all_eq_true.mpr fun _ _ => rfl, ?_⟩
  split
  · rfl
  · cases language <;> cases follow.inWord <;> rfl

/-- The rule of every phrase of every language fits the phrase. -/
theorem sound_grammarOf (language : Language) (start : Cursor) :
    (grammarOf language).Sound ⟨language, start, Phrase.isLeading⟩ := by
  intro phrase
  change fits language Phrase.isLeading phrase (grammarOf language phrase) = true
  cases phrase with
  | binary follow level => exact fits_binaryRule language follow level
  | operand follow => exact fits_operandRule language follow
  | sequence follow | expression follow | postfix_ follow | arrowHead follow
  | arrowBlock follow | callSignature follow | type follow | typeUnion follow
  | typeOperand follow | typePostfix follow =>
    -- whether a statement may end, and whether an arrow function may have a result type
    obtain ⟨semicolon, _, _, _, types⟩ := follow
    cases semicolon <;> cases types <;> cases language <;> rfl
  | _ => cases language <;> rfl

end Grammar

variable {language : Language} {bytes : List UInt8}

/-- A program whose only part is one fault, from a place to the end of the source. -/
def faultFrom (bytes : List UInt8) (place : Cursor) : Node :=
  .mk .program none ⟨0, bytes.length, 0, place.row⟩
    [.mk .error none ⟨place.offset, bytes.length, place.row, place.row⟩ []]

/-- A source is read to drafts that the rule of a source gives, whatever the phrases mean, or it is
a program of one fault. -/
theorem gives_or_faulty {meaning : Meaning Phrase}
    (closed : (grammarOf language).Closed language (Cursor.start bytes) meaning) :
    (∃ drafts last,
      parse language bytes = Draft.root .program ((Cursor.start bytes).spanTo last) drafts ∧
      sourceRule.Gives language (Cursor.start bytes) meaning [] (Cursor.start bytes) drafts
        last) ∨
    ∃ place, parse language bytes = faultFrom bytes place := by
  have solid := Cursor.solid_start bytes
  have faithful := Grammar.read_faithful solid closed
    (64 * ((Cursor.start bytes).rest.length + 2))
  have follows : Follows language (Cursor.start bytes) meaning sourceRule _ :=
    read_follows solid faithful sourceRule
  have reading := follows [] [] (Cursor.start bytes) ⟨∅, none⟩ (.refl _) .empty
  unfold parse
  dsimp only at reading ⊢
  generalize sourceRule.read language _ [] [] _ _ = outcome at reading ⊢
  obtain ⟨_ | ⟨drafts, last⟩, memory⟩ := outcome
  · exact .inr ⟨_, rfl⟩
  · exact .inl ⟨drafts, last, rfl, (reading.good drafts last rfl).2⟩

/-- A source without a syntax error is read to drafts that the rule of a source gives. -/
theorem exists_gives {meaning : Meaning Phrase}
    (closed : (grammarOf language).Closed language (Cursor.start bytes) meaning)
    (readable : (parse language bytes).hasError = false) :
    ∃ drafts last,
      parse language bytes = Draft.root .program ((Cursor.start bytes).spanTo last) drafts ∧
      sourceRule.Gives language (Cursor.start bytes) meaning [] (Cursor.start bytes) drafts
        last := by
  rcases gives_or_faulty closed with gives | ⟨place, faulty⟩
  · exact gives
  · rw [faulty] at readable
    contradiction

/-- These drafts are laid in order. -/
theorem exists_given (readable : (parse language bytes).hasError = false) :
    ∃ drafts last,
      parse language bytes = Draft.root .program ((Cursor.start bytes).spanTo last) drafts ∧
      Given ⟨language, Cursor.start bytes, Phrase.isLeading⟩ sourceRule (Cursor.start bytes) drafts
        last := by
  have solid := Cursor.solid_start bytes
  have sound := Grammar.sound_grammarOf language (Cursor.start bytes)
  have regular : sourceRule.isSound language Phrase.isLeading = true := by cases language <;> rfl
  obtain ⟨drafts, last, tree, gives⟩ := exists_gives (sound.closed solid) readable
  exact ⟨drafts, last, tree, (given_of_gives solid _).1 regular _ _ _ _ (.refl _) gives⟩

/-- A source without a syntax error is read to a tree whose nodes stand in order. -/
theorem parse_wellFormed (readable : (parse language bytes).hasError = false) :
    (parse language bytes).WellFormed language := by
  obtain ⟨drafts, last, tree, given⟩ := exists_given readable
  rw [tree]
  exact given.laid.wellFormed

/-- All nodes of a source without a syntax error have extents between places of the source. -/
theorem parse_joined (readable : (parse language bytes).hasError = false) :
    (parse language bytes).Joined (Cursor.start bytes) := by
  obtain ⟨drafts, last, tree, given⟩ := exists_given readable
  rw [tree]
  exact (Draft.joinedAll_iff.mpr given.joined).root ⟨_, _, .refl _, .refl _, rfl⟩
    ⟨_, last, .refl _, given.placed, rfl⟩

end CodeAtlas.Syntax
