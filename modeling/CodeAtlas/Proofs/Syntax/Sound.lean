import CodeAtlas.Proofs.Syntax.Meaning
import CodeAtlas.Proofs.Syntax.Rule

/-!
# Sound rules

What a sound rule gives is laid in order, and what it goes on to from drafts that were found is
found as well (`Rule.given_of_gives`), so that a grammar of sound rules is closed under finding
phrases: `Grammar.Sound.closed`.
-/
namespace CodeAtlas.Syntax

namespace Rule

variable {Phrase : Type} {setting : Setting Phrase}

/-- What is found of phrases in a source. -/
def Setting.meaning (setting : Setting Phrase) : Meaning Phrase :=
  fun phrase cursor => Found setting (!setting.leading phrase) cursor.offset

/-- Drafts that went on from what was found from an offset on, if they went anywhere. -/
structure Gone (setting : Setting Phrase) (offset : Nat) (cursor : Cursor) (drafts : List Draft)
    (last : Cursor) : Prop where
  /-- The place is one of the source. -/
  placed : setting.start.Reaches last
  /-- The drafts are found in turn. -/
  found : cursor.offset < last.offset → Found setting true offset drafts last

/-- What is given repeatedly by a rule is given as often as it fits, if what is given once is. -/
theorem Repeated.given {body : Rule Phrase} {once : Cursor → List Draft → Cursor → Prop}
    (each : ∀ cursor drafts last, setting.start.Reaches cursor → once cursor drafts last →
      Given setting body cursor drafts last)
    {cursor last : Cursor} {drafts : List Draft} (placed : setting.start.Reaches cursor)
    (repeated : Repeated once cursor drafts last) :
    Given setting (.many body) cursor drafts last := by
  induction repeated with
  | none => exact .nil placed (Opening.orNothing_nil _)
  | more _ after ih => exact ih.many (each _ _ _ ih.placed after)

/-- What grows of what was found is found, if each step goes on from what was. -/
theorem Grown.found {step : List Draft → Cursor → List Draft → Cursor → Prop} {offset : Nat}
    (each : ∀ before cursor drafts last, Found setting true offset before cursor →
      step before cursor drafts last → Gone setting offset cursor drafts last)
    {base drafts : List Draft} {cursor last : Cursor}
    (found : Found setting true offset base cursor) (grown : Grown step base cursor drafts last) :
    Found setting true offset drafts last := by
  induction grown with
  | none => exact found
  | more _ after further ih => exact (each _ _ _ _ ih after).found further

/-- What was given on the spot goes nowhere. -/
theorem Given.gone {body : Rule Phrase} {offset : Nat} {cursor last : Cursor} {drafts : List Draft}
    (given : Given setting body cursor drafts last) (silent : body.isSilent = true) :
    Gone setting offset cursor drafts last := by
  obtain ⟨rfl, rfl⟩ := given.silent silent
  exact ⟨given.placed, fun further => absurd further (Nat.lt_irrefl _)⟩

/-- What a sound rule gives at a place is given there, and what a step gives goes on from what was
found. -/
theorem given_of_gives (solid : setting.start.Solid) (rule : Rule Phrase) :
    (rule.isSound setting.language setting.leading = true →
      ∀ before cursor drafts last, setting.start.Reaches cursor →
        rule.Gives setting.language setting.start setting.meaning before cursor drafts last →
          Given setting rule cursor drafts last) ∧
    (rule.isStep setting.language setting.leading = true →
      ∀ offset before cursor drafts last, Found setting true offset before cursor →
        rule.Gives setting.language setting.start setting.meaning before cursor drafts last →
          Gone setting offset cursor drafts last) := by
  induction rule with
  | done =>
    constructor
    · rintro - _ _ _ _ placed ⟨rfl, rfl⟩
      exact .nil placed (by rintro _ ⟨⟩)
    · rintro - _ _ _ _ _ found ⟨rfl, rfl⟩
      exact ⟨found.placed, fun further => absurd further (Nat.lt_irrefl _)⟩
  | token terminal =>
    refine ⟨?_, by rintro ⟨⟩⟩
    rintro regular _ _ _ _ placed ⟨_, token, read, rfl, rfl⟩
    exact .token solid placed regular read
  | seq first second one two =>
    constructor
    · rintro sound _ _ _ _ placed ⟨left, middle, right, before, after, rfl⟩
      rw [isSound, Bool.and_eq_true] at sound
      have given := one.1 sound.1 _ _ _ _ placed before
      exact given.seq (two.1 sound.2 _ _ _ _ given.placed after)
    · rintro step _ _ _ _ _ found ⟨left, middle, right, before, after, rfl⟩
      simp only [isStep, Bool.and_eq_true] at step
      have given := one.1 step.1.2 _ _ _ _ found.placed before
      obtain ⟨rfl, rfl⟩ := given.silent step.1.1
      exact two.2 step.2 _ _ _ _ _ found after
  | alt first second one two =>
    constructor
    · rintro sound _ _ _ _ placed (given | given)
      all_goals rw [isSound, Bool.and_eq_true] at sound
      · exact (one.1 sound.1 _ _ _ _ placed given).alt_left
      · exact (two.1 sound.2 _ _ _ _ placed given).alt_right
    · rintro step _ _ _ _ _ found (given | given)
      all_goals rw [isStep, Bool.and_eq_true] at step
      · exact one.2 step.1 _ _ _ _ _ found given
      · exact two.2 step.2 _ _ _ _ _ found given
  | opt body ih =>
    refine ⟨?_, by rintro ⟨⟩⟩
    rintro sound _ _ _ _ placed (given | ⟨rfl, rfl⟩)
    · exact (ih.1 sound _ _ _ _ placed given).opt
    · exact .nil placed (Opening.orNothing_nil _)
  | many body ih =>
    exact ⟨fun sound before _ _ _ placed repeated => repeated.given (ih.1 sound before) placed,
      by rintro ⟨⟩⟩
  | node kind body ih =>
    refine ⟨?_, by rintro ⟨⟩⟩
    rintro sound _ _ _ _ placed ⟨children, given, rfl⟩
    have inner := sound
    simp only [isSound, Bool.and_eq_true] at inner
    exact (ih.1 inner.1.1.1.1.1 _ _ _ _ placed given).node sound
  | field place body ih =>
    refine ⟨?_, by rintro ⟨⟩⟩
    rintro sound _ _ _ _ placed ⟨inner, given, rfl⟩
    exact (ih.1 sound _ _ _ _ placed given).field
  | ref name => exact ⟨fun _ _ _ _ _ _ => Found.ref, by rintro ⟨⟩⟩
  | ahead body _ | absent body _ =>
    constructor
    · rintro - _ _ _ _ placed ⟨rfl, rfl⟩
      exact .nil placed (by rintro _ ⟨⟩)
    · rintro - _ _ _ _ _ found ⟨rfl, rfl⟩
      exact ⟨found.placed, fun further => absurd further (Nat.lt_irrefl _)⟩
  | grow base step one two =>
    refine ⟨?_, by rintro ⟨⟩⟩
    rintro sound _ _ _ _ placed ⟨drafts, middle, given, grown⟩
    simp only [isSound, Bool.and_eq_true, beq_iff_eq, Bool.not_eq_true'] at sound
    obtain ⟨⟨⟨⟨sound, always⟩, plain⟩, outer⟩, steps⟩ := sound
    have found : Found setting true _ drafts middle :=
      (one.1 sound _ _ _ _ placed given).found always outer fun _ => plain
    exact Found.grow always (grown.found (two.2 steps _) found)
  | onto kind body ih =>
    refine ⟨by rintro ⟨⟩, ?_⟩
    rintro step _ _ _ _ _ found ⟨children, given, rfl⟩
    simp only [isStep, Bool.and_eq_true, bne_iff_ne, Bool.not_eq_true'] at step
    obtain ⟨⟨sound, visible⟩, plain⟩ := step
    have inner := ih.1 sound _ _ _ _ found.placed given
    exact ⟨inner.placed, fun _ => found.onto visible plain inner⟩
  | only kinds body ih =>
    refine ⟨?_, by rintro ⟨⟩⟩
    rintro sound _ _ _ _ placed ⟨draft, given, _, rfl⟩
    exact (ih.1 sound _ _ _ _ placed given).only

end Rule

open Rule

namespace Grammar

variable {Phrase : Type} {setting : Setting Phrase} {grammar : Grammar Phrase}

/-- Whether a rule may be that of a phrase: it is sound, gives nodes in the places where those of a
phrase may stand and begins with something written, which declares nothing unless the phrase is a
leading one. -/
def fits (language : Language) (leading : Phrase → Bool) (phrase : Phrase) (rule : Rule Phrase) :
    Bool :=
  rule.isSound language leading && rule.opening == .always && rule.isOuter &&
    (leading phrase || !rule.leads leading)

/-- The rules of a grammar fit their phrases. -/
def Sound (setting : Setting Phrase) (grammar : Grammar Phrase) : Prop :=
  ∀ phrase, fits setting.language setting.leading phrase (grammar phrase) = true

/-- What is found of the phrases of a sound grammar takes in whatever their rules give. -/
theorem Sound.closed (solid : setting.start.Solid) (sound : grammar.Sound setting) :
    grammar.Closed setting.language setting.start setting.meaning := by
  intro phrase cursor drafts last placed gives
  have fit := sound phrase
  simp only [fits, Bool.and_eq_true, beq_iff_eq, Bool.or_eq_true, Bool.not_eq_true'] at fit
  obtain ⟨⟨⟨regular, always⟩, outer⟩, plain⟩ := fit
  refine ((given_of_gives solid _).1 regular _ _ _ _ placed gives).found always outer fun other =>
    plain.resolve_left ?_
  simpa using other

end Grammar

end CodeAtlas.Syntax
