import CodeAtlas.Proofs.Source.Reach
import CodeAtlas.Syntax.Rule

/-!
# What rules give

From one place of a source a rule gives drafts up to another place. `Rule.Gives` tells which, if it
is known what phrases give; of how a source is read nothing is left in it, neither what is
remembered nor how deep reading may go. What phrases give is closed under a grammar if it takes in
whatever their rules give.
-/
namespace CodeAtlas.Syntax

/-- What phrases give from a place on, up to another place. -/
abbrev Meaning (Phrase : Type) := Phrase → Cursor → List Draft → Cursor → Prop

namespace Rule

/-- Drafts that are given one time after the other. -/
inductive Repeated (once : Cursor → List Draft → Cursor → Prop) (first : Cursor) :
    List Draft → Cursor → Prop where
  | none : Repeated once first [] first
  | more {left right : List Draft} {middle last : Cursor}
      (before : Repeated once first left middle) (after : once middle right last) :
      Repeated once first (left ++ right) last

/-- Drafts that are gone on to from others, each time going further. -/
inductive Grown (step : List Draft → Cursor → List Draft → Cursor → Prop) (found : List Draft)
    (first : Cursor) : List Draft → Cursor → Prop where
  | none : Grown step found first found first
  | more {drafts others : List Draft} {middle last : Cursor}
      (before : Grown step found first drafts middle) (after : step drafts middle others last)
      (further : middle.offset < last.offset) : Grown step found first others last

variable {Phrase : Type}

/-- What a rule gives in a source from its start on, given what phrases give; `before` are the
drafts that `onto` goes on from. -/
def Gives (language : Language) (start : Cursor) (meaning : Meaning Phrase) :
    Rule Phrase → List Draft → Cursor → List Draft → Cursor → Prop
  | .done => fun _ cursor drafts last => drafts = [] ∧ last = cursor
  | .token terminal => fun _ cursor drafts last =>
    start.Reaches cursor ∧ ∃ token, terminal.read language cursor = .ok token ∧
      drafts = [.ofToken token] ∧ last = token.last
  | .seq first second => fun before cursor drafts last =>
    ∃ left middle right, Gives language start meaning first before cursor left middle ∧
      Gives language start meaning second before middle right last ∧ drafts = left ++ right
  | .alt first second => fun before cursor drafts last =>
    Gives language start meaning first before cursor drafts last ∨
      Gives language start meaning second before cursor drafts last
  | .opt body => fun before cursor drafts last =>
    Gives language start meaning body before cursor drafts last ∨ drafts = [] ∧ last = cursor
  | .many body => fun before cursor drafts last =>
    Repeated (Gives language start meaning body before) cursor drafts last
  | .node kind body => fun before cursor drafts last =>
    ∃ children, Gives language start meaning body before cursor children last ∧
      drafts = [.branch kind none children]
  | .field place body => fun before cursor drafts last =>
    ∃ inner, Gives language start meaning body before cursor inner last ∧
      drafts = inner.map (·.inField place)
  | .ref phrase => fun _ cursor drafts last => meaning phrase cursor drafts last
  | .ahead _ | .absent _ => fun _ cursor drafts last => drafts = [] ∧ last = cursor
  | .grow base step => fun before cursor drafts last =>
    ∃ found middle, Gives language start meaning base before cursor found middle ∧
      Grown (Gives language start meaning step) found middle drafts last
  | .onto kind body => fun before cursor drafts last =>
    ∃ children, Gives language start meaning body [] cursor children last ∧
      drafts = [.branch kind none (before ++ children)]
  | .only kinds body => fun before cursor drafts last =>
    ∃ draft, Gives language start meaning body before cursor [draft] last ∧
      kinds.contains draft.kind = true ∧ drafts = [draft]

end Rule

/-- What phrases give takes in whatever the rules of a grammar give at a place of a source. -/
def Grammar.Closed {Phrase : Type} (grammar : Grammar Phrase) (language : Language)
    (start : Cursor) (meaning : Meaning Phrase) : Prop :=
  ∀ phrase cursor drafts last, start.Reaches cursor →
    (grammar phrase).Gives language start meaning [] cursor drafts last →
      meaning phrase cursor drafts last

end CodeAtlas.Syntax
