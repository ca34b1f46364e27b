import CodeAtlas.Proofs.Syntax.Meaning
import CodeAtlas.Proofs.Syntax.Terminal

/-!
# Reading rules

Whatever was remembered while a source is read, a rule is read to drafts that it gives
(`Rule.read_follows`). So a grammar reads each phrase to what it means, for every meaning that is
closed under the grammar: `Grammar.read_faithful`.
-/
namespace CodeAtlas.Syntax

namespace Rule

variable {Phrase : Type} [BEq Phrase] {language : Language} {start : Cursor}
  {meaning : Meaning Phrase}

/-! ## What is remembered -/

/-- What is remembered of phrases is what they mean. -/
def Memory.Sound (start : Cursor) (meaning : Meaning Phrase) (memory : Memory Phrase) : Prop :=
  ∀ phrase cursor drafts last, start.Reaches cursor →
    memory.get? phrase cursor.offset = some (some (drafts, last)) →
      start.Reaches last ∧ meaning phrase cursor drafts last

/-- Reading left sound memory, and what was read is good and up to a place of the source. -/
structure Outcome (start : Cursor) (meaning : Meaning Phrase) (good : List Draft → Cursor → Prop)
    (outcome : Option (List Draft × Cursor) × Memory Phrase) : Prop where
  /-- The memory is sound. -/
  sound : outcome.2.Sound start meaning
  /-- What was read is good. -/
  good : ∀ drafts last, outcome.1 = some (drafts, last) → start.Reaches last ∧ good drafts last

variable {memory : Memory Phrase} {good : List Draft → Cursor → Prop}

/-- A failure leaves sound memory. -/
theorem Outcome.none (sound : memory.Sound start meaning) :
    Outcome start meaning good (none, memory) :=
  ⟨sound, by rintro _ _ ⟨⟩⟩

/-- A success leaves sound memory and gives something good. -/
theorem Outcome.some {drafts : List Draft} {last : Cursor} (sound : memory.Sound start meaning)
    (placed : start.Reaches last) (fits : good drafts last) :
    Outcome start meaning good (some (drafts, last), memory) :=
  ⟨sound, by rintro _ _ ⟨⟩; exact ⟨placed, fits⟩⟩

/-- Reading failed, or it gave something good; the memory is sound either way. -/
theorem Outcome.cases {outcome : Option (List Draft × Cursor) × Memory Phrase}
    (reading : Outcome start meaning good outcome) :
    (∃ after, outcome = (Option.none, after) ∧ after.Sound start meaning) ∨
      ∃ drafts last after, outcome = (Option.some (drafts, last), after) ∧
        after.Sound start meaning ∧ start.Reaches last ∧ good drafts last := by
  obtain ⟨_ | ⟨drafts, last⟩, after⟩ := outcome
  · exact .inl ⟨after, rfl, reading.sound⟩
  · exact .inr ⟨drafts, last, after, rfl, reading.sound, reading.good drafts last rfl⟩

/-- What is read is good, and so is better. -/
theorem Outcome.imp {better : List Draft → Cursor → Prop}
    {outcome : Option (List Draft × Cursor) × Memory Phrase}
    (reading : Outcome start meaning good outcome)
    (weaken : ∀ drafts last, good drafts last → better drafts last) :
    Outcome start meaning better outcome :=
  ⟨reading.sound, fun drafts last found => (reading.good drafts last found).imp_right (weaken _ _)⟩

/-- A token that fitted no rule is no matter to what is remembered of phrases. -/
theorem Memory.Sound.note (sound : memory.Sound start meaning) (stop : Stop) :
    (memory.note stop).Sound start meaning := by
  unfold Memory.note
  split
  · split <;> exact sound
  · exact sound

/-- Nothing is remembered at first. -/
theorem Memory.Sound.empty : Memory.Sound start meaning ⟨∅, none⟩ := by
  rintro phrase cursor drafts last _ ⟨⟩

/-- What a phrase read is remembered of it there, and of all others what was. -/
theorem Memory.get?_insert (memory : Memory Phrase) (phrase name : Phrase) (offset place : Nat)
    (found : Option (List Draft × Cursor)) :
    (memory.insert phrase offset found).get? name place =
      if offset = place ∧ name == phrase then Option.some found else memory.get? name place := by
  unfold Memory.get? Memory.insert
  rw [Std.TreeMap.getD_insert]
  by_cases here : offset = place
  · subst here
    rw [if_pos (Nat.compare_eq_eq.mpr rfl), List.lookup_cons]
    cases name == phrase <;> simp
  · rw [if_neg (by simpa using here), if_neg (by simp [here])]

/-- What a phrase means at a place may be remembered of it. -/
theorem Memory.Sound.insert [LawfulBEq Phrase] (solid : start.Solid)
    (sound : memory.Sound start meaning) {phrase : Phrase} {cursor : Cursor}
    (placed : start.Reaches cursor) {result : Option (List Draft × Cursor)}
    (found : ∀ drafts last, result = Option.some (drafts, last) →
      start.Reaches last ∧ meaning phrase cursor drafts last) :
    (memory.insert phrase cursor.offset result).Sound start meaning := by
  intro name place drafts last reached remembered
  rw [Memory.get?_insert] at remembered
  split at remembered
  · rename_i both
    obtain rfl := placed.eq_of_offset_eq solid reached both.1
    obtain rfl := eq_of_beq both.2
    exact found drafts last (Option.some.inj remembered)
  · exact sound name place drafts last reached remembered

/-! ## What is read -/

variable (start meaning) in
/-- A reader of phrases reads what they mean. -/
def Faithful (phrase : Phrase → Reader Phrase) : Prop :=
  ∀ name openings before cursor (memory : Memory Phrase), start.Reaches cursor →
    memory.Sound start meaning →
      Outcome start meaning (meaning name cursor) (phrase name openings before cursor memory)

variable (language start meaning) in
/-- A reader gives what a rule gives. -/
def Follows (rule : Rule Phrase) (reader : Reader Phrase) : Prop :=
  ∀ openings before cursor (memory : Memory Phrase), start.Reaches cursor →
    memory.Sound start meaning →
      Outcome start meaning (Gives language start meaning rule before cursor)
        (reader openings before cursor memory)

variable {body : Rule Phrase} {reader : Reader Phrase}

/-- What a reader that follows a rule reads as often as it fits is given repeatedly. -/
theorem Follows.readMany (follows : Follows language start meaning body reader) {origin : Cursor}
    (bound : List Glyph) (openings : List Open) (before : List Draft) {cursor : Cursor}
    {found : List Draft} (placed : start.Reaches cursor)
    (given : Repeated (Gives language start meaning body before) origin found cursor)
    (sound : memory.Sound start meaning) :
    Outcome start meaning (Repeated (Gives language start meaning body before) origin)
      (readMany reader bound found openings before cursor memory) := by
  induction bound generalizing found cursor memory with
  | nil =>
    obtain ⟨after, failed, sound⟩ | ⟨drafts, last, after, read, sound, further, more⟩ :=
      (follows openings before cursor memory placed sound).cases
    · rw [Rule.readMany, failed]
      exact .some sound placed given
    · rw [Rule.readMany, read]
      dsimp only
      split
      · exact .some sound further (given.more more)
      · exact .some sound placed given
  | cons glyph bound ih =>
    obtain ⟨after, failed, sound⟩ | ⟨drafts, last, after, read, sound, further, more⟩ :=
      (follows openings before cursor memory placed sound).cases
    · rw [Rule.readMany, failed]
      exact .some sound placed given
    · rw [Rule.readMany, read]
      dsimp only
      split
      · exact ih further (given.more more) sound
      · exact .some sound placed given

/-- What a reader that follows a rule goes on to as often as it fits is grown. -/
theorem Follows.readGrowing (follows : Follows language start meaning body reader)
    {base : List Draft} {origin : Cursor} (bound : List Glyph) (openings : List Open)
    {cursor : Cursor} {drafts : List Draft} (placed : start.Reaches cursor)
    (grown : Grown (Gives language start meaning body) base origin drafts cursor)
    (sound : memory.Sound start meaning) :
    Outcome start meaning (Grown (Gives language start meaning body) base origin)
      (readGrowing reader bound drafts openings cursor memory) := by
  induction bound generalizing drafts cursor memory with
  | nil =>
    obtain ⟨after, failed, sound⟩ | ⟨others, last, after, read, sound, reached, more⟩ :=
      (follows openings drafts cursor memory placed sound).cases
    · rw [Rule.readGrowing, failed]
      exact .some sound placed grown
    · rw [Rule.readGrowing, read]
      dsimp only
      split
      · rename_i further
        exact .some sound reached (grown.more more further)
      · exact .some sound placed grown
  | cons glyph bound ih =>
    obtain ⟨after, failed, sound⟩ | ⟨others, last, after, read, sound, reached, more⟩ :=
      (follows openings drafts cursor memory placed sound).cases
    · rw [Rule.readGrowing, failed]
      exact .some sound placed grown
    · rw [Rule.readGrowing, read]
      dsimp only
      split
      · rename_i further
        exact ih reached (grown.more more further) sound
      · exact .some sound placed grown

/-- A token is read to what it gives. -/
theorem follows_token (solid : start.Solid) (phrase : Phrase → Reader Phrase)
    (terminal : Terminal) :
    Follows language start meaning (.token terminal) ((token terminal).read language phrase) := by
  intro openings before cursor memory placed sound
  rw [read, readToken]
  split
  · rename_i found token
    have reached := Terminal.read_reaches (placed.solid solid) token
    exact .some sound (placed.trans reached) ⟨placed, found, token, rfl, rfl⟩
  · exact .none (sound.note _)

/-- A rule is read to what it gives. -/
theorem read_follows (solid : start.Solid) {phrase : Phrase → Reader Phrase}
    (faithful : Faithful start meaning phrase) (rule : Rule Phrase) :
    Follows language start meaning rule (rule.read language phrase) := by
  induction rule with
  | done =>
    intro openings before cursor memory placed sound
    rw [read_done]
    exact .some sound placed ⟨rfl, rfl⟩
  | token terminal => exact follows_token solid phrase terminal
  | seq first second one two =>
    intro openings before cursor memory placed sound
    obtain ⟨after, failed, sound⟩ | ⟨left, middle, after, found, sound, reached, given⟩ :=
      (one openings before cursor memory placed sound).cases
    · simp only [read, failed]
      exact .none sound
    obtain ⟨after, failed, sound⟩ | ⟨right, last, after, more, sound, further, also⟩ :=
      (two openings before middle after reached sound).cases
    · simp only [read, found, failed]
      exact .none sound
    · simp only [read, found, more]
      exact .some sound further ⟨left, middle, right, given, also, rfl⟩
  | alt first second one two =>
    intro openings before cursor memory placed sound
    obtain ⟨after, failed, sound⟩ | ⟨drafts, last, after, found, sound, reached, given⟩ :=
      (one openings before cursor memory placed sound).cases
    · simp only [read, failed]
      exact (two openings before cursor after placed sound).imp fun _ _ => .inr
    · simp only [read, found]
      exact .some sound reached (.inl given)
  | opt body ih =>
    intro openings before cursor memory placed sound
    obtain ⟨after, failed, sound⟩ | ⟨drafts, last, after, found, sound, reached, given⟩ :=
      (ih openings before cursor memory placed sound).cases
    · simp only [read, failed]
      exact .some sound placed (.inr ⟨rfl, rfl⟩)
    · simp only [read, found]
      exact .some sound reached (.inl given)
  | many body ih =>
    exact fun openings before cursor _ placed sound =>
      ih.readMany cursor.rest openings before placed .none sound
  | node kind body ih =>
    intro openings before cursor memory placed sound
    obtain ⟨after, failed, sound⟩ | ⟨drafts, last, after, found, sound, reached, given⟩ :=
      (ih (⟨kind, (Terminal.openGap cursor).2⟩ :: openings) before cursor memory placed
        sound).cases
    · simp only [read, failed]
      exact .none sound
    · simp only [read, found]
      exact .some sound reached ⟨drafts, given, rfl⟩
  | field place body ih =>
    intro openings before cursor memory placed sound
    obtain ⟨after, failed, sound⟩ | ⟨drafts, last, after, found, sound, reached, given⟩ :=
      (ih openings before cursor memory placed sound).cases
    · simp only [read, failed]
      exact .none sound
    · simp only [read, found]
      exact .some sound reached ⟨drafts, given, rfl⟩
  | ref name =>
    exact fun openings _ cursor memory placed sound =>
      faithful name openings [] cursor memory placed sound
  | ahead body ih =>
    intro openings before cursor memory placed sound
    obtain ⟨after, failed, sound⟩ | ⟨drafts, last, after, found, sound, _⟩ :=
      (ih openings before cursor memory placed sound).cases
    · simp only [read, failed]
      exact .none sound
    · simp only [read, found]
      exact .some sound placed ⟨rfl, rfl⟩
  | absent body ih =>
    intro openings before cursor memory placed sound
    obtain ⟨after, failed, sound⟩ | ⟨drafts, last, after, found, sound, _⟩ :=
      (ih openings before cursor memory placed sound).cases
    · simp only [read, failed]
      exact .some sound placed ⟨rfl, rfl⟩
    · simp only [read, found]
      exact .none sound
  | grow base step one two =>
    intro openings before cursor memory placed sound
    obtain ⟨after, failed, sound⟩ | ⟨drafts, middle, after, found, sound, reached, given⟩ :=
      (one openings before cursor memory placed sound).cases
    · simp only [read, failed]
      exact .none sound
    · simp only [read, found]
      exact (two.readGrowing middle.rest openings reached .none sound).imp fun _ _ grown =>
        ⟨drafts, middle, given, grown⟩
  | onto kind body ih =>
    intro openings before cursor memory placed sound
    obtain ⟨after, failed, sound⟩ | ⟨drafts, last, after, found, sound, reached, given⟩ :=
      (ih (⟨kind, cursor⟩ :: openings) [] cursor memory placed sound).cases
    · simp only [read, failed]
      exact .none sound
    · simp only [read, found]
      exact .some sound reached ⟨drafts, given, rfl⟩
  | only kinds body ih =>
    intro openings before cursor memory placed sound
    obtain ⟨after, failed, sound⟩ | ⟨drafts, last, after, found, sound, reached, given⟩ :=
      (ih openings before cursor memory placed sound).cases
    · simp only [read, failed]
      exact .none sound
    · rcases drafts with _ | ⟨draft, _ | ⟨next, drafts⟩⟩
      · simp only [read, found]
        exact .none sound
      · simp only [read, found]
        split
        · rename_i accepted
          exact .some sound reached ⟨draft, given, accepted, rfl⟩
        · exact .none sound
      · simp only [read, found]
        exact .none sound

end Rule

open Rule

namespace Grammar

variable {Phrase : Type} [BEq Phrase] [LawfulBEq Phrase] {grammar : Grammar Phrase}
  {language : Language} {start : Cursor} {meaning : Meaning Phrase}

/-- The phrases of a grammar are read to what they mean. -/
theorem read_faithful (solid : start.Solid) (closed : grammar.Closed language start meaning)
    (fuel : Nat) : Faithful start meaning (grammar.read language fuel) := by
  induction fuel with
  | zero => exact fun _ _ _ _ _ _ held => .none held
  | succ fuel ih =>
    intro phrase openings before cursor memory placed held
    rw [read]
    dsimp only
    split
    · rename_i known remembered
      exact ⟨held, fun drafts last found => held _ _ _ _ placed (found ▸ remembered)⟩
    · have follows : Follows language start meaning (grammar phrase) _ :=
        read_follows solid ih (grammar phrase)
      have reading := follows openings [] cursor memory placed held
      generalize (grammar phrase).read _ _ openings [] cursor memory = outcome at reading ⊢
      obtain ⟨result, after⟩ := outcome
      have found : ∀ drafts last, result = some (drafts, last) →
          start.Reaches last ∧ meaning phrase cursor drafts last := fun drafts last result =>
        (reading.good drafts last result).imp_right (closed phrase cursor drafts last placed)
      exact ⟨reading.sound.insert solid placed found, found⟩

end Grammar

end CodeAtlas.Syntax
