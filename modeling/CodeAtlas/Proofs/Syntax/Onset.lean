import CodeAtlas.Proofs.Syntax.Meaning
import CodeAtlas.Proofs.Syntax.Rule
import CodeAtlas.Text.Blank

/-!
# How tokens begin

Most tokens begin with a character that is neither white space nor a colon, and no gap begins with
a colon. So if the first token of a rule is such a token, what the rule gives does not follow a
place where a colon stands, and its text is more than white space: `Rule.tells_of_gives`.
-/
namespace CodeAtlas.Syntax

open Cursor

/-- Whether a character is neither a colon nor white space. -/
def isOnset (char : Char) : Bool := char != ':' && !Text.isSpace char

/-! ## Recognizers -/

namespace Lexeme

/-- What a recognizer matches begins with a character of a class. -/
def Opens (accept : Char → Bool) (lexeme : Lexeme) : Prop :=
  ∀ cursor last, lexeme cursor = some last → startsWith cursor accept = true

variable {accept wider : Char → Bool} {first second : Lexeme} {cursor last : Cursor}

/-- A character of a class is one of a wider class. -/
theorem Opens.mono (opens : first.Opens accept)
    (wide : ∀ char, accept char = true → wider char = true) : first.Opens wider :=
  fun cursor last found => startsWith_mono (opens cursor last found) wide

/-- A character of a class begins with one. -/
theorem opens_char (accept : Char → Bool) : (char accept).Opens accept := by
  intro cursor last found
  unfold char at found
  split at found
  · assumption
  · contradiction

/-- Given characters begin with the first of them. -/
theorem opens_literal {text : String} (begins : text.toList.head?.any accept = true) :
    (literal text).Opens accept := by
  intro cursor last found
  unfold literal at found
  cases spelling : text.toList with
  | nil => simp [spelling] at begins
  | cons char chars =>
    rw [spelling] at begins found
    rw [literal?] at found
    split at found
    · rename_i here
      rw [startsWith, beq_iff_eq.mp here]
      exact begins
    · contradiction

/-- One recognizer and then another begin as the first does. -/
theorem Opens.then_ (opens : first.Opens accept) : (first.then_ second).Opens accept := by
  intro cursor last found
  obtain ⟨middle, left, _⟩ := Option.bind_eq_some_iff.mp found
  exact opens _ _ left

/-- Either of two recognizers begins as both do. -/
theorem Opens.orElse (left : first.Opens accept) (right : second.Opens accept) :
    (first.orElse second).Opens accept := by
  intro cursor last found
  rcases Option.or_eq_some_iff.mp found with found | ⟨_, found⟩
  · exact left _ _ found
  · exact right _ _ found

/-- The longer of two matches begins as both do. -/
theorem Opens.longer (left : first.Opens accept) (right : second.Opens accept) :
    (first.longer second).Opens accept := by
  intro cursor last found
  rw [Lexeme.longer] at found
  cases one : first cursor with
  | some near => exact left _ _ one
  | none =>
    rw [one] at found
    exact right _ _ (by simpa using found)

/-- What is matched and then changed begins as before. -/
theorem opens_map {change : Cursor → Cursor} (opens : first.Opens accept) :
    Lexeme.Opens accept fun cursor => (first cursor).map change := by
  intro cursor last found
  obtain ⟨middle, matched, _⟩ := Option.map_eq_some_iff.mp found
  exact opens _ _ matched

/-- Nothing is matched that would begin with another character. -/
theorem Opens.eq_none (opens : first.Opens accept) {char : Char} (here : cursor.at? char = true)
    (other : accept char = false) : first cursor = none := by
  cases found : first cursor with
  | none => rfl
  | some last =>
    have starts := opens _ _ found
    rw [startsWith, beq_iff_eq.mp here, Option.any_some, other] at starts
    contradiction

/-- Digits of a class begin with one. -/
theorem opens_digits (accept : Char → Bool) : (digits accept).Opens accept := by
  intro cursor last found
  unfold digits at found
  split at found
  · assumption
  · contradiction

/-- A number begins with a digit or a point. -/
theorem opens_number : number.Opens fun char => isDigit char || char = '.' := by
  have digit : (digits isDigit).Opens fun char => isDigit char || char = '.' :=
    (opens_digits isDigit).mono fun char found => by rw [found, Bool.true_or]
  have zero : (literal "0").Opens fun char => isDigit char || char = '.' :=
    opens_literal (by decide)
  have point : (literal ".").Opens fun char => isDigit char || char = '.' :=
    opens_literal (by decide)
  have whole : whole.Opens fun char => isDigit char || char = '.' :=
    digit.longer (zero.then_.longer (zero.then_.longer zero.then_))
  exact (digit.then_.longer point.then_).longer (whole.longer whole.then_)

/-- A string begins with a quote. -/
theorem opens_string : string.Opens fun char => char = '"' || char = '\x27' := by
  intro cursor last found
  unfold string at found
  split at found
  · rename_i here
    rw [startsWith, beq_iff_eq.mp here]
    rfl
  · split at found
    · rename_i here
      rw [startsWith, beq_iff_eq.mp here]
      rfl
    · contradiction

/-- A name begins with a character of names or a backslash. -/
theorem opens_name : name.Opens fun char => isNameStart char || char = '\\' := by
  intro cursor last found
  unfold name at found
  split at found
  · rename_i start
    rcases Option.or_eq_some_iff.mp start with plain | ⟨_, escaped⟩
    · exact startsWith_mono (opens_char _ _ _ plain) fun char found => by rw [found, Bool.true_or]
    · obtain ⟨middle, opening, _⟩ := Option.bind_eq_some_iff.mp escaped
      have backslash : (literal "\\u").Opens fun char => isNameStart char || char = '\\' :=
        opens_literal (by decide)
      exact backslash cursor middle opening
  · contradiction

/-- A comment begins with a slash. -/
theorem opens_comment : comment.Opens fun char => char = '/' := by
  have line : lineComment.Opens fun char => char = '/' :=
    opens_map (opens_literal (by decide) : (literal "//").Opens _)
  have block : blockComment.Opens fun char => char = '/' := by
    intro cursor last found
    obtain ⟨middle, opening, _⟩ := Option.bind_eq_some_iff.mp found
    exact (opens_literal (by decide) : (literal "/*").Opens _) _ _ opening
  exact line.orElse block

/-- A comment between angle brackets begins with one of them or a dash. -/
theorem opens_htmlComment : htmlComment.Opens fun char => char = '<' || char = '-' := by
  have opening : (literal "<!--").Opens fun char => char = '<' || char = '-' :=
    opens_literal (by decide)
  have closing : (literal "-->").Opens fun char => char = '<' || char = '-' :=
    opens_literal (by decide)
  exact opens_map (opening.orElse closing)

/-- A run of other characters takes nothing. -/
theorem run_eq_self {char : Char} (here : cursor.at? char = true) (other : accept char = false) :
    run cursor accept = cursor := by
  obtain ⟨rest, offset, row⟩ := cursor
  cases rest with
  | nil => rfl
  | cons glyph rest =>
    have stops : Glyph.isIn glyph accept = false := by
      rw [at?, char?] at here
      dsimp only at here
      split at here
      · contradiction
      · rw [Glyph.isIn, Option.some.inj (beq_iff_eq.mp here), other, Bool.and_false]
    rw [run, skipWhile, skipRun, stops]
    rfl

end Lexeme

/-- A character that is no colon and no white space is an onset. -/
theorem isOnset_of_not_isSpace {char : Char} (colon : char ≠ ':')
    (space : Text.isSpace char = false) : isOnset char = true := by
  rw [isOnset, space, Bool.not_false, Bool.and_true]
  exact bne_iff_ne.mpr colon

/-- A character of names is an onset. -/
theorem isOnset_of_isNameStart {char : Char} (start : isNameStart char = true) :
    isOnset char = true := by
  simp only [isNameStart, isBlank, Bool.and_eq_true, Bool.not_eq_true', Bool.or_eq_false_iff,
    decide_eq_true_eq, decide_eq_false_iff_not, Bool.and_eq_false_iff] at start
  have colon : char ≠ ':' := by
    rintro rfl
    exact absurd start.2 (by decide)
  refine isOnset_of_not_isSpace colon ?_
  simp only [Text.isSpace, Bool.or_eq_false_iff, Bool.and_eq_false_iff, decide_eq_false_iff_not]
  omega

/-- A digit is an onset. -/
theorem isOnset_of_isDigit {char : Char} (digit : isDigit char = true) : isOnset char = true := by
  simp only [isDigit, Bool.and_eq_true, decide_eq_true_eq, Char.le_def, UInt32.le_iff_toNat_le]
    at digit
  have colon : char ≠ ':' := by
    rintro rfl
    exact absurd digit.2 (by decide)
  refine isOnset_of_not_isSpace colon ?_
  have code : char.toNat = char.val.toNat := rfl
  have low : '0'.val.toNat = 48 := rfl
  have high : '9'.val.toNat = 57 := rfl
  simp only [Text.isSpace, Bool.or_eq_false_iff, Bool.and_eq_false_iff, decide_eq_false_iff_not,
    code]
  omega

/-! ## Tokens -/

namespace Terminal

open Lexeme

variable {language : Language} {cursor : Cursor} {terminal : Terminal} {token : Token}

/-- Whether the tokens of a terminal are known to begin with an onset. -/
def isOnset : Terminal → Bool
  | .mark text | .operator text => text.toList.head?.any Syntax.isOnset
  | .word _ | .number | .string => true
  | .name kind _ => kind != .insertedSemicolon
  | _ => false

/-- A given name begins with an onset. -/
theorem opens_exactName (accept : String → Bool) :
    (exactName accept).Opens Syntax.isOnset := by
  have named : Lexeme.name.Opens Syntax.isOnset := by
    refine opens_name.mono fun char found => ?_
    rcases Bool.or_eq_true_iff.mp found with start | escaped
    · exact isOnset_of_isNameStart start
    · obtain rfl := of_decide_eq_true escaped
      decide
  intro cursor last found
  unfold exactName at found
  split at found
  · rename_i middle matched
    exact named _ _ matched
  · contradiction

/-- A given operator begins with the first of its characters. -/
theorem opens_exactOperator {text : String}
    (begins : text.toList.head?.any Syntax.isOnset = true) :
    (exactOperator text).Opens Syntax.isOnset := by
  intro cursor last found
  unfold exactOperator at found
  split at found
  · rename_i operator middle matched
    split at found
    · rename_i same
      obtain ⟨mark, _, found⟩ := List.exists_of_findSome?_eq_some matched
      split at found
      · rename_i spelt
        split at found
        · contradiction
        · obtain ⟨rfl, rfl⟩ := Prod.mk.inj (Option.some.inj found)
          rw [beq_iff_eq.mp same] at spelt
          exact opens_literal begins _ _ spelt
      · contradiction
    · contradiction
  · contradiction

/-- No gap begins with a colon. -/
theorem gap_eq_of_at? (html : Bool) (bound : List Glyph) (here : cursor.at? ':' = true) :
    gap html bound cursor [] = ([], cursor) := by
  cases bound with
  | nil => rfl
  | cons glyph bound =>
    have noComment : comment cursor = none := opens_comment.eq_none here (by decide)
    have noHtml : htmlComment cursor = none := opens_htmlComment.eq_none here (by decide)
    rw [gap, run_eq_self here (by decide)]
    simp only [noComment, noHtml, ite_self]
    rfl

/-- A token as one that begins with an onset. -/
structure Begun (cursor : Cursor) (token : Token) : Prop where
  /-- The place where reading began holds no colon. -/
  unmarked : cursor.at? ':' = false
  /-- The token comes after it. -/
  reaches : cursor.Reaches token.first
  /-- It begins with an onset. -/
  onset : startsWith token.first Syntax.isOnset = true
  /-- It is written. -/
  written : token.kind ≠ .insertedSemicolon

/-- A token after a gap begins with an onset if it is one that does. -/
theorem begun_of_afterGap {gap : List Trivia × Cursor} {kind : Kind} {lexeme : Lexeme}
    (passed : cursor.Reaches gap.2) (stays : cursor.at? ':' = true → gap = ([], cursor))
    (opens : lexeme.Opens Syntax.isOnset) (read : afterGap gap kind lexeme = .ok token)
    (written : kind ≠ .insertedSemicolon) : Begun cursor token := by
  obtain ⟨last, found, rfl⟩ := exists_of_afterGap read
  have onset := opens _ _ found
  refine ⟨?_, passed, onset, written⟩
  -- At a colon there is no gap, so that the token would begin with the colon.
  cases here : cursor.at? ':' with
  | false => rfl
  | true =>
    rw [stays here, startsWith, beq_iff_eq.mp here] at onset
    contradiction

/-- Whatever is read of such a terminal begins with an onset. -/
theorem begun_of_read (solid : cursor.Solid) (onset : terminal.isOnset = true)
    (read : terminal.read language cursor = .ok token) : Begun cursor token := by
  have opened := (openGap_passed solid).reaches
  have closed := (closeGap_passed solid).reaches
  have openStays : cursor.at? ':' = true → openGap cursor = ([], cursor) :=
    gap_eq_of_at? true cursor.rest
  have closeStays : cursor.at? ':' = true → closeGap cursor = ([], cursor) :=
    gap_eq_of_at? false cursor.rest
  cases terminal with
  | mark text => exact begun_of_afterGap opened openStays (opens_literal onset) read (by rintro ⟨⟩)
  | operator text =>
    exact begun_of_afterGap closed closeStays (opens_exactOperator onset) read (by rintro ⟨⟩)
  | word text => exact begun_of_afterGap opened openStays (opens_exactName _) read (by rintro ⟨⟩)
  | name kind reserved =>
    exact begun_of_afterGap opened openStays (opens_exactName _) read (bne_iff_ne.mp onset)
  | number =>
    refine begun_of_afterGap opened openStays (opens_number.mono fun char found => ?_) read
      (by rintro ⟨⟩)
    rcases Bool.or_eq_true_iff.mp found with digit | point
    · exact isOnset_of_isDigit digit
    · obtain rfl := of_decide_eq_true point
      decide
  | string =>
    refine begun_of_afterGap opened openStays (opens_string.mono fun char found => ?_) read
      (by rintro ⟨⟩)
    rcases Bool.or_eq_true_iff.mp found with quote | quote
    all_goals
      obtain rfl := of_decide_eq_true quote
      decide
  | _ => contradiction

end Terminal

/-! ## Rules -/

namespace Draft

/-- A draft has an extent that begins at an offset. -/
def BeginsAt (offset : Nat) (draft : Draft) : Prop :=
  ∃ span, draft.span? = some span ∧ span.start = offset

variable {offset : Nat} {first : Draft} {rest : List Draft}

/-- A construct begins as its first part does. -/
theorem BeginsAt.branch (begins : first.BeginsAt offset) (kind : Kind) (field : Option Field) :
    (branch kind field (first :: rest)).BeginsAt offset := by
  obtain ⟨span, found, starts⟩ := begins
  rw [BeginsAt, span?, spanAll?, found]
  cases spanAll? rest with
  | none => exact ⟨span, rfl, starts⟩
  | some last => exact ⟨span.through last, rfl, starts⟩

/-- A draft in a place begins as the draft does. -/
theorem BeginsAt.inField (begins : first.BeginsAt offset) (field : Field) :
    (first.inField field).BeginsAt offset := by
  cases first <;> exact begins

/-- The tree of a draft begins as the draft does. -/
theorem BeginsAt.start_build (begins : first.BeginsAt offset) :
    first.build.span.start = offset := by
  obtain ⟨span, found, starts⟩ := begins
  cases first with
  | leaf kind field extent trivia =>
    obtain rfl := Option.some.inj found
    exact starts
  | branch kind field children =>
    have within : spanAll? children = some span := found
    rw [build, within]
    exact starts

end Draft

/-- Drafts that were given at a place where no colon stands begin with an onset behind it. -/
structure Started (start cursor : Cursor) (drafts : List Draft) : Prop where
  /-- The place holds no colon. -/
  unmarked : cursor.at? ':' = false
  /-- The first draft begins at a place with an onset, and is written. -/
  begins : ∃ first rest place, drafts = first :: rest ∧ first.kind ≠ .insertedSemicolon ∧
    first.BeginsAt place.offset ∧ start.Reaches place ∧ Lexeme.startsWith place isOnset = true

namespace Started

variable {start cursor : Cursor} {drafts : List Draft}

/-- Drafts that begin with an onset do so if others come after them. -/
theorem append (started : Started start cursor drafts) (others : List Draft) :
    Started start cursor (drafts ++ others) := by
  obtain ⟨unmarked, first, rest, place, rfl, other⟩ := started
  exact ⟨unmarked, first, rest ++ others, place, rfl, other⟩

/-- A construct of such drafts begins with an onset. -/
theorem branch (started : Started start cursor drafts) {kind : Kind}
    (written : kind ≠ .insertedSemicolon) : Started start cursor [.branch kind none drafts] := by
  obtain ⟨unmarked, first, rest, place, rfl, _, begins, other⟩ := started
  exact ⟨unmarked, _, [], place, rfl, written, begins.branch kind none, other⟩

/-- Such drafts in a place begin with an onset. -/
theorem inField (started : Started start cursor drafts) (field : Field) :
    Started start cursor (drafts.map (·.inField field)) := by
  obtain ⟨unmarked, first, rest, place, rfl, written, begins, other⟩ := started
  refine ⟨unmarked, _, _, place, rfl, ?_, begins.inField field, other⟩
  rwa [Draft.kind_inField]

end Started

namespace Opening

variable {start cursor middle last : Cursor} {first second opening : Opening}
  {left right drafts : List Draft}

/-- What is known of the onset of drafts that were given between two places. -/
def Tells (start cursor : Cursor) : Opening → List Draft → Cursor → Prop
  | .always, drafts, _ => Started start cursor drafts
  | .perhaps, drafts, last => Started start cursor drafts ∨ drafts = [] ∧ last = cursor
  | .unknown, _, _ => True

/-- What begins with an onset does so if it is there. -/
theorem Tells.perhaps (tells : always.Tells start cursor drafts last) :
    perhaps.Tells start cursor drafts last :=
  .inl tells

/-- What is known of both of two alternatives is known of the first. -/
theorem Tells.or_left (tells : first.Tells start cursor drafts last) :
    (first.or second).Tells start cursor drafts last := by
  cases first with
  | always =>
    cases second with
    | always => exact tells
    | perhaps => exact tells.perhaps
    | unknown => trivial
  | perhaps =>
    cases second with
    | always | perhaps => exact tells
    | unknown => trivial
  | unknown => trivial

/-- What is known of both of two alternatives is known of the second. -/
theorem Tells.or_right (tells : second.Tells start cursor drafts last) :
    (first.or second).Tells start cursor drafts last := by
  rw [or_comm]
  exact tells.or_left

/-- What is known of drafts is known of them if they may be missing. -/
theorem Tells.orNothing (tells : opening.Tells start cursor drafts last) :
    opening.orNothing.Tells start cursor drafts last := by
  cases opening with
  | always => exact tells.perhaps
  | perhaps | unknown => exact tells

/-- What may be missing is known of nothing. -/
theorem tells_nil (opening : Opening) : opening.orNothing.Tells start cursor [] cursor := by
  cases opening with
  | always | perhaps => exact .inr ⟨rfl, rfl⟩
  | unknown => trivial

/-- What is known of drafts and others after them. -/
theorem Tells.andThen (before : first.Tells start cursor left middle)
    (after : second.Tells start middle right last) :
    (first.andThen second).Tells start cursor (left ++ right) last := by
  cases first with
  | always => exact before.append right
  | perhaps =>
    rcases before with started | ⟨rfl, rfl⟩
    · cases second with
      | always => exact started.append right
      | perhaps => exact .inl (started.append right)
      | unknown => trivial
    · exact after
  | unknown => trivial

/-- What is known of drafts in a place is what was known of them. -/
theorem Tells.inField (tells : opening.Tells start cursor drafts last) (field : Field) :
    opening.Tells start cursor (drafts.map (·.inField field)) last := by
  cases opening with
  | always => exact Started.inField tells field
  | perhaps =>
    rcases tells with started | ⟨rfl, stays⟩
    · exact .inl (started.inField field)
    · exact .inr ⟨rfl, stays⟩
  | unknown => trivial

end Opening

namespace Rule

variable {Phrase : Type}

/-- Whether a rule only goes on from the nodes before it, with what is written, or gives
nothing. -/
def extends_ : Rule Phrase → Bool
  | .onto kind _ => kind != .insertedSemicolon
  | .seq first second => first.isSilent && second.extends_
  | .alt first second => first.extends_ && second.extends_
  | .done | .ahead _ | .absent _ => true
  | _ => false

/-- What a rule tells of the onset of what it gives; `opens` tells which phrases begin with one. -/
def onset (opens : Phrase → Bool) : Rule Phrase → Opening
  | .done | .ahead _ | .absent _ => .perhaps
  | .token terminal => if terminal.isOnset then .always else .unknown
  | .seq first second => (first.onset opens).andThen (second.onset opens)
  | .alt first second => (first.onset opens).or (second.onset opens)
  | .opt body | .many body => (body.onset opens).orNothing
  | .node kind body =>
    if body.onset opens = .always && kind != .insertedSemicolon then .always else .unknown
  | .ref phrase => if opens phrase then .always else .unknown
  | .grow base step =>
    if base.onset opens = .always && step.extends_ then .always else .unknown
  | .field _ body | .only _ body => body.onset opens
  | .onto _ _ => .unknown

variable {language : Language} {start : Cursor} {meaning : Meaning Phrase}

/-- What is silent gives nothing on the spot. -/
theorem nothing_of_gives {rule : Rule Phrase} (silent : rule.isSilent = true)
    {before drafts : List Draft} {cursor last : Cursor}
    (gives : rule.Gives language start meaning before cursor drafts last) :
    drafts = [] ∧ last = cursor := by
  induction rule generalizing cursor drafts last with
  | done | ahead | absent => exact gives
  | seq first second one two =>
    obtain ⟨left, middle, right, head, tail, rfl⟩ := gives
    rw [isSilent, Bool.and_eq_true] at silent
    obtain ⟨rfl, rfl⟩ := one silent.1 head
    exact two silent.2 tail
  | alt first second one two =>
    rw [isSilent, Bool.and_eq_true] at silent
    rcases gives with gives | gives
    · exact one silent.1 gives
    · exact two silent.2 gives
  | _ => contradiction

/-- A step gives nothing, or one construct that begins with what was there. -/
theorem extended_of_gives {rule : Rule Phrase} (step : rule.extends_ = true)
    {before drafts : List Draft} {cursor last : Cursor}
    (gives : rule.Gives language start meaning before cursor drafts last) :
    drafts = [] ∧ last = cursor ∨ ∃ kind others, kind ≠ .insertedSemicolon ∧
      drafts = [.branch kind none (before ++ others)] := by
  induction rule generalizing cursor drafts last with
  | done | ahead | absent => exact .inl gives
  | onto kind body =>
    obtain ⟨children, _, rfl⟩ := gives
    exact .inr ⟨kind, children, bne_iff_ne.mp step, rfl⟩
  | seq first second one two =>
    obtain ⟨left, middle, right, head, tail, rfl⟩ := gives
    rw [extends_, Bool.and_eq_true] at step
    obtain ⟨rfl, rfl⟩ := nothing_of_gives step.1 head
    exact two step.2 tail
  | alt first second one two =>
    rw [extends_, Bool.and_eq_true] at step
    rcases gives with gives | gives
    · exact one step.1 gives
    · exact two step.2 gives
  | _ => contradiction

/-- What grows of drafts begins as they do, if each step goes on from what is there. -/
theorem Grown.started {step : Rule Phrase} (extending : step.extends_ = true)
    {found drafts : List Draft} {cursor first last : Cursor} (started : Started start cursor found)
    (grown : Grown (step.Gives language start meaning) found first drafts last) :
    Started start cursor drafts := by
  induction grown with
  | none => exact started
  | more _ after further ih =>
    rcases extended_of_gives extending after with ⟨_, rfl⟩ | ⟨kind, others, written, rfl⟩
    · exact absurd further (Nat.lt_irrefl _)
    · exact (ih.append others).branch written

/-- What is given repeatedly begins as what is given once does, if it is there. -/
theorem Repeated.tells {opening : Opening} {once : Cursor → List Draft → Cursor → Prop}
    (each : ∀ cursor drafts last, once cursor drafts last →
      opening.Tells start cursor drafts last)
    {drafts : List Draft} {cursor last : Cursor} (repeated : Repeated once cursor drafts last) :
    opening.orNothing.Tells start cursor drafts last := by
  induction repeated with
  | none => exact Opening.tells_nil opening
  | more _ after ih =>
    have whole := ih.andThen (each _ _ _ after).orNothing
    cases opening <;> exact whole

/-- What a rule tells of the onset of what it gives is so. -/
theorem tells_of_gives (solid : start.Solid) {opens : Phrase → Bool}
    (opened : ∀ phrase cursor drafts last, opens phrase = true →
      meaning phrase cursor drafts last → Started start cursor drafts) (rule : Rule Phrase) :
    ∀ before cursor drafts last, rule.Gives language start meaning before cursor drafts last →
      (rule.onset opens).Tells start cursor drafts last := by
  induction rule with
  | done | ahead | absent =>
    rintro _ _ _ _ ⟨rfl, rfl⟩
    exact .inr ⟨rfl, rfl⟩
  | token terminal =>
    rintro _ _ _ _ ⟨placed, token, read, rfl, rfl⟩
    rw [onset]
    split
    · rename_i begins
      have begun := Terminal.begun_of_read (placed.solid solid) begins read
      exact ⟨begun.unmarked, _, [], token.first, rfl, begun.written, ⟨_, rfl, rfl⟩,
        placed.trans begun.reaches, begun.onset⟩
    · trivial
  | seq first second one two =>
    rintro _ _ _ _ ⟨left, middle, right, head, tail, rfl⟩
    exact (one _ _ _ _ head).andThen (two _ _ _ _ tail)
  | alt first second one two =>
    rintro _ _ _ _ (gives | gives)
    · exact (one _ _ _ _ gives).or_left
    · exact (two _ _ _ _ gives).or_right
  | opt body ih =>
    rintro _ _ _ _ (gives | ⟨rfl, rfl⟩)
    · exact (ih _ _ _ _ gives).orNothing
    · exact Opening.tells_nil _
  | many body ih => exact fun before _ _ _ repeated => repeated.tells (ih before)
  | node kind body ih =>
    rintro _ _ _ _ ⟨children, gives, rfl⟩
    rw [onset]
    split
    · rename_i begins
      simp only [Bool.and_eq_true, decide_eq_true_eq, bne_iff_ne] at begins
      have started := ih _ _ _ _ gives
      rw [begins.1] at started
      exact started.branch begins.2
    · trivial
  | field place body ih =>
    rintro _ _ _ _ ⟨inner, gives, rfl⟩
    exact (ih _ _ _ _ gives).inField place
  | ref phrase =>
    intro _ _ _ _ gives
    rw [onset]
    split
    · exact opened _ _ _ _ ‹_› gives
    · trivial
  | grow base step one _ =>
    rintro _ _ _ _ ⟨found, middle, gives, grown⟩
    rw [onset]
    split
    · rename_i begins
      simp only [Bool.and_eq_true, decide_eq_true_eq] at begins
      have started := one _ _ _ _ gives
      rw [begins.1] at started
      exact grown.started begins.2 started
    · trivial
  | onto => exact fun _ _ _ _ _ => trivial
  | only kinds body ih =>
    rintro _ _ _ _ ⟨draft, gives, _, rfl⟩
    exact ih _ _ _ _ gives

end Rule

end CodeAtlas.Syntax
