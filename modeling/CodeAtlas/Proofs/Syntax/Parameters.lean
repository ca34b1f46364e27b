import CodeAtlas.Proofs.Syntax.Onset
import CodeAtlas.Proofs.Syntax.Parse
import CodeAtlas.Proofs.Syntax.Parts

/-!
# Lists of parameters

What stands in the place of parameters is a list of them. In typed sources each is a construct
around its pattern, in untyped ones it is the pattern, or a construct of the pattern and its
default. A source without a syntax error has lists of this form throughout:
`builds_of_mem_preorder`.
-/
namespace CodeAtlas.Syntax

open Draft

/-- The kinds of what one value can be bound to. -/
def targetKinds : List Kind :=
  [.identifier, .undefined, .objectPattern, .arrayPattern, .memberExpression, .subscriptExpression,
    .nonNullExpression]

/-! ## Forms of drafts -/

namespace Draft

/-- A pattern: what one value can be bound to, or dots before what the others are bound to. -/
inductive IsPattern : Draft → Prop where
  /-- What one value can be bound to. -/
  | target {draft : Draft} (kind : draft.kind ∈ targetKinds) : IsPattern draft
  /-- Dots before what the values that are left can be bound to. -/
  | rest {field : Option Field} {dots target : Draft} (mark : dots.kind = .symbol "...")
      (kind : target.kind ∈ targetKinds) : IsPattern (.branch .restPattern field [dots, target])

/-- A type after a colon, which is no colon itself. -/
inductive IsAscription (start : Cursor) : Draft → Prop where
  /-- The colon and the type. -/
  | mk {field : Option Field} {trivia : List Trivia} {colon : Cursor} {type : List Draft}
      (placed : start.Reaches colon) (here : colon.at? ':' = true)
      (started : Started start colon.next type) :
      IsAscription start (.branch .typeAscription field
        (.leaf (.symbol ":") none (colon.spanTo colon.next) trivia :: type))

/-- What a construct around a pattern has in the places of the pattern and of its type. -/
structure Wraps (start : Cursor) (part : Draft) : Prop where
  /-- The pattern, which may be the word for the object itself. -/
  pattern : part.place = some .pattern → part.IsPattern ∨ part.kind = .this
  /-- The type. -/
  type : part.place = some .type → part.IsAscription start

/-- A parameter in a list. -/
inductive IsParameter (language : Language) (start : Cursor) : Draft → Prop where
  /-- A construct around the pattern. -/
  | wrapped {kind : Kind} {parts : List Draft} (typed : language.typed = true)
      (wraps : kind = .requiredParameter ∨ kind = .optionalParameter)
      (each : ∀ part ∈ parts, part.Wraps start)
      (pattern : ∃ part ∈ parts, part.place = some .pattern ∧ part.kind ≠ .insertedSemicolon) :
      IsParameter language start (.branch kind none parts)
  /-- The pattern with a default. -/
  | defaulted {parts : List Draft} (untyped : language.typed = false)
      (each : ∀ part ∈ parts, part.place = some .left → part.IsPattern)
      (pattern : ∃ part ∈ parts, part.place = some .left ∧ part.kind ≠ .insertedSemicolon) :
      IsParameter language start (.branch .assignmentPattern none parts)
  /-- The pattern. -/
  | bare {draft : Draft} (untyped : language.typed = false) (pattern : draft.IsPattern) :
      IsParameter language start draft

/-- What stands in the place of parameters is a list of them, and a single parameter is a name,
but for what is caught. -/
structure IsListing (language : Language) (start : Cursor) (draft : Draft) : Prop where
  /-- What stands in the place of parameters is a list. -/
  listed : draft.place = some .parameters → draft.kind = .formalParameters
  /-- A list has parameters, besides its marks. -/
  parameters : draft.kind = .formalParameters →
    ∀ part ∈ draft.children, part.kind.isNamed = true → part.IsParameter language start
  /-- A single parameter is a name, but for what is caught. -/
  single : draft.kind ≠ .catchClause →
    ∀ part ∈ draft.children, part.place = some .parameter → part.kind = .identifier

/-- Lists of parameters are as they should be in a draft, and it is a name if it stands in the place
of a single parameter, where nothing is caught. -/
structure Lists (language : Language) (start : Cursor) (caught : Bool) (draft : Draft) : Prop where
  /-- Lists are as they should be. -/
  throughout : draft.Throughout (IsListing language start)
  /-- A single parameter is a name. -/
  single : caught = false → draft.place = some .parameter → draft.kind = .identifier

variable {language : Language} {start : Cursor} {caught : Bool} {draft : Draft}

/-- A pattern is one in any place. -/
theorem IsPattern.inField (pattern : draft.IsPattern) (place : Field) :
    (draft.inField place).IsPattern := by
  cases pattern with
  | target kind => exact .target (by rwa [kind_inField])
  | rest mark kind => exact .rest mark kind

/-- A type after a colon is one in any place. -/
theorem IsAscription.inField (ascription : draft.IsAscription start) (place : Field) :
    (draft.inField place).IsAscription start := by
  cases ascription with
  | mk placed here started => exact .mk placed here started

/-- A pattern is written. -/
theorem IsPattern.written (pattern : draft.IsPattern) : draft.kind ≠ .insertedSemicolon := by
  cases pattern with
  | target kind =>
    intro same
    rw [same] at kind
    exact absurd kind (by decide)
  | rest => rintro ⟨⟩

/-- A draft is a listing in a place if it is one and the place fits. -/
theorem IsListing.inField (listing : draft.IsListing language start) {place : Field}
    (fits : place = .parameters → draft.kind = .formalParameters) :
    (draft.inField place).IsListing language start where
  listed := by
    rw [place_inField, kind_inField]
    exact fun same => fits (Option.some.inj same)
  parameters := by
    rw [kind_inField, children_inField]
    exact listing.parameters
  single := by
    rw [kind_inField, children_inField]
    exact listing.single

/-- A draft has its lists in a place that fits. -/
theorem Lists.inField (lists : draft.Lists language start caught) {place : Field}
    (fits : place = .parameters → draft.kind = .formalParameters)
    (single : caught = false → place = .parameter → draft.kind = .identifier) :
    (draft.inField place).Lists language start caught where
  throughout := lists.throughout.inField (lists.throughout.here.inField fits)
  single plain := by
    rw [place_inField, kind_inField]
    exact fun same => single plain (Option.some.inj same)

/-- A construct of parts with their lists has its lists, unless it is one itself. -/
theorem lists_branch {kind : Kind} {parts : List Draft}
    (each : ∀ part ∈ parts, part.Lists language start (kind == .catchClause))
    (other : kind ≠ .formalParameters) : (branch kind none parts).Lists language start caught where
  throughout := by
    refine ⟨⟨by rintro ⟨⟩, fun same => absurd same other, fun plain part member => ?_⟩,
      throughoutAll_iff.mpr fun part member => (each part member).throughout⟩
    exact (each part member).single (beq_eq_false_iff_ne.mpr plain)
  single _ := by rintro ⟨⟩

/-- A token has no list in it. -/
theorem lists_ofToken {terminal : Terminal} {cursor : Cursor} {token : Terminal.Token}
    (read : terminal.read language cursor = .ok token) :
    (ofToken token).Lists language start caught where
  throughout := ⟨⟨by rintro ⟨⟩, fun _ => List.forall_mem_nil _, fun _ => List.forall_mem_nil _⟩,
    Terminal.isComment_of_read read⟩
  single _ := by rintro ⟨⟩

end Draft

/-! ## Rules -/

namespace Rule

/-- Whether a rule may stand in a place: nothing but a list in that of parameters, and nothing but a
name in that of a single parameter, unless it is `caught`. -/
def mayStand (caught : Bool) : Field → Rule Phrase → Bool
  | .parameters, .ref phrase => phrase = .formalParameters
  | .parameters, _ => false
  | .parameter, .token (.name kind _) => caught || kind = .identifier
  | .parameter, _ => caught
  | _, _ => true

/-- Whether a rule puts into places only what may stand there. -/
def lists (caught : Bool) : Rule Phrase → Bool
  | .done | .token _ | .ref _ | .ahead _ | .absent _ => true
  | .seq first second | .alt first second => first.lists caught && second.lists caught
  | .opt body | .many body | .only _ body => body.lists caught
  | .grow base step => base.lists false && step.lists false
  | .node kind body | .onto kind body =>
    kind != .formalParameters && body.lists (kind == .catchClause)
  | .field place body => body.lists caught && mayStand caught place body

/-- What may stand in the place of parameters is a list. -/
theorem eq_ref_of_mayStand {caught : Bool} {body : Rule Phrase}
    (fits : mayStand caught .parameters body = true) : body = .ref .formalParameters := by
  unfold mayStand at fits
  split at fits
  · exact congrArg Rule.ref (of_decide_eq_true fits)
  all_goals contradiction

/-- What may stand in the place of a single parameter is a name. -/
theorem exists_name_of_mayStand {body : Rule Phrase}
    (fits : mayStand false .parameter body = true) :
    ∃ reserved, body = .token (.name .identifier reserved) := by
  unfold mayStand at fits
  split at fits
  · contradiction
  · contradiction
  · rename_i kind reserved _
    exact ⟨reserved, by rw [of_decide_eq_true fits]⟩
  all_goals contradiction

variable {language : Language} {start : Cursor} {meaning : Meaning Phrase}

/-- A name is read as one. -/
theorem kind_of_read_name {kind : Kind} {reserved : Reserved} {cursor : Cursor}
    {token : Terminal.Token}
    (read : (Terminal.name kind reserved).read language cursor = .ok token) :
    token.kind = kind := by
  obtain ⟨last, _, rfl⟩ := Terminal.exists_of_afterGap read
  rfl

/-- A mark is read as one. -/
theorem kind_of_read_mark {text : String} {cursor : Cursor} {token : Terminal.Token}
    (read : (Terminal.mark text).read language cursor = .ok token) :
    token.kind = .symbol text := by
  obtain ⟨last, _, rfl⟩ := Terminal.exists_of_afterGap read
  rfl

/-- What a rule of lists gives has its lists, if what phrases give has. -/
theorem lists_of_gives
    (known : ∀ phrase cursor drafts last, meaning phrase cursor drafts last →
      ∀ draft ∈ drafts, draft.Lists language start false)
    (formal : ∀ cursor drafts last, meaning .formalParameters cursor drafts last →
      ∀ draft ∈ drafts, draft.kind = .formalParameters) (rule : Rule Phrase) :
    ∀ caught, rule.lists caught = true → ∀ before cursor drafts last,
      (∀ draft ∈ before, draft.Lists language start false) →
      rule.Gives language start meaning before cursor drafts last →
        ∀ draft ∈ drafts, draft.Lists language start caught := by
  -- The parts of a construct are given before the construct is, so that a rule has to be told
  -- whether it gives the parts of what is caught.
  induction rule with
  | done | ahead | absent =>
    rintro _ _ _ _ _ _ _ ⟨rfl, _⟩
    exact List.forall_mem_nil _
  | token terminal =>
    rintro _ _ _ _ _ _ _ ⟨_, token, read, rfl, _⟩
    exact List.forall_mem_singleton.mpr (lists_ofToken read)
  | seq first second one two =>
    rintro caught lists before _ _ _ prior ⟨left, middle, right, head, tail, rfl⟩
    rw [Rule.lists, Bool.and_eq_true] at lists
    exact List.forall_mem_append.mpr
      ⟨one _ lists.1 _ _ _ _ prior head, two _ lists.2 _ _ _ _ prior tail⟩
  | alt first second one two =>
    rintro caught lists before _ _ _ prior (gives | gives)
    all_goals rw [Rule.lists, Bool.and_eq_true] at lists
    · exact one _ lists.1 _ _ _ _ prior gives
    · exact two _ lists.2 _ _ _ _ prior gives
  | opt body ih =>
    rintro caught lists before _ _ _ prior (gives | ⟨rfl, _⟩)
    · exact ih _ lists _ _ _ _ prior gives
    · exact List.forall_mem_nil _
  | many body ih =>
    intro caught lists before _ _ _ prior repeated
    exact repeated.forall_mem fun _ _ _ => ih _ lists _ _ _ _ prior
  | node kind body ih =>
    rintro caught lists before _ _ _ prior ⟨children, gives, rfl⟩
    rw [Rule.lists, Bool.and_eq_true, bne_iff_ne] at lists
    exact List.forall_mem_singleton.mpr
      (lists_branch (ih _ lists.2 _ _ _ _ prior gives) lists.1)
  | field place body ih =>
    rintro caught lists before cursor _ last prior ⟨inner, gives, rfl⟩
    rw [Rule.lists, Bool.and_eq_true] at lists
    refine List.forall_mem_map.mpr fun draft member =>
      (ih _ lists.1 _ _ _ _ prior gives draft member).inField ?_ ?_
    · rintro rfl
      obtain rfl := eq_ref_of_mayStand lists.2
      exact formal _ _ _ gives draft member
    · rintro rfl rfl
      obtain ⟨reserved, rfl⟩ := exists_name_of_mayStand lists.2
      obtain ⟨_, token, read, rfl, _⟩ := gives
      obtain rfl := List.mem_singleton.mp member
      exact kind_of_read_name read
  | ref phrase =>
    intro caught _ _ _ _ _ _ gives draft member
    have parts := known _ _ _ _ gives draft member
    exact ⟨parts.throughout, fun _ => parts.single rfl⟩
  | grow base step one two =>
    rintro caught lists before _ drafts _ prior ⟨found, middle, gives, grown⟩ draft member
    rw [Rule.lists, Bool.and_eq_true] at lists
    have parts : ∀ draft ∈ drafts, draft.Lists language start false :=
      grown.forall_mem (one _ lists.1 _ _ _ _ prior gives) fun _ _ _ _ => two _ lists.2 _ _ _ _
    exact ⟨(parts draft member).throughout, fun _ => (parts draft member).single rfl⟩
  | onto kind body ih =>
    rintro caught lists before _ _ _ prior ⟨children, gives, rfl⟩
    rw [Rule.lists, Bool.and_eq_true, bne_iff_ne] at lists
    refine List.forall_mem_singleton.mpr (lists_branch (List.forall_mem_append.mpr
      ⟨fun part member => ?_, ih _ lists.2 _ _ _ _ (List.forall_mem_nil _) gives⟩) lists.1)
    exact ⟨(prior part member).throughout, fun _ => (prior part member).single rfl⟩
  | only kinds body ih =>
    rintro caught lists before _ _ _ prior ⟨draft, gives, _, rfl⟩
    exact ih _ lists _ _ _ _ prior gives

end Rule

/-! ## Phrases -/

/-- Whether a phrase is one of types or of a list in brackets, which begin with an onset. -/
def Phrase.isOnset : Phrase → Bool
  | .type _ | .typeUnion _ | .typeOperand _ | .typePostfix _ | .typePrimary | .objectType
  | .typeParameters | .formalParameters => true
  | _ => false

/-- The forms of what phrases give. -/
structure Shaped (language : Language) (start : Cursor) (phrase : Phrase) (cursor : Cursor)
    (drafts : List Draft) (last : Cursor) : Prop where
  /-- Lists of parameters are as they should be. -/
  lists : ∀ draft ∈ drafts, draft.Lists language start false
  /-- Types and lists begin with an onset. -/
  started : phrase.isOnset = true → Started start cursor drafts
  /-- A list of parameters is one. -/
  formal : phrase = .formalParameters → ∀ draft ∈ drafts, draft.kind = .formalParameters
  /-- A pattern is one. -/
  pattern : phrase = .pattern → ∃ draft, drafts = [draft] ∧ draft.IsPattern
  /-- A pattern that takes a value apart is what a value can be bound to. -/
  destructuring : phrase = .destructuring → ∃ draft, drafts = [draft] ∧ draft.kind ∈ targetKinds

namespace Grammar

open Rule

variable {language : Language} {start : Cursor} {before drafts : List Draft} {cursor last : Cursor}

/-- What a target gives is what one value can be bound to. -/
theorem exists_of_target
    (gives : target.Gives language start (Shaped language start) before cursor drafts last) :
    ∃ draft, drafts = [draft] ∧ draft.kind ∈ targetKinds := by
  rcases gives with apart | ⟨draft, _, kind, rfl⟩ | ⟨_, _, rfl⟩ | ⟨_, token, read, rfl, _⟩
  · exact apart.destructuring rfl
  · refine ⟨draft, rfl, ?_⟩
    have assignable : ∀ kind ∈ [Kind.memberExpression, .subscriptExpression, .nonNullExpression],
        kind ∈ targetKinds := by decide
    exact assignable _ (List.contains_iff_mem.mp kind)
  · exact ⟨_, rfl, by simp [Draft.kind, targetKinds]⟩
  · refine ⟨_, rfl, ?_⟩
    have identifier : token.kind = .identifier := kind_of_read_name read
    change token.kind ∈ targetKinds
    rw [identifier]
    decide

/-- What a pattern gives is one. -/
theorem exists_of_patternRule
    (gives : patternRule.Gives language start (Shaped language start) before cursor drafts last) :
    ∃ draft, drafts = [draft] ∧ draft.IsPattern := by
  rcases gives with ⟨_, ⟨_, _, _, ⟨_, token, read, rfl, _⟩, bound, rfl⟩, rfl⟩ | bound
  · obtain ⟨draft, rfl, kind⟩ := exists_of_target bound
    exact ⟨_, rfl, .rest (kind_of_read_mark read) kind⟩
  · obtain ⟨draft, rfl, kind⟩ := exists_of_target bound
    exact ⟨draft, rfl, .target kind⟩

/-- What takes a value apart gives what one value can be bound to. -/
theorem exists_of_destructuringRule
    (gives : destructuringRule.Gives language start (Shaped language start) before cursor drafts
      last) : ∃ draft, drafts = [draft] ∧ draft.kind ∈ targetKinds := by
  rcases gives with ⟨_, _, rfl⟩ | ⟨_, _, rfl⟩
  all_goals exact ⟨_, rfl, by simp [Draft.kind, targetKinds]⟩

/-- What has no place wraps nothing up. -/
theorem wraps_of_place_eq_none {part : Draft} (unplaced : part.place = none) :
    part.Wraps start := by
  constructor
  all_goals
    rw [unplaced]
    rintro ⟨⟩

/-- What has a place other than those of the pattern and of its type wraps nothing up. -/
theorem wraps_inField {place : Field} (pattern : place ≠ .pattern) (type : place ≠ .type)
    (part : Draft) : (part.inField place).Wraps start where
  pattern same := absurd (Option.some.inj ((place_inField place part).symm.trans same)) pattern
  type same := absurd (Option.some.inj ((place_inField place part).symm.trans same)) type

/-- The place of the pattern has a pattern or the word for the object itself. -/
theorem exists_of_wrapped {looking : R}
    (gives : (field .pattern (node .this looking <|> ref .pattern)).Gives language start
      (Shaped language start) before cursor drafts last) :
    ∃ draft, drafts = [draft] ∧ draft.place = some .pattern ∧
      (draft.IsPattern ∨ draft.kind = .this) := by
  obtain ⟨_, ⟨_, _, rfl⟩ | inner, rfl⟩ := gives
  · exact ⟨_, rfl, rfl, .inr rfl⟩
  · obtain ⟨draft, rfl, pattern⟩ := inner.pattern rfl
    exact ⟨_, rfl, place_inField .pattern draft, .inl (pattern.inField .pattern)⟩

/-- The place of the type has a type after a colon. -/
theorem yields_typed (solid : start.Solid) (follow : Follow) :
    (typed follow).Yields language start (Shaped language start) (Wraps start) := by
  rintro before cursor _ last ⟨_, ⟨_, ⟨_, _, type, ⟨placed, token, read, rfl, rfl⟩, inner, rfl⟩,
    rfl⟩, rfl⟩
  obtain ⟨last, spelt, rfl⟩ := Terminal.exists_of_afterGap read
  have passed := (Terminal.openGap_passed (placed.solid solid)).reaches
  refine List.forall_mem_singleton.mpr ⟨by rintro ⟨⟩, fun _ => ?_⟩
  -- The literal is one character, so that the type goes on right behind it.
  rw [Lexeme.literal] at spelt
  change (if (Terminal.openGap _).2.at? ':' then some (Terminal.openGap _).2.next else none) = _
    at spelt
  split at spelt
  · rename_i here
    obtain rfl := Option.some.inj spelt
    exact .mk (placed.trans passed) here (inner.started rfl)
  · contradiction

/-- A look ahead yields nothing. -/
theorem yields_ahead (holds : Draft → Prop) (body : R) :
    (ahead body).Yields language start (Shaped language start) holds := by
  rintro before cursor _ last ⟨rfl, _⟩
  exact List.forall_mem_nil _

/-- A construct of what wraps a pattern up is a parameter. -/
theorem yields_wrapped {kind : Kind} {named rest : R} (typed : language.typed = true)
    (wraps : kind = .requiredParameter ∨ kind = .optionalParameter)
    (pattern : named.Contains language start (Shaped language start) fun part =>
      part.place = some .pattern ∧ part.kind ≠ .insertedSemicolon)
    (front : named.Yields language start (Shaped language start) (Wraps start))
    (back : rest.Yields language start (Shaped language start) (Wraps start)) :
    (node kind (named >> rest)).Yields language start (Shaped language start)
      (IsParameter language start) := by
  rintro before cursor _ last ⟨parts, gives, rfl⟩
  exact List.forall_mem_singleton.mpr (.wrapped typed wraps (front.seq back _ _ _ _ gives)
    (pattern.seq_left _ _ _ _ gives))

/-- A parameter of a typed source wraps its pattern up. -/
theorem yields_typedParameter (solid : start.Solid) (typed : language.typed = true) :
    (parameter language).Yields language start (Shaped language start)
      (IsParameter language start) := by
  have token (terminal : Terminal) : (Grammar.token terminal).Yields language start
      (Shaped language start) (Wraps start) :=
    yields_token fun _ _ _ => wraps_of_place_eq_none rfl
  have construct (kind : Kind) (body : R) : (opt (node kind body)).Yields language start
      (Shaped language start) (Wraps start) :=
    Yields.opt (yields_node fun _ => wraps_of_place_eq_none rfl)
  have decorated : decorators.Yields language start (Shaped language start) (Wraps start) :=
    Yields.many (yields_field (wraps_inField (by decide) (by decide)))
  have readonly : (opt (word "readonly" >> ahead parameter.parameterStart)).Yields language start
      (Shaped language start) (Wraps start) :=
    Yields.opt ((token _).seq (yields_ahead _ _))
  have pattern (looking : R) : (field .pattern (node .this looking <|> ref .pattern)).Yields
      language start (Shaped language start) (Wraps start) := by
    intro before cursor drafts last gives
    obtain ⟨draft, rfl, placed, forms⟩ := exists_of_wrapped gives
    refine List.forall_mem_singleton.mpr ⟨fun _ => forms, ?_⟩
    rw [placed]
    rintro ⟨⟩
  have contained (looking : R) : (field .pattern (node .this looking <|> ref .pattern)).Contains
      language start (Shaped language start) fun part =>
        part.place = some .pattern ∧ part.kind ≠ .insertedSemicolon := by
    intro before cursor drafts last gives
    obtain ⟨draft, rfl, placed, forms⟩ := exists_of_wrapped gives
    refine ⟨draft, .head _, placed, ?_⟩
    rcases forms with pattern | this
    · exact pattern.written
    · rw [this]
      rintro ⟨⟩
  have front (one two looking : R) := decorated.seq ((construct .accessibilityModifier one).seq
    ((construct .overrideModifier two).seq (readonly.seq (pattern looking))))
  have default : (opt (initializer .closed)).Yields language start (Shaped language start)
      (Wraps start) :=
    Yields.opt ((token (.mark "=")).seq (yields_field (wraps_inField (by decide) (by decide))))
  have back := (yields_typed solid .closed).opt.seq default
  rw [parameter, if_pos typed]
  exact (yields_wrapped typed (.inr rfl) (contained _).seq_right.seq_right.seq_right.seq_right
      (front _ _ _) ((token (.mark "?")).seq back)).alt
    (yields_wrapped typed (.inl rfl) (contained _).seq_right.seq_right.seq_right.seq_right
      (front _ _ _) back)

/-- A parameter of an untyped source is its pattern, perhaps with a default. -/
theorem yields_untypedParameter (untyped : language.typed = false) :
    (parameter language).Yields language start (Shaped language start)
      (IsParameter language start) := by
  rw [parameter, if_neg (by simp [untyped])]
  rintro before cursor _ last (⟨_, ⟨_, _, _, ⟨_, bound, rfl⟩, ⟨_, _, _, ⟨_, token, _, rfl, _⟩,
    ⟨right, _, rfl⟩, rfl⟩, rfl⟩, rfl⟩ | bound)
  · obtain ⟨draft, rfl, pattern⟩ := bound.pattern rfl
    have here : (draft.inField .left).IsPattern := pattern.inField .left
    refine List.forall_mem_singleton.mpr (.defaulted untyped ?_
      ⟨draft.inField .left, .head _, place_inField .left draft, here.written⟩)
    refine List.forall_mem_cons.mpr ⟨fun _ => here, List.forall_mem_cons.mpr ⟨by rintro ⟨⟩, ?_⟩⟩
    refine List.forall_mem_map.mpr fun other _ => ?_
    rw [place_inField]
    rintro ⟨⟩
  · obtain ⟨draft, rfl, pattern⟩ := bound.pattern rfl
    exact List.forall_mem_singleton.mpr (.bare untyped pattern)

/-- The first that fits of rules of lists is one of lists. -/
theorem lists_anyOf {rules : List R} (each : rules.all (·.lists false) = true) :
    (anyOf rules).lists false = true := by
  refine anyOf_of_forall (List.all_eq_true.mp each) (fun _ => rfl) fun first second one two => ?_
  rw [Rule.lists, one, two]
  rfl

/-- The rule of every phrase but that of lists puts into places only what may stand there. -/
theorem lists_grammarOf (language : Language) {phrase : Phrase}
    (other : phrase ≠ .formalParameters) : (grammarOf language phrase).lists false = true := by
  cases phrase with
  | formalParameters => contradiction
  | binary follow level =>
    have silent : (unended follow).lists false = true := by
      unfold unended
      split <;> rfl
    change (true && ((unended follow).lists false && (anyOf _).lists false)) = true
    rw [silent, lists_anyOf]
    · rfl
    rw [List.all_append, Bool.and_eq_true, List.all_map]
    refine ⟨List.all_eq_true.mpr fun _ _ => rfl, ?_⟩
    split
    · rfl
    · cases language <;> cases follow.inWord <;> rfl
  | sequence follow | expression follow | operand follow | postfix_ follow | arrowHead follow
  | arrowBlock follow | callSignature follow | type follow | typeUnion follow
  | typeOperand follow | typePostfix follow =>
    -- whether a statement may end, and whether an arrow function may have a result type
    obtain ⟨semicolon, _, _, _, types⟩ := follow
    cases semicolon <;> cases types <;> cases language <;> rfl
  | _ => cases language <;> rfl

/-- The rule of every phrase of types, and of lists, begins with an onset. -/
theorem onset_grammarOf (language : Language) {phrase : Phrase} (begins : phrase.isOnset = true) :
    (grammarOf language phrase).onset Phrase.isOnset = .always := by
  cases phrase with
  | type follow | typeUnion follow | typeOperand follow | typePostfix follow =>
    obtain ⟨semicolon, _, _, _, _⟩ := follow
    cases semicolon <;> cases language <;> rfl
  | typePrimary | objectType | typeParameters | formalParameters => cases language <;> rfl
  | _ => contradiction

/-- What a rule that puts into places only what may stand there gives has its lists. -/
theorem lists_of_shaped {rule : R} (lists : rule.lists false = true)
    (prior : ∀ draft ∈ before, draft.Lists language start false)
    (gives : rule.Gives language start (Shaped language start) before cursor drafts last) :
    ∀ draft ∈ drafts, draft.Lists language start false := by
  have known : ∀ phrase cursor drafts last, Shaped language start phrase cursor drafts last →
      ∀ draft ∈ drafts, draft.Lists language start false := fun _ _ _ _ shaped => shaped.lists
  have formal : ∀ cursor drafts last, Shaped language start .formalParameters cursor drafts last →
      ∀ draft ∈ drafts, draft.kind = .formalParameters := fun _ _ _ shaped => shaped.formal rfl
  exact lists_of_gives known formal rule false lists before cursor drafts last prior gives

/-- What a list of parameters gives is one. -/
theorem lists_of_formalParametersRule (solid : start.Solid)
    (gives : (formalParametersRule language).Gives language start (Shaped language start) before
      cursor drafts last) (prior : ∀ draft ∈ before, draft.Lists language start false) :
    ∀ draft ∈ drafts, draft.Lists language start false ∧ draft.kind = .formalParameters := by
  obtain ⟨parts, gives, rfl⟩ := gives
  have each : ∀ part ∈ parts, part.Lists language start false := by
    refine lists_of_shaped ?_ prior gives
    cases language <;> rfl
  have parameters : ∀ part ∈ parts, part.kind.isNamed = true →
      part.IsParameter language start := by
    have symbol (text : String) : (mark text).Yields language start (Shaped language start)
        fun part => part.kind.isNamed = true → part.IsParameter language start := by
      refine yields_token fun _ token read => ?_
      have kind : token.kind = .symbol text := kind_of_read_mark read
      rw [ofToken, Draft.kind, kind]
      rintro ⟨⟩
    have item : (parameter language).Yields language start (Shaped language start)
        fun part => part.kind.isNamed = true → part.IsParameter language start := by
      intro before cursor drafts last gives part member _
      cases typed : language.typed with
      | true => exact yields_typedParameter solid typed _ _ _ _ gives part member
      | false => exact yields_untypedParameter typed _ _ _ _ gives part member
    have list := (item.seq ((symbol ",").seq item).many).seq (symbol ",").opt
    exact (symbol "(").seq (list.opt.seq (symbol ")")) _ _ _ _ gives
  refine List.forall_mem_singleton.mpr ⟨⟨⟨⟨by rintro ⟨⟩, fun _ => parameters, fun _ part member =>
    (each part member).single rfl⟩, throughoutAll_iff.mpr fun part member =>
      (each part member).throughout⟩, fun _ => by rintro ⟨⟩⟩, rfl⟩

/-- What phrases give has its form. -/
theorem shaped_closed (solid : start.Solid) :
    (grammarOf language).Closed language start (Shaped language start) := by
  intro phrase cursor drafts last placed gives
  have started : phrase.isOnset = true → Started start cursor drafts := by
    intro begins
    have opened : ∀ phrase cursor drafts last, phrase.isOnset = true →
        Shaped language start phrase cursor drafts last → Started start cursor drafts :=
      fun _ _ _ _ begins shaped => shaped.started begins
    have tells := tells_of_gives solid opened (grammarOf language phrase) _ _ _ _ gives
    rwa [onset_grammarOf language begins] at tells
  have pattern : phrase = .pattern → ∃ draft, drafts = [draft] ∧ draft.IsPattern := by
    rintro rfl
    exact exists_of_patternRule gives
  have destructuring :
      phrase = .destructuring → ∃ draft, drafts = [draft] ∧ draft.kind ∈ targetKinds := by
    rintro rfl
    exact exists_of_destructuringRule gives
  by_cases formal : phrase = .formalParameters
  · subst formal
    have lists := lists_of_formalParametersRule solid gives (List.forall_mem_nil _)
    exact ⟨fun draft member => (lists draft member).1, started,
      fun _ draft member => (lists draft member).2, pattern, destructuring⟩
  · refine ⟨?_, started, fun same => absurd same formal, pattern, destructuring⟩
    exact lists_of_shaped (lists_grammarOf language formal) (List.forall_mem_nil _) gives

end Grammar

/-- A node of a source without a syntax error is the program, or else a comment or built of a draft
that has its lists of parameters as they should be. -/
theorem builds_of_mem_preorder {language : Language} {bytes : List UInt8}
    (readable : (parse language bytes).hasError = false) {node : Node}
    (member : node ∈ (parse language bytes).preorder) :
    node.kind = .program ∧ node.field = none ∨
      Builds (IsListing language (Cursor.start bytes)) node := by
  have solid := Cursor.solid_start bytes
  obtain ⟨drafts, last, tree, gives⟩ :=
    exists_gives (Grammar.shaped_closed solid) readable
  have lists := Grammar.lists_of_shaped rfl (List.forall_mem_nil _) gives
  have throughout : ThroughoutAll (IsListing language (Cursor.start bytes)) drafts :=
    throughoutAll_iff.mpr fun draft member => (lists draft member).throughout
  rw [tree] at member
  rcases Node.mem_preorder.mp member with rfl | ⟨child, inside, below⟩
  · exact .inl ⟨rfl, rfl⟩
  · right
    rcases isComment_or_exists_of_mem_buildRest throughout inside with comment | ⟨draft, among, rfl⟩
    · exact builds_of_isComment comment below
    · exact throughout.builds draft among node below

end CodeAtlas.Syntax
