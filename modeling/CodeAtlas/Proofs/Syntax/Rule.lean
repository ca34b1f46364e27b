import CodeAtlas.Proofs.Syntax.Extent
import CodeAtlas.Syntax.Rule

/-!
# What reading a rule gives

A rule is sound if each of its constructs begins with a part that is written and declares nothing,
what goes on from other nodes stands in `grow` only, and the name of a class is one. `Rule.isSound`
decides it from the rule alone. Here are the laws of what sound rules give, one for each way of
making a rule.
-/
namespace CodeAtlas.Syntax

open Draft

/-- What is known of the first of some drafts. -/
inductive Opening where
  /-- There is one, and it is written. -/
  | always
  /-- If there is one, it is written. -/
  | perhaps
  /-- Nothing. -/
  | unknown
  deriving DecidableEq

namespace Opening

/-- What is known of drafts that are alternatives. -/
def or : Opening → Opening → Opening
  | .unknown, _ | _, .unknown => .unknown
  | .perhaps, _ | _, .perhaps => .perhaps
  | .always, .always => .always

/-- What is known of drafts that may be missing. -/
def orNothing : Opening → Opening
  | .unknown => .unknown
  | _ => .perhaps

/-- What is known of drafts and others after them. -/
def andThen : Opening → Opening → Opening
  | .always, _ => .always
  | .perhaps, second => second
  | .unknown, _ => .unknown

/-- What is known holds of drafts. -/
def Holds : Opening → List Draft → Prop
  | .always, drafts => ∃ first rest, drafts = first :: rest ∧ first.kind ≠ .insertedSemicolon
  | .perhaps, drafts => ∀ first ∈ drafts.head?, first.kind ≠ .insertedSemicolon
  | .unknown, _ => True

variable {opening first second : Opening} {drafts left right : List Draft}

/-- A draft that is there and is written is written if it is there. -/
theorem Holds.perhaps (holds : always.Holds drafts) : perhaps.Holds drafts := by
  obtain ⟨_, _, rfl, written⟩ := holds
  rintro _ ⟨⟩
  exact written

/-- What is known of both of two alternatives is known of the first. -/
theorem Holds.or_left (holds : first.Holds drafts) : (first.or second).Holds drafts := by
  cases first with
  | always =>
    cases second with
    | always => exact holds
    | perhaps => exact holds.perhaps
    | unknown => trivial
  | perhaps =>
    cases second with
    | always | perhaps => exact holds
    | unknown => trivial
  | unknown => trivial

/-- The order of alternatives does not matter to what is known. -/
theorem or_comm (first second : Opening) : first.or second = second.or first := by
  cases first <;> cases second <;> rfl

/-- What is known of both of two alternatives is known of the second. -/
theorem Holds.or_right (holds : second.Holds drafts) : (first.or second).Holds drafts := by
  rw [or_comm]
  exact holds.or_left

/-- What is known of drafts is known of them if they may be missing. -/
theorem Holds.orNothing
    (holds : opening.Holds drafts) : opening.orNothing.Holds drafts := by
  cases opening with
  | always => exact holds.perhaps
  | perhaps | unknown => exact holds

/-- What may be missing is known of nothing. -/
theorem orNothing_nil (opening : Opening) : opening.orNothing.Holds [] := by
  cases opening <;> simp [Opening.orNothing, Opening.Holds]

/-- What is known of drafts and others after them. -/
theorem Holds.andThen (before : first.Holds left) (after : second.Holds right) :
    (first.andThen second).Holds (left ++ right) := by
  cases first with
  | always =>
    obtain ⟨head, rest, rfl, written⟩ := before
    exact ⟨head, rest ++ right, rfl, written⟩
  | perhaps =>
    cases left with
    | nil => exact after
    | cons head rest =>
      have written : head.kind ≠ .insertedSemicolon := before head rfl
      cases second with
      | always => exact ⟨head, rest ++ right, rfl, written⟩
      | perhaps =>
        rintro _ ⟨⟩
        exact written
      | unknown => trivial
  | unknown => trivial

/-- Drafts whose kinds stay are what was known of them. -/
theorem Holds.map {change : Draft → Draft} (stays : ∀ draft, (change draft).kind = draft.kind)
    (holds : opening.Holds drafts) : opening.Holds (drafts.map change) := by
  cases opening with
  | always =>
    obtain ⟨head, rest, rfl, written⟩ := holds
    exact ⟨change head, rest.map change, rfl, by rwa [stays]⟩
  | perhaps =>
    cases drafts with
    | nil => exact holds
    | cons head rest =>
      rintro _ ⟨⟩
      rw [stays]
      exact holds head rfl
  | unknown => trivial

end Opening

namespace Rule

variable {Phrase : Type}

/-- What a rule tells of the first draft that it gives. -/
def opening : Rule Phrase → Opening
  | .done | .ahead _ | .absent _ => .perhaps
  | .token terminal => if terminal.kind = .insertedSemicolon then .unknown else .always
  | .seq first second => first.opening.andThen second.opening
  | .alt first second => first.opening.or second.opening
  | .opt body | .many body => body.opening.orNothing
  | .node _ _ | .ref _ | .onto _ _ => .always
  | .field _ body | .grow body _ | .only _ body => body.opening

/-- Whether the first draft of a rule may be a declaration; `leading` tells it of phrases. -/
def leads (leading : Phrase → Bool) : Rule Phrase → Bool
  | .done | .ahead _ | .absent _ | .token _ => false
  | .seq first second =>
    first.leads leading || (first.opening != .always && second.leads leading)
  | .alt first second => first.leads leading || second.leads leading
  | .opt body | .many body | .field _ body | .grow body _ | .only _ body => body.leads leading
  | .node kind _ | .onto kind _ => kind.isDeclaration
  | .ref phrase => leading phrase

/-- Whether the first draft of a rule is a name in its place. -/
def isNamed : Rule Phrase → Bool
  | .field .name _ => true
  | .seq first _ => first.isNamed && first.opening == .always
  | .alt first second => first.isNamed && second.isNamed
  | _ => false

/-- The places that nodes of a phrase may have in the parent. -/
def outerPlaces : List (Option Field) :=
  [none, some .parameter, some .parameters, some .returnType]

/-- Whether all drafts of a rule are accepted by their places and kinds; the kinds of what other
phrases give are not known. -/
def every : Rule Phrase → (Option Field → Option Kind → Bool) → Bool
  | .done, _ | .ahead _, _ | .absent _, _ => true
  | .token terminal, accept => accept none (some terminal.kind)
  | .seq first second, accept | .alt first second, accept =>
    first.every accept && second.every accept
  | .opt body, accept | .many body, accept | .only _ body, accept => body.every accept
  | .node kind _, accept | .onto kind _, accept => accept none (some kind)
  | .field place body, accept => body.every fun _ kind => accept (some place) kind
  | .ref _, accept | .grow _ _, accept => outerPlaces.all (accept · none)

/-- Whether all drafts of a rule have places that nodes of a phrase may have. -/
def isOuter (rule : Rule Phrase) : Bool := rule.every fun place _ => outerPlaces.contains place

/-- Whether a node with a place and a kind is no name, or the name of a class. -/
def labels (language : Language) (place : Option Field) (kind : Option Kind) : Bool :=
  place != some .name || kind == some (classLabel language)

/-- Whether a rule gives nothing on the spot. -/
def isSilent : Rule Phrase → Bool
  | .done | .ahead _ | .absent _ => true
  | .seq first second | .alt first second => first.isSilent && second.isSilent
  | _ => false

mutual

/-- Whether all constructs of a rule begin as constructs do. -/
def isSound (language : Language) (leading : Phrase → Bool) : Rule Phrase → Bool
  | .done | .ref _ => true
  | .token terminal => terminal.isRegular
  | .seq first second | .alt first second =>
    first.isSound language leading && second.isSound language leading
  | .opt body | .many body | .field _ body | .ahead body | .absent body | .only _ body =>
    body.isSound language leading
  | .node kind body =>
    body.isSound language leading && kind != .insertedSemicolon && body.opening == .always &&
      !body.leads leading && (kind != .variableDeclarator || body.isNamed) &&
      (!kind.isClass || body.every (labels language))
  | .grow base step =>
    base.isSound language leading && base.opening == .always && !base.leads leading &&
      base.isOuter && step.isStep language leading
  | .onto _ _ => false

/-- Whether a rule only goes on from the nodes before it, or gives nothing. -/
def isStep (language : Language) (leading : Phrase → Bool) : Rule Phrase → Bool
  | .onto kind body =>
    body.isSound language leading && kind != .insertedSemicolon && !kind.isDeclaration
  | .seq first second =>
    first.isSilent && first.isSound language leading && second.isStep language leading
  | .alt first second => first.isStep language leading && second.isStep language leading
  | .ahead body | .absent body => body.isSound language leading
  | .done => true
  | _ => false

end

/-! ## Outcomes -/

/-- What a source is read by. -/
structure Setting (Phrase : Type) where
  /-- The language of the source. -/
  language : Language
  /-- Where the source begins. -/
  start : Cursor
  /-- Which phrases may begin with a declaration. -/
  leading : Phrase → Bool

/-- Drafts that were read from an offset up to a place of a source: they are laid there, and the
first is written. If `plain` is set it declares nothing. -/
structure Found (setting : Setting Phrase) (plain : Bool) (offset : Nat) (drafts : List Draft)
    (last : Cursor) : Prop where
  /-- The place is one of the source. -/
  placed : setting.start.Reaches last
  /-- The drafts are laid. -/
  laid : LaidAll setting.language offset last.offset drafts
  /-- There is a first draft, and it is written. -/
  opens : Opening.always.Holds drafts
  /-- It declares nothing. -/
  plain : plain = true → ∀ first ∈ drafts.head?, first.kind.isDeclaration = false
  /-- They have places that nodes of a phrase may have. -/
  outer : ∀ draft ∈ drafts, draft.place ∈ outerPlaces
  /-- Their extents are between places of the source. -/
  joined : ∀ draft ∈ drafts, draft.Joined setting.start

/-- What is accepted of an unknown kind is accepted of every kind. -/
def Lenient (accept : Option Field → Option Kind → Bool) : Prop :=
  ∀ place kind, accept place none = true → accept place (some kind) = true

/-- Drafts that a rule gave between two places of a source. -/
structure Given (setting : Setting Phrase) (rule : Rule Phrase) (cursor : Cursor)
    (drafts : List Draft) (last : Cursor) : Prop where
  /-- The second place is one of the source. -/
  placed : setting.start.Reaches last
  /-- The drafts are laid between the places. -/
  laid : LaidAll setting.language cursor.offset last.offset drafts
  /-- The first draft is what the rule tells of it. -/
  opens : rule.opening.Holds drafts
  /-- It declares something only if the rule says so. -/
  plain : rule.leads setting.leading = false →
    ∀ first ∈ drafts.head?, first.kind.isDeclaration = false
  /-- It is a name if the rule says so. -/
  named : rule.isNamed = true → ∀ first ∈ drafts.head?, first.place = some .name
  /-- Nothing was given if the rule says so. -/
  silent : rule.isSilent = true → drafts = [] ∧ last = cursor
  /-- All drafts are accepted that the rule says are. -/
  every : ∀ accept, Lenient accept → rule.every accept = true →
    ∀ draft ∈ drafts, accept draft.place (some draft.kind) = true
  /-- Their extents are between places of the source. -/
  joined : ∀ draft ∈ drafts, draft.Joined setting.start

variable {setting : Setting Phrase}

/-! ## Laws of what is given -/

section Laws

variable {cursor middle last : Cursor} {first second body : Rule Phrase}
  {left right drafts : List Draft}

/-- Nothing on the spot is given. -/
theorem Given.nil {rule : Rule Phrase} (placed : setting.start.Reaches cursor)
    (opens : rule.opening.Holds []) : Given setting rule cursor [] cursor where
  placed := placed
  laid := Nat.le_refl _
  opens := opens
  plain := fun _ => by rintro _ ⟨⟩
  named := fun _ => by rintro _ ⟨⟩
  silent := fun _ => ⟨rfl, rfl⟩
  every := fun _ _ _ => List.forall_mem_nil _
  joined := List.forall_mem_nil _

/-- One rule and then another give what both give. -/
theorem Given.seq (before : Given setting first cursor left middle)
    (after : Given setting second middle right last) :
    Given setting (.seq first second) cursor (left ++ right) last where
  placed := after.placed
  laid := before.laid.append after.laid
  opens := before.opens.andThen after.opens
  plain := by
    intro plain
    simp only [leads, Bool.or_eq_false_iff, Bool.and_eq_false_iff, bne_eq_false_iff_eq] at plain
    cases left with
    | cons head rest => exact before.plain plain.1
    | nil =>
      rcases plain.2 with always | plain
      · have opens := before.opens
        rw [always] at opens
        obtain ⟨_, _, nothing, _⟩ := opens
        contradiction
      · exact after.plain plain
  named := by
    intro named
    simp only [isNamed, Bool.and_eq_true, beq_iff_eq] at named
    have opens := before.opens
    rw [named.2] at opens
    obtain ⟨head, rest, rfl, _⟩ := opens
    exact before.named named.1
  silent := by
    intro silent
    simp only [isSilent, Bool.and_eq_true] at silent
    obtain ⟨rfl, rfl⟩ := before.silent silent.1
    exact after.silent silent.2
  every := by
    intro accept lenient all
    rw [Rule.every, Bool.and_eq_true] at all
    exact List.forall_mem_append.mpr
      ⟨before.every accept lenient all.1, after.every accept lenient all.2⟩
  joined := List.forall_mem_append.mpr ⟨before.joined, after.joined⟩

/-- What a rule gives is given by a rule that tells no more of it. -/
theorem Given.mono {one other : Rule Phrase} (given : Given setting one cursor drafts last)
    (opens : one.opening.Holds drafts → other.opening.Holds drafts)
    (plain : other.leads setting.leading = false → one.leads setting.leading = false)
    (named : other.isNamed = true → one.isNamed = true)
    (silent : other.isSilent = true → one.isSilent = true)
    (every : ∀ accept, other.every accept = true → one.every accept = true) :
    Given setting other cursor drafts last where
  placed := given.placed
  laid := given.laid
  opens := opens given.opens
  plain := fun other => given.plain (plain other)
  named := fun other => given.named (named other)
  silent := fun other => given.silent (silent other)
  every := fun accept lenient all => given.every accept lenient (every accept all)
  joined := given.joined

/-- The first of two rules gives what either may give. -/
theorem Given.alt_left (given : Given setting first cursor drafts last) :
    Given setting (.alt first second) cursor drafts last :=
  given.mono .or_left (fun plain => (Bool.or_eq_false_iff.mp plain).1)
    (fun named => (Bool.and_eq_true_iff.mp named).1)
    (fun silent => (Bool.and_eq_true_iff.mp silent).1)
    (fun _ all => (Bool.and_eq_true_iff.mp all).1)

/-- The second of two rules gives what either may give. -/
theorem Given.alt_right (given : Given setting second cursor drafts last) :
    Given setting (.alt first second) cursor drafts last :=
  given.mono .or_right (fun plain => (Bool.or_eq_false_iff.mp plain).2)
    (fun named => (Bool.and_eq_true_iff.mp named).2)
    (fun silent => (Bool.and_eq_true_iff.mp silent).2)
    (fun _ all => (Bool.and_eq_true_iff.mp all).2)

/-- A rule gives what it may give. -/
theorem Given.opt (given : Given setting body cursor drafts last) :
    Given setting (.opt body) cursor drafts last :=
  given.mono .orNothing id (by rintro ⟨⟩) (by rintro ⟨⟩) fun _ => id

/-- A rule for some kinds of node gives what the rule gives. -/
theorem Given.only {kinds : List Kind} (given : Given setting body cursor drafts last) :
    Given setting (.only kinds body) cursor drafts last :=
  given.mono id id (by rintro ⟨⟩) (by rintro ⟨⟩) fun _ => id

/-- A rule gives one more time what it gives as often as it fits. -/
theorem Given.many (before : Given setting (.many body) cursor left middle)
    (after : Given setting body middle right last) :
    Given setting (.many body) cursor (left ++ right) last where
  placed := after.placed
  laid := before.laid.append after.laid
  opens := by
    have both := before.opens.andThen after.opens.orNothing
    change (body.opening.orNothing.andThen body.opening.orNothing).Holds _ at both
    change body.opening.orNothing.Holds _
    cases opening : body.opening <;> rw [opening] at both <;> exact both
  plain := by
    intro plain
    cases left with
    | nil => exact after.plain plain
    | cons head rest => exact before.plain plain
  named := by rintro ⟨⟩
  silent := by rintro ⟨⟩
  every := fun accept lenient all => List.forall_mem_append.mpr
    ⟨before.every accept lenient all, after.every accept lenient all⟩
  joined := List.forall_mem_append.mpr ⟨before.joined, after.joined⟩

/-- The name of a class is asked of its kind. -/
theorem lenient_labels (language : Language) : Lenient (labels language) := by
  intro place kind accepted
  simp only [labels, Bool.or_eq_true] at accepted ⊢
  rcases accepted with other | unknown
  · exact .inl other
  · contradiction

/-- A rule as one node gives the node. -/
theorem Given.node {kind : Kind}
    (sound : (Rule.node kind body).isSound setting.language setting.leading = true)
    (given : Given setting body cursor drafts last) :
    Given setting (.node kind body) cursor [.branch kind none drafts] last := by
  simp only [isSound, Bool.and_eq_true, bne_iff_ne, beq_iff_eq, Bool.not_eq_true',
    Bool.or_eq_true] at sound
  obtain ⟨⟨⟨⟨⟨_, written⟩, always⟩, plain⟩, named⟩, labelled⟩ := sound
  have opens := given.opens
  rw [always] at opens
  obtain ⟨head, rest, rfl, visible⟩ := opens
  have headed : Headed setting.language kind (head :: rest) := by
    refine ⟨head, rest, rfl, visible, given.plain plain head rfl, fun declarator => ?_,
      fun cls child member label => ?_⟩
    · rcases named with other | named
      · exact absurd declarator other
      · exact given.named named head rfl
    · rcases labelled with other | labelled
      · rw [cls] at other
        contradiction
      · have accepted := given.every _ (lenient_labels _) labelled child member
        simpa [labels, label] using accepted
  have laid : Laid setting.language cursor.offset last.offset (.branch kind none (head :: rest)) :=
    ⟨written, headed, given.laid⟩
  exact {
    placed := given.placed
    laid := laid.single
    opens := ⟨_, _, rfl, written⟩
    plain := fun plain => by
      rintro _ ⟨⟩
      exact plain
    named := by rintro ⟨⟩
    silent := by rintro ⟨⟩
    every := fun _ _ all => List.forall_mem_singleton.mpr all
    joined := List.forall_mem_singleton.mpr (joinedAll_iff.mpr given.joined) }

/-- A rule in a place gives its drafts in the place. -/
theorem Given.field {field : Field} (given : Given setting body cursor drafts last) :
    Given setting (.field field body) cursor (drafts.map (·.inField field)) last where
  placed := given.placed
  laid := given.laid.inField field
  opens := given.opens.map (kind_inField field)
  plain := by
    intro plain
    cases drafts with
    | nil => rintro _ ⟨⟩
    | cons head rest =>
      rintro _ ⟨⟩
      rw [kind_inField]
      exact given.plain plain head rfl
  named := by
    intro named
    obtain rfl : field = .name := by
      cases field with
      | name => rfl
      | _ => contradiction
    cases drafts with
    | nil => rintro _ ⟨⟩
    | cons head rest =>
      rintro _ ⟨⟩
      exact place_inField .name head
  silent := by rintro ⟨⟩
  every := by
    intro accept lenient all
    have each := given.every _ (fun _ => lenient (some field)) all
    refine List.forall_mem_map.mpr fun draft member => ?_
    rw [place_inField, kind_inField]
    exact each draft member
  joined := List.forall_mem_map.mpr fun draft member => (given.joined draft member).inField field

/-- Drafts that are found are accepted where nodes of a phrase are. -/
theorem Found.accepted {plain : Bool} {offset : Nat}
    (found : Found setting plain offset drafts last)
    {accept : Option Field → Option Kind → Bool} (lenient : Lenient accept)
    (all : outerPlaces.all (accept · none) = true) :
    ∀ draft ∈ drafts, accept draft.place (some draft.kind) = true :=
  fun draft member => lenient _ _ (List.all_eq_true.mp all _ (found.outer draft member))

/-- A phrase gives what is found of it. -/
theorem Found.ref {phrase : Phrase}
    (found : Found setting (!setting.leading phrase) cursor.offset drafts last) :
    Given setting (.ref phrase) cursor drafts last where
  placed := found.placed
  laid := found.laid
  opens := found.opens
  plain := fun plain => found.plain (congrArg Bool.not plain)
  named := by rintro ⟨⟩
  silent := by rintro ⟨⟩
  every := fun _ => found.accepted
  joined := found.joined

/-- What a rule gives that surely begins with something written is found. -/
theorem Given.found {rule : Rule Phrase} (given : Given setting rule cursor drafts last)
    (always : rule.opening = .always) (outer : rule.isOuter = true) {plain : Bool}
    (leads : plain = true → rule.leads setting.leading = false) :
    Found setting plain cursor.offset drafts last where
  placed := given.placed
  laid := given.laid
  opens := always ▸ given.opens
  plain := fun plain => given.plain (leads plain)
  outer := fun draft member => by
    have accepted := given.every _ (fun _ _ => id) outer draft member
    exact List.contains_iff_mem.mp accepted
  joined := given.joined

/-- What grew of a rule is what the rule gives. -/
theorem Found.grow {base step : Rule Phrase} (always : base.opening = .always)
    (found : Found setting true cursor.offset drafts last) :
    Given setting (.grow base step) cursor drafts last where
  placed := found.placed
  laid := found.laid
  opens := by
    change base.opening.Holds drafts
    rw [always]
    exact found.opens
  plain := fun _ => found.plain rfl
  named := by rintro ⟨⟩
  silent := by rintro ⟨⟩
  every := fun _ => found.accepted
  joined := found.joined

/-- A token of a terminal declares nothing. -/
theorem plain_of_isRegular {terminal : Terminal} (regular : terminal.isRegular = true) :
    terminal.kind.isDeclaration = false := by
  cases terminal with
  | name kind | elementName kind =>
    simp only [Terminal.isRegular, Bool.and_eq_true, Bool.not_eq_true'] at regular
    exact regular.1
  | _ => rfl

/-- A token is given. -/
theorem Given.token {language : Language} {terminal : Terminal} {token : Terminal.Token}
    (solid : setting.start.Solid) (placed : setting.start.Reaches cursor)
    (regular : terminal.isRegular = true)
    (read : terminal.read language cursor = .ok token) :
    Given setting (.token terminal) cursor [.ofToken token] token.last := by
  have here := placed.solid solid
  have found := Terminal.read_found here regular read
  have within := found.passed.reaches
  have kind : (ofToken token).kind = terminal.kind := found.kind_eq
  have laid : Laid setting.language cursor.offset token.last.offset (ofToken token) := by
    refine ⟨found.passed.chained, found.reaches.offset_le, Nat.le_refl _, fun written => ?_⟩
    exact (found.occupied (kind ▸ written)).offset_lt (within.solid here)
  exact {
    placed := placed.trans (within.trans found.reaches)
    laid := laid.single
    opens := by
      change (if _ then _ else _ : Opening).Holds _
      split
      · trivial
      · rename_i written
        exact ⟨_, _, rfl, by rwa [kind]⟩
    plain := by
      rintro - _ ⟨⟩
      rw [kind]
      exact plain_of_isRegular regular
    named := by rintro ⟨⟩
    silent := by rintro ⟨⟩
    every := by
      intro accept _ all
      refine List.forall_mem_singleton.mpr ?_
      rw [kind]
      exact all
    joined := by
      have first := placed.trans within
      refine List.forall_mem_singleton.mpr
        ⟨⟨_, _, first, first.trans found.reaches, rfl⟩, fun comment member => ?_⟩
      exact (found.passed.joins comment member).earlier placed }

/-- A node that begins with what was found is found. -/
theorem Found.onto {kind : Kind} {offset : Nat} {before : List Draft}
    (visible : kind ≠ .insertedSemicolon) (plain : kind.isDeclaration = false)
    (found : Found setting true offset before cursor)
    (given : Given setting body cursor drafts last) :
    Found setting true offset [.branch kind none (before ++ drafts)] last := by
  obtain ⟨head, rest, rfl, written⟩ := found.opens
  have headed : Headed setting.language kind (head :: rest ++ drafts) := by
    refine ⟨head, rest ++ drafts, rfl, written, found.plain rfl head rfl, fun declarator => ?_,
      fun cls => ?_⟩
    · subst declarator
      contradiction
    · rw [isDeclaration_of_isClass cls] at plain
      contradiction
  have laid : Laid setting.language offset last.offset
      (.branch kind none (head :: rest ++ drafts)) :=
    ⟨visible, headed, found.laid.append given.laid⟩
  exact {
    placed := given.placed
    laid := laid.single
    opens := ⟨_, _, rfl, visible⟩
    plain := by
      rintro - _ ⟨⟩
      exact plain
    outer := List.forall_mem_singleton.mpr (.head _)
    joined := List.forall_mem_singleton.mpr
      (joinedAll_iff.mpr (List.forall_mem_append.mpr ⟨found.joined, given.joined⟩)) }

end Laws

end Rule

end CodeAtlas.Syntax
