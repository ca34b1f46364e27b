import CodeAtlas.Proofs.Yaml.Parts

/-!
# Steps in reading a document

What every step does: it takes tokens from the front, and it stops only where the text is malformed,
where the tokens stop or where there is no room to go deeper. On top of that a step has a property
of its own, and the properties of steps are put together as the steps are: `Spec.bind`. Most of them
say which nodes are made: `Makes`.
-/
namespace CodeAtlas.Yaml

open Node

namespace Compose

variable {α β : Type} {deep : Nat}

/-! ## Specifications of steps -/

/-- Why a step that goes so many levels deep stops at a draft. -/
inductive Halts (deep : Nat) (before : Draft) : Stop → Prop where
  /-- The text is malformed. -/
  | malformed : Halts deep before .malformed
  /-- The tokens stop for this reason. -/
  | stop {reason : Stop} (member : Token.stop reason ∈ before.tokens) : Halts deep before reason
  /-- There is not room for all levels. -/
  | tooDeep (short : before.room < deep) : Halts deep before (.fault .tooDeep)

/-- What a step that goes so many levels deep does: it leaves a part of the tokens at their end and
the room as it was, and has a property, or it stops. -/
def Spec (deep : Nat) (step : Compose α) (post : Draft → α → Draft → Prop) : Prop :=
  ∀ before, match step before with
    | .ok (value, after) =>
      (after.tokens <:+ before.tokens ∧ after.room = before.room) ∧ post before value after
    | .error reason => Halts deep before reason

namespace Spec

variable {step : Compose α} {next : α → Compose β} {post : Draft → α → Draft → Prop}
  {whole : Draft → β → Draft → Prop}

/-- What follows from the property of a step that succeeds. -/
theorem mono {weaker : Draft → α → Draft → Prop} (spec : Spec deep step post)
    (weaken : ∀ before value after, post before value after → weaker before value after) :
    Spec deep step weaker := by
  intro before
  have done := spec before
  cases outcome : step before with
  | ok result =>
    rw [outcome] at done
    exact ⟨done.1, weaken _ _ _ done.2⟩
  | error reason =>
    rw [outcome] at done
    exact done

/-- A step that succeeds leaves a part of the tokens. -/
theorem suffix (spec : Spec deep step post) : Spec deep step fun before value after =>
    (after.tokens <:+ before.tokens ∧ after.room = before.room) ∧ post before value after := by
  intro before
  have done := spec before
  cases outcome : step before with
  | ok result =>
    rw [outcome] at done
    exact ⟨done.1, done⟩
  | error reason =>
    rw [outcome] at done
    exact done

/-- One step after the other. -/
theorem bind (further : α → Draft → β → Draft → Prop) (first : Spec deep step post)
    (second : ∀ value, Spec deep (next value) (further value))
    (join : ∀ before value between result after, post before value between →
      further value between result after → whole before result after) :
    Spec deep (step >>= next) whole := by
  intro before
  have done := first before
  change match (step before).bind fun result => next result.1 result.2 with
    | .ok (value, after) =>
      (after.tokens <:+ before.tokens ∧ after.room = before.room) ∧ whole before value after
    | .error reason => Halts deep before reason
  cases outcome : step before with
  | error reason =>
    rw [outcome] at done
    exact done
  | ok result =>
    obtain ⟨value, between⟩ := result
    rw [outcome] at done
    have later := second value between
    dsimp only [Except.bind]
    cases last : next value between with
    | error reason =>
      rw [last] at later
      cases later with
      | malformed => exact .malformed
      | stop member => exact .stop (done.1.1.subset member)
      | tooDeep short => exact .tooDeep (done.1.2 ▸ short)
    | ok result =>
      rw [last] at later
      exact ⟨⟨later.1.1.trans done.1.1, later.1.2.trans done.1.2⟩,
        join _ _ _ _ _ done.2 later.2⟩

/-- What a later step makes sure of, whatever comes before. -/
theorem further {good : β → Draft → Prop} (first : Spec deep step post)
    (second : ∀ value, Spec deep (next value) fun _ => good) : Spec deep (step >>= next) fun _ => good :=
  .bind _ first second fun _ _ _ _ _ _ later => later

/-- Two properties of a step. -/
theorem and {other : Draft → α → Draft → Prop} (first : Spec deep step post)
    (second : Spec deep step other) : Spec deep step fun before value after =>
      post before value after ∧ other before value after := by
  intro before
  have one := first before
  have two := second before
  cases outcome : step before with
  | ok result =>
    rw [outcome] at one two
    exact ⟨one.1, one.2, two.2⟩
  | error reason =>
    rw [outcome] at one
    exact one

/-- A step that depends on a condition. -/
theorem ite {condition : Prop} [Decidable condition] {other : Compose α}
    (yes : condition → Spec deep step post) (no : ¬ condition → Spec deep other post) :
    Spec deep (if condition then step else other) post := by
  split
  · exact yes ‹_›
  · exact no ‹_›

/-- A step that changes the draft and leaves the tokens and the room. -/
theorem modify {change : Draft → Draft}
    (still : ∀ draft, (change draft).tokens = draft.tokens)
    (roomy : ∀ draft, (change draft).room = draft.room) :
    Spec deep (modify change) fun before _ after => after = change before :=
  fun before => ⟨⟨still before ▸ List.suffix_refl _, roomy before⟩, rfl⟩

/-- A step that gives a value at once. -/
theorem pure {value : α} (holds : ∀ draft, post draft value draft) :
    Spec deep (Pure.pure value) post :=
  fun before => ⟨⟨List.suffix_refl before.tokens, rfl⟩, holds before⟩

/-- A step that fails. -/
theorem fail : Spec deep (Compose.fail : Compose α) post := fun _ => .malformed

/-- A step that goes deeper. -/
theorem deeper (spec : Spec deep step post) : Spec (deep + 1) step post := by
  intro before
  have done := spec before
  cases outcome : step before with
  | ok result =>
    rw [outcome] at done
    exact done
  | error reason =>
    rw [outcome] at done
    cases done with
    | malformed => exact .malformed
    | stop member => exact .stop member
    | tooDeep short => exact .tooDeep (Nat.lt_succ_of_lt short)

end Spec

/-! ## Single steps -/

/-- What looks at the draft first. -/
theorem get_bind (next : Draft → Compose β) (before : Draft) :
    (get >>= next : Compose β) before = next before before := rfl

section

variable {before : Draft}

/-- Where no tokens are left there is no next one. -/
theorem peek_of_nil (tokens : before.tokens = []) : peek before = .error .malformed := by
  unfold peek
  rw [get_bind, tokens]
  rfl

/-- Where the tokens stop there is no next one. -/
theorem peek_of_stop {reason : Stop} {rest : List Token}
    (tokens : before.tokens = .stop reason :: rest) : peek before = .error reason := by
  unfold peek
  rw [get_bind, tokens]
  rfl

/-- The next token. -/
theorem peek_of_token {token : Token} {rest : List Token} (tokens : before.tokens = token :: rest)
    (goesOn : ∀ reason, token ≠ .stop reason) : peek before = .ok (token, before) := by
  unfold peek
  rw [get_bind, tokens]
  cases token with
  | stop reason => exact absurd rfl (goesOn reason)
  | _ => rfl

end

/-- Looking at the next token changes nothing. -/
theorem peek_spec : Spec deep peek fun before token after =>
    after = before ∧ before.tokens.head? = some token := by
  intro before
  cases tokens : before.tokens with
  | nil =>
    rw [peek_of_nil tokens]
    exact .malformed
  | cons token rest =>
    have still : before.tokens <:+ token :: rest := tokens ▸ List.suffix_refl _
    have first : before.tokens.head? = some token := by rw [tokens, List.head?_cons]
    cases token with
    | stop reason =>
      rw [peek_of_stop tokens]
      exact .stop (tokens ▸ List.mem_cons_self)
    | _ =>
      rw [peek_of_token tokens fun reason other => by cases other]
      exact ⟨⟨still, rfl⟩, rfl, first⟩

/-- Taking the next token changes nothing else. -/
theorem advance_spec : Spec deep advance fun before _ after =>
    after = { before with tokens := before.tokens.tail } :=
  fun before => ⟨⟨List.tail_suffix before.tokens, rfl⟩, rfl⟩

/-- A token is taken if it is the given one. -/
theorem take?_spec (token : Token) : Spec deep (take? token) fun before taken after =>
    Made before after [] ∧ (taken = true → before.tokens = token :: after.tokens) := by
  unfold take?
  refine .bind (fun found before taken after => Made before after [] ∧
    (taken = true → found = token ∧ after.tokens = before.tokens.tail)) peek_spec
    (fun found => ?_) ?_
  · split
    · rename_i same
      refine .bind (fun _ before taken after => after = before) advance_spec
        (fun _ => .pure fun _ => rfl) ?_
      rintro before _ between taken after rfl rfl
      exact ⟨.idle (Nat.le_refl _) rfl, fun _ => ⟨same, rfl⟩⟩
    · exact .pure fun draft => ⟨.idle (Nat.le_refl _) rfl, fun other => by cases other⟩
  · rintro before found between taken after ⟨rfl, first⟩ ⟨made, tail⟩
    refine ⟨made, fun yes => ?_⟩
    obtain ⟨rfl, rest⟩ := tail yes
    obtain ⟨others, whole⟩ := List.head?_eq_some_iff.mp first
    rw [rest, whole, List.tail_cons]

/-- A step that makes nodes, so that with those made in `front` before it they are the ones of its
result. -/
def Makes (deep : Nat) (front : List Node) (step : Compose α) (nodes : α → List Node) : Prop :=
  Spec deep step fun before value after =>
    ∃ back, Made before after back ∧ nodes value = front ++ back

namespace Makes

variable {front : List Node} {step : Compose α} {next : α → Compose β}
  {made : α → List Node} {nodes : β → List Node}

/-- A step that makes nodes before others. -/
theorem bind (first : Makes deep [] step made)
    (second : ∀ value, Makes deep (front ++ made value) (next value) nodes) :
    Makes deep front (step >>= next) nodes := by
  refine Spec.bind _ first second ?_
  rintro before value between result after ⟨own, first, same⟩ ⟨back, second, whole⟩
  refine ⟨own ++ back, first.append second, ?_⟩
  rw [whole, same, List.nil_append, List.append_assoc]

/-- A step that makes nothing before others. -/
theorem skip (first : Makes deep [] step fun _ => [])
    (second : ∀ value, Makes deep front (next value) nodes) : Makes deep front (step >>= next) nodes :=
  first.bind fun value => by
    rw [List.append_nil]
    exact second value

/-- A result that has the nodes that were made. -/
theorem pure {value : α} (same : made value = front) : Makes deep front (Pure.pure value) made :=
  Spec.pure fun _ => ⟨[], .idle (Nat.le_refl _) rfl, by rw [same, List.append_nil]⟩

/-- A step that fails. -/
theorem fail : Makes deep front (Compose.fail : Compose α) made := Spec.fail

end Makes

/-- Looking at the draft makes nothing. -/
theorem get_makes : Makes deep [] (get : Compose Draft) fun _ => [] :=
  fun before => ⟨⟨List.suffix_refl before.tokens, rfl⟩, [], .idle (Nat.le_refl _) rfl, rfl⟩

/-- Looking at the next token makes nothing. -/
theorem peek_makes : Makes deep [] peek fun _ => [] :=
  peek_spec.mono fun _ _ _ ⟨same, _⟩ => ⟨[], same ▸ .idle (Nat.le_refl _) rfl, rfl⟩

/-- Taking the next token makes nothing. -/
theorem advance_makes : Makes deep [] advance fun _ => [] :=
  advance_spec.mono fun _ _ _ same => ⟨[], same ▸ .idle (Nat.le_refl _) rfl, rfl⟩

/-- Taking a token if it is the given one makes nothing. -/
theorem take?_makes (token : Token) : Makes deep [] (take? token) fun _ => [] :=
  (take?_spec token).mono fun _ _ _ done => ⟨[], done.1, rfl⟩

/-- What is done inside of a collection, if there is no room. -/
theorem nested_of_full {step : Compose α} {before : Draft} (full : before.room = 0) :
    nested step before = .error (.fault .tooDeep) := by
  unfold nested
  rw [get_bind, full]
  rfl

/-- What is done inside of a collection, if there is room. -/
theorem nested_of_room {step : Compose α} {before : Draft} {room : Nat}
    (roomy : before.room = room + 1) :
    nested step before = (step { before with room := room }).bind fun result =>
      .ok (result.1, { result.2 with room := room + 1 }) := by
  unfold nested
  rw [get_bind, roomy]
  rfl

/-- What a step does inside of a collection takes up another level, if only tokens, anchors and
numbers matter. -/
theorem nested_spec {step : Compose α} {post : Draft → α → Draft → Prop} (spec : Spec deep step post)
    (outside : ∀ before room value after last, post { before with room := room } value after →
      post before value { after with room := last }) :
    Spec (deep + 1) (nested step) post := by
  intro before
  cases rooms : before.room with
  | zero =>
    rw [nested_of_full rooms]
    exact .tooDeep (by omega)
  | succ room =>
    have done := spec { before with room := room }
    rw [nested_of_room rooms]
    cases outcome : step { before with room := room } with
    | ok result =>
      rw [outcome] at done
      exact ⟨⟨done.1.1, rfl⟩, outside _ _ _ _ _ done.2⟩
    | error reason =>
      rw [outcome] at done
      cases done with
      | malformed => exact .malformed
      | stop member => exact .stop member
      | tooDeep short => exact .tooDeep (rooms ▸ Nat.succ_lt_succ short)

/-- What is made inside of a collection takes up another level. -/
theorem nested_makes {step : Compose α} {nodes : α → List Node}
    (makes : Makes deep [] step nodes) : Makes (deep + 1) [] (nested step) nodes := by
  refine nested_spec makes ?_
  rintro before room value after last ⟨back, made, same⟩
  exact ⟨back, ⟨made.count, made.numbered, made.single, made.anchored⟩, same⟩

/-! ## Properties of nodes -/

/-- A number is given to a node; what has an anchor stays. -/
theorem declare_spec (anchor : Option String) : Spec deep (declare anchor) fun before number after =>
      number = before.count ∧ after.count = before.count + 1 ∧
        after.anchored = before.anchored := by
  intro before
  cases anchor with
  | none => exact ⟨⟨List.suffix_refl _, rfl⟩, rfl, rfl, rfl⟩
  | some name =>
    cases known : (before.anchors.lookup name).isSome with
    | true =>
      have outcome : declare (some name) before = .error .malformed := by
        unfold declare
        rw [get_bind]
        dsimp only
        rw [known]
        rfl
      rw [outcome]
      exact .malformed
    | false =>
      have outcome : declare (some name) before = .ok (before.count,
          { before with
            count := before.count + 1, anchors := (name, before.count) :: before.anchors }) := by
        unfold declare
        rw [get_bind]
        dsimp only
        rw [known]
        rfl
      rw [outcome]
      exact ⟨⟨List.suffix_refl _, rfl⟩, rfl, rfl, rfl⟩

/-- A node that is complete stays what it is, and may be given an anchor. -/
theorem complete_spec (anchor : Option String) (number : Nat) (node : Node) :
    Spec deep (complete anchor number node) fun before value after =>
      value = node ∧ after.count = before.count ∧ (after.anchored = before.anchored ∨
        after.anchored = (number, node) :: before.anchored) := by
  intro before
  cases anchor with
  | none => exact ⟨⟨List.suffix_refl _, rfl⟩, rfl, rfl, .inl rfl⟩
  | some name => exact ⟨⟨List.suffix_refl _, rfl⟩, rfl, rfl, .inr rfl⟩

/-- The text of a tag changes nothing. -/
theorem fullTag_makes (handle : Option String) (text : String) :
    Makes deep [] (fullTag handle text) fun _ => [] := by
  cases handle with
  | none => exact .pure rfl
  | some handle =>
    intro before
    cases known : before.handles.lookup handle with
    | none =>
      have outcome : fullTag (some handle) text before = .error .malformed := by
        dsimp only [fullTag]
        rw [get_bind, known]
        rfl
      rw [outcome]
      exact .malformed
    | some meaning =>
      have outcome : fullTag (some handle) text before = .ok (meaning ++ text, before) := by
        dsimp only [fullTag]
        rw [get_bind, known]
        rfl
      rw [outcome]
      exact ⟨⟨List.suffix_refl _, rfl⟩, [], .idle (Nat.le_refl _) rfl, rfl⟩

/-- The properties in front of a node make nothing. -/
theorem properties_makes : Makes deep [] properties fun _ => [] := by
  unfold properties
  refine peek_makes.skip fun token => ?_
  split
  · refine advance_makes.skip fun _ => peek_makes.skip fun token => ?_
    split
    · exact advance_makes.skip fun _ => (fullTag_makes _ _).skip fun _ => .pure rfl
    · exact .pure rfl
  · refine advance_makes.skip fun _ => peek_makes.skip fun token => ?_
    split
    · exact advance_makes.skip fun _ => (fullTag_makes _ _).skip fun _ => .pure rfl
    · exact (fullTag_makes _ _).skip fun _ => .pure rfl
  · exact .pure rfl

end Compose

end CodeAtlas.Yaml
