import CodeAtlas.Reply.Answer
import CodeAtlas.Proofs.Reply.Contract

/-!
# What a rejection blames

A reply that does not keep the contract is rejected for one value: the first component that does
not fit, or else the first value at fault in the sections of its analysis, taken in their order, or
the reply itself if no single item is to blame. There is never more than one such value
(`Blames.unique`), and `check_accepts_or_blames` says that the check accepts exactly what the
contract allows and blames this value otherwise.
-/
namespace CodeAtlas.Reply

/-- What the contract allows as the reply to a question: any object if a form of its own was asked
for, and otherwise components that fit or, without a list of components, an analysis that fits. -/
def Accepts (format : Option Json) (reply : Json) : Prop :=
  IsObject reply ∧
    ((∃ form, format = some form ∧ form.isTruthy = true) ∨
      (∃ items, reply.get? "components" = some (.array items) ∧
        ∀ item ∈ items, ItemKind.component.Fits item) ∨
      (¬Listed reply "components" ∧
        ∃ analysis, reply.get? "analysis" = some analysis ∧ AnalysisFits analysis))

/-- An item is the first of a list that does not fit. -/
def FirstMisfit (kind : ItemKind) (items : List Json) (item : Json) : Prop :=
  ∃ before after, items = before ++ item :: after ∧ (∀ earlier ∈ before, kind.Fits earlier) ∧
    ¬kind.Fits item

/-- A value is at fault in a section: the section itself, which counts as true and is no list, or
the first item of its list that does not fit. -/
def Section.Blames (part : Section) (analysis value : Json) : Prop :=
  (analysis.get? part.name = some value ∧ value.isTruthy = true ∧ isList value = false) ∨
    ∃ items, analysis.get? part.name = some (.array items) ∧ FirstMisfit part.itemKind items value

/-- A value is the first one at fault in a reply. -/
inductive Blames (reply : Json) : Json → Prop where
  /-- A reply that is no object is at fault itself. -/
  | notAnObject (other : ¬IsObject reply) : Blames reply reply
  /-- The first component that does not fit is at fault. -/
  | component {items : List Json} {item : Json}
      (listed : reply.get? "components" = some (.array items))
      (misfit : FirstMisfit .component items item) : Blames reply item
  /-- A reply with neither a list of components nor an analysis is at fault itself. -/
  | noStructure (object : IsObject reply) (unlisted : ¬Listed reply "components")
      (missing : ∀ analysis, reply.get? "analysis" = some analysis → ¬IsObject analysis) :
      Blames reply reply
  /-- What is at fault in the first section with a fault is at fault. -/
  | inSection {analysis value : Json} {part : Section} {before after : List Section}
      (unlisted : ¬Listed reply "components") (found : reply.get? "analysis" = some analysis)
      (object : IsObject analysis) (place : Section.all = before ++ part :: after)
      (kept : ∀ earlier ∈ before, earlier.Kept analysis) (blamed : part.Blames analysis value) :
      Blames reply value
  /-- A reply whose analysis has no items at all is at fault itself. -/
  | noContent {analysis : Json} (unlisted : ¬Listed reply "components")
      (found : reply.get? "analysis" = some analysis) (object : IsObject analysis)
      (kept : ∀ part : Section, part.Kept analysis)
      (vacant : ∀ part : Section, ¬part.Occupied analysis) : Blames reply reply

/-- An answer in a form of its own was asked for exactly if a form was given that counts as true. -/
theorem asksForm_iff {format : Option Json} :
    asksForm format = true ↔ ∃ form, format = some form ∧ form.isTruthy = true := by
  simp [asksForm, Option.any_eq_true]

/-- Items are rejected for the first one that does not fit. -/
theorem firstMisfit_of_itemsRejection? {kind : ItemKind} {items : List Json}
    {rejection : Rejection} (rejected : itemsRejection? kind items = some rejection) :
    FirstMisfit kind items rejection.value := by
  obtain ⟨before, item, after, rfl, broken, passed⟩ := List.findSome?_eq_some_iff.mp rejected
  obtain ⟨violation, violated, rfl⟩ := Option.map_eq_some_iff.mp broken
  have fits : ∀ earlier ∈ before, kind.Fits earlier := by
    intro earlier member
    exact itemViolation?_eq_none_iff.mp (Option.map_eq_none_iff.mp (passed earlier member))
  have misfit : ¬kind.Fits item := by
    intro fit
    rw [itemViolation?_eq_none_iff.mpr fit] at violated
    contradiction
  exact ⟨before, after, rfl, fits, misfit⟩

/-- A section is rejected for the value at fault in it. -/
theorem blames_of_sectionRejection? {analysis : Json} {part : Section} {rejection : Rejection}
    (rejected : sectionRejection? analysis part = some rejection) :
    part.Blames analysis rejection.value := by
  unfold sectionRejection? at rejected
  cases found : analysis.get? part.name with
  | none => simp [found] at rejected
  | some value =>
    by_cases truthy : value.isTruthy = true
    · cases value with
      | array items =>
        simp only [found, truthy, Bool.not_true, Bool.false_eq_true, ↓reduceIte] at rejected
        exact .inr ⟨items, found, firstMisfit_of_itemsRejection? rejected⟩
      | _ =>
        simp only [found, truthy, Bool.not_true, Bool.false_eq_true, ↓reduceIte,
          Option.some.injEq] at rejected
        subst rejected
        exact .inl ⟨found, truthy, rfl⟩
    · simp [found, truthy] at rejected

/-- An analysis in a reply without a list of components is rejected for the first value at fault. -/
theorem blames_of_analysisRejection? {reply analysis : Json} {rejection : Rejection}
    (unlisted : ¬Listed reply "components") (found : reply.get? "analysis" = some analysis)
    (object : IsObject analysis)
    (rejected : analysisRejection? reply analysis = some rejection) :
    Blames reply rejection.value := by
  unfold analysisRejection? at rejected
  cases first : Section.all.findSome? (sectionRejection? analysis) with
  | some inner =>
    rw [first] at rejected
    obtain rfl := Option.some.inj rejected
    obtain ⟨before, part, after, place, broken, passed⟩ := List.findSome?_eq_some_iff.mp first
    have kept : ∀ earlier ∈ before, earlier.Kept analysis := fun earlier member =>
      sectionRejection?_eq_none_iff.mp (passed earlier member)
    exact .inSection unlisted found object place kept (blames_of_sectionRejection? broken)
  | none =>
    have kept : ∀ part : Section, part.Kept analysis := fun part =>
      sectionRejection?_eq_none_iff.mp (List.findSome?_eq_none_iff.mp first part part.mem_all)
    have vacant : ∀ part : Section, ¬part.Occupied analysis := by
      intro part occupied
      have content : Section.all.any (hasContent analysis) = true :=
        List.any_eq_true.mpr ⟨part, part.mem_all, (kept part).hasContent_iff.mpr occupied⟩
      rw [first] at rejected
      simp [content] at rejected
    rw [first] at rejected
    dsimp only at rejected
    split at rejected
    · contradiction
    · obtain rfl := Option.some.inj rejected
      exact .noContent unlisted found object kept vacant

/-- A reply is rejected for the first value at fault in it. -/
theorem blames_of_rejection? {format : Option Json} {reply : Json} {rejection : Rejection}
    (rejected : rejection? format reply = some rejection) : Blames reply rejection.value := by
  cases reply with
  | object fields =>
    have object : IsObject (.object fields) := ⟨fields, rfl⟩
    unfold rejection? at rejected
    dsimp only at rejected
    split at rejected
    · contradiction
    · split at rejected
      · rename_i items listed
        exact .component listed (firstMisfit_of_itemsRejection? rejected)
      · rename_i other
        have unlisted : ¬Listed (.object fields) "components" := fun ⟨items, listed⟩ =>
          other items listed
        split at rejected
        · rename_i inner found
          exact blames_of_analysisRejection? unlisted found ⟨inner, rfl⟩ rejected
        · rename_i shapeless
          obtain rfl := Option.some.inj rejected
          refine .noStructure object unlisted fun analysis found => ?_
          rintro ⟨inner, rfl⟩
          exact shapeless inner found
  | _ =>
    obtain rfl := Option.some.inj rejected
    exact .notAnObject (by rintro ⟨fields, same⟩; cases same)

/-- A reply has no rejection exactly if the contract allows it. -/
theorem rejection?_eq_none_iff_accepts {format : Option Json} {reply : Json} :
    rejection? format reply = none ↔ Accepts format reply := by
  by_cases asked : asksForm format = true
  · have form := asksForm_iff.mp asked
    cases reply with
    | object fields =>
      have object : IsObject (.object fields) := ⟨fields, rfl⟩
      simp only [rejection?, asked, ↓reduceIte, true_iff]
      exact ⟨object, .inl form⟩
    | _ => simp [rejection?, Accepts, IsObject]
  · have plain : asksForm format = false := by simpa using asked
    have unasked : ¬∃ form, format = some form ∧ form.isTruthy = true := asked ∘ asksForm_iff.mpr
    rw [rejection?_eq_none_iff plain, Accepts]
    constructor
    · intro kept
      refine ⟨?_, .inr kept⟩
      -- Only objects have fields.
      cases reply with
      | object fields => exact ⟨fields, rfl⟩
      | _ => rcases kept with ⟨_, found, _⟩ | ⟨_, _, found, _⟩ <;> cases found
    · rintro ⟨_, form | kept⟩
      · exact absurd form unasked
      · exact kept

/-! ## One value is blamed -/

/-- Only one member of a list is the first without a property. -/
theorem first_unique {α : Type} {property : α → Prop} {first second : α}
    {before after others rest : List α}
    (split : before ++ first :: after = others ++ second :: rest)
    (kept : ∀ earlier ∈ before, property earlier) (broken : ¬property first)
    (otherKept : ∀ earlier ∈ others, property earlier) (otherBroken : ¬property second) :
    first = second := by
  rcases List.append_eq_append_iff.mp split with ⟨between, longer, tail⟩ | ⟨between, longer, tail⟩
  · cases between with
    | nil => exact (List.cons.inj tail).1
    | cons item between =>
      have member : first ∈ others := by simp [longer, (List.cons.inj tail).1]
      exact absurd (otherKept first member) broken
  · cases between with
    | nil => exact (List.cons.inj tail).1.symm
    | cons item between =>
      have member : second ∈ before := by simp [longer, (List.cons.inj tail).1]
      exact absurd (kept second member) otherBroken

/-- Only one item is the first that does not fit. -/
theorem FirstMisfit.unique {kind : ItemKind} {items : List Json} {first second : Json}
    (left : FirstMisfit kind items first) (right : FirstMisfit kind items second) :
    first = second := by
  obtain ⟨before, after, rfl, fits, misfit⟩ := left
  obtain ⟨others, rest, split, othersFit, otherMisfit⟩ := right
  exact first_unique split fits misfit othersFit otherMisfit

/-- A section with a fault is not as it must be. -/
theorem Section.Blames.not_kept {part : Section} {analysis value : Json}
    (blamed : part.Blames analysis value) : ¬part.Kept analysis := by
  intro kept
  rcases blamed with ⟨found, truthy, unlisted⟩ | ⟨items, found, before, after, rfl, _, misfit⟩
  · obtain ⟨items, rfl, _⟩ := kept value found truthy
    contradiction
  · have truthy : (Json.array (before ++ value :: after)).isTruthy = true := by
      simp [Json.isTruthy]
    obtain ⟨items, same, fit⟩ := kept _ found truthy
    obtain rfl := Json.array.inj same
    exact misfit (fit value (by simp))

/-- Only one value is at fault in a section. -/
theorem Section.Blames.unique {part : Section} {analysis first second : Json}
    (left : part.Blames analysis first) (right : part.Blames analysis second) :
    first = second := by
  rcases left with ⟨found, _, unlisted⟩ | ⟨items, found, misfit⟩ <;>
    rcases right with ⟨foundToo, _, unlistedToo⟩ | ⟨others, foundToo, misfitToo⟩
  · exact Option.some.inj (found.symm.trans foundToo)
  · obtain rfl := Option.some.inj (found.symm.trans foundToo)
    contradiction
  · obtain rfl := Option.some.inj (found.symm.trans foundToo)
    contradiction
  · obtain rfl := Json.array.inj (Option.some.inj (found.symm.trans foundToo))
    exact misfit.unique misfitToo

/-- Only one value is the first at fault in a reply. -/
theorem Blames.unique {reply first second : Json} (left : Blames reply first)
    (right : Blames reply second) : first = second := by
  have sameItems {items others : List Json}
      (listed : reply.get? "components" = some (.array items))
      (listedToo : reply.get? "components" = some (.array others)) : items = others :=
    Json.array.inj (Option.some.inj (listed.symm.trans listedToo))
  have sameAnalysis {analysis other : Json} (found : reply.get? "analysis" = some analysis)
      (foundToo : reply.get? "analysis" = some other) : analysis = other :=
    Option.some.inj (found.symm.trans foundToo)
  have objectOf {field : String} {value : Json} (found : reply.get? field = some value) :
      IsObject reply := by
    cases reply with
    | object fields => exact ⟨fields, rfl⟩
    | _ => cases found
  cases left with
  | notAnObject other =>
    cases right with
    | component listed _ => exact absurd (objectOf listed) other
    | inSection _ found _ _ _ _ => exact absurd (objectOf found) other
    | _ => rfl
  | component listed misfit =>
    cases right with
    | notAnObject other => exact absurd (objectOf listed) other
    | component listedToo misfitToo =>
      obtain rfl := sameItems listed listedToo
      exact misfit.unique misfitToo
    | noStructure _ unlisted _ => exact absurd ⟨_, listed⟩ unlisted
    | inSection unlisted _ _ _ _ _ => exact absurd ⟨_, listed⟩ unlisted
    | noContent unlisted _ _ _ _ => exact absurd ⟨_, listed⟩ unlisted
  | noStructure object unlisted missing =>
    cases right with
    | component listed _ => exact absurd ⟨_, listed⟩ unlisted
    | inSection _ found inner _ _ _ => exact absurd inner (missing _ found)
    | _ => rfl
  | inSection unlisted found inner place kept blamed =>
    cases right with
    | notAnObject other => exact absurd (objectOf found) other
    | component listed _ => exact absurd ⟨_, listed⟩ unlisted
    | noStructure _ _ missing => exact absurd inner (missing _ found)
    | inSection _ foundToo _ placeToo keptToo blamedToo =>
      obtain rfl := sameAnalysis found foundToo
      obtain rfl := first_unique (place.symm.trans placeToo) kept blamed.not_kept keptToo
        blamedToo.not_kept
      exact blamed.unique blamedToo
    | noContent _ foundToo _ keptToo _ =>
      obtain rfl := sameAnalysis found foundToo
      exact absurd (keptToo _) blamed.not_kept
  | noContent unlisted found inner kept vacant =>
    cases right with
    | component listed _ => exact absurd ⟨_, listed⟩ unlisted
    | inSection _ foundToo _ _ _ blamed =>
      obtain rfl := sameAnalysis found foundToo
      exact absurd (kept _) blamed.not_kept
    | _ => rfl

/-- The check accepts what the contract allows. It rejects any other reply, in no other way than for
the one value that is the first at fault. -/
theorem check_accepts_or_blames (format : Option Json) (reply : Json) :
    (Accepts format reply ∧ check format reply = .ok ()) ∨
      (¬Accepts format reply ∧ ∃ rejection,
        check format reply = .error (.rejected rejection) ∧
          ∀ value, Blames reply value ↔ value = rejection.value) := by
  unfold check
  cases verdict : rejection? format reply with
  | none => exact .inl ⟨rejection?_eq_none_iff_accepts.mp verdict, rfl⟩
  | some rejection =>
    have refused : ¬Accepts format reply := by
      rw [← rejection?_eq_none_iff_accepts, verdict]
      simp
    have blamed : Blames reply rejection.value := blames_of_rejection? verdict
    refine .inr ⟨refused, rejection, rfl, fun value => ⟨fun other => other.unique blamed, ?_⟩⟩
    rintro rfl
    exact blamed

end CodeAtlas.Reply
