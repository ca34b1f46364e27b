import CodeAtlas.Text.Removal

/-!
# What is left of a text

Removing stretches leaves a part of the characters, in their order. A stretch that is found at the
front goes, and characters at which no stretch begins stay, whatever follows them: `remove_stretch`,
`remove_append`. A piece in which all stretches end that begin in it is read by itself:
`remove_of_endsIn`. Stretches between marks begin only where an opening mark stands and a closing
mark follows: `remove_of_not_opens`.
-/
namespace CodeAtlas.Text

variable {find : Finder}

/-- What is left is a part of what there was, in order. -/
theorem removeFrom_sublist (find : Finder) (skip : Nat) (chars : List Char) :
    (removeFrom find skip chars).Sublist chars := by
  induction chars generalizing skip with
  | nil =>
    unfold removeFrom
    exact List.nil_sublist []
  | cons char rest ih =>
    cases skip with
    | succ skip => exact (ih skip).cons char
    | zero =>
      unfold removeFrom
      split
      · exact (ih _).cons char
      · exact (ih 0).cons_cons char

/-- What is left after removing is a part of what there was, in order. -/
theorem remove_sublist (find : Finder) (chars : List Char) :
    (remove find chars).Sublist chars :=
  removeFrom_sublist find 0 chars

/-! ## Stretches at the front -/

/-- The rest of a stretch that was found goes. -/
theorem removeFrom_append (find : Finder) (stretch rest : List Char) :
    removeFrom find stretch.length (stretch ++ rest) = remove find rest := by
  induction stretch with
  | nil => rfl
  | cons char stretch ih => exact ih

/-- A stretch that is found at the front goes. -/
theorem remove_stretch {stretch rest : List Char} (filled : stretch ≠ [])
    (found : find (stretch ++ rest) = some stretch.length) :
    remove find (stretch ++ rest) = remove find rest := by
  cases stretch with
  | nil => exact absurd rfl filled
  | cons char stretch =>
    rw [List.cons_append, List.length_cons] at found
    rw [List.cons_append, remove, removeFrom, found]
    exact removeFrom_append find stretch rest

/-- Characters at which no stretch begins stay. -/
theorem remove_append {front back : List Char}
    (clear : ∀ rest, rest ≠ [] → rest <:+ front → find (rest ++ back) = none) :
    remove find (front ++ back) = front ++ remove find back := by
  induction front with
  | nil => rfl
  | cons char front ih =>
    have here : find (char :: (front ++ back)) = none :=
      clear (char :: front) (List.cons_ne_nil char front) (List.suffix_refl _)
    have later : remove find (front ++ back) = front ++ remove find back :=
      ih fun rest filled suffix => clear rest filled (suffix.trans (List.suffix_cons char front))
    rw [List.cons_append, remove, removeFrom, here]
    exact congrArg (char :: ·) later

/-! ## Marks -/

/-- A mark is found exactly where it stands. -/
theorem isSome_distanceTo?_iff {mark text : List Char} :
    (distanceTo? mark text).isSome ↔ mark <:+: text := by
  induction text with
  | nil =>
    cases mark with
    | nil => simp [distanceTo?]
    | cons char mark => simp [distanceTo?]
  | cons char rest ih =>
    rw [distanceTo?, List.infix_cons_iff, ← ih]
    split
    · rename_i begins
      simp [List.isPrefixOf_iff_prefix.mp begins]
    · rename_i other
      have here : ¬ mark <+: char :: rest := fun begins =>
        other (List.isPrefixOf_iff_prefix.mpr begins)
      rw [Option.isSome_map, or_iff_right here]

/-- A mark is found behind characters at which it does not begin. -/
theorem distanceTo?_append {mark content rest : List Char}
    (clear : ∀ tail, tail ≠ [] → tail <:+ content → ¬ mark <+: tail ++ (mark ++ rest)) :
    distanceTo? mark (content ++ (mark ++ rest)) = some content.length := by
  induction content with
  | nil =>
    rw [List.nil_append, List.length_nil]
    cases all : mark ++ rest with
    | nil =>
      obtain ⟨rfl, rfl⟩ := List.append_eq_nil_iff.mp all
      rfl
    | cons char others =>
      have begins : mark.isPrefixOf (char :: others) = true := by
        rw [← all]
        exact List.isPrefixOf_iff_prefix.mpr (List.prefix_append mark rest)
      rw [distanceTo?, if_pos begins]
  | cons char content ih =>
    have here := clear (char :: content) (List.cons_ne_nil char content) (List.suffix_refl _)
    have later := ih fun tail filled suffix =>
      clear tail filled (suffix.trans (List.suffix_cons char content))
    rw [List.cons_append] at here ⊢
    rw [distanceTo?, if_neg (fun begins => here (List.isPrefixOf_iff_prefix.mp begins)), later]
    rfl

/-- A mark that stands in front of further characters is found there without them. -/
theorem distanceTo?_of_append {mark front rest : List Char} {distance : Nat}
    (found : distanceTo? mark (front ++ rest) = some distance)
    (within : distance + mark.length ≤ front.length) : distanceTo? mark front = some distance := by
  induction front generalizing distance with
  | nil =>
    obtain ⟨rfl, empty⟩ : distance = 0 ∧ mark.length = 0 := by
      rw [List.length_nil] at within
      omega
    obtain rfl := List.length_eq_zero_iff.mp empty
    rfl
  | cons char front ih =>
    rw [List.cons_append, distanceTo?] at found
    rw [distanceTo?]
    split at found
    · rename_i begins
      obtain rfl := Option.some.inj found
      have whole : mark <+: char :: front := by
        refine List.prefix_of_prefix_length_le (List.isPrefixOf_iff_prefix.mp begins)
          (List.prefix_append (char :: front) rest) ?_
        rwa [Nat.zero_add] at within
      rw [if_pos (List.isPrefixOf_iff_prefix.mpr whole)]
    · rename_i other
      obtain ⟨less, later, rfl⟩ := Option.map_eq_some_iff.mp found
      have apart : ¬ mark.isPrefixOf (char :: front) = true := fun begins =>
        other (List.isPrefixOf_iff_prefix.mpr
          ((List.isPrefixOf_iff_prefix.mp begins).trans (List.prefix_append (char :: front) rest)))
      rw [List.length_cons] at within
      rw [if_neg apart, ih later (by omega)]
      rfl

/-! ## Stretches that end in a piece -/

/-- Whether the stretches that begin in a piece, which `rest` follows, end in it; the first `skip`
characters belong to a stretch found before. -/
def endsInFrom (find : Finder) (rest : List Char) : Nat → List Char → Bool
  | _, [] => true
  | skip + 1, _ :: piece => endsInFrom find rest skip piece
  | 0, char :: piece =>
    match find (char :: piece ++ rest) with
    | some (length + 1) => length ≤ piece.length && endsInFrom find rest length piece
    | _ => endsInFrom find rest 0 piece

/-- Whether the stretches that begin in a piece, which `rest` follows, end in it. -/
def endsIn (find : Finder) (rest piece : List Char) : Bool := endsInFrom find rest 0 piece

/-- What a finder finds depends on the characters of the stretch alone. -/
structure Local (find : Finder) : Prop where
  /-- A stretch that ends in a piece is found in the piece. -/
  some : ∀ piece rest length, find (piece ++ rest) = some length → length ≤ piece.length →
    find piece = some length
  /-- Where no stretch is found none is found in less. -/
  none : ∀ piece rest, find (piece ++ rest) = none → find piece = none

/-- A piece in which all stretches end loses its own ones and the rest of one found before. -/
theorem removeFrom_of_endsInFrom (isLocal : Local find) {skip : Nat} {piece rest : List Char}
    (short : skip ≤ piece.length) (ends : endsInFrom find rest skip piece = true) :
    removeFrom find skip (piece ++ rest) = removeFrom find skip piece ++ remove find rest := by
  induction piece generalizing skip with
  | nil =>
    obtain rfl : skip = 0 := Nat.le_zero.mp short
    rfl
  | cons char piece ih =>
    cases skip with
    | succ skip => exact ih (Nat.le_of_succ_le_succ short) ends
    | zero =>
      have stays (ends : endsInFrom find rest 0 piece = true) :
          char :: removeFrom find 0 (piece ++ rest) =
            (char :: removeFrom find 0 piece) ++ remove find rest := by
        rw [ih (Nat.zero_le _) ends, List.cons_append]
      unfold endsInFrom at ends
      rw [List.cons_append]
      unfold removeFrom
      cases found : find (char :: piece ++ rest) with
      | none =>
        rw [found] at ends
        rw [← List.cons_append, found, isLocal.none _ _ found]
        exact stays ends
      | some length =>
        rw [found] at ends
        cases length with
        | zero =>
          rw [← List.cons_append, found, isLocal.some _ _ _ found (Nat.zero_le _)]
          exact stays ends
        | succ length =>
          dsimp only at ends
          rw [Bool.and_eq_true, decide_eq_true_iff] at ends
          rw [← List.cons_append, found,
            isLocal.some _ _ _ found (Nat.succ_le_succ ends.1)]
          exact ih ends.1 ends.2

/-- A piece in which all stretches end loses its own ones, whatever follows it. -/
theorem remove_of_endsIn (isLocal : Local find) {piece rest : List Char}
    (ends : endsIn find rest piece = true) :
    remove find (piece ++ rest) = remove find piece ++ remove find rest :=
  removeFrom_of_endsInFrom isLocal (Nat.zero_le _) ends

/-! ## Stretches between marks -/

/-- At a place in `piece`, which `rest` follows, an opening mark begins and later a closing mark
stands. -/
def opens (opening closing piece rest : List Char) : Bool :=
  (List.range piece.length).any fun place =>
    opening.isPrefixOf ((piece ++ rest).drop place) &&
      (distanceTo? closing ((piece ++ rest).drop (place + opening.length))).isSome

/-- What a finder finds begins with one of the opening marks and has the closing mark in it. -/
def Delimited (find : Finder) (openings : List (List Char)) (closing : List Char) : Prop :=
  ∀ chars, find chars ≠ none →
    ∃ opening ∈ openings, ∃ back, chars = opening ++ back ∧ (distanceTo? closing back).isSome

/-- A piece in which no stretch is opened stays. -/
theorem remove_of_not_opens {openings : List (List Char)} {closing piece rest : List Char}
    (delimited : Delimited find openings closing)
    (clear : ∀ opening ∈ openings, opens opening closing piece rest = false) :
    remove find (piece ++ rest) = piece ++ remove find rest := by
  refine remove_append fun tail filled ⟨front, split⟩ => Classical.byContradiction fun found => ?_
  obtain ⟨opening, known, back, begins, closed⟩ := delimited _ found
  have place : front.length < piece.length := by
    rw [← split, List.length_append]
    exact Nat.lt_add_of_pos_right (List.length_pos_iff.mpr filled)
  have behind : (piece ++ rest).drop front.length = opening ++ back := by
    rw [← split, List.append_assoc, List.drop_left, begins]
  have opened : opens opening closing piece rest = true := by
    refine List.any_eq_true.mpr ⟨front.length, List.mem_range.mpr place, ?_⟩
    rw [← List.drop_drop, behind, List.drop_left, closed, Bool.and_true]
    exact List.isPrefixOf_iff_prefix.mpr (List.prefix_append opening back)
  exact absurd opened (by rw [clear opening known]; exact Bool.false_ne_true)

/-- Nothing is opened in characters that the opening mark does not begin with. -/
theorem opens_eq_false {first : Char} {opening closing piece rest : List Char}
    (free : first ∉ piece) : opens (first :: opening) closing piece rest = false := by
  refine List.any_eq_false.mpr fun place within opened => free ?_
  have bound : place < piece.length := List.mem_range.mp within
  rw [Bool.and_eq_true, List.drop_append_of_le_length (Nat.le_of_lt bound),
    List.drop_eq_getElem_cons bound] at opened
  have same : first = piece[place] := by
    have begins := List.isPrefixOf_iff_prefix.mp opened.1
    exact (List.cons_prefix_cons.mp begins).1
  rw [same]
  exact List.getElem_mem bound

end CodeAtlas.Text
