import CodeAtlas.Yaml.Token

/-!
# Where tokens stop

Reading tokens stops where a text is malformed, at a code in double quotes that no character has,
or at a number of a version that is too long to be read; it stops for no other fault:
`lexical_of_stop`. The tokens before have no stop among them.
-/
namespace CodeAtlas.Yaml

variable {α β : Type}

/-! ## Reading what may stop -/

/-- Why tokens stop. -/
inductive Lexical : Stop → Prop where
  /-- The text is malformed. -/
  | malformed : Lexical .malformed
  /-- A code is beyond those of characters. -/
  | badCode : Lexical (.fault .badCode)
  /-- A code is too large to be looked at. -/
  | hugeCode : Lexical (.fault .hugeCode)
  /-- A number of a version has too many digits. -/
  | longInteger {digits : Nat} (long : Json.digitLimit < digits) :
    Lexical (.fault (.longInteger digits))

/-- What is read is good, or reading stops for one of these reasons. -/
def Reads (good : α → Prop) : Except Stop α → Prop
  | .ok value => good value
  | .error reason => Lexical reason

namespace Reads

variable {good : α → Prop} {better : β → Prop}

/-- A malformed text is read no further. -/
theorem malformed : Reads good malformed := Lexical.malformed

/-- What is there already is read. -/
theorem pure {value : α} (holds : good value) : Reads good (Pure.pure value) := holds

/-- Reading one thing after the other. -/
theorem bind {first : Except Stop α} {next : α → Except Stop β} (reads : Reads good first)
    (further : ∀ value, good value → Reads better (next value)) :
    Reads better (first >>= next) := by
  cases first with
  | error reason => exact reads
  | ok value => exact further value reads

/-- Reading on, whatever was read. -/
theorem skip {first : Except Stop α} {next : α → Except Stop β} (reads : Reads good first)
    (further : ∀ value, Reads better (next value)) : Reads better (first >>= next) :=
  reads.bind fun value _ => further value

/-- Reading one or the other. -/
theorem ite {condition : Prop} [Decidable condition] {yes no : Except Stop α}
    (first : Reads good yes) (second : Reads good no) :
    Reads good (if condition then yes else no) := by
  split
  · exact first
  · exact second

/-- What is made of what is read. -/
theorem map {first : Except Stop α} {make : α → β} (reads : Reads good first)
    (keeps : ∀ value, good value → better (make value)) : Reads better (first.map make) := by
  cases first with
  | error reason => exact reads
  | ok value => exact keeps value reads

end Reads

/-- Reading stops for one of these reasons, if it stops. -/
abbrev Legible (outcome : Except Stop α) : Prop := Reads (fun _ => True) outcome

/-! ## Scalars -/

theorem legible_quotedBreaks (fuel : Nat) (place : Place) (found : List Char) :
    Legible (quotedBreaks fuel place found) := by
  induction fuel generalizing place found with
  | zero => exact trivial
  | succ fuel ih =>
    unfold quotedBreaks
    refine .ite .malformed ?_
    dsimp only
    split
    · exact ih _ _
    · exact trivial

theorem legible_quotedGap (place : Place) : Legible (quotedGap place) := by
  unfold quotedGap
  dsimp only
  split
  · exact .malformed
  · split
    · exact trivial
    · exact (legible_quotedBreaks _ _ _).skip fun _ => trivial

/-- A code that no character has stops reading. -/
theorem legible_charOfCode (code : Nat) : Legible (charOfCode code) :=
  .ite Lexical.hugeCode (.ite Lexical.badCode (.ite trivial trivial))

theorem legible_escaped (place : Place) : Legible (escaped place) := by
  unfold escaped
  split
  · exact .malformed
  · split
    · exact trivial
    · dsimp only
      split
      · exact .malformed
      · exact (legible_charOfCode _).map fun _ _ => trivial
    · split
      · exact legible_quotedBreaks _ _ _
      · exact .malformed

theorem legible_quotedFrom (double : Bool) (fuel : Nat) (place : Place) (text : List Char) :
    Legible (quotedFrom double fuel place text) := by
  induction fuel generalizing place text with
  | zero => exact .malformed
  | succ fuel ih =>
    unfold quotedFrom
    dsimp only
    split
    · exact .malformed
    · exact .ite (ih _ _) (ih _ _)
    · exact .ite (ih _ _) trivial
    · exact .ite trivial (ih _ _)
    · exact .ite ((legible_escaped _).skip fun _ => ih _ _) (ih _ _)
    · exact (legible_quotedGap _).skip fun _ => ih _ _

theorem legible_blockSigns (place : Place) : Legible (blockSigns place) := by
  unfold blockSigns
  dsimp only
  exact .ite .malformed trivial

theorem legible_ignoredLine (place : Place) : Legible (ignoredLine place) := by
  unfold ignoredLine
  dsimp only
  exact .ite trivial .malformed

theorem legible_block (folded : Bool) (indent : Int) (place : Place) :
    Legible (block folded indent place) :=
  (legible_blockSigns place).skip fun _ => (legible_ignoredLine _).skip fun _ => trivial

/-! ## Names, tags and directives -/

theorem legible_anchorName (place : Place) : Legible (anchorName place) := by
  unfold anchorName
  dsimp only
  exact .ite .malformed trivial

theorem legible_handle (place : Place) : Legible (handle place) := by
  unfold handle
  refine .ite .malformed (.ite trivial ?_)
  dsimp only
  exact .ite trivial .malformed

theorem legible_codedBytes (fuel : Nat) (place : Place) : Legible (codedBytes fuel place) := by
  induction fuel generalizing place with
  | zero => exact trivial
  | succ fuel ih =>
    unfold codedBytes
    refine .ite ?_ trivial
    split
    · exact (ih _).skip fun _ => trivial
    · exact .malformed

theorem legible_tagTextFrom (fuel : Nat) (place : Place) (found : List Char) :
    Legible (tagTextFrom fuel place found) := by
  induction fuel generalizing place found with
  | zero => exact trivial
  | succ fuel ih =>
    unfold tagTextFrom
    refine .ite ?_ ?_
    · exact (legible_codedBytes _ _).skip fun _ => .ite (ih _ _) .malformed
    · dsimp only
      exact .ite trivial (ih _ _)

theorem legible_tagText (place : Place) : Legible (tagText place) :=
  (legible_tagTextFrom _ _ _).skip fun _ => .ite .malformed trivial

theorem legible_tag (place : Place) : Legible (tag place) := by
  have ending (found : Option String × String) (place : Place) :
      Legible (if endsAtBlank place.head? then pure (found, place) else malformed) :=
    .ite trivial .malformed
  unfold tag
  dsimp only
  split
  · exact (legible_tagText _).skip fun _ => .ite (ending _ _) .malformed
  · refine .ite (ending _ _) (.ite ?_ ?_)
    · exact (legible_handle _).skip fun _ => (legible_tagText _).skip fun _ => ending _ _
    · exact (legible_tagText _).skip fun _ => ending _ _

/-- A number of a version that is too long stops reading. -/
theorem legible_versionNumber (place : Place) : Legible (versionNumber place) := by
  unfold versionNumber
  dsimp only
  refine .ite .malformed ?_
  split
  · rename_i long
    exact Lexical.longInteger long
  · exact trivial

theorem legible_directive (place : Place) : Legible (directive place) := by
  have ending (found : Directive) (place : Place) : Legible (do
      let place ← ignoredLine place
      return (found, place)) :=
    (legible_ignoredLine place).skip fun _ => trivial
  unfold directive
  dsimp only
  refine .ite .malformed (.ite ?_ (.ite ?_ (ending _ _)))
  · refine (legible_versionNumber _).skip fun _ => .ite ?_ .malformed
    exact (legible_versionNumber _).skip fun _ => .ite (ending _ _) .malformed
  · refine (legible_handle _).skip fun _ => .ite ?_ .malformed
    exact (legible_tagText _).skip fun _ => .ite (ending _ _) .malformed

/-! ## Tokens -/

/-- Whether tokens may follow a token. -/
def Token.goesOn : Token → Bool
  | .stop _ => false
  | _ => true

namespace Scan

variable {scan : Scan} {token : Token}

/-- A scan that did not stop before. -/
def Goes (scan : Scan) : Prop := ∀ token ∈ scan.tokens, token.goesOn = true

/-- A token may be added to the others. -/
theorem goes_push (goes : scan.Goes) (other : token.goesOn = true) :
    ∀ each ∈ scan.tokens ++ [token], each.goesOn = true :=
  List.forall_mem_append.mpr ⟨goes, List.forall_mem_singleton.mpr other⟩

/-- A token may be put anywhere among the others. -/
theorem goes_insert (goes : scan.Goes) (other : token.goesOn = true) (number : Nat) :
    ∀ each ∈ scan.tokens.take number ++ token :: scan.tokens.drop number, each.goesOn = true := by
  have before : ∀ each ∈ scan.tokens.take number, each.goesOn = true :=
    fun each member => goes each (List.mem_of_mem_take member)
  have after : ∀ each ∈ scan.tokens.drop number, each.goesOn = true :=
    fun each member => goes each (List.mem_of_mem_drop member)
  exact List.forall_mem_append.mpr ⟨before, List.forall_mem_cons.mpr ⟨other, after⟩⟩

theorem goes_skipGap (fuel : Nat) (goes : scan.Goes) : (skipGap fuel scan).Goes := by
  induction fuel generalizing scan with
  | zero => exact goes
  | succ fuel ih =>
    unfold skipGap
    dsimp only
    split
    · exact ih goes
    · exact goes

theorem goes_unwind (column : Option Nat) (goes : scan.Goes) : (scan.unwind column).Goes := by
  unfold unwind
  split
  · refine List.forall_mem_append.mpr ⟨goes, fun each closed => ?_⟩
    rw [List.eq_of_mem_replicate closed]
    rfl
  · exact goes

theorem goes_openBlock (goes : scan.Goes) (other : token.goesOn = true) (column number : Nat) :
    (scan.openBlock token column number).Goes := by
  unfold openBlock
  split
  · exact goes_insert goes other number
  · exact goes

/-- A step of a scan goes on, or it stops. -/
abbrev Steps (outcome : Except Stop Scan) : Prop := Reads Goes outcome

theorem steps_dropOver (goes : scan.Goes) : Steps scan.dropOver := .ite .malformed goes

theorem steps_withdraw (goes : scan.Goes) : Steps scan.withdraw := .ite .malformed goes

theorem steps_offer (goes : scan.Goes) : Steps scan.offer :=
  .ite ((steps_withdraw goes).bind fun _ goes => goes) goes

theorem steps_openHere (goes : scan.Goes) (other : token.goesOn = true) :
    Steps (scan.openHere token) :=
  .ite goes (.ite (goes_openBlock goes other _ _) .malformed)

theorem steps_finish (goes : scan.Goes) : Steps scan.finish :=
  (steps_withdraw (goes_unwind none goes)).bind fun _ goes => goes_push goes rfl

theorem steps_separator (goes : scan.Goes) (other : token.goesOn = true) :
    Steps (scan.separator token) :=
  (steps_withdraw (goes_unwind none goes)).bind fun _ goes => goes_push goes other

theorem steps_readDirective (goes : scan.Goes) : Steps scan.readDirective :=
  (steps_withdraw (goes_unwind none goes)).bind fun _ goes =>
    (legible_directive _).skip fun _ => goes_push goes rfl

theorem steps_openFlow (goes : scan.Goes) (other : token.goesOn = true) :
    Steps (scan.openFlow token) :=
  (steps_offer goes).bind fun _ goes => goes_push goes other

theorem steps_closeFlow (goes : scan.Goes) (other : token.goesOn = true) :
    Steps (scan.closeFlow token) :=
  (steps_withdraw goes).bind fun _ goes => goes_push goes other

theorem steps_readFlowEntry (goes : scan.Goes) : Steps scan.readFlowEntry :=
  (steps_withdraw goes).bind fun _ goes => goes_push goes rfl

theorem steps_readBlockEntry (goes : scan.Goes) : Steps scan.readBlockEntry :=
  (steps_openHere goes rfl).bind fun _ goes =>
    (steps_withdraw goes).bind fun _ goes => goes_push goes rfl

theorem steps_readKey (goes : scan.Goes) : Steps scan.readKey :=
  (steps_openHere goes rfl).bind fun _ goes =>
    (steps_withdraw goes).bind fun _ goes => goes_push goes rfl

theorem steps_readValue (goes : scan.Goes) : Steps scan.readValue := by
  unfold readValue
  split
  · rename_i candidate _
    let keyed : Scan :=
      { scan with
        candidates := scan.candidates.filter (·.1 != scan.flow),
        tokens := scan.tokens.take candidate.number ++ .key :: scan.tokens.drop candidate.number }
    have goesKeyed : keyed.Goes := goes_insert goes rfl candidate.number
    have goesOpened : (if keyed.flow = 0 then
        keyed.openBlock .blockMappingStart candidate.column candidate.number else keyed).Goes := by
      split
      · exact goes_openBlock goesKeyed rfl _ _
      · exact goesKeyed
    exact goes_push goesOpened rfl
  · exact (steps_openHere goes rfl).bind fun _ goes =>
      (steps_withdraw goes).bind fun _ goes => goes_push goes rfl

/-- A word is read if its reader gives a token after which others may follow. -/
theorem steps_readWord {reader : Place → Except Stop (Token × Place)} (goes : scan.Goes)
    (reads : ∀ place, Reads (fun found => found.1.goesOn = true) (reader place)) :
    Steps (scan.readWord reader) :=
  (steps_offer goes).bind fun _ goes => (reads _).bind fun _ other => goes_push goes other

theorem steps_readQuoted (goes : scan.Goes) (double : Bool) : Steps (scan.readQuoted double) :=
  steps_readWord goes fun _ => (legible_quotedFrom double _ _ _).skip fun _ => rfl

theorem steps_readPlain (goes : scan.Goes) : Steps scan.readPlain :=
  (steps_offer goes).bind fun _ goes => goes_push goes rfl

theorem steps_readBlock (goes : scan.Goes) (folded : Bool) : Steps (scan.readBlock folded) :=
  (steps_withdraw goes).bind fun _ goes =>
    (legible_block folded _ _).skip fun _ => goes_push goes rfl

theorem steps_readToken (goes : scan.Goes) (char : Char) : Steps (scan.readToken char) := by
  unfold readToken
  dsimp only
  exact .ite (steps_readDirective goes) <| .ite (steps_separator goes rfl) <|
    .ite (steps_separator goes rfl) <| .ite (steps_openFlow goes rfl) <|
    .ite (steps_openFlow goes rfl) <| .ite (steps_closeFlow goes rfl) <|
    .ite (steps_closeFlow goes rfl) <| .ite (steps_readFlowEntry goes) <|
    .ite (steps_readBlockEntry goes) <| .ite (steps_readKey goes) <|
    .ite (steps_readValue goes) <|
    .ite (steps_readWord goes fun _ => (legible_anchorName _).skip fun _ => rfl) <|
    .ite (steps_readWord goes fun _ => (legible_anchorName _).skip fun _ => rfl) <|
    .ite (steps_readWord goes fun _ => (legible_tag _).skip fun _ => rfl) <|
    .ite (steps_readBlock goes false) <| .ite (steps_readBlock goes true) <|
    .ite (steps_readQuoted goes false) <| .ite (steps_readQuoted goes true) <|
    .ite (steps_readPlain goes) .malformed

/-- The next token is read, or the scan stops for one of the reasons. -/
theorem steps_step (goes : scan.Goes) : Steps scan.step := by
  refine (steps_dropOver (goes_skipGap _ goes)).bind fun scan goes => ?_
  have unwound := goes_unwind (some scan.place.column) goes
  dsimp only
  split
  · exact steps_finish unwound
  · exact steps_readToken unwound _

/-- Tokens stop for one of the reasons. -/
theorem lexical_of_allFrom {fuel : Nat} (goes : scan.Goes) {reason : Stop}
    (stop : Token.stop reason ∈ allFrom fuel scan) : Lexical reason := by
  induction fuel generalizing scan with
  | zero => cases goes _ stop
  | succ fuel ih =>
    have step := steps_step goes
    unfold allFrom at stop
    cases outcome : scan.step with
    | error other =>
      rw [outcome] at step stop
      rcases List.mem_append.mp stop with before | last
      · cases goes _ (List.mem_of_mem_take before)
      · cases List.mem_singleton.mp last
        exact step
    | ok next =>
      rw [outcome] at step stop
      dsimp only at stop
      split at stop
      · cases step _ stop
      · exact ih step stop

end Scan

/-- The tokens of a text stop for one of the reasons. -/
theorem lexical_of_stop {text : List Char} {reason : Stop}
    (stop : Token.stop reason ∈ Token.ofText text) : Lexical reason := by
  have begins : (Scan.start text).Goes := List.forall_mem_nil _
  exact Scan.lexical_of_allFrom begins stop

end CodeAtlas.Yaml
