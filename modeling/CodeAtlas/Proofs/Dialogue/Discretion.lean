import CodeAtlas.Proofs.Dialogue.Conversation

/-!
# Directories are not sent

Two analyses that differ only in the directories of their files, and in the places of methods, have
one context, so that a question about either is asked with the same words and comes to the same end:
`ask_of_alike`. Of a place the context keeps the last name of the file and the lines.
-/
namespace CodeAtlas

/-- Two places on the same lines of files with the same last name, in whatever directories. -/
structure Location.Alike (first second : Location) : Prop where
  /-- The last names of the files are the same. -/
  name : (Path.ofString first.file).name = (Path.ofString second.file).name
  /-- The places begin on the same line. -/
  startLine : first.startLine = second.startLine
  /-- They end on the same line. -/
  endLine : first.endLine = second.endLine

/-- Two functions that are equal but for their places. -/
def Function.SameButPlace (first second : Function) : Prop :=
  { first with location := second.location } = second

/-- Two functions that are equal but for the directories of their files. -/
structure Function.Alike (first second : Function) : Prop where
  /-- They are equal but for their places. -/
  same : first.SameButPlace second
  /-- Their places differ in directories only. -/
  location : first.location.Alike second.location

/-- Two classes that are equal but for the directories of their files and the places of their
methods. -/
structure Class.Alike (first second : Class) : Prop where
  /-- They are equal but for their places and their methods. -/
  same : { first with methods := second.methods, location := second.location } = second
  /-- Their methods, in order, are equal but for their places. -/
  methods : List.Forall₂ Function.SameButPlace first.methods second.methods
  /-- Their places differ in directories only. -/
  location : first.location.Alike second.location

/-- Two analyses that are equal but for the directories of their files and the places of methods. -/
structure Analysis.Alike (first second : Analysis) : Prop where
  /-- Their functions, in order, differ in directories only. -/
  functions : List.Forall₂ Function.Alike first.functions second.functions
  /-- Their classes, in order, differ in directories and in places of methods only. -/
  classes : List.Forall₂ Class.Alike first.classes second.classes

/-- What is made of items that are related one by one is the same if it is the same of each two. -/
theorem map_eq_of_forall₂ {α β : Type} {relation : α → α → Prop} {make : α → β}
    {left right : List α} (related : List.Forall₂ relation left right)
    (same : ∀ {first second}, relation first second → make first = make second) :
    left.map make = right.map make := by
  have each : List.Forall₂ (fun first second => make first = make second) left right :=
    related.imp fun _ _ => same
  rwa [← List.forall₂_eq_eq_eq, List.forall₂_map_left_iff, List.forall₂_map_right_iff]

namespace Request

/-! ## Records -/

/-- Of a place only the last name of the file and the lines are sent. -/
theorem placeRecord_of_alike {first second : Location} (alike : first.Alike second) :
    placeRecord first = placeRecord second := by
  rw [placeRecord, placeRecord, alike.name, alike.startLine, alike.endLine]

/-- The place of a method is not sent. -/
theorem methodRecord_of_same {first second : Function} (same : first.SameButPlace second) :
    methodRecord first = methodRecord second := by
  rw [← same]
  rfl

/-- The directory of a function is not sent. -/
theorem functionRecord_of_alike {first second : Function} (alike : first.Alike second) :
    functionRecord first (bodyText first) = functionRecord second (bodyText second) := by
  have place := placeRecord_of_alike alike.location
  rw [functionRecord, place, ← alike.same]
  rfl

/-- The directory of a class is not sent. -/
theorem classRecord_of_alike {first second : Class} (alike : first.Alike second) :
    classRecord first = classRecord second := by
  have place := placeRecord_of_alike alike.location
  have methods : first.methods.map methodRecord = second.methods.map methodRecord :=
    map_eq_of_forall₂ alike.methods methodRecord_of_same
  rw [classRecord, place, methods, ← alike.same]
  rfl

/-- Analyses that differ in directories only have one context. -/
theorem analysisRecord_of_alike (moment : String) {first second : Analysis}
    (alike : first.Alike second) :
    analysisRecord moment first = analysisRecord moment second := by
  have functions :
      (first.functions.map fun function => functionRecord function (bodyText function)) =
        second.functions.map fun function => functionRecord function (bodyText function) :=
    map_eq_of_forall₂ alike.functions functionRecord_of_alike
  have classes : first.classes.map classRecord = second.classes.map classRecord :=
    map_eq_of_forall₂ alike.classes classRecord_of_alike
  rw [analysisRecord, analysisRecord, functions, classes]

end Request

namespace Dialogue.Client

variable {σ : Type}

/-! ## Questions -/

/-- Questions about two analyses that differ in directories only are put by one conversation, or
neither can be put. -/
theorem exchange?_of_alike (client : Client σ) (prompt : String) (format : Option Json)
    {first second : Analysis} (alike : first.Alike second) :
    client.exchange? ⟨prompt, first.toJson, format⟩ =
      client.exchange? ⟨prompt, second.toJson, format⟩ := by
  have roomy := client.limits.copying.roomy
  simp only [exchange?, context, Request.context_toJson roomy client.moment,
    Request.analysisRecord_of_alike client.moment alike]
  rfl

/-- A question about either of two analyses that differ in directories only has the same
conversations, word for word, and comes to the same end. It has one conversation if the lines of the
analysis can be sent and the form of the answer can be written, and none otherwise. -/
theorem ask_of_alike (client : Client σ) (session : Session σ) (prompt : String)
    (format : Option Json) {first second : Analysis} (alike : first.Alike second) :
    ∃ exchanges outcome,
      client.ask ⟨prompt, first.toJson, format⟩ session =
        (outcome, session.after client.backend exchanges) ∧
      client.ask ⟨prompt, second.toJson, format⟩ session =
        (outcome, session.after client.backend exchanges) ∧
      (first.Sendable ∧ formError? client.limits.writing.levels format = none →
        ∃ exchange, exchanges = [exchange]) := by
  have same := client.exchange?_of_alike prompt format alike
  cases put : client.exchange? ⟨prompt, first.toJson, format⟩ with
  | error error =>
    refine ⟨[], .error error, ?_, ?_, fun ⟨sendable, form⟩ => ?_⟩
    · rw [ask, put, Session.after_nil]
    · rw [ask, ← same, put, Session.after_nil]
    · have sends :
          client.Sends (Survey.inquiry client.moment ⟨prompt, first.toJson, format⟩ first) :=
        sends_inquiry sendable rfl form
      cases put.symm.trans sends
  | ok exchange =>
    have sends : client.Sends ⟨⟨prompt, first.toJson, format⟩, exchange⟩ := put
    have also : client.Sends ⟨⟨prompt, second.toJson, format⟩, exchange⟩ := same.symm.trans put
    exact ⟨[exchange], _, client.ask_inquiry session sends, client.ask_inquiry session also,
      fun _ => ⟨exchange, rfl⟩⟩

/-- A function and a class of a file in a directory; the class has a method on a line. -/
def placedAnalysis (directory : String) (line : Nat) : Analysis where
  functions := [⟨"f", [], "any", none, "", ⟨directory ++ "a.ts", 1, 2⟩⟩]
  classes := [⟨"C", [⟨"m", [], "any", some "a;", "", ⟨directory ++ "b.ts", line, line + 1⟩⟩], [],
    "", ⟨directory ++ "a.ts", 4, 9⟩, none⟩]

/-- Two analyses of a file that was moved, with a method on other lines, are different but asked
about with the same words. -/
theorem ask_of_alike_moved :
    placedAnalysis "/home/user/src/" 5 ≠ placedAnalysis "lib//./" 7 ∧
      (placedAnalysis "/home/user/src/" 5).Alike (placedAnalysis "lib//./" 7) ∧
      ∃ exchange outcome,
        scripted.ask ⟨"p", (placedAnalysis "/home/user/src/" 5).toJson, none⟩ ⟨[], ["no"]⟩ =
          (outcome, ⟨[exchange], []⟩) ∧
        scripted.ask ⟨"p", (placedAnalysis "lib//./" 7).toJson, none⟩ ⟨[], ["no"]⟩ =
          (outcome, ⟨[exchange], []⟩) := by
  have name : (Path.ofString "/home/user/src/a.ts").name = (Path.ofString "lib//./a.ts").name := by
    decide +kernel
  have place (first last : Nat) :
      Location.Alike ⟨"/home/user/src/a.ts", first, last⟩ ⟨"lib//./a.ts", first, last⟩ :=
    ⟨name, rfl, rfl⟩
  have alike : (placedAnalysis "/home/user/src/" 5).Alike (placedAnalysis "lib//./" 7) :=
    ⟨.cons ⟨rfl, place 1 2⟩ .nil, .cons ⟨rfl, .cons rfl .nil, place 4 9⟩ .nil⟩
  have sendable : (placedAnalysis "/home/user/src/" 5).Sendable :=
    ⟨List.forall_mem_singleton.mpr ⟨by decide, by decide⟩,
      List.forall_mem_singleton.mpr ⟨by decide, by decide⟩⟩
  obtain ⟨exchanges, outcome, one, other, count⟩ :=
    scripted.ask_of_alike ⟨[], ["no"]⟩ "p" none alike
  obtain ⟨exchange, rfl⟩ := count ⟨sendable, rfl⟩
  exact ⟨by decide +kernel, alike, exchange, outcome, one, other⟩

end Dialogue.Client

end CodeAtlas
