import Std.Data.TreeMap
import CodeAtlas.Syntax.Draft

/-!
# Grammar rules and how they are read

A grammar is a rule for each of its phrases. A rule is a value: alternatives are ordered, and the
first that fits is taken. `Rule.read` reads the source by recursion on the rule; phrases that a
rule refers to are read by a function it is given, so that `Grammar.read` ties the knot by
recursion on a bound of the nesting depth. What each phrase reads at each place is remembered,
and so is the furthest token that fitted no rule, with the constructs that were open there.
-/
namespace CodeAtlas.Syntax

/-- A rule over phrases of type `Phrase`. -/
inductive Rule (Phrase : Type) where
  /-- Nothing. -/
  | done
  /-- One token. -/
  | token (terminal : Terminal)
  /-- One rule and then another. -/
  | seq (first second : Rule Phrase)
  /-- The first rule, or else the second. -/
  | alt (first second : Rule Phrase)
  /-- The rule or nothing. -/
  | opt (body : Rule Phrase)
  /-- The rule as often as it fits. -/
  | many (body : Rule Phrase)
  /-- The rule as one node. -/
  | node (kind : Kind) (body : Rule Phrase)
  /-- The rule in a place of the parent. -/
  | field (field : Field) (body : Rule Phrase)
  /-- The rule of another phrase. -/
  | ref (phrase : Phrase)
  /-- Nothing, provided that the rule fits here. -/
  | ahead (body : Rule Phrase)
  /-- Nothing, provided that the rule does not fit here. -/
  | absent (body : Rule Phrase)
  /-- The first rule, then the second as often as it fits, each time onto what stands before. -/
  | grow (base step : Rule Phrase)
  /-- Within `grow`: one node that begins with what stands before. -/
  | onto (kind : Kind) (body : Rule Phrase)
  /-- The rule, provided that it gives one node of one of the kinds. -/
  | only (kinds : List Kind) (body : Rule Phrase)

namespace Rule

variable {Phrase : Type}

instance : HAndThen (Rule Phrase) (Rule Phrase) (Rule Phrase) :=
  ⟨fun first second => .seq first (second ())⟩

instance : OrElse (Rule Phrase) := ⟨fun first second => .alt first (second ())⟩

/-- A construct that has begun: its kind and the place of its first token. -/
structure Open where
  /-- What it is. -/
  kind : Kind
  /-- Where it begins. -/
  first : Cursor

/-- A token that fitted no rule. -/
structure Stop where
  /-- Where the token before it ends. -/
  last : Cursor
  /-- Where the token begins. -/
  place : Cursor
  /-- The constructs open there, innermost first. -/
  openings : List Open

/-- What is remembered while a source is read. -/
structure Memory (Phrase : Type) where
  /-- What phrases read at each offset. -/
  read : Std.TreeMap Nat (List (Phrase × Option (List Draft × Cursor)))
  /-- The furthest token that fitted no rule. -/
  stop : Option Stop

/-- A reader of drafts: from the open constructs, the drafts before and a place. -/
abbrev Reader (Phrase : Type) :=
  List Open → List Draft → Cursor → Memory Phrase → Option (List Draft × Cursor) × Memory Phrase

/-- What a phrase read at an offset, if it was read there. -/
def Memory.get? [BEq Phrase] (memory : Memory Phrase) (phrase : Phrase) (offset : Nat) :
    Option (Option (List Draft × Cursor)) :=
  (memory.read.getD offset []).lookup phrase

/-- Remember what a phrase read at an offset. -/
def Memory.insert (memory : Memory Phrase) (phrase : Phrase) (offset : Nat)
    (found : Option (List Draft × Cursor)) : Memory Phrase :=
  { memory with
    read := memory.read.insert offset ((phrase, found) :: memory.read.getD offset []) }

/-- Remember a token that fitted no rule, if it is the furthest. -/
def Memory.note (memory : Memory Phrase) (stop : Stop) : Memory Phrase :=
  match memory.stop with
  | some furthest =>
    if furthest.place.offset < stop.place.offset then { memory with stop := some stop } else memory
  | none => { memory with stop := some stop }

/-- Read a token. -/
def readToken (language : Language) (terminal : Terminal) : Reader Phrase :=
  fun openings _ cursor memory =>
    match terminal.read language cursor with
    | .ok found => (some ([Draft.ofToken found], found.last), memory)
    | .error place => (none, memory.note ⟨cursor, place, openings⟩)

/-- Read as often as the reader fits and consumes something; the glyphs that are left bound how
often. -/
def readMany (reader : Reader Phrase) (bound : List Glyph) (found : List Draft) : Reader Phrase :=
  fun openings before cursor memory =>
    match reader openings before cursor memory with
    | (some (drafts, last), memory) =>
      if cursor.offset < last.offset then
        match bound with
        | [] => (some (found ++ drafts, last), memory)
        | _ :: bound => readMany reader bound (found ++ drafts) openings before last memory
      else (some (found, cursor), memory)
    | (none, memory) => (some (found, cursor), memory)

/-- Let a reader go on from what was read, as often as it fits and consumes something; the glyphs
that are left bound how often. -/
def readGrowing (step : Reader Phrase) (bound : List Glyph) (found : List Draft)
    (openings : List Open) (cursor : Cursor) (memory : Memory Phrase) :
    Option (List Draft × Cursor) × Memory Phrase :=
  match step openings found cursor memory with
  | (some (drafts, last), memory) =>
    if cursor.offset < last.offset then
      match bound with
      | [] => (some (drafts, last), memory)
      | _ :: bound => readGrowing step bound drafts openings last memory
    else (some (found, cursor), memory)
  | (none, memory) => (some (found, cursor), memory)

/-- Read a rule, reading phrases by `phrase`. -/
def read (language : Language) (phrase : Phrase → Reader Phrase) : Rule Phrase → Reader Phrase
  | .done => fun _ _ cursor memory => (some ([], cursor), memory)
  | .token terminal => readToken language terminal
  | .seq first second => fun openings before cursor memory =>
    match read language phrase first openings before cursor memory with
    | (some (left, middle), memory) =>
      match read language phrase second openings before middle memory with
      | (some (right, last), memory) => (some (left ++ right, last), memory)
      | (none, memory) => (none, memory)
    | (none, memory) => (none, memory)
  | .alt first second => fun openings before cursor memory =>
    match read language phrase first openings before cursor memory with
    | (some found, memory) => (some found, memory)
    | (none, memory) => read language phrase second openings before cursor memory
  | .opt body => fun openings before cursor memory =>
    match read language phrase body openings before cursor memory with
    | (some found, memory) => (some found, memory)
    | (none, memory) => (some ([], cursor), memory)
  | .many body => fun openings before cursor memory =>
    readMany (read language phrase body) cursor.rest [] openings before cursor memory
  | .node kind body => fun openings before cursor memory =>
    let first := (Terminal.openGap cursor).2
    match read language phrase body (⟨kind, first⟩ :: openings) before cursor memory with
    | (some (drafts, last), memory) => (some ([.branch kind none drafts], last), memory)
    | (none, memory) => (none, memory)
  | .field place body => fun openings before cursor memory =>
    match read language phrase body openings before cursor memory with
    | (some (drafts, last), memory) => (some (drafts.map (·.inField place), last), memory)
    | (none, memory) => (none, memory)
  | .ref name => fun openings _ cursor memory => phrase name openings [] cursor memory
  | .ahead body => fun openings before cursor memory =>
    match read language phrase body openings before cursor memory with
    | (some _, after) => (some ([], cursor), { after with stop := memory.stop })
    | (none, after) => (none, { after with stop := memory.stop })
  | .absent body => fun openings before cursor memory =>
    match read language phrase body openings before cursor memory with
    | (some _, after) => (none, { after with stop := memory.stop })
    | (none, after) => (some ([], cursor), { after with stop := memory.stop })
  | .grow base step => fun openings before cursor memory =>
    match read language phrase base openings before cursor memory with
    | (some (drafts, last), memory) =>
      readGrowing (read language phrase step) last.rest drafts openings last memory
    | (none, memory) => (none, memory)
  | .onto kind body => fun openings before cursor memory =>
    match read language phrase body (⟨kind, cursor⟩ :: openings) [] cursor memory with
    | (some (drafts, last), memory) => (some ([.branch kind none (before ++ drafts)], last), memory)
    | (none, memory) => (none, memory)
  | .only kinds body => fun openings before cursor memory =>
    match read language phrase body openings before cursor memory with
    | (some ([draft], last), memory) =>
      if kinds.contains draft.kind then (some ([draft], last), memory) else (none, memory)
    | (_, memory) => (none, memory)

/-- Nothing is read without moving on. -/
theorem read_done (language : Language) (phrase : Phrase → Reader Phrase) :
    (done : Rule Phrase).read language phrase =
      fun _ _ cursor memory => (some ([], cursor), memory) := by
  rw [read]

end Rule

/-- A grammar: the rule of each phrase. -/
abbrev Grammar (Phrase : Type) := Phrase → Rule Phrase

namespace Grammar

variable {Phrase : Type} [BEq Phrase]

/-- Read a phrase, going at most `fuel` phrases deep. -/
def read (grammar : Grammar Phrase) (language : Language) : Nat → Phrase → Rule.Reader Phrase
  | 0, _ => fun _ _ _ memory => (none, memory)
  | fuel + 1, phrase => fun openings _ cursor memory =>
    match memory.get? phrase cursor.offset with
    | some found => (found, memory)
    | none =>
      let (found, memory) :=
        (grammar phrase).read language (read grammar language fuel) openings [] cursor memory
      (found, memory.insert phrase cursor.offset found)

end Grammar

end CodeAtlas.Syntax
