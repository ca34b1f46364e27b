import CodeAtlas.Json.Reader
import CodeAtlas.Yaml.Fault
import CodeAtlas.Yaml.Place

/-!
# Scalars in a text

Scalars are written plain, in quotes, or as blocks. Each reader gives the characters of the scalar
with its lines folded, and the place after it.
-/
namespace CodeAtlas.Yaml

/-- The end of a malformed text. -/
def malformed {α : Type} : Except Stop α := .error .malformed

/-! ## Plain scalars -/

/-- Whether a plain scalar goes on with the characters that come next. -/
def goesOn (inFlow : Bool) (place : Place) : Bool :=
  match place.head? with
  | none => false
  | some char =>
    if endsWord (some char) then false
    else if char = ':' then
      let next := place.peek? 1
      !(endsWord next || (inFlow && next.any (",[]\x7b\x7d".toList.contains ·)))
    else !(inFlow && ",?[]\x7b\x7d".toList.contains char)

/-- The characters of a plain scalar up to the next blank. -/
def plainWord (inFlow : Bool) : Nat → Place → List Char × Place
  | 0, place => ([], place)
  | fuel + 1, place =>
    if goesOn inFlow place then
      let (found, next) := plainWord inFlow fuel place.next
      (place.rest.take 1 ++ found, next)
    else ([], place)

/-- Blanks and further line breaks inside a plain scalar, with the breaks found; nothing if a
document ends there. -/
def plainBreaks : Nat → Place → List Char → Option (List Char) × Place
  | 0, place, found => (some found, place)
  | fuel + 1, place, found =>
    if place.isAt ' ' then plainBreaks fuel place.next found
    else
      match place.lineBreak? with
      | none => (some found, place)
      | some (char, place) =>
        if place.atSeparator then (none, place) else plainBreaks fuel place (found ++ [char])

/-- The text of a folded line break with further breaks after it. -/
def fold (first : Char) (breaks : List Char) : List Char :=
  (if first ≠ '\n' then [first] else if breaks.isEmpty then [' '] else []) ++ breaks

/-- What stands between two words of a plain scalar; whether a line ends in it; the place after. -/
def plainGap (place : Place) : List Char × Bool × Place :=
  let (blanks, place) := place.span (· = ' ')
  match place.lineBreak? with
  | none => (blanks, false, place)
  | some (char, place) =>
    if place.atSeparator then ([], true, place)
    else
      match plainBreaks (place.rest.length + 1) place [] with
      | (none, place) => ([], true, place)
      | (some breaks, place) => (fold char breaks, true, place)

/-- The words of a plain scalar after a gap: the text so far, whether a line ends in the last gap,
and the place after it. -/
def plainFrom (inFlow : Bool) (indent : Int) :
    Nat → Place → List Char → List Char → Bool → List Char × Bool × Place
  | 0, place, _, text, broken => (text, broken, place)
  | fuel + 1, place, gap, text, broken =>
    if place.isAt '#' then (text, broken, place)
    else
      let (word, after) := plainWord inFlow (place.rest.length + 1) place
      if word.isEmpty then (text, broken, place)
      else
        let text := text ++ gap ++ word
        let (gap, broken, after) := plainGap after
        if gap.isEmpty || after.isAt '#' || (!inFlow && (after.column : Int) < indent) then
          (text, broken, after)
        else plainFrom inFlow indent fuel after gap text broken

/-- A plain scalar whose lines after the first are indented: its text, whether a line ends after
it, and the place after it. -/
def plain (inFlow : Bool) (indent : Int) (place : Place) : List Char × Bool × Place :=
  plainFrom inFlow indent (place.rest.length + 1) place [] [] false

/-! ## Quoted scalars -/

/-- Line breaks inside a quoted scalar after the first. -/
def quotedBreaks : Nat → Place → List Char → Except Stop (List Char × Place)
  | 0, place, found => .ok (found, place)
  | fuel + 1, place, found =>
    if place.atSeparator then malformed
    else
      let place := place.skipWhile fun char => char = ' ' || char = '\t'
      match place.lineBreak? with
      | some (char, place) => quotedBreaks fuel place (found ++ [char])
      | none => .ok (found, place)

/-- Blanks inside a quoted scalar, folded if a line ends in them. -/
def quotedGap (place : Place) : Except Stop (List Char × Place) :=
  let (blanks, place) := place.span fun char => char = ' ' || char = '\t'
  match place.head? with
  | none => malformed
  | some _ =>
    match place.lineBreak? with
    | none => .ok (blanks, place)
    | some (char, place) => do
      let (breaks, place) ← quotedBreaks (place.rest.length + 1) place []
      return (fold char breaks, place)

/-- The characters that single letters stand for after a backslash. -/
def escapes : List (Char × Char) :=
  [('0', '\x00'), ('a', '\x07'), ('b', '\x08'), ('t', '\t'), ('\t', '\t'), ('n', '\n'),
    ('v', '\x0b'), ('f', '\x0c'), ('r', '\r'), ('e', '\x1b'), (' ', ' '), ('"', '"'),
    ('\\', '\\'), ('/', '/'), ('N', '\u0085'), ('_', '\u00a0'), ('L', '\u2028'),
    ('P', '\u2029')]

/-- How many digits the code of a character has after a letter. -/
def codeLength? (char : Char) : Option Nat :=
  if char = 'x' then some 2 else if char = 'u' then some 4 else if char = 'U' then some 8
  else none

/-- The value of digits in base sixteen. -/
def hexCode? (digits : List Char) : Option Nat :=
  digits.foldlM (fun value digit => (Json.hexValue? digit).map (value * 16 + ·)) 0

/-- The character of a code; codes of half characters stand for a damaged one. -/
def charOfCode (code : Nat) : Except Stop Char :=
  if 0x7fffffff < code then .error (.fault .hugeCode)
  else if 0x10ffff < code then .error (.fault .badCode)
  else if 0xd800 ≤ code && code ≤ 0xdfff then .ok '\ufffd'
  else .ok (Char.ofNat code)

/-- What a backslash in double quotes stands for; the place is after the backslash. -/
def escaped (place : Place) : Except Stop (List Char × Place) :=
  match place.head? with
  | none => malformed
  | some letter =>
    match escapes.lookup letter, codeLength? letter with
    | some char, _ => .ok ([char], place.next)
    | none, some length =>
      let digits := place.next.rest.take length
      match if digits.length = length then hexCode? digits else none with
      | none => malformed
      | some code => (charOfCode code).map fun char => ([char], place.next.skip length)
    | none, none =>
      match place.lineBreak? with
      | some (_, place) => quotedBreaks (place.rest.length + 1) place []
      | none => malformed

/-- Whether a character ends a stretch inside a quoted scalar. -/
def interruptsQuoted (char : Char) : Bool :=
  char = '\'' || char = '"' || char = '\\' || char = ' ' || char = '\t' || isBreak char

/-- The rest of a quoted scalar up to the closing quote, after the text so far. -/
def quotedFrom (double : Bool) : Nat → Place → List Char → Except Stop (List Char × Place)
  | 0, _, _ => malformed
  | fuel + 1, place, text =>
    let (stretch, place) := place.span (!interruptsQuoted ·)
    let text := text ++ stretch
    match place.rest with
    | [] => malformed
    | '\'' :: '\'' :: _ =>
      if double then quotedFrom double fuel place.next (text ++ ['\''])
      else quotedFrom double fuel (place.skip 2) (text ++ ['\''])
    | '\'' :: _ =>
      if double then quotedFrom double fuel place.next (text ++ ['\'']) else .ok (text, place.next)
    | '"' :: _ =>
      if double then .ok (text, place.next) else quotedFrom double fuel place.next (text ++ ['"'])
    | '\\' :: _ =>
      if double then do
        let (found, place) ← escaped place.next
        quotedFrom double fuel place (text ++ found)
      else quotedFrom double fuel place.next (text ++ ['\\'])
    | _ => do
      let (gap, place) ← quotedGap place
      quotedFrom double fuel place (text ++ gap)

/-- A quoted scalar; the place is at the opening quote. -/
def quoted (double : Bool) (place : Place) : Except Stop (List Char × Place) :=
  quotedFrom double (place.rest.length + 1) place.next []

/-! ## Block scalars -/

/-- What becomes of the line breaks at the end of a block. -/
inductive Chomping where
  /-- None stays. -/
  | strip
  /-- One stays. -/
  | clip
  /-- All stay. -/
  | keep
  deriving DecidableEq, Repr

/-- A sign that says how a block ends. -/
def chomping? : Option Char → Option Chomping
  | some '+' => some .keep
  | some '-' => some .strip
  | _ => none

/-- A digit that says how far a block is indented. -/
def increment? : Option Char → Option Nat
  | some char => if '0' ≤ char && char ≤ '9' then some (char.toNat - '0'.toNat) else none
  | none => none

/-- The signs after the mark of a block, in either order. -/
def blockSigns (place : Place) : Except Stop ((Chomping × Option Nat) × Place) := do
  let (chomping, increment, place) :=
    match chomping? place.head? with
    | some chomping =>
      match increment? (place.peek? 1) with
      | some increment => (chomping, some increment, place.skip 2)
      | none => (chomping, none, place.next)
    | none =>
      match increment? place.head? with
      | some increment =>
        match chomping? (place.peek? 1) with
        | some chomping => (chomping, some increment, place.skip 2)
        | none => (.clip, some increment, place.next)
      | none => (.clip, none, place)
  if increment = some 0 || !endsAtBlank place.head? then malformed
  else return ((chomping, increment), place)

/-- The rest of a line, which may hold only a comment. -/
def ignoredLine (place : Place) : Except Stop Place :=
  let place := place.skipBlanks
  let place := if place.isAt '#' then place.skipWhile (!isBreak ·) else place
  if endsLine place.head? then .ok ((place.lineBreak?.map (·.2)).getD place) else malformed

/-- Blank lines at the start of a block, and the widest of their indentations. -/
def leadingLines : Nat → Place → List Char → Nat → List Char × Nat × Place
  | 0, place, found, widest => (found, widest, place)
  | fuel + 1, place, found, widest =>
    if place.isAt ' ' then leadingLines fuel place.next found (max widest place.next.column)
    else
      match place.lineBreak? with
      | some (char, place) => leadingLines fuel place (found ++ [char]) widest
      | none => (found, widest, place)

/-- The place after blanks, at most up to a column. -/
def indentTo (column : Nat) : Nat → Place → Place
  | 0, place => place
  | fuel + 1, place =>
    if place.column < column && place.isAt ' ' then indentTo column fuel place.next else place

/-- Blank lines inside a block, and the place where the next line begins. -/
def blockBreaks (column : Nat) : Nat → Place → List Char → List Char × Place
  | 0, place, found => (found, place)
  | fuel + 1, place, found =>
    let place := indentTo column (column + 1) place
    match place.lineBreak? with
    | some (char, place) => blockBreaks column fuel place (found ++ [char])
    | none => (found, place)

/-- Whether the next character is a blank or a tab. -/
def atGap (place : Place) : Bool := place.isAt ' ' || place.isAt '\t'

/-- The lines of a block from one on: the text, the last line break and the breaks after it. -/
def blockLines (folded : Bool) (column : Nat) :
    Nat → Place → List Char → List Char → List Char × List Char × List Char × Place
  | 0, place, text, breaks => (text, [], breaks, place)
  | fuel + 1, place, text, breaks =>
    let leads := !atGap place
    let (line, place) := place.span (!isBreak ·)
    let text := text ++ breaks ++ line
    let (ending, place) :=
      match place.lineBreak? with
      | some (char, place) => ([char], place)
      | none => ([], place)
    let (breaks, place) := blockBreaks column (place.rest.length + 1) place []
    if place.column = column && place.head?.isSome then
      if folded && ending = ['\n'] && leads && !atGap place then
        blockLines folded column fuel place
          (text ++ if breaks.isEmpty then [' '] else []) breaks
      else blockLines folded column fuel place (text ++ ending) breaks
    else (text, ending, breaks, place)

/-- A block scalar inside a collection of an indentation; the place is after its mark. -/
def block (folded : Bool) (indent : Int) (place : Place) : Except Stop (List Char × Place) := do
  let ((chomping, increment), place) ← blockSigns place
  let place ← ignoredLine place
  let least := max 1 (indent + 1).toNat
  let (breaks, column, place) :=
    match increment with
    | none =>
      let (breaks, widest, place) := leadingLines (place.rest.length + 1) place [] 0
      (breaks, max least widest, place)
    | some increment =>
      let column := least + increment - 1
      let (breaks, place) := blockBreaks column (place.rest.length + 1) place []
      (breaks, column, place)
  let (text, ending, breaks, place) :=
    if place.column = column && place.head?.isSome then
      blockLines folded column (place.rest.length + 1) place [] breaks
    else ([], [], breaks, place)
  let text := text ++ if chomping = .strip then [] else ending
  return (text ++ (if chomping = .keep then breaks else []), place)

end CodeAtlas.Yaml
