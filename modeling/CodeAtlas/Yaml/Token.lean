import CodeAtlas.Yaml.Mark

/-!
# Tokens of a text

A text is a sequence of tokens: marks of collections, keys and entries, and the words between
them. The marks of block collections are not written but follow from columns: a column further
right than the innermost collection opens one, and a column further left closes it. That a word
is a key shows only at the colon after it, so a word that may be one stays a candidate, and its
marks are put before it when the colon comes.
-/
namespace CodeAtlas.Yaml

/-- A token of a text. -/
inductive Token where
  /-- A directive. -/
  | directive (directive : Directive)
  /-- The mark at the start of a document. -/
  | documentStart
  /-- The mark at the end of a document. -/
  | documentEnd
  /-- The start of a sequence whose entries are in one column. -/
  | blockSequenceStart
  /-- The start of a mapping whose keys are in one column. -/
  | blockMappingStart
  /-- The end of a collection whose parts are in one column. -/
  | blockEnd
  /-- An opening bracket. -/
  | flowSequenceStart
  /-- A closing bracket. -/
  | flowSequenceEnd
  /-- An opening brace. -/
  | flowMappingStart
  /-- A closing brace. -/
  | flowMappingEnd
  /-- A comma between entries. -/
  | flowEntry
  /-- A hyphen before an entry. -/
  | blockEntry
  /-- The mark before a key. -/
  | key
  /-- The mark before a value. -/
  | value
  /-- A reference to an anchor. -/
  | alias (name : String)
  /-- An anchor. -/
  | anchor (name : String)
  /-- A tag with its handle. -/
  | tag (handle : Option String) (text : String)
  /-- A scalar, plain or in another form. -/
  | scalar (text : String) (isPlain : Bool)
  /-- The end of the text. -/
  | streamEnd
  /-- The place after which no token can be read. -/
  | stop (reason : Stop)
  deriving DecidableEq, Repr

/-- A word that may be a key. -/
structure Candidate where
  /-- Tokens before the word. -/
  number : Nat
  /-- Characters before the word. -/
  index : Nat
  /-- The line of the word. -/
  line : Nat
  /-- The column of the word. -/
  column : Nat
  /-- Whether nothing but a key can stand there. -/
  isRequired : Bool
  deriving DecidableEq, Repr

/-- The most characters from the start of a key to its colon. -/
def keyLimit : Nat := 1024

/-- Whether a word cannot be a key any more at a place: it is too long, or its line is over. -/
def Candidate.isOver (candidate : Candidate) (place : Place) : Bool :=
  candidate.line ≠ place.line || keyLimit < place.index - candidate.index

/-- The tokens so far and what decides the next ones. -/
structure Scan where
  /-- What is left of the text. -/
  place : Place
  /-- The tokens so far. -/
  tokens : List Token
  /-- The columns of the open block collections, innermost first. -/
  columns : List Nat
  /-- How many brackets and braces are open. -/
  flow : Nat
  /-- Whether a key may come next. -/
  allowsKey : Bool
  /-- The words that may be keys, by the count of brackets and braces around them. -/
  candidates : List (Nat × Candidate)
  /-- Whether the text is over. -/
  isDone : Bool

namespace Scan

/-- The tokens of a text before its first. -/
def start (text : List Char) : Scan :=
  let place := Place.start text
  ⟨if place.isAt '\ufeff' then place.next else place, [], [], 0, true, [], false⟩

/-- The column of the innermost block collection; one less than zero outside of all. -/
def indent (scan : Scan) : Int := ((scan.columns.head?.map Int.ofNat)).getD (-1)

/-- Add a token, and go on from a place. -/
def push (scan : Scan) (token : Token) (place : Place) : Scan :=
  { scan with tokens := scan.tokens ++ [token], place }

/-- Skip blanks, comments and line breaks. Outside of brackets a key may stand on a new line. -/
def skipGap : Nat → Scan → Scan
  | 0, scan => scan
  | fuel + 1, scan =>
    let place := scan.place.skipBlanks
    let place := if place.isAt '#' then place.skipWhile (!isBreak ·) else place
    match place.lineBreak? with
    | some (_, place) =>
      skipGap fuel { scan with place, allowsKey := scan.allowsKey || scan.flow = 0 }
    | none => { scan with place }

/-- Drop the words that cannot be keys any more; one that must be a key cannot be dropped. -/
def dropOver (scan : Scan) : Except Stop Scan :=
  let (past, candidates) := scan.candidates.partition (·.2.isOver scan.place)
  if past.any (·.2.isRequired) then malformed else .ok { scan with candidates }

/-- Close the block collections further right than a column, or all of them. -/
def unwind (scan : Scan) (column : Option Nat) : Scan :=
  if scan.flow = 0 then
    let closed := (scan.columns.takeWhile fun inner => column.all (· < inner)).length
    { scan with
      columns := scan.columns.drop closed,
      tokens := scan.tokens ++ List.replicate closed .blockEnd }
  else scan

/-- Drop the candidate inside the same brackets; one that must be a key cannot be dropped. -/
def withdraw (scan : Scan) : Except Stop Scan :=
  if (scan.candidates.lookup scan.flow).any (·.isRequired) then malformed
  else .ok { scan with candidates := scan.candidates.filter (·.1 != scan.flow) }

/-- Make the word that comes next a candidate, where a key may stand. -/
def offer (scan : Scan) : Except Stop Scan := do
  if scan.allowsKey then
    let place := scan.place
    let isRequired := scan.flow = 0 && scan.indent = place.column
    let scan ← scan.withdraw
    let candidate := ⟨scan.tokens.length, place.index, place.line, place.column, isRequired⟩
    return { scan with candidates := (scan.flow, candidate) :: scan.candidates }
  else return scan

/-- Open a block collection at a column that is further right than the innermost; its mark goes
before so many of the tokens. -/
def openBlock (scan : Scan) (token : Token) (column number : Nat) : Scan :=
  if scan.indent < column then
    { scan with
      columns := column :: scan.columns,
      tokens := scan.tokens.take number ++ token :: scan.tokens.drop number }
  else scan

/-- Open a block collection before the next token; nothing may stand before that on its line. -/
def openHere (scan : Scan) (token : Token) : Except Stop Scan :=
  if scan.flow ≠ 0 then .ok scan
  else if scan.allowsKey then .ok (scan.openBlock token scan.place.column scan.tokens.length)
  else malformed

/-- The end of the text. -/
def finish (scan : Scan) : Except Stop Scan := do
  let scan ← (scan.unwind none).withdraw
  return { scan.push .streamEnd scan.place with candidates := [], isDone := true }

/-- A mark between documents. -/
def separator (scan : Scan) (token : Token) : Except Stop Scan := do
  let scan ← (scan.unwind none).withdraw
  return { scan.push token (scan.place.skip 3) with allowsKey := false }

/-- A directive. -/
def readDirective (scan : Scan) : Except Stop Scan := do
  let scan ← (scan.unwind none).withdraw
  let (found, place) ← directive scan.place.next
  return { scan.push (.directive found) place with allowsKey := false }

/-- An opening bracket or brace. -/
def openFlow (scan : Scan) (token : Token) : Except Stop Scan := do
  let scan ← scan.offer
  return { scan.push token scan.place.next with flow := scan.flow + 1, allowsKey := true }

/-- A closing bracket or brace. -/
def closeFlow (scan : Scan) (token : Token) : Except Stop Scan := do
  let scan ← scan.withdraw
  return { scan.push token scan.place.next with flow := scan.flow - 1, allowsKey := false }

/-- A comma between entries. -/
def readFlowEntry (scan : Scan) : Except Stop Scan := do
  let scan ← scan.withdraw
  return { scan.push .flowEntry scan.place.next with allowsKey := true }

/-- A hyphen before an entry. -/
def readBlockEntry (scan : Scan) : Except Stop Scan := do
  let scan ← (← scan.openHere .blockSequenceStart).withdraw
  return { scan.push .blockEntry scan.place.next with allowsKey := true }

/-- The mark before a key. -/
def readKey (scan : Scan) : Except Stop Scan := do
  let scan ← (← scan.openHere .blockMappingStart).withdraw
  return { scan.push .key scan.place.next with allowsKey := scan.flow = 0 }

/-- The mark before a value; a candidate becomes a key by it. -/
def readValue (scan : Scan) : Except Stop Scan := do
  match scan.candidates.lookup scan.flow with
  | some candidate =>
    let number := candidate.number
    let scan :=
      { scan with
        candidates := scan.candidates.filter (·.1 != scan.flow),
        tokens := scan.tokens.take number ++ Token.key :: scan.tokens.drop number }
    let scan :=
      if scan.flow = 0 then scan.openBlock .blockMappingStart candidate.column number else scan
    return { scan.push .value scan.place.next with allowsKey := false }
  | none =>
    let scan ← (← scan.openHere .blockMappingStart).withdraw
    return { scan.push .value scan.place.next with allowsKey := scan.flow = 0 }

/-- A word that may be a key, by its reader. -/
def readWord (scan : Scan) (reader : Place → Except Stop (Token × Place)) : Except Stop Scan := do
  let scan ← scan.offer
  let (token, place) ← reader scan.place
  return { scan.push token place with allowsKey := false }

/-- A scalar in quotes. -/
def readQuoted (scan : Scan) (double : Bool) : Except Stop Scan :=
  scan.readWord fun place => do
    let (text, place) ← quoted double place
    return (.scalar (String.ofList text) false, place)

/-- A plain scalar; a key may come next if a line ends after it. -/
def readPlain (scan : Scan) : Except Stop Scan := do
  let scan ← scan.offer
  let (text, broken, place) := plain (scan.flow ≠ 0) (scan.indent + 1) scan.place
  return { scan.push (.scalar (String.ofList text) true) place with allowsKey := broken }

/-- A block scalar. -/
def readBlock (scan : Scan) (folded : Bool) : Except Stop Scan := do
  let scan ← scan.withdraw
  let (text, place) ← block folded scan.indent scan.place.next
  return { scan.push (.scalar (String.ofList text) false) place with allowsKey := true }

/-- Whether a plain scalar starts with a character. -/
def startsPlain (scan : Scan) (char : Char) : Bool :=
  !(endsWord (some char) || "-?:,[]\x7b\x7d#&*!|>'\"%@`".toList.contains char) ||
    (!endsWord (scan.place.peek? 1) &&
      (char = '-' || (scan.flow = 0 && (char = '?' || char = ':'))))

/-- Whether a question mark or a colon that comes next marks a key or a value. -/
def marksKey (scan : Scan) : Bool := scan.flow ≠ 0 || endsWord (scan.place.peek? 1)

/-- The token that starts with a character, at the place of the character. -/
def readToken (scan : Scan) (char : Char) : Except Stop Scan :=
  let inBlock := scan.flow = 0
  let atStart := scan.place.column = 0
  if char = '%' && atStart then scan.readDirective
  else if char = '-' && atStart && scan.place.atSeparator then scan.separator .documentStart
  else if char = '.' && atStart && scan.place.atSeparator then scan.separator .documentEnd
  else if char = '[' then scan.openFlow .flowSequenceStart
  else if char = '\x7b' then scan.openFlow .flowMappingStart
  else if char = ']' then scan.closeFlow .flowSequenceEnd
  else if char = '\x7d' then scan.closeFlow .flowMappingEnd
  else if char = ',' then scan.readFlowEntry
  else if char = '-' && endsWord (scan.place.peek? 1) then scan.readBlockEntry
  else if char = '?' && scan.marksKey then scan.readKey
  else if char = ':' && scan.marksKey then scan.readValue
  else if char = '*' then
    scan.readWord fun place => do
      let (name, place) ← anchorName place.next
      return (.alias name, place)
  else if char = '&' then
    scan.readWord fun place => do
      let (name, place) ← anchorName place.next
      return (.anchor name, place)
  else if char = '!' then
    scan.readWord fun place => do
      let ((handle, text), place) ← tag place
      return (.tag handle text, place)
  else if char = '|' && inBlock then scan.readBlock false
  else if char = '>' && inBlock then scan.readBlock true
  else if char = '\'' then scan.readQuoted false
  else if char = '"' then scan.readQuoted true
  else if scan.startsPlain char then scan.readPlain
  else malformed

/-- The next token, with the ends of block collections before it. -/
def step (scan : Scan) : Except Stop Scan := do
  let scan ← (skipGap (scan.place.rest.length + 1) scan).dropOver
  let scan := scan.unwind (some scan.place.column)
  match scan.place.head? with
  | none => scan.finish
  | some char => scan.readToken char

/-- The tokens that no candidate comes before, so that no mark can be put before them. -/
def settled (scan : Scan) : List Token :=
  let numbers := (scan.candidates.filter (!·.2.isOver scan.place)).map (·.2.number)
  scan.tokens.take (numbers.foldl min scan.tokens.length)

/-- All tokens. -/
def allFrom : Nat → Scan → List Token
  | 0, scan => scan.tokens
  | fuel + 1, scan =>
    match scan.step with
    | .error reason => scan.settled ++ [.stop reason]
    | .ok scan => if scan.isDone then scan.tokens else allFrom fuel scan

end Scan

/-- The tokens of a text; the last is its end or the reason to stop. -/
def Token.ofText (text : List Char) : List Token :=
  Scan.allFrom (text.length + 2) (Scan.start text)

end CodeAtlas.Yaml
