/-!
# Bytes as text

UTF-8 read from a byte list. `Utf8.front` looks at the front of the list: either one scalar
stands there, or the bytes are damaged. `Utf8.decode` turns every longest damaged prefix of a
scalar into one replacement character, so it never fails and never drops a scalar.
-/
namespace CodeAtlas.Utf8

/-- What stands at the front of a byte list; `extra` counts the bytes after the first. -/
inductive Front where
  /-- A scalar value. -/
  | scalar (char : Char) (extra : Nat)
  /-- The longest prefix of a scalar that the next byte breaks off. -/
  | damaged (extra : Nat)
  deriving DecidableEq, Repr

/-- The character that stands for damaged bytes. -/
def replacement : Char := '\ufffd'

/-- Whether a byte continues a scalar. -/
def continues (byte : UInt8) : Bool := 0x80 ≤ byte && byte ≤ 0xbf

/-- The six payload bits of a continuation byte. -/
def payload (byte : UInt8) : Nat := byte.toNat % 64

/-- The allowed range of the second byte after a leading byte. -/
def secondRange (lead : UInt8) : UInt8 × UInt8 :=
  if lead = 0xe0 then (0xa0, 0xbf)
  else if lead = 0xed then (0x80, 0x9f)
  else if lead = 0xf0 then (0x90, 0xbf)
  else if lead = 0xf4 then (0x80, 0x8f)
  else (0x80, 0xbf)

/-- Whether a byte may follow a leading byte. -/
def admits (lead byte : UInt8) : Bool :=
  let (low, high) := secondRange lead
  low ≤ byte && byte ≤ high

/-- Look at the scalar that begins with `lead` and goes on in `rest`. -/
def front (lead : UInt8) (rest : List UInt8) : Front :=
  if lead < 0x80 then .scalar (Char.ofNat lead.toNat) 0
  else if lead < 0xc2 then .damaged 0
  else if lead < 0xe0 then
    match rest with
    | second :: _ =>
      if continues second then .scalar (Char.ofNat ((lead.toNat % 32) * 64 + payload second)) 1
      else .damaged 0
    | [] => .damaged 0
  else if lead < 0xf0 then
    match rest with
    | second :: third :: _ =>
      if !admits lead second then .damaged 0
      else if continues third then
        .scalar (Char.ofNat ((lead.toNat % 16) * 4096 + payload second * 64 + payload third)) 2
      else .damaged 1
    | [second] => if admits lead second then .damaged 1 else .damaged 0
    | [] => .damaged 0
  else if lead < 0xf5 then
    match rest with
    | second :: third :: fourth :: _ =>
      if !admits lead second then .damaged 0
      else if !continues third then .damaged 1
      else if continues fourth then
        .scalar (Char.ofNat ((lead.toNat % 8) * 262144 + payload second * 4096
          + payload third * 64 + payload fourth)) 3
      else .damaged 2
    | [second, third] =>
      if !admits lead second then .damaged 0
      else if continues third then .damaged 2 else .damaged 1
    | [second] => if admits lead second then .damaged 1 else .damaged 0
    | [] => .damaged 0
  else .damaged 0

/-- The characters of a byte list, one replacement character for each damaged prefix. -/
def decodeChars : List UInt8 → List Char
  | [] => []
  | lead :: rest =>
    match front lead rest with
    | .scalar char extra => char :: decodeChars (rest.drop extra)
    | .damaged extra => replacement :: decodeChars (rest.drop extra)
termination_by bytes => bytes.length
decreasing_by all_goals simp only [List.length_drop, List.length_cons]; omega

/-- The text of a byte list. -/
def decode (bytes : List UInt8) : String := String.ofList (decodeChars bytes)

end CodeAtlas.Utf8
