/-!
Bytes read as UTF-8.

`scalars` cuts any byte string into characters and malformed pieces: a malformed piece is the
longest start of a well-formed sequence that the next byte does not continue, or else one byte.
-/

namespace LiveHighlight.Utf8

abbrev Bytes := List UInt8

def encode (text : List Char) : Bytes :=
  text.flatMap String.utf8EncodeChar

def isTrail (byte : UInt8) : Bool :=
  0x80 ≤ byte && byte ≤ 0xBF

/-- Which second bytes may follow a lead byte of a sequence of three or four. -/
def allowsSecond (lead second : UInt8) : Bool :=
  if lead = 0xE0 then 0xA0 ≤ second && second ≤ 0xBF
  else if lead = 0xED then 0x80 ≤ second && second ≤ 0x9F
  else if lead = 0xF0 then 0x90 ≤ second && second ≤ 0xBF
  else if lead = 0xF4 then 0x80 ≤ second && second ≤ 0x8F
  else isTrail second

def payload (byte : UInt8) : Nat :=
  byte.toNat % 64

def scalars : Bytes → List (Option Char)
  | [] => []
  | lead :: rest =>
    if lead < 0x80 then some (Char.ofNat lead.toNat) :: scalars rest
    else if lead < 0xC2 then none :: scalars rest
    else if lead < 0xE0 then
      match rest with
      | second :: later =>
        if isTrail second then
          some (Char.ofNat ((lead.toNat - 0xC0) * 64 + payload second)) :: scalars later
        else none :: scalars (second :: later)
      | [] => [none]
    else if lead < 0xF5 then
      match rest with
      | second :: later =>
        if allowsSecond lead second then
          match later with
          | third :: later' =>
            if isTrail third then
              if lead < 0xF0 then
                some (Char.ofNat (((lead.toNat - 0xE0) * 64 + payload second) * 64
                  + payload third)) :: scalars later'
              else
                match later' with
                | fourth :: later'' =>
                  if isTrail fourth then
                    some (Char.ofNat ((((lead.toNat - 0xF0) * 64 + payload second) * 64
                      + payload third) * 64 + payload fourth)) :: scalars later''
                  else none :: scalars (fourth :: later'')
                | [] => [none]
            else none :: scalars (third :: later')
          | [] => [none]
        else none :: scalars (second :: later)
      | [] => [none]
    else none :: scalars rest

def decode? (bytes : Bytes) : Option (List Char) :=
  (scalars bytes).mapM id

def replacement : Char := '\uFFFD'

def decodeLossy (bytes : Bytes) : List Char :=
  (scalars bytes).map (·.getD replacement)

end LiveHighlight.Utf8
