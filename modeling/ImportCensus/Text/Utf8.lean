namespace ImportCensus
namespace Text

/-!
# UTF-8

Bytes are decoded one character at a time.  A byte string that is not
well-formed fails at the first byte of a sequence that is cut short, overlong, a
surrogate or beyond the last code point; the failure also covers the bytes that
did begin such a sequence properly.  Reading a source drops one byte order mark
and turns all line ends into line feeds.
-/

/-- Why bytes are no text. -/
inductive DecodeReason where
  | invalidStart
  | invalidContinuation
  | unexpectedEnd
  deriving DecidableEq, Repr

def DecodeReason.text : DecodeReason -> String
  | .invalidStart => "invalid start byte"
  | .invalidContinuation => "invalid continuation byte"
  | .unexpectedEnd => "unexpected end of data"

/-- The bytes that cannot be decoded: where they begin, how many they are, and
the value of the first one. -/
structure DecodeFault where
  start : Nat
  length : Nat
  byte : Nat
  reason : DecodeReason
  deriving DecidableEq, Repr

def DecodeFault.message (fault : DecodeFault) : String :=
  let digits := Nat.toDigits 16 fault.byte
  let byte := String.ofList (List.replicate (2 - digits.length) '0' ++ digits)
  if fault.length = 1 then
    "'utf-8' codec can't decode byte 0x" ++ byte ++ " in position " ++ toString fault.start ++
      ": " ++ fault.reason.text
  else
    "'utf-8' codec can't decode bytes in position " ++ toString fault.start ++ "-" ++
      toString (fault.start + fault.length - 1) ++ ": " ++ fault.reason.text

/-- What stands at the beginning of a byte string: a character with the number
of its bytes, or a number of bytes that are none. -/
inductive Decoded where
  | char (c : Char) (size : Nat)
  | fault (length : Nat) (reason : DecodeReason)
  deriving DecidableEq, Repr

def isContinuation (byte : Nat) : Bool := 0x80 ≤ byte && byte < 0xc0

/-- Whether the second byte of a sequence goes with the first: it excludes
overlong forms, surrogates, and code points that are too large. -/
def goesWith (first second : Nat) : Bool :=
  isContinuation second &&
    (if first = 0xe0 then 0xa0 ≤ second
    else if first = 0xed then second < 0xa0
    else if first = 0xf0 then 0x90 ≤ second
    else if first = 0xf4 then second < 0x90
    else true)

/-- The low six bits of a continuation byte. -/
def payload (byte : Nat) : Nat := byte % 64

/-- Decode the beginning of a byte string whose first byte is given. -/
def decodeOne (first : Nat) (rest : List Nat) : Decoded :=
  if first < 0x80 then .char (Char.ofNat first) 1
  else if first < 0xc2 then .fault 1 .invalidStart
  else if first < 0xe0 then
    match rest with
    | [] => .fault 1 .unexpectedEnd
    | second :: _ =>
      if isContinuation second then .char (Char.ofNat ((first - 0xc0) * 64 + payload second)) 2
      else .fault 1 .invalidContinuation
  else if first < 0xf0 then
    match rest with
    | [] => .fault 1 .unexpectedEnd
    | second :: behind =>
      if goesWith first second then
        match behind with
        | [] => .fault 2 .unexpectedEnd
        | third :: _ =>
          if isContinuation third then
            .char (Char.ofNat ((first - 0xe0) * 4096 + payload second * 64 + payload third)) 3
          else .fault 2 .invalidContinuation
      else .fault 1 .invalidContinuation
  else if first < 0xf5 then
    match rest with
    | [] => .fault 1 .unexpectedEnd
    | second :: behind =>
      if goesWith first second then
        match behind with
        | [] => .fault 2 .unexpectedEnd
        | third :: last =>
          if isContinuation third then
            match last with
            | [] => .fault 3 .unexpectedEnd
            | fourth :: _ =>
              if isContinuation fourth then
                .char (Char.ofNat ((first - 0xf0) * 262144 + payload second * 4096 +
                  payload third * 64 + payload fourth)) 4
              else .fault 3 .invalidContinuation
          else .fault 2 .invalidContinuation
      else .fault 1 .invalidContinuation
  else .fault 1 .invalidStart

/-- Decode a byte string, given the position of its first byte and the characters
before it, last one first. -/
def decodeFrom (position : Nat) (done : List Char) (limit : Nat) (bytes : List Nat) :
    Except DecodeFault (List Char) :=
  match limit, bytes with
  | _, [] => .ok done.reverse
  | 0, _ => .ok done.reverse
  | limit + 1, first :: rest =>
    match decodeOne first rest with
    | .char c size => decodeFrom (position + size) (c :: done) limit (rest.drop (size - 1))
    | .fault length reason => .error ⟨position, length, first, reason⟩

/-- The text of a byte string. -/
def decode (bytes : List Nat) : Except DecodeFault (List Char) :=
  decodeFrom 0 [] bytes.length bytes

/-- Decode what can be decoded and drop all else, given the characters before,
last one first. -/
def decodeLenientFrom (done : List Char) (limit : Nat) (bytes : List Nat) : List Char :=
  match limit, bytes with
  | _, [] => done.reverse
  | 0, _ => done.reverse
  | limit + 1, first :: rest =>
    match decodeOne first rest with
    | .char c size => decodeLenientFrom (c :: done) limit (rest.drop (size - 1))
    | .fault length _ => decodeLenientFrom done limit (rest.drop (length - 1))

def decodeLenient (bytes : List Nat) : List Char := decodeLenientFrom [] bytes.length bytes

/-- The byte order mark. -/
def byteOrderMark : List Nat := [0xef, 0xbb, 0xbf]

/-- The text of a byte string without a byte order mark in front.  A mark that
is cut short at the end counts as one. -/
def decodeMarked (bytes : List Nat) : Except DecodeFault (List Char) :=
  if bytes.length < 3 && bytes.isPrefixOf byteOrderMark then .ok []
  else if byteOrderMark.isPrefixOf bytes then decode (bytes.drop 3)
  else decode bytes

/-- A text with line feeds as its only line ends. -/
def foldNewlines : List Char -> List Char
  | [] => []
  | '\r' :: '\n' :: rest => '\n' :: foldNewlines rest
  | '\r' :: rest => '\n' :: foldNewlines rest
  | c :: rest => c :: foldNewlines rest

/-- The bytes of a text. -/
def encode (text : List Char) : List Nat :=
  text.flatMap fun c => (String.utf8EncodeChar c).map UInt8.toNat

end Text
end ImportCensus
