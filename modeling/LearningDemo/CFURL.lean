/-
Percent escapes, for UTF-8: `CFURLCreateStringByAddingPercentEscapes` and
`UnescapeAllWithUTF8` of `CFURL.c`, the two converters they call
(`CFBuiltinConverters.c`), and `nn_encodeString`, which calls the first.

A string is its UTF-16 units. Writing behind the end of a buffer of fixed size
is a fault.
-/
import LearningDemo.NNAdd

namespace LearningDemo.CFURL

open Imperative NNAdd Utf16

/-! ## The converters -/

/-- `__CFUTF8BytesToWriteForCharacter`. -/
def utf8BytesToWriteForCharacter (ch : UInt32) : Nat :=
  if ch < 0x80 then 1
  else if ch < 0x800 then 2
  else if ch < 0x10000 then 3
  else if ch < 0x200000 then 4
  else if ch < 0x4000000 then 5
  else if ch ≤ 0x7FFFFFFF then 6
  else 0

def firstByteMark : List UInt8 := [0x00, 0x00, 0xC0, 0xE0, 0xF0, 0xF8, 0xFC]

/-- The falling through of `__CFToUTF8Core`: trailing bytes from the last one on. -/
def trailingBytes : Nat → UInt32 → List UInt8 → UInt32 × List UInt8
  | 0, ch, bytes => (ch, bytes)
  | n + 1, ch, bytes => trailingBytes n (ch >>> 6) (((ch ||| 0x80) &&& 0xBF).toUInt8 :: bytes)

/-- `__CFToUTF8Core`; `none` where the bytes do not fit. -/
def toUTF8Core (ch : UInt32) (maxByteLen : Nat) : Option (List UInt8) :=
  let (bytesToWrite, ch) :=
    if utf8BytesToWriteForCharacter ch = 0 then (2, 0xFFFD) else (utf8BytesToWriteForCharacter ch, ch)
  if maxByteLen < bytesToWrite then none
  else
    let (ch, bytes) := trailingBytes (bytesToWrite - 1) ch []
    some ((ch ||| (firstByteMark[bytesToWrite]?.getD 0).toUInt32).toUInt8 :: bytes)

-- the constant stands first: a number is added to by counting to what is added
/-- The character of a pair of surrogates. -/
def longCharacter (high low : UInt16) : UInt32 :=
  (0x10000 : UInt32) + (((high.toUInt32 - 0xD800) <<< 10) + (low.toUInt32 - 0xDC00))

/-- `__CFToUTF8` with no flags and a buffer that is not empty: how many
characters are converted, and their bytes. A surrogate alone ends it. -/
def toUTF8 : NSString → (maxByteLen : Nat) → Nat × List UInt8
  | [], _ => (0, [])
  | ch :: characters, maxByteLen =>
    if maxByteLen = 0 then (0, [])
    else if ch < 0x80 then
      let (converted, bytes) := toUTF8 characters (maxByteLen - 1)
      (converted + 1, ch.toUInt8 :: bytes)
    else if isHigh ch then
      match characters with
      | [] => (0, [])
      | low :: characters =>
        if isLow low then
          match toUTF8Core (longCharacter ch low) maxByteLen with
          | none => (0, [])
          | some written =>
            let (converted, bytes) := toUTF8 characters (maxByteLen - written.length)
            (converted + 2, written ++ bytes)
        else (0, [])
    else if isLow ch then (0, [])
    else
      match toUTF8Core ch.toUInt32 maxByteLen with
      | none => (0, [])
      | some written =>
        let (converted, bytes) := toUTF8 characters (maxByteLen - written.length)
        (converted + 1, written ++ bytes)

/-- `CFStringEncodingUnicodeToBytes`: the bytes, where it succeeds. -/
def unicodeToBytes (characters : NSString) (maxByteLen : Nat) : Option (List UInt8) :=
  if (toUTF8 characters maxByteLen).1 = characters.length then some (toUTF8 characters maxByteLen).2 else none

def trailingBytesForUTF8 (head : UInt8) : Nat :=
  if head < 0xC0 then 0
  else if head < 0xE0 then 1
  else if head < 0xF0 then 2
  else if head < 0xF8 then 3
  else if head < 0xFC then 4
  else 5

/-- `__CFIsLegalUTF8`, for a head and as many trailing bytes as it asks for. -/
def isLegalUTF8 (head : UInt8) (trailing : List UInt8) : Bool :=
  if trailing.length > 3 then false
  else if trailing.any fun byte => byte &&& 0xC0 != 0x80 then false
  else if (0x80 ≤ head && head < 0xC2) || 0xF4 < head then false
  else
    match trailing with
    | [] => true
    | second :: _ => !((head == 0xE0 && second < 0xA0) || (head == 0xED && 0x9F < second) ||
        (head == 0xF0 && second < 0x90) || (head == 0xF4 && 0x8F < second))

def offsetsFromUTF8 : List UInt32 := [0x00000000, 0x00003080, 0x000E2080, 0x03C82080]

/-- The units of one character of `__CFFromUTF8`; none where the flags are
strict about it. -/
def fromUTF8Core (source : List UInt8) : Option NSString :=
  let ch := source.foldl (fun (ch : UInt32) byte => (ch <<< 6) + byte.toUInt32) 0 -
    (offsetsFromUTF8[source.length - 1]?.getD 0)
  if ch ≤ 0xFFFF then
    if 0xD800 ≤ ch ∧ ch ≤ 0xDFFF then none else some [ch.toUInt16]
  else if ch > 0x10FFFF then none
  else
    let ch := ch - 0x10000
    some [((ch >>> 10) + 0xD800).toUInt16, ((ch &&& 0x3FF) + 0xDC00).toUInt16]

/-- What comes of a legal character in front of what follows it. -/
def decodeWith (head : UInt8) (trailing : List UInt8) (rest : Option NSString) : Option NSString :=
  if isLegalUTF8 head trailing then
    match fromUTF8Core (head :: trailing), rest with
    | some characters, some rest => some (characters ++ rest)
    | _, _ => none
  else none

/-- `__CFFromUTF8` with no flags, called until all bytes are used. Where no
character is made of them there is no string. -/
def fromUTF8 : List UInt8 → Option NSString
  | [] => some []
  | source :: bytes =>
    match trailingBytesForUTF8 source, bytes with
    | 0, bytes =>
      if source = 0xA9 then (fromUTF8 bytes).map (0xFFFD :: ·)
      else decodeWith source [] (fromUTF8 bytes)
    | 1, b1 :: bytes => decodeWith source [b1] (fromUTF8 bytes)
    | 2, b1 :: b2 :: bytes => decodeWith source [b1, b2] (fromUTF8 bytes)
    | 3, b1 :: b2 :: b3 :: bytes => decodeWith source [b1, b2, b3] (fromUTF8 bytes)
    | _, _ => none

/-- `CFStringCreateWithBytes`: a byte order mark in front is skipped. -/
def createWithBytes (bytes : List UInt8) : Option NSString :=
  let bytes := if bytes.take 3 = [0xEF, 0xBB, 0xBF] then bytes.drop 3 else bytes
  if bytes.all (· < 0x80) then some (bytes.map (·.toUInt16)) else fromUTF8 bytes

/-! ## Adding percent escapes -/

def VALID : UInt8 := 1

/-- The flags of the characters from 0 to 127, sixteen a line. -/
def sURLValidCharacters : List UInt8 := [
  0, 0, 0, 0, 0, 0, 0, 0, 0, 0, 0, 0, 0, 0, 0, 0,
  0, 0, 0, 0, 0, 0, 0, 0, 0, 0, 0, 0, 0, 0, 0, 0,
  0, 5, 0, 0, 5, 0, 5, 5, 5, 5, 5, 13, 5, 13, 13, 5,
  29, 29, 29, 29, 29, 29, 29, 29, 29, 29, 1, 1, 0, 5, 0, 1,
  1, 31, 31, 31, 31, 31, 31, 15, 15, 15, 15, 15, 15, 15, 15, 15,
  15, 15, 15, 15, 15, 15, 15, 15, 15, 15, 15, 0, 0, 0, 0, 5,
  0, 31, 31, 31, 31, 31, 31, 15, 15, 15, 15, 15, 15, 15, 15, 15,
  15, 15, 15, 15, 15, 15, 15, 15, 15, 15, 15, 0, 0, 0, 5, 0]

def isURLLegalCharacter (ch : UInt16) : Bool :=
  if ch ≤ 127 then sURLValidCharacters[ch.toNat]?.getD 0 &&& VALID != 0 else false

def shouldReplace (charactersToLeaveUnescaped legalURLCharactersToBeEscaped : Option NSString) (ch : UInt16) : Bool :=
  if isURLLegalCharacter ch = false then
    match charactersToLeaveUnescaped with
    | some characters => !characters.contains ch
    | none => true
  else
    match legalURLCharactersToBeEscaped with
    | some characters => characters.contains ch
    | none => false

def kCharBufferMax : Nat := 4096

/-- What the loop changes: the new string, once there is one, and the used part of `charBuffer`. -/
structure Escaping where
  newString : Option NSString
  charBuffer : NSString

/-- `CFStringAppendCharacters(newString, charBuffer, charBufferIndex)`. -/
def Escaping.flush (s : Escaping) : Escaping :=
  { newString := s.newString.map (· ++ s.charBuffer), charBuffer := [] }

/-- `charBuffer[charBufferIndex++] = ch`. -/
def Escaping.put (s : Escaping) (ch : UInt16) : C Escaping :=
  if s.charBuffer.length < kCharBufferMax then pure { s with charBuffer := s.charBuffer ++ [ch] }
  else throw (.bounds s.charBuffer.length)

def hexchars : List UInt16 := [48, 49, 50, 51, 52, 53, 54, 55, 56, 57, 65, 66, 67, 68, 69, 70]

def hexchar (digit : UInt8) : UInt16 := hexchars[digit.toNat]?.getD 0

/-- The loop over the bytes of a character. -/
def Escaping.putEscapes (s : Escaping) : List UInt8 → C Escaping
  | [] => pure s
  | byte :: bytes => do
    let s ← s.put 37
    let s ← s.put (hexchar (byte >>> 4))
    let s ← s.put (hexchar (byte &&& 0x0f))
    s.putEscapes bytes

/-- Before a character is replaced: the new string is there, and the buffer has room. -/
def Escaping.prepare (s : Escaping) (front : NSString) : Escaping :=
  let s := match s.newString with
    | some _ => s
    | none => { s with newString := some front }
  if s.charBuffer.length ≥ kCharBufferMax - 24 then s.flush else s

/-- The loop, with the units it has passed; `none` is an encoding failure. -/
def escapeLoop (charactersToLeaveUnescaped legalURLCharactersToBeEscaped : Option NSString) :
    NSString → NSString → Escaping → C (Option Escaping)
  | _, [], s => pure (some s)
  | front, ch :: rest, s =>
    if shouldReplace charactersToLeaveUnescaped legalURLCharactersToBeEscaped ch then
      let s := s.prepare front
      match unicodeToBytes [ch] 8 with
      | some bytes => do
        let s ← s.putEscapes bytes
        escapeLoop charactersToLeaveUnescaped legalURLCharactersToBeEscaped (front ++ [ch]) rest s
      | none =>
        match rest with
        | [] => pure none
        | low :: rest =>
          if isHigh ch && isLow low then
            match unicodeToBytes [ch, low] 6 with
            | some bytes => do
              let s ← s.putEscapes bytes
              escapeLoop charactersToLeaveUnescaped legalURLCharactersToBeEscaped (front ++ [ch, low]) rest s
            | none => pure none
          else pure none
    else
      match s.newString with
      | none => escapeLoop charactersToLeaveUnescaped legalURLCharactersToBeEscaped (front ++ [ch]) rest s
      | some _ => do
        let s ← s.put ch
        escapeLoop charactersToLeaveUnescaped legalURLCharactersToBeEscaped (front ++ [ch]) rest
          (if s.charBuffer.length = kCharBufferMax then s.flush else s)

/-- `CFURLCreateStringByAddingPercentEscapes` with `kCFStringEncodingUTF8`. -/
def createStringByAddingPercentEscapes (originalString : NSString)
    (charactersToLeaveUnescaped legalURLCharactersToBeEscaped : Option NSString) : C (Option NSString) := do
  if originalString.length = 0 then pure (some originalString)
  else
    match ← escapeLoop charactersToLeaveUnescaped legalURLCharactersToBeEscaped [] originalString
        { newString := none, charBuffer := [] } with
    | none => pure none
    | some s =>
      match s.newString with
      | none => pure (some originalString)
      | some newString => pure (some (if s.charBuffer.length ≠ 0 then newString ++ s.charBuffer else newString))

/-! ## Replacing percent escapes -/

/-- The values of the hexadecimal digits; 0x80 marks all else. -/
def hexvalues (byte : UInt8) : UInt8 :=
  if 0x30 ≤ byte ∧ byte ≤ 0x39 then byte - 0x30
  else if 0x41 ≤ byte ∧ byte ≤ 0x46 then byte - 0x41 + 0x0A
  else if 0x61 ≤ byte ∧ byte ≤ 0x66 then byte - 0x61 + 0x0A
  else 0x80

/-- The loop of `UnescapeAllWithUTF8`; `none` where `conversionOK` is `FALSE`. -/
def unescapeBytes : List UInt8 → Option (List UInt8)
  | [] => some []
  | byte :: rest =>
    if byte = 37 then
      match rest with
      | digit1 :: digit2 :: rest =>
        if (hexvalues digit1 ||| hexvalues digit2) &&& 0x80 = 0 then
          (unescapeBytes rest).map fun bytes => ((hexvalues digit1 <<< 4) + hexvalues digit2) :: bytes
        else none
      | _ => none
    else (unescapeBytes rest).map (byte :: ·)

def unescapeAllWithUTF8 (originalString : NSString) : Option NSString :=
  let (charsConverted, bytes) := toUTF8 originalString (originalString.length * 3)
  if charsConverted = 0 then none else (unescapeBytes bytes).bind createWithBytes

/-- `CFURLCreateStringByReplacingPercentEscapes`, with an empty string of characters to leave escaped. -/
def createStringByReplacingPercentEscapes (originalString : NSString) : Option NSString :=
  if originalString.length = 0 then some originalString else unescapeAllWithUTF8 originalString

/-! ## `nn_encodeString` -/

/-- `"!*'();:@&=+$,/?%#[]"`. -/
def reserved : NSString := [33, 42, 39, 40, 41, 59, 58, 64, 38, 61, 43, 36, 44, 47, 63, 37, 35, 91, 93]

def nnEncodeString (self : NSString) : C (Option NSString) :=
  createStringByAddingPercentEscapes self none (some reserved)

end LearningDemo.CFURL
