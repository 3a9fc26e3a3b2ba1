/-
The MD5 sums and the shortening of labels in `General/Categories`
(`NSString+NNAdd.m`, `NSData+NNAdd.m`), as the code computes them.

CommonCrypto, the file handle and UIKit's text are parameters. A string is
its UTF-16 units; of a font and a label's size only the widths matter, exact
rationals for `CGFloat`.
-/
import LearningDemo.Lib.Imperative
import LearningDemo.Lib.Enumerate
import LearningDemo.Lib.Hex
import LearningDemo.Lib.Utf16
import Mathlib.Data.Rat.Defs

namespace LearningDemo.NNAdd

open Imperative Enumerate

/-! ## `nn_md5` and `nn_fileMD5` -/

/-- `unsigned char digest[CC_MD5_DIGEST_LENGTH]`. -/
abbrev Digest := Vector UInt8 16

/-- What CommonCrypto offers. A pointer is the bytes it leads to, a `CC_LONG`
has 32 bits. -/
structure CommonCrypto (CC_MD5_CTX : Type) where
  CC_MD5_Init : CC_MD5_CTX
  CC_MD5_Update : CC_MD5_CTX → List UInt8 → UInt32 → CC_MD5_CTX
  CC_MD5_Final : CC_MD5_CTX → Digest
  CC_MD5 : List UInt8 → UInt32 → Digest

/-- `"%02x%02x..."` of the bytes of a digest. -/
def hexString (digest : Digest) : String := Hex.string digest.toList

/-- `-[NSData nn_md5]`. The length is cast to a `CC_LONG`. -/
def nnMd5 {CC_MD5_CTX : Type} (K : CommonCrypto CC_MD5_CTX) (data : List UInt8) : String :=
  hexString (K.CC_MD5 data (UInt32.ofNat data.length))

section FileMD5

variable {CC_MD5_CTX NSFileHandle : Type} (K : CommonCrypto CC_MD5_CTX)
  (readDataOfLength : NSFileHandle → Nat → List UInt8 × NSFileHandle)

/-- What the loop of `nn_fileMD5` changes. -/
structure Reading (CC_MD5_CTX NSFileHandle : Type) where
  handle : NSFileHandle
  md5 : CC_MD5_CTX
  done : Bool

/-- `while (!done)`. -/
def readMore (s : Reading CC_MD5_CTX NSFileHandle) : C Bool := pure !s.done

/-- One turn: the next chunk goes into the sum, also the empty one that ends
the loop. -/
def readTurn (s : Reading CC_MD5_CTX NSFileHandle) : C (Reading CC_MD5_CTX NSFileHandle) :=
  let (fileData, handle) := readDataOfLength s.handle 256
  let md5 := K.CC_MD5_Update s.md5 fileData (UInt32.ofNat fileData.length)
  pure { handle, md5, done := if fileData.length = 0 then true else s.done }

/-- `nn_fileMD5`, with the handle the file is opened with, `none` where there is no file. -/
def nnFileMD5 (fuel : Nat) : Option NSFileHandle → C String
  | none => pure ""
  | some handle => do
    let s ← whileLoop readMore (readTurn K readDataOfLength) fuel
      { handle, md5 := K.CC_MD5_Init, done := false }
    pure (hexString (K.CC_MD5_Final s.md5))

end FileMD5

/-! ## Strings -/

/-- An `NSString`, its `characterAtIndex:` from 0 on. -/
abbrev NSString := List UInt16

/-- `@"..."`. -/
def dots : NSString := [46, 46, 46]

structure NSRange where
  location : Nat
  length : Nat
  deriving DecidableEq, Repr

/-- What Foundation and UIKit know of strings, in the font given. -/
structure Text where
  /-- `boundingRectWithSize:..`, of the width. -/
  width : NSString → ℚ
  /-- `none` stands for a range whose location is `NSNotFound`. -/
  rangeOfComposedCharacterSequenceAtIndex : NSString → Nat → Option NSRange
  /-- What `enumerateSubstringsInRange:` with
  `NSStringEnumerationByComposedCharacterSequences` enumerates. -/
  composedCharacterSequences : NSString → List NSString

/-- `stringByReplacingCharactersInRange:withString:`, for a range within the string. -/
def replacingCharactersInRange (s : NSString) (range : NSRange) (replacement : NSString) : NSString :=
  s.take range.location ++ replacement ++ s.drop (range.location + range.length)

/-! ## `yxt_limitStringWithFont:length:` -/

/-- The two captured variables. -/
structure Limiting where
  lastStr : NSString
  testString : NSString

/-- The block called with each composed character sequence, and its `*stop`. -/
def limitBlock (T : Text) (length : ℚ) (substring : NSString) (s : Limiting) : Limiting × Bool :=
  let limitString := s.lastStr ++ substring
  let testString := limitString ++ dots
  if T.width testString > length then ({ s with testString }, true)
  else ({ lastStr := limitString, testString }, false)

/-- `yxt_limitStringWithFont:length:`. -/
def limitString (T : Text) (self : NSString) (length : ℚ) : NSString :=
  if T.width self < length then self
  else
    let s := enumerate (limitBlock T length) (T.composedCharacterSequences self)
      { lastStr := [], testString := [] }
    s.lastStr ++ dots

/-! ## `clipFitStringForLabel:font:` -/

/-- The end of both methods: the sequence around the fourth unit from the end
is removed when it has more than one unit. -/
def handleLastEmoj (T : Text) (resultString : NSString) : NSString :=
  if resultString.length < 4 then dots
  else
    let lastHandlingRange : NSRange := { location := resultString.length - 1 - 3, length := 4 }
    match T.rangeOfComposedCharacterSequenceAtIndex resultString lastHandlingRange.location with
    | none => resultString
    | some emojRange =>
      if emojRange.length > 1 then replacingCharactersInRange resultString emojRange [] else resultString

/-- `clipFitStringForLabel:font:`, for a label of this width. -/
def clipFitStringForLabel (T : Text) (self : NSString) (labelWidth : ℚ) : NSString :=
  handleLastEmoj T (limitString T self labelWidth)

/-! ## `clipFitStringForLabel2:font:` -/

/-- The units from `i` on replaced by the dots, if that fits. -/
def cutAt (T : Text) (originalString : NSString) (maxWidth : ℚ) (i : Nat) : Option NSString :=
  let tempString := replacingCharactersInRange originalString
    { location := i, length := originalString.length - i } dots
  if T.width tempString ≤ maxWidth then some tempString else none

/-- `clipFitStringForLabel2:font:`, for a label of this width. Where no cut
fits, the string is left whole; it is `@""` that is measured for the dots. -/
def clipFitStringForLabel2 (T : Text) (self : NSString) (maxWidth : ℚ) : NSString :=
  let originalWidth := T.width self
  if originalWidth ≤ maxWidth then self
  else
    let pointStrLength := T.width []
    if pointStrLength ≥ maxWidth then dots
    else handleLastEmoj T ((findDown (cutAt T self maxWidth) self.length).getD self)

end LearningDemo.NNAdd
