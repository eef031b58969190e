import Folio.Digest.Md5
import Folio.Digest.Base64
import Folio.Digest.Aes
import Folio.Text.Blank
import Folio.Text.Utf8

/-!
# Folio.Script.Native

The digests and ciphers that scripts may call.  Texts go in as their UTF-8
bytes; bytes that come out are read as UTF-8, malformed sequences replaced.
-/

namespace Folio.Script

open Folio.Text Folio.Digest

/-- Why a script, or a function it calls, failed. -/
inductive Failure where
  /-- The script is malformed or went wrong while it ran. -/
  | evaluation
  /-- The input is not base64. -/
  | base64
  /-- The data cannot be decrypted. -/
  | cipher (reason : Aes.Failure)
deriving DecidableEq, Repr

/-- The wording of a failure. -/
def Failure.message : Failure → String
  | evaluation => "script evaluation failed"
  | base64 => "invalid base64 input"
  | cipher reason => "decryption failed: " ++ reason.message

namespace Native

/-- The MD5 digest of a text, in hexadecimal. -/
def md5 (text : String) : String := Md5.hex text

/-- A text in base64. -/
def base64Encode (text : String) : String := String.ofList (Base64.encode (Utf8.bytes text))

/-- The bytes that a base64 text, blanks around it removed, stands for. -/
def base64Bytes (text : String) : Except Failure (List UInt8) :=
  match Base64.decode? (trim text.toList) with
  | some bytes => .ok bytes
  | none => .error .base64

/-- The text that a base64 text stands for. -/
def base64Decode (text : String) : Except Failure String :=
  (base64Bytes text).map fun bytes => String.ofList (Utf8.decodeLossy bytes)

/-- The plain text of base64 data encrypted with AES in chained blocks; the
bytes of `key` and `vector` are the key and the initialization vector. -/
def aesCbcDecrypt (data key vector : String) : Except Failure String := do
  let bytes ← base64Bytes data
  match Aes.decryptCbc bytes (Utf8.bytes key) (Utf8.bytes vector) with
  | .ok plain => .ok (String.ofList (Utf8.decodeLossy plain))
  | .error reason => .error (.cipher reason)

end Native

end Folio.Script
