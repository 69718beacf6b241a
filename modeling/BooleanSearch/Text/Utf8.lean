import BooleanSearch.Text.Basic

/-!
This module contains the UTF-8 form of texts. Bytes are read chunk by chunk, where a chunk is either
the encoding of a character or the longest run of bytes that begins such an encoding but cannot be
completed. Strict reading accepts characters only, lenient reading puts a replacement character in
the place of every other chunk.
-/

namespace BooleanSearch

abbrev Bytes := List UInt8

namespace Utf8

/--
The encoding of one character: one byte, or a leading byte and up to three continuation bytes with
six bits each.
-/
def encodeChar (c : Char) : Bytes :=
  let code := c.toNat
  let continuation (n : Nat) : UInt8 := UInt8.ofNat (0x80 + n % 64)
  if code < 0x80 then
    [UInt8.ofNat code]
  else if code < 0x800 then
    [UInt8.ofNat (0xC0 + code / 64), continuation code]
  else if code < 0x10000 then
    [UInt8.ofNat (0xE0 + code / 4096), continuation (code / 64), continuation code]
  else
    [UInt8.ofNat (0xF0 + code / 262144), continuation (code / 4096), continuation (code / 64),
      continuation code]

def encode (text : Text) : Bytes := text.flatMap encodeChar

def byteLength (text : Text) : Nat := (encode text).length

def isContinuation (byte : UInt8) : Bool := 0x80 ≤ byte && byte < 0xC0

/--
Whether `byte` may stand behind the leading byte `lead` of an encoding of three or four bytes. This
excludes surrogates, code points that have a shorter encoding and those beyond the last one.
-/
def mayFollow (lead byte : UInt8) : Bool :=
  if lead = 0xE0 then 0xA0 ≤ byte && byte < 0xC0
  else if lead = 0xED then 0x80 ≤ byte && byte < 0xA0
  else if lead = 0xF0 then 0x90 ≤ byte && byte < 0xC0
  else if lead = 0xF4 then 0x80 ≤ byte && byte < 0x90
  else isContinuation byte

def extend (bits : Nat) (continuation : UInt8) : Nat := 64 * bits + continuation.toNat % 64

/--
The first chunk of bytes: the character it encodes, if it encodes one, and how many bytes belong to
it besides `lead`.
-/
def firstChunk (lead : UInt8) (rest : Bytes) : Option Char × Nat :=
  if lead < 0x80 then
    (some (Char.ofNat lead.toNat), 0)
  else if 0xC2 ≤ lead && lead < 0xE0 then
    match rest with
    | second :: _ =>
      if isContinuation second then
        (some (Char.ofNat (extend (lead.toNat % 32) second)), 1)
      else
        (none, 0)
    | [] => (none, 0)
  else if 0xE0 ≤ lead && lead < 0xF0 then
    match rest with
    | second :: rest =>
      if mayFollow lead second then
        match rest with
        | third :: _ =>
          if isContinuation third then
            (some (Char.ofNat (extend (extend (lead.toNat % 16) second) third)), 2)
          else
            (none, 1)
        | [] => (none, 1)
      else
        (none, 0)
    | [] => (none, 0)
  else if 0xF0 ≤ lead && lead < 0xF5 then
    match rest with
    | second :: rest =>
      if mayFollow lead second then
        match rest with
        | third :: rest =>
          if isContinuation third then
            match rest with
            | fourth :: _ =>
              if isContinuation fourth then
                let bits := extend (extend (lead.toNat % 8) second) third
                (some (Char.ofNat (extend bits fourth)), 3)
              else
                (none, 2)
            | [] => (none, 2)
          else
            (none, 1)
        | [] => (none, 1)
      else
        (none, 0)
    | [] => (none, 0)
  else
    (none, 0)

def chunksAfter : (skip : Nat) → Bytes → List (Option Char)
  | _, [] => []
  | skip + 1, _ :: rest => chunksAfter skip rest
  | 0, lead :: rest =>
    let (c, length) := firstChunk lead rest
    c :: chunksAfter length rest

def chunks (bytes : Bytes) : List (Option Char) := chunksAfter 0 bytes

def decode? (bytes : Bytes) : Option Text := (chunks bytes).mapM id

/--
The text that bytes encode, where a replacement character stands for each ill-formed chunk.
-/
def decodeLossy (bytes : Bytes) : Text := (chunks bytes).map fun c => c.getD '\uFFFD'

@[simp]
theorem encode_nil : encode [] = [] := rfl

@[simp]
theorem encode_cons (c : Char) (text : Text) : encode (c :: text) = encodeChar c ++ encode text :=
  rfl

@[simp]
theorem encode_append (s t : Text) : encode (s ++ t) = encode s ++ encode t := by
  simp [encode]

@[simp]
theorem byteLength_append (s t : Text) : byteLength (s ++ t) = byteLength s + byteLength t := by
  simp [byteLength]

end Utf8

end BooleanSearch
