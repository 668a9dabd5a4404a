import Ros2Client.Text.Str
import Ros2Client.Wire.Codec

open Text Wire

namespace Ros2Client

def encodeUnits (char : Char) : List UInt16 := (encodeUtf16 char).map .ofNat

/-- `widestring::Utf16String`: code units that spell characters. -/
structure Utf16String where
  slice : List UInt16
  valid : ∃ text : Str, slice = text.flatMap encodeUnits

namespace Utf16String

theorem ext_slice {first second : Utf16String} (same : first.slice = second.slice) : first = second := by
  cases first
  cases second
  rw [Utf16String.mk.injEq]
  exact same

def ofText (text : Str) : Utf16String := ⟨text.flatMap encodeUnits, text, rfl⟩

def new : Utf16String := ofText []

def push (text : Utf16String) (char : Char) : Utf16String where
  slice := text.slice ++ encodeUnits char
  valid := by
    obtain ⟨chars, units⟩ := text.valid
    exact ⟨chars ++ [char], by simp [units]⟩

end Utf16String

structure WString where
  inner : Utf16String

/-- The CDR codec as far as a sequence of characters needs it: a count, two octets a code unit and four octets
a character, which is a Unicode scalar value. -/
structure CdrElements (Encoding WriteError ReadError : Type) where
  count : Codec Encoding WriteError ReadError UInt32
  unit : Codec Encoding WriteError ReadError UInt16
  char : Codec Encoding WriteError ReadError Char
  countWritten : ∀ encoding number, ∃ bytes, count.serialize encoding number = .ok bytes
  countRead : count.RoundTrips
  unitSize : ∀ encoding value bytes, unit.serialize encoding value = .ok bytes → bytes.length = 2
  charSize : ∀ encoding bytes value size, char.deserialize encoding bytes = .ok (value, size) → size = 4

namespace WString

variable {Encoding WriteError ReadError : Type}

def serializeUnits (cdr : CdrElements Encoding WriteError ReadError) (encoding : Encoding) :
    List UInt16 → Except WriteError (List UInt8)
  | [] => .ok []
  | e :: rest => do
    let octets ← cdr.unit.serialize encoding e
    let more ← serializeUnits cdr encoding rest
    return octets ++ more

/-- The loop of `visit_seq`; the element type is the one that `Utf16String::push` takes. -/
def visitSeq (cdr : CdrElements Encoding WriteError ReadError) (encoding : Encoding) :
    Nat → Utf16String → List UInt8 → Except ReadError (Utf16String × Nat)
  | 0, inner, _ => .ok (inner, 0)
  | left + 1, inner, bytes => do
    let (wc, size) ← cdr.char.deserialize encoding bytes
    let (inner, more) ← visitSeq cdr encoding left (inner.push wc) (bytes.drop size)
    return (inner, size + more)

def codec (cdr : CdrElements Encoding WriteError ReadError) : Codec Encoding WriteError ReadError WString where
  serialize encoding text := do
    let size ← cdr.count.serialize encoding (.ofNat text.inner.slice.length)
    let units ← serializeUnits cdr encoding text.inner.slice
    return size ++ units
  deserialize encoding bytes := do
    let (length, size) ← cdr.count.deserialize encoding bytes
    let (inner, more) ← visitSeq cdr encoding length.toNat .new (bytes.drop size)
    return (⟨inner⟩, size + more)

/-- The string is read back, and exactly the octets that were written, whatever follows. -/
def Survives (cdr : CdrElements Encoding WriteError ReadError) (encoding : Encoding) (text : WString)
    (rest : List UInt8) : Prop :=
  ∃ bytes, (codec cdr).serialize encoding text = .ok bytes ∧
    (codec cdr).deserialize encoding (bytes ++ rest) = .ok (text, bytes.length)

variable {cdr : CdrElements Encoding WriteError ReadError} {encoding : Encoding}

theorem length_serializeUnits {units : List UInt16} {bytes : List UInt8}
    (written : serializeUnits cdr encoding units = .ok bytes) : bytes.length = 2 * units.length := by
  induction units generalizing bytes with
  | nil =>
    cases written
    rfl
  | cons e rest ih =>
    obtain ⟨octets, wrote, later⟩ := bind_eq_ok.mp written
    obtain ⟨more, wroteMore, joined⟩ := bind_eq_ok.mp later
    cases joined
    rw [List.length_append, cdr.unitSize encoding e octets wrote, ih wroteMore, List.length_cons]
    omega

theorem visitSeq_size {left size : Nat} {inner result : Utf16String} {bytes : List UInt8}
    (read : visitSeq cdr encoding left inner bytes = .ok (result, size)) : size = 4 * left := by
  induction left generalizing inner bytes size with
  | zero =>
    cases read
    rfl
  | succ left ih =>
    obtain ⟨⟨wc, width⟩, readChar, later⟩ := bind_eq_ok.mp read
    obtain ⟨⟨inner', more⟩, readMore, joined⟩ := bind_eq_ok.mp later
    cases joined
    rw [cdr.charSize encoding bytes wc width readChar, ih readMore]
    omega

theorem survives_empty (rest : List UInt8) : Survives cdr encoding ⟨.new⟩ rest := by
  obtain ⟨bytes, wrote⟩ := cdr.countWritten encoding 0
  have read := cdr.countRead encoding 0 bytes rest wrote
  have empty : Utf16String.new.slice = [] := rfl
  refine ⟨bytes, ?_, ?_⟩
  · simp [codec, empty, serializeUnits, wrote, bind, Except.bind, pure, Except.pure]
  · simp [codec, visitSeq, read, bind, Except.bind, pure, Except.pure]

/-- The writer's octets are two a code unit and the reader's are four, so only no code units give no difference. -/
theorem wide_string_survives_iff (cdr : CdrElements Encoding WriteError ReadError) (encoding : Encoding)
    (text : WString) (rest : List UInt8) : Survives cdr encoding text rest ↔ text.inner.slice = [] := by
  constructor
  · intro ⟨bytes, written, read⟩
    obtain ⟨size, wroteSize, later⟩ := bind_eq_ok.mp written
    obtain ⟨units, wroteUnits, joined⟩ := bind_eq_ok.mp later
    cases joined
    obtain ⟨⟨length, width⟩, readSize, later⟩ := bind_eq_ok.mp read
    obtain ⟨⟨inner, more⟩, readChars, joined⟩ := bind_eq_ok.mp later
    rw [List.append_assoc, cdr.countRead encoding _ size (units ++ rest) wroteSize] at readSize
    cases readSize
    have consumed : size.length + more = (size ++ units).length := by
      injection joined with pair
      exact (Prod.mk.inj pair).2
    have wrote := length_serializeUnits wroteUnits
    have counted : (UInt32.ofNat text.inner.slice.length).toNat = text.inner.slice.length % 2 ^ 32 :=
      UInt32.toNat_ofNat'
    rw [List.length_append, wrote, visitSeq_size readChars, counted] at consumed
    exact List.eq_nil_of_length_eq_zero (by omega)
  · intro empty
    have same : text = ⟨.new⟩ := by
      obtain ⟨inner⟩ := text
      rw [WString.mk.injEq]
      exact Utf16String.ext_slice empty
    rw [same]
    exact survives_empty rest

end WString

def encodeUnit (bigEndian : Bool) (unit : UInt16) : List UInt8 :=
  if bigEndian then (encodeOctets 2 unit.toNat).reverse else encodeOctets 2 unit.toNat

def decodeUnit (bigEndian : Bool) (octets : List UInt8) : UInt16 :=
  .ofNat (decodeOctets (if bigEndian then octets.reverse else octets))

def toScalar (word : UInt32) : Except Unit Char :=
  if word.toNat.isValidChar then .ok (.ofNat word.toNat) else .error ()

def CdrElements.cdr : CdrElements Bool Unit Unit where
  count := .word id ()
  unit := .fixed 2 encodeUnit decodeUnit ()
  char := (Codec.word id ()).via toScalar fun char => .ofNat char.toNat
  countWritten := fun _ _ => ⟨_, rfl⟩
  countRead := Codec.word_roundTrips id ()
  unitSize := by
    intro bigEndian unit bytes written
    cases written
    cases bigEndian <;> rfl
  charSize := by
    intro bigEndian bytes char size read
    obtain ⟨⟨word, width⟩, readWord, later⟩ := bind_eq_ok.mp read
    obtain ⟨scalar, _, joined⟩ := bind_eq_ok.mp later
    cases joined
    simp only [Codec.word, Codec.fixed] at readWord
    split at readWord
    · cases readWord
    · cases readWord
      rfl

/-- A lone letter is written in two octets, where the reader looks for four. -/
theorem wide_string_takes_more :
    (WString.codec .cdr).serialize false ⟨.ofText ['A']⟩ = .ok [1, 0, 0, 0, 0x41, 0] ∧
      (WString.codec .cdr).deserialize false [1, 0, 0, 0, 0x41, 0] = .error () ∧
      ¬WString.Survives .cdr false ⟨.ofText ['A']⟩ [] := by
  have written : (WString.codec .cdr).serialize false ⟨.ofText ['A']⟩ = .ok [1, 0, 0, 0, 0x41, 0] := rfl
  have read : (WString.codec .cdr).deserialize false [1, 0, 0, 0, 0x41, 0] = .error () := rfl
  refine ⟨written, read, ?_⟩
  intro ⟨bytes, written', read'⟩
  rw [written] at written'
  cases written'
  rw [List.append_nil, read] at read'
  cases read'

end Ros2Client
