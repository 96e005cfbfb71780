import Agtp.Foundation.Fallible
import Agtp.Foundation.Utf8

/-! # CBOR

The encoder and the decoder that the server writes lifecycle envelopes with. A head tells
the major type and an argument, which is written in one of five sizes. -/

namespace Agtp.Cbor

/-- The values that the decoder returns. A tag comes back as a tuple, which the encoder does
not take. -/
inductive Value where
  | null
  | bool (value : Bool)
  | int (value : Int)
  | bytes (data : Bytes)
  | text (value : String)
  | list (items : List Value)
  | map (entries : List (Value × Value))
  | tag (number : Nat) (value : Value)

/-- Exceptions. All but the first kind are not a `CoseError`. -/
inductive Failure where
  | cose (message : String)
  | overflow
  | unicode
  | unhashable
  | recursion
deriving DecidableEq

/-! ## Keys -/

inductive Key where
  | null
  | int (value : Int)
  | bytes (data : Bytes)
  | text (value : String)
  | tag (number : Nat) (key : Key)
deriving DecidableEq

def hashKey : Value → Option Key
  | .null => some .null
  | .bool value => some (.int (if value then 1 else 0))
  | .int value => some (.int value)
  | .bytes data => some (.bytes data)
  | .text value => some (.text value)
  | .list _ => none
  | .map _ => none
  | .tag number value => (hashKey value).map (.tag number)

def lookup (key : Value) : List (Value × Value) → Option Value
  | [] => none
  | (other, value) :: entries =>
      if hashKey other = hashKey key then some value else lookup key entries

def assign (key value : Value) : List (Value × Value) → List (Value × Value)
  | [] => [(key, value)]
  | (other, held) :: entries =>
      if hashKey other = hashKey key then (other, value) :: entries
      else (other, held) :: assign key value entries

mutual

def equal : Value → Value → Bool
  | .list items, .list others => equalItems items others
  | .map entries, .map others => entries.length == others.length && equalEntries entries others
  | .tag number value, .tag other held => number == other && equal value held
  | .list _, _ | .map _, _ | .tag .., _ => false
  | left, right => hashKey left == hashKey right

def equalItems : List Value → List Value → Bool
  | [], [] => true
  | item :: items, other :: others => equal item other && equalItems items others
  | _, _ => false

def equalEntries : List (Value × Value) → List (Value × Value) → Bool
  | [], _ => true
  | (key, value) :: entries, others =>
      (match lookup key others with
        | some held => equal value held
        | none => false) && equalEntries entries others

end

/-! ## Encoding -/

def encHead (major argument : Nat) : Except Failure Bytes :=
  let head := 32 * major
  if argument < 24 then .ok [.ofNat (head + argument)]
  else if argument < 256 then .ok [.ofNat (head + 24), .ofNat argument]
  else if argument < 65536 then .ok (.ofNat (head + 25) :: BigEndian.toBytes 2 argument)
  else if argument < 2 ^ 32 then .ok (.ofNat (head + 26) :: BigEndian.toBytes 4 argument)
  else if argument < 2 ^ 64 then .ok (.ofNat (head + 27) :: BigEndian.toBytes 8 argument)
  else .error .overflow

def keyOrder (left right : Bytes × Bytes) : Bool := left.1 ≤ right.1

mutual

def encode : Value → Except Failure Bytes
  | .null => .ok [0xF6]
  | .bool value => .ok [if value then 0xF5 else 0xF4]
  | .int value =>
      if 0 ≤ value then encHead 0 value.toNat else encHead 1 (-1 - value).toNat
  | .bytes data => (encHead 2 data.length).map (· ++ data)
  | .text value =>
      let encoded := Utf8.encode value.toList
      (encHead 3 encoded.length).map (· ++ encoded)
  | .list items => do
      let head ← encHead 4 items.length
      let encoded ← encodeItems items
      return head ++ encoded
  | .map entries => do
      let pairs ← encodeEntries entries
      let head ← encHead 5 pairs.length
      return head ++ (pairs.mergeSort keyOrder).flatMap fun pair => pair.1 ++ pair.2
  | .tag .. => .error (.cose "cbor_encode: unsupported type tuple")

def encodeItems : List Value → Except Failure Bytes
  | [] => .ok []
  | item :: items => do
      let first ← encode item
      let rest ← encodeItems items
      return first ++ rest

def encodeEntries : List (Value × Value) → Except Failure (List (Bytes × Bytes))
  | [] => .ok []
  | (key, value) :: entries => do
      let keyBytes ← encode key
      let valueBytes ← encode value
      let rest ← encodeEntries entries
      return (keyBytes, valueBytes) :: rest

end

/-! ## Decoding -/

def readArgument (size : Nat) (name : String) (major : Nat) (data : Bytes) :
    Except Failure (Nat × Nat × Bytes) :=
  if data.length < size then .error (.cose s!"cbor_decode: short {name} argument")
  else .ok (major, BigEndian.fromBytes (data.take size), data.drop size)

def readHead (data : Bytes) : Except Failure (Nat × Nat × Bytes) :=
  match data with
  | [] => .error (.cose "cbor_decode: unexpected end of input at head")
  | byte :: rest =>
      let major := byte.toNat / 32
      let info := byte.toNat % 32
      if info < 24 then .ok (major, info, rest)
      else if info = 24 then readArgument 1 "uint8" major rest
      else if info = 25 then readArgument 2 "uint16" major rest
      else if info = 26 then readArgument 4 "uint32" major rest
      else if info = 27 then readArgument 8 "uint64" major rest
      else .error (.cose s!"cbor_decode: unsupported additional info {info}")

def takeBytes (length : Nat) (name : String) (data : Bytes) :
    Except Failure (Bytes × Bytes) :=
  if data.length < length then .error (.cose s!"cbor_decode: short {name} payload")
  else .ok (data.take length, data.drop length)

section Containers

variable (read : Bytes → Except Failure (Value × Bytes))

def readItems : Nat → Bytes → Except Failure (List Value × Bytes)
  | 0, data => .ok ([], data)
  | count + 1, data => do
      let (item, rest) ← read data
      let (items, last) ← readItems count rest
      return (item :: items, last)

def readEntries : Nat → List (Value × Value) → Bytes →
    Except Failure (List (Value × Value) × Bytes)
  | 0, held, data => .ok (held, data)
  | count + 1, held, data => do
      let (key, rest) ← read data
      let (value, last) ← read rest
      match hashKey key with
      | none => .error .unhashable
      | some _ => readEntries count (assign key value held) last

end Containers

def decodeAt : Nat → Bytes → Except Failure (Value × Bytes)
  | 0, _ => .error .recursion
  | stack + 1, data => do
      let (major, argument, rest) ← readHead data
      if major = 0 then return (.int argument, rest)
      else if major = 1 then return (.int (-1 - argument), rest)
      else if major = 2 then
        let (payload, last) ← takeBytes argument "bstr" rest
        return (.bytes payload, last)
      else if major = 3 then
        let (payload, last) ← takeBytes argument "tstr" rest
        match Utf8.decode? payload with
        | some text => return (.text (String.ofList text), last)
        | none => .error .unicode
      else if major = 4 then
        let (items, last) ← readItems (decodeAt stack) argument rest
        return (.list items, last)
      else if major = 5 then
        let (entries, last) ← readEntries (decodeAt stack) argument [] rest
        return (.map entries, last)
      else if major = 6 then
        let (inner, last) ← decodeAt stack rest
        return (.tag argument inner, last)
      else if argument = 20 then return (.bool false, rest)
      else if argument = 21 then return (.bool true, rest)
      else if argument = 22 ∨ argument = 23 then return (.null, rest)
      else .error (.cose s!"cbor_decode: unsupported major type {major}")

def decode (stack : Nat) (data : Bytes) : Except Failure Value := do
  let (value, rest) ← decodeAt stack data
  if rest = [] then return value
  else
    let consumed := data.length - rest.length
    .error (.cose s!"cbor_decode: trailing bytes ({consumed} consumed of {data.length})")

end Agtp.Cbor
