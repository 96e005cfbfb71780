import Agtp.Foundation.Json
import Agtp.Foundation.Text

/-! # Library primitives

Functions of the language's libraries that the development relies on without
computing them. Each is a parameter; a result that needs more of one than its
type states the property it needs. -/

namespace Agtp

abbrev Bytes := List UInt8

/-- Why `json.loads(data.decode("utf-8"))` fails. Text that is not UTF-8 or not
JSON raises a `ValueError`; anything else, such as exceeding the recursion
limit, is not one. -/
inductive DecodeFailure where
  | valueError
  | other
deriving DecidableEq

/-- JSON text as UTF-8 bytes. `canonical` is
`json.dumps(value, sort_keys=True, separators=(",", ":"))`. -/
class JsonCodec where
  canonical : Json → Bytes
  loads : Bytes → Except DecodeFailure Json

/-- `json.dumps` of a request body, and `json.loads` of one whose malformed
UTF-8 is replaced. `failureText` is the message of the error. `loadsStrict`
does not replace; it is `none` where decoding or parsing fails. -/
class BodyCodec where
  dumps : Json → Bytes
  loads : Bytes → Except DecodeFailure Json
  failureText : Bytes → String
  loadsStrict : Bytes → Option Json

namespace Plain

/-- Bodies that are never looked into. -/
scoped instance : BodyCodec where
  dumps := fun _ => []
  loads := fun _ => .ok (.object [])
  failureText := fun _ => ""
  loadsStrict := fun _ => none

end Plain

/-- `hashlib.sha256(data).hexdigest()`. -/
class Digest where
  sha256 : Bytes → String

/-- Ed25519 verification: whether the signature over the message is by the
holder of the key. -/
class SignatureScheme (PublicKey : Type) where
  verifies : PublicKey → (signature : Bytes) → (message : Bytes) → Bool

/-- `text.encode("ascii")` for ASCII text. -/
def asciiBytes (text : String) : Bytes :=
  text.toList.map fun character => UInt8.ofNat character.toNat

@[simp] theorem asciiBytes_append (left right : String) :
    asciiBytes (left ++ right) = asciiBytes left ++ asciiBytes right := by
  simp [asciiBytes]

theorem characters_asciiBytes {text : String}
    (ascii : ∀ character ∈ text.toList, character.toNat < 128) :
    (asciiBytes text).map (fun byte => Char.ofNat byte.toNat) = text.toList := by
  rw [asciiBytes, List.map_map]
  conv => rhs; rw [← List.map_id text.toList]
  apply List.map_congr_left
  intro character member
  have bound := ascii character member
  simp only [Function.comp_apply, UInt8.toNat_ofNat', id_eq]
  rw [Nat.mod_eq_of_lt (by omega), Char.ofNat_toNat]

theorem asciiBytes_injective {left right : String} (leftAscii : Text.isAscii left)
    (rightAscii : Text.isAscii right)
    (equal : asciiBytes left = asciiBytes right) : left = right := by
  simp only [Text.isAscii, List.all_eq_true, decide_eq_true_eq] at leftAscii rightAscii
  apply String.toList_inj.mp
  rw [← characters_asciiBytes leftAscii, ← characters_asciiBytes rightAscii, equal]

/-- `urllib.parse.unquote_plus`. -/
class UrlText where
  unquotePlus : String → String

namespace Plain

/-- Texts without an escape. -/
scoped instance : UrlText where
  unquotePlus := fun text => text

end Plain

/-- `int(value)` on texts and floats, where it does not raise. -/
class NumberText where
  intOfText : String → Option Int
  intOfFloat : String → Option Int

namespace PlainServing

scoped instance : NumberText where
  intOfText := fun _ => none
  intOfFloat := fun _ => none

end PlainServing

def Json.toInt? [NumberText] : Json → Option Int
  | int value => some value
  | bool value => some (if value then 1 else 0)
  | float text => NumberText.intOfFloat text
  | string text => NumberText.intOfText text
  | _ => none

end Agtp
