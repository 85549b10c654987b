import Mathlib.Data.String.Basic
import Tvic.Core.Dal

/-!
# Redis keys

`packages/dal-redis/src/keys.ts`. A key is the prefix and some parts joined by colons; the
ids in it go through `encodeURIComponent`, which leaves no colon.
-/
namespace Tvic.Redis

/-- The bytes `encodeURIComponent` leaves alone. -/
def isUnreserved (byte : UInt8) : Bool :=
  let c := Char.ofNat byte.toNat
  c.toNat < 128 && (c.isAlphanum || "-_.!~*'()".toList.contains c)

def hexDigit (n : Nat) : Char :=
  if n < 10 then Char.ofNat (48 + n) else Char.ofNat (55 + n)

def encodeByte (byte : UInt8) : List Char :=
  if isUnreserved byte then [Char.ofNat byte.toNat]
  else ['%', hexDigit (byte.toNat / 16), hexDigit (byte.toNat % 16)]

/-- `encodeURIComponent`, and the scripts' own `encodeKeyPart`, which follows it byte for byte. -/
def encodeKeyPart (value : String) : String :=
  String.ofList (value.toUTF8.data.toList.flatMap encodeByte)

/-- `${prefix(value)}` and the parts. -/
def keyName (keyPrefix : Option String) (parts : List String) : String :=
  keyPrefix.getD "tvic:v1:" ++ ":".intercalate parts

def sessionKey (keyPrefix : Option String) (id : SessionId) : String :=
  keyName keyPrefix ["session", encodeKeyPart id]

def turnKey (keyPrefix : Option String) (sessionId : SessionId) (id : String) : String :=
  keyName keyPrefix ["turn", encodeKeyPart sessionId, encodeKeyPart id]

def toolCallKey (keyPrefix : Option String) (sessionId : SessionId) (id : String) : String :=
  keyName keyPrefix ["tool_call", encodeKeyPart sessionId, encodeKeyPart id]

def leaseKey (keyPrefix : Option String) (sessionId : SessionId) : String :=
  keyName keyPrefix ["lease", encodeKeyPart sessionId]

def idempotencyKey (keyPrefix : Option String) (key : String) : String :=
  keyName keyPrefix ["idempotency", encodeKeyPart key]

def outboxKey (keyPrefix : Option String) (id : String) : String :=
  keyName keyPrefix ["outbox", encodeKeyPart id]

def sessionIndexKey (keyPrefix : Option String) : String :=
  keyName keyPrefix ["sessions"]

def turnIndexKey (keyPrefix : Option String) (sessionId : SessionId) : String :=
  keyName keyPrefix ["session", encodeKeyPart sessionId, "turns"]

def toolIndexKey (keyPrefix : Option String) (sessionId : SessionId) : String :=
  keyName keyPrefix ["session", encodeKeyPart sessionId, "tools"]

example : turnKey none "a b" "é" = "tvic:v1:turn:a%20b:%C3%A9" := by decide +kernel

/-! ### Different ids have different keys -/

theorem unreserved_char {byte : UInt8} (unreserved : isUnreserved byte = true) :
    (Char.ofNat byte.toNat).toNat = byte.toNat ∧ Char.ofNat byte.toNat ≠ '%' ∧
      Char.ofNat byte.toNat ≠ ':' := by
  have all : ∀ n < 256, isUnreserved (UInt8.ofNat n) = true →
      (Char.ofNat n).toNat = n ∧ Char.ofNat n ≠ '%' ∧ Char.ofNat n ≠ ':' := by
    decide +kernel
  apply all byte.toNat byte.toNat_lt
  rwa [UInt8.ofNat_toNat]

def hexValue (c : Char) : Nat := if c.toNat < 58 then c.toNat - 48 else c.toNat - 55

theorem hexValue_hexDigit {n : Nat} (small : n < 16) :
    hexValue (hexDigit n) = n ∧ hexDigit n ≠ ':' := by
  have all : ∀ n < 16, hexValue (hexDigit n) = n ∧ hexDigit n ≠ ':' := by decide
  exact all n small

theorem hexDigit_inj {m n : Nat} (small : m < 16) (small' : n < 16)
    (same : hexDigit m = hexDigit n) : m = n := by
  rw [← (hexValue_hexDigit small).1, same, (hexValue_hexDigit small').1]

theorem encodeByte_append_inj {first second : UInt8} {rest rest' : List Char}
    (same : encodeByte first ++ rest = encodeByte second ++ rest') :
    first = second ∧ rest = rest' := by
  have small := first.toNat_lt
  have small' := second.toNat_lt
  unfold encodeByte at same
  split at same
  next unreserved =>
    obtain ⟨char, not_percent, -⟩ := unreserved_char unreserved
    split at same
    next unreserved' =>
      obtain ⟨char', -, -⟩ := unreserved_char unreserved'
      obtain ⟨chars, rests⟩ := List.cons.inj same
      refine ⟨UInt8.toNat_inj.mp ?_, rests⟩
      rw [← char, chars, char']
    next => exact absurd (List.cons.inj same).1 not_percent
  next =>
    split at same
    next unreserved' =>
      exact absurd (List.cons.inj same).1.symm (unreserved_char unreserved').2.1
    next =>
      obtain ⟨-, same⟩ := List.cons.inj same
      obtain ⟨high, same⟩ := List.cons.inj same
      obtain ⟨low, rests⟩ := List.cons.inj same
      have high := hexDigit_inj (by omega) (by omega) high
      have low := hexDigit_inj (by omega) (by omega) low
      exact ⟨UInt8.toNat_inj.mp (by omega), rests⟩

theorem encodeByte_ne_nil (byte : UInt8) : encodeByte byte ≠ [] := by
  unfold encodeByte
  split <;> simp

theorem flatMap_encodeByte_inj {bytes bytes' : List UInt8}
    (same : bytes.flatMap encodeByte = bytes'.flatMap encodeByte) : bytes = bytes' := by
  induction bytes generalizing bytes' with
  | nil =>
    cases bytes' with
    | nil => rfl
    | cons byte rest => simp [encodeByte_ne_nil] at same
  | cons byte rest ih =>
    cases bytes' with
    | nil => simp [encodeByte_ne_nil] at same
    | cons byte' rest' =>
      rw [List.flatMap_cons, List.flatMap_cons] at same
      obtain ⟨rfl, rests⟩ := encodeByte_append_inj same
      rw [ih rests]

theorem encodeKeyPart_injective : Function.Injective encodeKeyPart := by
  intro value value' same
  have bytes := flatMap_encodeByte_inj (String.ofList_injective same)
  exact String.toByteArray_inj.mp (ByteArray.ext (Array.toList_inj.mp bytes))

theorem colon_not_mem_encodeKeyPart (value : String) : ':' ∉ (encodeKeyPart value).toList := by
  intro member
  rw [encodeKeyPart, String.toList_ofList, List.mem_flatMap] at member
  obtain ⟨byte, -, member⟩ := member
  have small := byte.toNat_lt
  unfold encodeByte at member
  split at member
  next unreserved =>
    exact (unreserved_char unreserved).2.2 (List.mem_singleton.mp member).symm
  next =>
    have high := (hexValue_hexDigit (n := byte.toNat / 16) (by omega)).2
    have low := (hexValue_hexDigit (n := byte.toNat % 16) (by omega)).2
    simp only [List.mem_cons, List.not_mem_nil, or_false] at member
    rcases member with percent | equal | equal
    · exact absurd percent (by decide)
    · exact high equal.symm
    · exact low equal.symm

theorem keyName_inj {keyPrefix : Option String} {parts parts' : List String}
    (nonempty : parts ≠ []) (nonempty' : parts' ≠ [])
    (plain : ∀ part ∈ parts, ':' ∉ part.toList) (plain' : ∀ part ∈ parts', ':' ∉ part.toList)
    (same : keyName keyPrefix parts = keyName keyPrefix parts') : parts = parts' := by
  have joined : ":".intercalate parts = ":".intercalate parts' := by
    simpa [keyName] using same
  have lists : [':'].intercalate (parts.map String.toList) =
      [':'].intercalate (parts'.map String.toList) := by
    simpa using congrArg String.toList joined
  have split := congrArg (List.splitOn ':') lists
  rw [List.splitOn_intercalate ':' (by simpa using plain) (by simpa using nonempty),
    List.splitOn_intercalate ':' (by simpa using plain') (by simpa using nonempty')] at split
  exact List.map_injective_iff.mpr (fun _ _ => String.toList_inj.mp) split

theorem idempotencyKey_injective (keyPrefix : Option String) :
    Function.Injective (idempotencyKey keyPrefix) := by
  intro key key' same
  have plain : ∀ key, ∀ part ∈ ["idempotency", encodeKeyPart key], ':' ∉ part.toList := by
    intro key part member
    rcases List.mem_pair.mp member with rfl | rfl
    · decide
    · exact colon_not_mem_encodeKeyPart key
  have parts := keyName_inj (by simp) (by simp) (plain key) (plain key') same
  exact encodeKeyPart_injective (by simpa using parts)

end Tvic.Redis
