import RateReplay.Lib.Sorted

/-!
# Canonical JSON

`json.dumps(value, ensure_ascii=False, separators=(",", ":"), sort_keys=True)` on
the values a strict model dumps to: no floating-point numbers occur.  Objects are
built by `object`, which sorts their keys once, so writing a value out keeps the
order it finds.

## Main definitions

* `Json`, `object` — values, and objects with sorted keys.
* `Json.render` — the canonical text, as a list of characters.
* `Dump α` — how a model is dumped; instances for the basic types.

## Main results

* `Json.same_iff` — equality of values is decidable.
-/

namespace RateReplay

open List

/-- A JSON value without floating-point numbers. -/
inductive Json where
  | null
  | bool (b : Bool)
  | int (n : ℤ)
  | str (s : String)
  | arr (xs : List Json)
  | obj (kvs : List (String × Json))

/-- An object, its keys sorted. -/
def object (kvs : List (String × Json)) : Json := .obj (sortedBy Prod.fst kvs)

/-- How a model is dumped. -/
class Dump (α : Type*) where
  dump : α → Json

export Dump (dump)

instance : Dump String := ⟨.str⟩
instance : Dump ℤ := ⟨.int⟩
instance : Dump ℕ := ⟨fun n => .int n⟩
instance : Dump Bool := ⟨.bool⟩
instance : Dump Json := ⟨id⟩
instance {α : Type*} [Dump α] : Dump (Option α) := ⟨fun o => o.elim .null dump⟩
instance {α : Type*} [Dump α] : Dump (List α) := ⟨fun xs => .arr (xs.map dump)⟩

namespace Json

/-! ### Writing a value out -/

/-- The escape of a control character, a quote or a backslash, by its code point. -/
def escapeCode (n : ℕ) : List Char :=
  if n = 34 then ['\\', '"']
  else if n = 92 then ['\\', '\\']
  else if n = 8 then ['\\', 'b']
  else if n = 9 then ['\\', 't']
  else if n = 10 then ['\\', 'n']
  else if n = 12 then ['\\', 'f']
  else if n = 13 then ['\\', 'r']
  else ['\\', 'u', '0', '0', Nat.digitChar (n / 16), Nat.digitChar (n % 16)]

/-- The code points that are written with a backslash. -/
def escapedCodes : List ℕ := 34 :: 92 :: List.range 32

/-- One character inside a text. -/
def escape (c : Char) : List Char :=
  if c.toNat ∈ escapedCodes then escapeCode c.toNat else [c]

/-- The characters of a text followed by its closing quote. -/
def renderChars : List Char → List Char
  | [] => ['"']
  | c :: cs => escape c ++ renderChars cs

/-- A quoted text. -/
def renderStr (s : String) : List Char := '"' :: renderChars s.toList

/-- A decimal integer. -/
def renderInt : ℤ → List Char
  | .ofNat n => Nat.toDigits 10 n
  | .negSucc n => '-' :: Nat.toDigits 10 (n + 1)

mutual

/-- The canonical text of a value. -/
def render : Json → List Char
  | .null => ['n', 'u', 'l', 'l']
  | .bool true => ['t', 'r', 'u', 'e']
  | .bool false => ['f', 'a', 'l', 's', 'e']
  | .int n => renderInt n
  | .str s => renderStr s
  | .arr [] => ['[', ']']
  | .arr (x :: xs) => '[' :: (render x ++ renderItems xs)
  | .obj [] => ['\x7b', '\x7d']
  | .obj ((k, v) :: kvs) => '\x7b' :: (renderStr k ++ ':' :: (render v ++ renderFields kvs))

/-- The elements after the first one, and the closing bracket. -/
def renderItems : List Json → List Char
  | [] => [']']
  | x :: xs => ',' :: (render x ++ renderItems xs)

/-- The fields after the first one, and the closing brace. -/
def renderFields : List (String × Json) → List Char
  | [] => ['\x7d']
  | (k, v) :: kvs => ',' :: (renderStr k ++ ':' :: (render v ++ renderFields kvs))

end

theorem isDigit_toDigits {n : ℕ} : ∀ c ∈ Nat.toDigits 10 n, c.isDigit = true :=
  fun _ hc => Nat.isDigit_of_mem_toDigits (by decide) (by decide) hc

/-! ### Equality -/

mutual

/-- The two values are the same. -/
def same : Json → Json → Bool
  | .null, .null => true
  | .bool a, .bool b => a = b
  | .int m, .int n => m = n
  | .str a, .str b => a = b
  | .arr xs, .arr ys => sameItems xs ys
  | .obj kvs, .obj kws => sameFields kvs kws
  | _, _ => false

def sameItems : List Json → List Json → Bool
  | [], [] => true
  | x :: xs, y :: ys => same x y && sameItems xs ys
  | _, _ => false

def sameFields : List (String × Json) → List (String × Json) → Bool
  | [], [] => true
  | (k, v) :: kvs, (k', v') :: kws => k = k' && same v v' && sameFields kvs kws
  | _, _ => false

end

mutual

theorem same_iff : ∀ v w : Json, same v w = true ↔ v = w
  | .null, w | .bool _, w | .int _, w | .str _, w => by cases w <;> simp [same]
  | .arr xs, w => by cases w <;> simp [same, sameItems_iff xs]
  | .obj kvs, w => by cases w <;> simp [same, sameFields_iff kvs]

theorem sameItems_iff : ∀ xs ys : List Json, sameItems xs ys = true ↔ xs = ys
  | [], ys => by cases ys <;> simp [sameItems]
  | x :: xs, ys => by cases ys <;> simp [sameItems, same_iff x, sameItems_iff xs]

theorem sameFields_iff : ∀ kvs kws : List (String × Json), sameFields kvs kws = true ↔ kvs = kws
  | [], kws => by cases kws <;> simp [sameFields]
  | (k, v) :: kvs, [] => by simp [sameFields]
  | (k, v) :: kvs, (k', v') :: kws => by
    simp [sameFields, same_iff v, sameFields_iff kvs, and_assoc]

end

instance : DecidableEq Json := fun v w => decidable_of_iff _ (same_iff v w)

end Json

/-- The canonical text of a value. -/
def canonicalJson (v : Json) : String := String.ofList v.render

end RateReplay
