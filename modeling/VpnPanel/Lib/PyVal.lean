import Mathlib.Algebra.Group.Nat.Defs
import Mathlib.Data.List.Basic

/-!
# VpnPanel.Lib.PyVal

Dynamic values as Python code handles JSON and YAML documents: `None`,
booleans, integers, floats, strings, lists and string-keyed dictionaries,
with the operations documents are read by.  An operation that raises in
Python returns `Except.error` with the exception's class and text.

* `PyErr` — exceptions, by class;
* `PyStr` — the string methods `strip`, `rsplit`, `startswith`, `find`;
* `PyVal` — values, truth, `str()`, `dict.get`, indexing and iteration.
-/

/-- The exception classes the modelled code raises or tells apart. -/
inductive ErrKind where
  | keyError
  | indexError
  | typeError
  | attributeError
  | valueError
  | overflowError
  | osError
  | permissionError
  | calledProcessError
  | timeoutExpired
  | runtimeError
  | databaseError
  /-- A class of the program's own, by name. -/
  | other (name : String)
  deriving DecidableEq, Repr

/-- A raised exception: its class and `str(exc)`. -/
structure PyErr where
  kind : ErrKind
  msg : String
  deriving DecidableEq, Repr

namespace Except

variable {ε α β : Type}

@[simp] theorem ok_bind_eq (a : α) (f : α → Except ε β) : (Except.ok a >>= f) = f a := rfl

@[simp] theorem error_bind_eq (e : ε) (f : α → Except ε β) :
    (Except.error e >>= f) = Except.error e := rfl

/-- A computation of two parts returned: so did both parts. -/
theorem bind_eq_ok_iff {x : Except ε α} {f : α → Except ε β} {b : β} :
    (x >>= f) = .ok b ↔ ∃ a, x = .ok a ∧ f a = .ok b := by
  cases x <;> simp

variable {α' β' : Type}

/-- Two computations return together when their first parts do and, of what
these return, their rests do. -/
theorem isOk_bind_congr {x : Except ε α} {y : Except ε α'} {f : α → Except ε β}
    {g : α' → Except ε β'} (hx : x.isOk = y.isOk)
    (hf : ∀ a b, x = .ok a → y = .ok b → (f a).isOk = (g b).isOk) :
    (x >>= f).isOk = (y >>= g).isOk := by
  cases x with
  | error e =>
      cases y with
      | error e' => rfl
      | ok b => simp [Except.isOk, Except.toBool] at hx
  | ok a =>
      cases y with
      | error e' => simp [Except.isOk, Except.toBool] at hx
      | ok b => exact hf a b rfl rfl

/-- The same for a common first part. -/
theorem isOk_bind_same {x : Except ε α} {f : α → Except ε β} {g : α → Except ε β'}
    (hf : ∀ a, x = .ok a → (f a).isOk = (g a).isOk) : (x >>= f).isOk = (x >>= g).isOk := by
  refine isOk_bind_congr rfl fun a b ha hb => ?_
  obtain rfl : a = b := Except.ok.inj (ha.symm.trans hb)
  exact hf a ha

theorem isOk_iff {x : Except ε α} : x.isOk = true ↔ ∃ a, x = .ok a := by
  cases x <;> simp [Except.isOk, Except.toBool]

/-- What a computation raises satisfies `P`. -/
def Raises (P : ε → Prop) (x : Except ε α) : Prop := ∀ e, x = .error e → P e

variable {P : ε → Prop}

theorem Raises.ok (a : α) : Raises P (.ok a : Except ε α) := by
  intro e h
  cases h

theorem Raises.error {e : ε} (h : P e) : Raises P (.error e : Except ε α) := by
  intro e' he
  cases he
  exact h

theorem Raises.bind {x : Except ε α} {f : α → Except ε β} (hx : Raises P x)
    (hf : ∀ a, Raises P (f a)) : Raises P (x >>= f) := by
  intro e h
  cases x with
  | error e' => exact hx e (by simpa using h)
  | ok a => exact hf a e h

end Except

namespace PyErr

/-- `isinstance(exc, OSError)`: `PermissionError` is a subclass. -/
def isOSError (e : PyErr) : Bool := e.kind = .osError || e.kind = .permissionError

def isPermissionError (e : PyErr) : Bool := e.kind = .permissionError

def isCalledProcessError (e : PyErr) : Bool := e.kind = .calledProcessError

def isKeyError (e : PyErr) : Bool := e.kind = .keyError

/-- An exception of no class of the program's own. -/
def IsBuiltin (e : PyErr) : Prop := ∀ name, e.kind ≠ .other name

end PyErr

/-! ## strings -/

namespace PyStr

/-- `str.isspace` for one character. -/
def isSpace (c : Char) : Bool :=
  let n := c.toNat
  (9 ≤ n && n ≤ 13) || (28 ≤ n && n ≤ 32) || n = 0x85 || n = 0xa0 || n = 0x1680 ||
    (0x2000 ≤ n && n ≤ 0x200a) || n = 0x2028 || n = 0x2029 || n = 0x202f || n = 0x205f ||
    n = 0x3000

/-- Drop the longest suffix whose characters satisfy `p`. -/
def dropRight (p : Char → Bool) (cs : List Char) : List Char := (cs.reverse.dropWhile p).reverse

/-- Drop the characters that satisfy `p` from both ends. -/
def trim (p : Char → Bool) (cs : List Char) : List Char := dropRight p (cs.dropWhile p)

/-- `str.strip()` on the characters. -/
def stripChars (cs : List Char) : List Char := trim isSpace cs

/-- `str.strip()`. -/
def strip (s : String) : String := String.ofList (stripChars s.toList)

/-- `s.rsplit(c, 1)[0]` on the characters: what stands before the last `c`,
all of it when there is none. -/
def beforeLast (c : Char) (cs : List Char) : List Char :=
  match cs.reverse.dropWhile (· ≠ c) with
  | [] => cs
  | _ :: rest => rest.reverse

/-- `str.lstrip(c)` for a single character. -/
def lstripChar (c : Char) (s : String) : String := String.ofList (s.toList.dropWhile (· = c))

/-- `s.lower()` restricted to ASCII letters. -/
def asciiLower (s : String) : String := String.ofList (s.toList.map Char.toLower)

theorem dropWhile_eq_self_of_head {p : Char → Bool} {cs : List Char}
    (h : ∀ c, cs.head? = some c → p c = false) : cs.dropWhile p = cs := by
  cases cs with
  | nil => rfl
  | cons c cs => simp [h c rfl]

/-- Nothing is dropped where neither end satisfies `p`. -/
theorem trim_eq_self {p : Char → Bool} {cs : List Char}
    (hfst : ∀ c, cs.head? = some c → p c = false)
    (hlst : ∀ c, cs.getLast? = some c → p c = false) : trim p cs = cs := by
  have hrev : cs.reverse.dropWhile p = cs.reverse :=
    dropWhile_eq_self_of_head (fun c hc => hlst c (by simpa using hc))
  rw [trim, dropWhile_eq_self_of_head hfst, dropRight, hrev, List.reverse_reverse]

/-- Characters with no blank at either end are their own `strip`. -/
theorem stripChars_eq_self {cs : List Char} (hfst : ∀ c, cs.head? = some c → isSpace c = false)
    (hlst : ∀ c, cs.getLast? = some c → isSpace c = false) : stripChars cs = cs :=
  trim_eq_self hfst hlst

theorem head?_dropWhile_not {p : Char → Bool} {cs : List Char} {c : Char}
    (h : (cs.dropWhile p).head? = some c) : p c = false := by
  have hne : cs.dropWhile p ≠ [] := by
    intro hnil
    simp [hnil] at h
  have hhead := List.head_dropWhile_not p hne
  rw [List.head?_eq_some_head hne, Option.some.injEq] at h
  simpa [h] using hhead

/-- The last character of a stripped string is not blank. -/
theorem getLast?_stripChars {cs : List Char} {c : Char}
    (h : (stripChars cs).getLast? = some c) : isSpace c = false := by
  rw [stripChars, trim, dropRight, List.getLast?_reverse] at h
  exact head?_dropWhile_not h

/-- The first character of a stripped string is not blank. -/
theorem head?_stripChars {cs : List Char} {c : Char}
    (h : (stripChars cs).head? = some c) : isSpace c = false := by
  have hpre : stripChars cs <+: cs.dropWhile isSpace := by
    rw [stripChars, trim, dropRight, ← List.reverse_suffix, List.reverse_reverse]
    exact List.dropWhile_suffix _
  obtain ⟨t, ht⟩ := hpre
  cases hs : stripChars cs with
  | nil => simp [hs] at h
  | cons d ds =>
      rw [hs] at h ht
      have hd : d = c := by simpa using h
      subst hd
      exact head?_dropWhile_not (show (cs.dropWhile isSpace).head? = some d by rw [← ht]; rfl)

/-- `strip` is idempotent. -/
@[simp] theorem strip_strip (s : String) : strip (strip s) = strip s := by
  have h : stripChars (stripChars s.toList) = stripChars s.toList :=
    stripChars_eq_self (fun _ => head?_stripChars) (fun _ => getLast?_stripChars)
  simp [strip, h]

end PyStr

/-! ## values -/

/-- A document value. -/
inductive PyVal where
  | none
  | bool (b : Bool)
  | int (i : Int)
  /-- A float, kept as its `repr`. -/
  | float (repr : String)
  | str (s : String)
  | list (xs : List PyVal)
  | dict (kvs : List (String × PyVal))
  deriving Repr, Inhabited

namespace PyVal

mutual
/-- Equality of values is decidable. -/
def decEq : (v w : PyVal) → Decidable (v = w)
  | none, none => isTrue rfl
  | bool b, bool c => decidable_of_iff (b = c) (by simp)
  | int i, int j => decidable_of_iff (i = j) (by simp)
  | float r, float r' => decidable_of_iff (r = r') (by simp)
  | str s, str t => decidable_of_iff (s = t) (by simp)
  | list xs, list ys =>
      match decEqList xs ys with
      | isTrue h => isTrue (by rw [h])
      | isFalse h => isFalse (by simpa using h)
  | dict kvs, dict lws =>
      match decEqDict kvs lws with
      | isTrue h => isTrue (by rw [h])
      | isFalse h => isFalse (by simpa using h)
  | none, bool _ | none, int _ | none, float _ | none, str _ | none, list _ | none, dict _
  | bool _, none | bool _, int _ | bool _, float _ | bool _, str _ | bool _, list _
  | bool _, dict _
  | int _, none | int _, bool _ | int _, float _ | int _, str _ | int _, list _ | int _, dict _
  | float _, none | float _, bool _ | float _, int _ | float _, str _ | float _, list _
  | float _, dict _
  | str _, none | str _, bool _ | str _, int _ | str _, float _ | str _, list _ | str _, dict _
  | list _, none | list _, bool _ | list _, int _ | list _, float _ | list _, str _
  | list _, dict _
  | dict _, none | dict _, bool _ | dict _, int _ | dict _, float _ | dict _, str _
  | dict _, list _ => isFalse (by simp)

/-- Equality of lists of values. -/
def decEqList : (xs ys : List PyVal) → Decidable (xs = ys)
  | [], [] => isTrue rfl
  | [], _ :: _ => isFalse (by simp)
  | _ :: _, [] => isFalse (by simp)
  | x :: xs, y :: ys =>
      match decEq x y, decEqList xs ys with
      | isTrue h, isTrue h' => isTrue (by rw [h, h'])
      | isFalse h, _ => isFalse (by simp [h])
      | _, isFalse h => isFalse (by simp [h])

/-- Equality of entries of dictionaries. -/
def decEqDict : (kvs lws : List (String × PyVal)) → Decidable (kvs = lws)
  | [], [] => isTrue rfl
  | [], _ :: _ => isFalse (by simp)
  | _ :: _, [] => isFalse (by simp)
  | (k, v) :: kvs, (l, w) :: lws =>
      match decEq v w, decEqDict kvs lws with
      | isTrue h, isTrue h' => decidable_of_iff (k = l) (by simp [h, h'])
      | isFalse h, _ => isFalse (by simp [h])
      | _, isFalse h => isFalse (by simp [h])
end

instance : DecidableEq PyVal := decEq

/-- `bool(v)`. -/
def truthy : PyVal → Bool
  | none => false
  | bool b => b
  | int i => i ≠ 0
  | float r => r ≠ "0.0" && r ≠ "-0.0"
  | str s => s ≠ ""
  | list xs => !xs.isEmpty
  | dict kvs => !kvs.isEmpty

/-- `v or w`. -/
def orElse (v w : PyVal) : PyVal := if v.truthy then v else w

/-- `v == s` for a string `s`. -/
def isStr (v : PyVal) (s : String) : Bool :=
  match v with
  | str t => t = s
  | _ => false

/-- `isinstance(v, dict)`. -/
def isDict : PyVal → Bool
  | dict _ => true
  | _ => false

/-- The name of the value's Python type, as error texts give it. -/
def typeName : PyVal → String
  | none => "NoneType"
  | bool _ => "bool"
  | int _ => "int"
  | float _ => "float"
  | str _ => "str"
  | list _ => "list"
  | dict _ => "dict"

/-- The first entry under a key. -/
def lookupKey (k : String) : List (String × PyVal) → Option PyVal
  | [] => Option.none
  | (k', v) :: kvs => if k' = k then some v else lookupKey k kvs

/-- Assign a key: in place where it is present, at the end otherwise. -/
def setKey (k : String) (v : PyVal) : List (String × PyVal) → List (String × PyVal)
  | [] => [(k, v)]
  | (k', w) :: kvs => if k' = k then (k', v) :: kvs else (k', w) :: setKey k v kvs

def attributeError (v : PyVal) (attr : String) : PyErr :=
  ⟨.attributeError, "'" ++ v.typeName ++ "' object has no attribute '" ++ attr ++ "'"⟩

/-- `v.get(k)`, and `v.get(k, d)`: only dictionaries have `get`. -/
def get (v : PyVal) (k : String) (d : PyVal := none) : Except PyErr PyVal :=
  match v with
  | dict kvs => .ok ((lookupKey k kvs).getD d)
  | _ => .error (v.attributeError "get")

/-- `v[k]` with a string key. -/
def item (v : PyVal) (k : String) : Except PyErr PyVal :=
  match v with
  | dict kvs =>
      match lookupKey k kvs with
      | some w => .ok w
      | Option.none => .error ⟨.keyError, "'" ++ k ++ "'"⟩
  | list _ => .error ⟨.typeError, "list indices must be integers or slices, not str"⟩
  | str _ => .error ⟨.typeError, "string indices must be integers, not 'str'"⟩
  | _ => .error ⟨.typeError, "'" ++ v.typeName ++ "' object is not subscriptable"⟩

/-- `v[k₁][k₂]…`. -/
def itemAt : List String → PyVal → Except PyErr PyVal
  | [], v => .ok v
  | k :: ks, v => do
      let w ← v.item k
      itemAt ks w

/-- `v[k] = w` with a string key, as the changed container. -/
def setItem (v : PyVal) (k : String) (w : PyVal) : Except PyErr PyVal :=
  match v with
  | dict kvs => .ok (dict (setKey k w kvs))
  | list _ => .error ⟨.typeError, "list indices must be integers or slices, not str"⟩
  | _ => .error ⟨.typeError, "'" ++ v.typeName ++ "' object does not support item assignment"⟩

/-- `v[k]` changed in place. -/
def modifyItem (v : PyVal) (k : String) (f : PyVal → Except PyErr PyVal) :
    Except PyErr PyVal := do
  let w ← v.item k
  let w ← f w
  v.setItem k w

/-- `v.pop(k, None)`. -/
def popItem (v : PyVal) (k : String) : Except PyErr PyVal :=
  match v with
  | .dict kvs => .ok (.dict (kvs.filter fun kv => kv.1 ≠ k))
  | v => .error (v.attributeError "pop")

/-- `for x in v`. -/
def iter (v : PyVal) : Except PyErr (List PyVal) :=
  match v with
  | list xs => .ok xs
  | dict kvs => .ok (kvs.map fun kv => str kv.1)
  | str s => .ok (s.toList.map fun c => str (String.singleton c))
  | _ => .error ⟨.typeError, "'" ++ v.typeName ++ "' object is not iterable"⟩

/-- `v[0]`. -/
def first (v : PyVal) : Except PyErr PyVal :=
  match v with
  | list (x :: _) => .ok x
  | list [] => .error ⟨.indexError, "list index out of range"⟩
  | str s =>
      match s.toList with
      | c :: _ => .ok (str (String.singleton c))
      | [] => .error ⟨.indexError, "string index out of range"⟩
  | dict _ => .error ⟨.keyError, "0"⟩
  | _ => .error ⟨.typeError, "'" ++ v.typeName ++ "' object is not subscriptable"⟩

/-- `v.strip()`: only strings have it. -/
def strip (v : PyVal) : Except PyErr String :=
  match v with
  | str s => .ok (PyStr.strip s)
  | _ => .error (v.attributeError "strip")

/-- `repr` of a string: in single quotes unless it holds one and no double
quote. -/
def reprStr (s : String) : String :=
  let quote := if s.toList.contains '\'' && !s.toList.contains '"' then '"' else '\''
  let esc (c : Char) : List Char :=
    if c = '\\' then ['\\', '\\']
    else if c = quote then ['\\', quote]
    else if c = '\n' then ['\\', 'n']
    else if c = '\r' then ['\\', 'r']
    else if c = '\t' then ['\\', 't']
    else [c]
  String.ofList ([quote] ++ s.toList.flatMap esc ++ [quote])

mutual
/-- `repr(v)`, on printable text. -/
def repr : PyVal → String
  | none => "None"
  | bool b => if b then "True" else "False"
  | int i => toString i
  | float r => r
  | str s => reprStr s
  | list xs => "[" ++ reprList xs ++ "]"
  | dict kvs => "\x7b" ++ reprDict kvs ++ "\x7d"

/-- The items of a list's `repr`. -/
def reprList : List PyVal → String
  | [] => ""
  | [x] => repr x
  | x :: xs => repr x ++ ", " ++ reprList xs

/-- The entries of a dictionary's `repr`. -/
def reprDict : List (String × PyVal) → String
  | [] => ""
  | [(k, v)] => reprStr k ++ ": " ++ repr v
  | (k, v) :: kvs => reprStr k ++ ": " ++ repr v ++ ", " ++ reprDict kvs
end

/-- `str(v)`. -/
def toStr : PyVal → String
  | str s => s
  | v => repr v

/-! ## numbers -/

/-- The value of a digit. -/
def digitVal (c : Char) : Nat := c.toNat - '0'.toNat

/-- The digits after the first; a single underscore may stand between two. -/
def digitsVal (acc : Nat) : List Char → Option Nat
  | [] => some acc
  | '_' :: c :: cs => if c.isDigit then digitsVal (acc * 10 + digitVal c) cs else Option.none
  | c :: cs => if c.isDigit then digitsVal (acc * 10 + digitVal c) cs else Option.none

/-- A non-empty run of digits. -/
def natVal : List Char → Option Nat
  | [] => Option.none
  | c :: cs => if c.isDigit then digitsVal (digitVal c) cs else Option.none

/-- An optional sign and digits. -/
def intVal : List Char → Option Int
  | '-' :: cs => (natVal cs).map fun n => -(n : Int)
  | '+' :: cs => (natVal cs).map fun n => (n : Int)
  | cs => (natVal cs).map fun n => (n : Int)

/-- The zeros of Unicode's decimal digits (category `Nd`); the other nine
digits follow each of them. -/
def decimalZeros : List Nat :=
  [0x660, 0x6f0, 0x7c0, 0x966, 0x9e6, 0xa66, 0xae6, 0xb66, 0xbe6, 0xc66, 0xce6, 0xd66, 0xde6,
    0xe50, 0xed0, 0xf20, 0x1040, 0x1090, 0x17e0, 0x1810, 0x1946, 0x19d0, 0x1a80, 0x1a90, 0x1b50,
    0x1bb0, 0x1c40, 0x1c50, 0xa620, 0xa8d0, 0xa900, 0xa9d0, 0xa9f0, 0xaa50, 0xabf0, 0xff10,
    0x104a0, 0x10d30, 0x11066, 0x110f0, 0x11136, 0x111d0, 0x112f0, 0x11450, 0x114d0, 0x11650,
    0x116c0, 0x11730, 0x118e0, 0x11950, 0x11c50, 0x11d50, 0x11da0, 0x16a60, 0x16ac0, 0x16b50,
    0x1d7ce, 0x1d7d8, 0x1d7e2, 0x1d7ec, 0x1d7f6, 0x1e140, 0x1e2f0, 0x1e950, 0x1fbf0]

/-- A character as `int` reads it: outside ASCII a blank is a space and a
decimal digit its ASCII digit. -/
def intChar (c : Char) : Char :=
  if c.toNat < 127 then c
  else if PyStr.isSpace c then ' '
  else match decimalZeros.find? fun z => z ≤ c.toNat && c.toNat < z + 10 with
    | some z => Char.ofNat ('0'.toNat + (c.toNat - z))
    | Option.none => '?'

/-- The blanks `int` skips at the ends of what it reads: the separators U+001C
to U+001F, which `strip` takes off, are none. -/
def isIntBlank (c : Char) : Bool := (9 ≤ c.toNat && c.toNat ≤ 13) || c.toNat = 32

/-- `int(s)` in base 10, blanks around the number allowed.  The interpreter's
limit on the number of digits, which can be set, is left out. -/
def parseInt (s : String) : Except PyErr Int :=
  match intVal (PyStr.trim isIntBlank (s.toList.map intChar)) with
  | some i => .ok i
  | Option.none => .error ⟨.valueError, "invalid literal for int() with base 10: " ++
      String.ofList ((reprStr s).toList.take 200)⟩

/-- The number a float's `repr` writes, `±n / d`; none for `nan` and the
infinities. -/
def readFloat (repr : String) : Option (Bool × Nat × Nat) :=
  let (negative, cs) := match repr.toList with
    | '-' :: cs => (true, cs)
    | cs => (false, cs)
  let whole := cs.takeWhile Char.isDigit
  let rest := cs.dropWhile Char.isDigit
  let (fraction, rest) := match rest with
    | '.' :: rest => (rest.takeWhile Char.isDigit, rest.dropWhile Char.isDigit)
    | rest => ([], rest)
  let exponent := match rest with
    | [] => some 0
    | 'e' :: rest => intVal rest
    | _ => Option.none
  match natVal (whole ++ fraction), exponent with
  | some n, some e =>
      let e := e - fraction.length
      some (negative, n * 10 ^ e.toNat, 10 ^ (-e).toNat)
  | _, _ => Option.none

/-- The float next to `n / d`, from 2^53 on: 53 bits, ties to even. -/
def roundFloat (n d : Nat) : Nat :=
  let unit := 2 ^ ((n / d).log2 - 52)
  let bits := n / (d * unit)
  let rest := n % (d * unit)
  if d * unit < 2 * rest || (2 * rest = d * unit && bits % 2 = 1) then (bits + 1) * unit
  else bits * unit

/-- A float without its fraction.  `repr` writes the shortest number next to the
float: below 2^53 it has the same whole part, and from there on a float has no
fraction. -/
def truncFloat (repr : String) : Option Int :=
  (readFloat repr).map fun (negative, n, d) =>
    let size : Nat := if n < 2 ^ 53 * d then n / d else roundFloat n d
    if negative then -(size : Int) else size

/-- The integer a float is equal to. -/
def floatInt? (repr : String) : Option Int :=
  match readFloat repr with
  | some (_, n, d) => if n < 2 ^ 53 * d && n % d ≠ 0 then Option.none else truncFloat repr
  | Option.none => Option.none

/-- `int(v)`; a float is truncated. -/
def toInt (v : PyVal) : Except PyErr Int :=
  match v with
  | int i => .ok i
  | bool b => .ok (if b then 1 else 0)
  | str s => parseInt s
  | float r =>
      match truncFloat r with
      | some i => .ok i
      | Option.none =>
          if r = "nan" then .error ⟨.valueError, "cannot convert float NaN to integer"⟩
          else .error ⟨.overflowError, "cannot convert float infinity to integer"⟩
  | _ => .error ⟨.typeError, "int() argument must be a string, a bytes-like object " ++
      "or a real number, not '" ++ v.typeName ++ "'"⟩

example : ["1.5e+16", "1e-05", "-2.75", "1e+23"].map (fun r => (float r).toInt) =
    [.ok 15000000000000000, .ok 0, .ok (-2), .ok 99999999999999991611392] := by
  decide +kernel

/-! ## equality -/

/-- What a number is compared by: the integer it is equal to, or its `repr`. -/
def numKey : PyVal → Option (Int ⊕ String)
  | bool b => some (.inl (if b then 1 else 0))
  | int i => some (.inl i)
  | float r => some ((floatInt? r).elim (.inr r) .inl)
  | _ => Option.none

/-- `v == w` of values that are no containers: numbers are compared across
their types, and `nan` is equal to nothing. -/
def scalarEq (v w : PyVal) : Bool :=
  match numKey v, numKey w with
  | some a, some b => a = b && a ≠ .inr "nan"
  | Option.none, Option.none => v = w
  | _, _ => false

mutual
/-- `v == w`. -/
def pyEq : PyVal → PyVal → Bool
  | list xs, w => match w with
    | list ys => pyEqList xs ys
    | _ => false
  | dict kvs, w => match w with
    | dict lws => kvs.length = lws.length && pyEqDict kvs lws
    | _ => false
  | v, w => scalarEq v w

/-- `==` of lists, item by item. -/
def pyEqList : List PyVal → List PyVal → Bool
  | [], [] => true
  | x :: xs, y :: ys => pyEq x y && pyEqList xs ys
  | _, _ => false

/-- The entries of a dictionary are equal to those of the other, in any
order. -/
def pyEqDict : List (String × PyVal) → List (String × PyVal) → Bool
  | [], _ => true
  | (k, v) :: kvs, lws =>
      (match lookupKey k lws with
        | some w => pyEq v w
        | Option.none => false) && pyEqDict kvs lws
end

example : (dict [("a", int 1), ("b", float "2.0")]).pyEq (dict [("b", int 2), ("a", bool true)]) =
    true := by decide

/-- The operations on values raise no exceptions of the program's own. -/
theorem raises_get (v d : PyVal) (k : String) : Except.Raises PyErr.IsBuiltin (v.get k d) := by
  unfold get
  split
  · exact Except.Raises.ok _
  · exact Except.Raises.error (by simp [PyErr.IsBuiltin, attributeError])

theorem raises_item (v : PyVal) (k : String) : Except.Raises PyErr.IsBuiltin (v.item k) := by
  unfold item
  repeat' split
  all_goals first
    | exact Except.Raises.ok _
    | exact Except.Raises.error (by simp [PyErr.IsBuiltin])

theorem raises_iter (v : PyVal) : Except.Raises PyErr.IsBuiltin v.iter := by
  unfold iter
  split
  all_goals first
    | exact Except.Raises.ok _
    | exact Except.Raises.error (by simp [PyErr.IsBuiltin])

theorem raises_first (v : PyVal) : Except.Raises PyErr.IsBuiltin v.first := by
  unfold first
  repeat' split
  all_goals first
    | exact Except.Raises.ok _
    | exact Except.Raises.error (by simp [PyErr.IsBuiltin])

theorem raises_parseInt (s : String) : Except.Raises PyErr.IsBuiltin (parseInt s) := by
  unfold parseInt
  split
  · exact Except.Raises.ok _
  · exact Except.Raises.error (by simp [PyErr.IsBuiltin])

theorem raises_toInt (v : PyVal) : Except.Raises PyErr.IsBuiltin v.toInt := by
  unfold toInt
  split
  · exact Except.Raises.ok _
  · exact Except.Raises.ok _
  · exact raises_parseInt _
  · split
    · exact Except.Raises.ok _
    · split <;> exact Except.Raises.error (by simp [PyErr.IsBuiltin])
  · exact Except.Raises.error (by simp [PyErr.IsBuiltin])

/-- Digits are read as the number they write. -/
theorem digitsVal_of_digits {cs : List Char} (h : ∀ c ∈ cs, c.isDigit = true) (acc : Nat) :
    digitsVal acc cs = some (Nat.ofDigitChars 10 cs acc) := by
  induction cs generalizing acc with
  | nil => rfl
  | cons c cs ih =>
      obtain ⟨hc, hcs⟩ := List.forall_mem_cons.mp h
      have hne : c ≠ '_' := by
        rintro rfl
        contradiction
      have hvalue : acc * 10 + digitVal c = 10 * acc + (c.toNat - '0'.toNat) := by
        rw [digitVal, Nat.mul_comm]
      rw [digitsVal.eq_3 acc c cs (fun _ _ heq _ => hne heq), if_pos hc, ih hcs, hvalue,
        Nat.ofDigitChars_cons]

/-- A digit is no blank. -/
theorem not_isSpace_of_isDigit {c : Char} (h : c.isDigit = true) : PyStr.isSpace c = false := by
  have hrange : 48 ≤ c.toNat ∧ c.toNat ≤ 57 := by
    simpa [Char.isDigit, UInt32.le_iff_toNat_le] using h
  simp only [PyStr.isSpace, Bool.or_eq_false_iff, Bool.and_eq_false_iff, decide_eq_false_iff_not]
  omega

/-- `int` reads a digit as itself, and skips none. -/
theorem intChar_of_isDigit {c : Char} (h : c.isDigit = true) :
    intChar c = c ∧ isIntBlank c = false := by
  have hrange : 48 ≤ c.toNat ∧ c.toNat ≤ 57 := by
    simpa [Char.isDigit, UInt32.le_iff_toNat_le] using h
  refine ⟨if_pos (by omega), ?_⟩
  simp only [isIntBlank, Bool.or_eq_false_iff, Bool.and_eq_false_iff, decide_eq_false_iff_not]
  omega

/-- `int(str(n))`. -/
theorem parseInt_toString (n : Nat) : parseInt (toString n) = .ok (n : Int) := by
  have hdigits : ∀ c ∈ Nat.toDigits 10 n, c.isDigit = true := fun c hc =>
    Nat.isDigit_of_mem_toDigits (by decide) (by decide) hc
  have hchars : (toString n).toList = Nat.toDigits 10 n := by
    rw [Nat.toString_eq_repr, Nat.toList_repr]
  have hread : (Nat.toDigits 10 n).map intChar = Nat.toDigits 10 n :=
    (List.map_congr_left fun c hc => (intChar_of_isDigit (hdigits c hc)).1).trans
      (List.map_id' _)
  have htrim : PyStr.trim isIntBlank (Nat.toDigits 10 n) = Nat.toDigits 10 n := by
    refine PyStr.trim_eq_self (fun c hc => ?_) fun c hc => ?_
    · exact (intChar_of_isDigit (hdigits c (List.mem_of_head? hc))).2
    · exact (intChar_of_isDigit (hdigits c (List.mem_of_getLast? hc))).2
  have hval : intVal (Nat.toDigits 10 n) = some (n : Int) := by
    have hround := Nat.ofDigitChars_ten_toDigits (n := n)
    cases hcs : Nat.toDigits 10 n with
    | nil => exact absurd hcs Nat.toDigits_ne_nil
    | cons c cs =>
        rw [hcs] at hdigits hround
        obtain ⟨hc, hrest⟩ := List.forall_mem_cons.mp hdigits
        have hminus : c ≠ '-' := by
          rintro rfl
          contradiction
        have hplus : c ≠ '+' := by
          rintro rfl
          contradiction
        have hnat : natVal (c :: cs) = some n := by
          rw [natVal, if_pos hc, digitsVal_of_digits hrest]
          rw [Nat.ofDigitChars_cons] at hround
          simpa [digitVal] using hround
        rw [intVal.eq_3 _ (fun _ heq => hminus (List.cons.inj heq).1)
          (fun _ heq => hplus (List.cons.inj heq).1), hnat]
        rfl
  unfold parseInt
  rw [hchars, hread, htrim, hval]

@[simp] theorem get_dict (kvs : List (String × PyVal)) (k : String) (d : PyVal) :
    (dict kvs).get k d = .ok ((lookupKey k kvs).getD d) := rfl

@[simp] theorem iter_list (xs : List PyVal) : (list xs).iter = .ok xs := rfl

theorem isStr_iff {v : PyVal} {s : String} : v.isStr s = true ↔ v = str s := by
  cases v <;> simp [isStr]

/-- A key that can be read: the value is a dictionary with an entry under it. -/
theorem item_eq_ok_iff {v w : PyVal} {k : String} :
    v.item k = .ok w ↔ ∃ kvs, v = dict kvs ∧ lookupKey k kvs = some w := by
  cases v with
  | dict kvs => cases hk : lookupKey k kvs <;> simp [item, hk]
  | none | bool _ | int _ | float _ | str _ | list _ => simp [item]

/-- What is there does not need a default. -/
theorem get_of_item {v w : PyVal} {k : String} (h : v.item k = .ok w) (d : PyVal) :
    v.get k d = .ok w := by
  obtain ⟨kvs, rfl, hk⟩ := item_eq_ok_iff.mp h
  simp [get, hk]

/-! ## reading after writing -/

/-- The entry under a key. -/
theorem lookupKey_of_mem {k : String} {v : PyVal} {kvs : List (String × PyVal)}
    (hnodup : (kvs.map Prod.fst).Nodup) (hmem : (k, v) ∈ kvs) : lookupKey k kvs = some v := by
  induction kvs with
  | nil => cases hmem
  | cons kv kvs ih =>
      obtain ⟨k', w⟩ := kv
      rw [List.map_cons, List.nodup_cons] at hnodup
      rw [lookupKey]
      obtain heq | hmem := List.mem_cons.mp hmem
      · obtain ⟨rfl, rfl⟩ := Prod.mk.inj heq
        rw [if_pos rfl]
      · have hne : k' ≠ k := by
          rintro rfl
          exact hnodup.1 (List.mem_map.mpr ⟨(k', v), hmem, rfl⟩)
        rw [if_neg hne, ih hnodup.2 hmem]

theorem lookupKey_setKey (k k' : String) (v : PyVal) (kvs : List (String × PyVal)) :
    lookupKey k' (setKey k v kvs) =
      if k = k' then some v else lookupKey k' kvs := by
  induction kvs with
  | nil => simp [setKey, lookupKey]
  | cons kv kvs ih =>
      obtain ⟨l, w⟩ := kv
      by_cases hl : l = k
      · subst hl
        by_cases hk : l = k' <;> simp [setKey, lookupKey, hk]
      · by_cases hk : l = k'
        · subst hk
          simp [setKey, lookupKey, hl, Ne.symm hl]
        · simp [setKey, lookupKey, hl, hk, ih]

theorem setKey_setKey (k : String) (v w : PyVal) (kvs : List (String × PyVal)) :
    setKey k v (setKey k w kvs) = setKey k v kvs := by
  induction kvs with
  | nil => simp [setKey]
  | cons kv kvs ih =>
      obtain ⟨l, u⟩ := kv
      by_cases hl : l = k <;> simp [setKey, hl, ih]

theorem setKey_of_lookupKey {k : String} {v : PyVal} {kvs : List (String × PyVal)}
    (h : lookupKey k kvs = some v) : setKey k v kvs = kvs := by
  induction kvs with
  | nil => simp [lookupKey] at h
  | cons kv kvs ih =>
      obtain ⟨l, u⟩ := kv
      by_cases hl : l = k
      · have hu : u = v := by simpa [lookupKey, hl] using h
        simp [setKey, hl, hu]
      · simp [setKey, hl, ih (by simpa [lookupKey, hl] using h)]

/-- Reading a dictionary after an assignment. -/
theorem item_of_setItem {v v' w : PyVal} {k : String} (h : v.setItem k w = .ok v') (k' : String) :
    v'.item k' = if k = k' then .ok w else v.item k' := by
  cases v with
  | dict kvs =>
      obtain rfl : dict (setKey k w kvs) = v' := Except.ok.inj h
      by_cases hk : k = k' <;> simp [item, lookupKey_setKey, hk]
  | none | bool _ | int _ | float _ | str _ | list _ => cases h

theorem get_of_setItem {v v' w : PyVal} {k : String} (h : v.setItem k w = .ok v') (k' : String)
    (d : PyVal) : v'.get k' d = if k = k' then .ok w else v.get k' d := by
  cases v with
  | dict kvs =>
      obtain rfl : dict (setKey k w kvs) = v' := Except.ok.inj h
      by_cases hk : k = k' <;> simp [get, lookupKey_setKey, hk]
  | none | bool _ | int _ | float _ | str _ | list _ => cases h

/-- The values read the same under the key. -/
structure SameAt (v v' : PyVal) (k : String) : Prop where
  item : v'.item k = v.item k
  get : ∀ d, v'.get k d = v.get k d

theorem SameAt.refl (v : PyVal) (k : String) : v.SameAt v k := ⟨rfl, fun _ => rfl⟩

theorem SameAt.trans {v v' v'' : PyVal} {k : String} (h : v.SameAt v' k) (h' : v'.SameAt v'' k) :
    v.SameAt v'' k where
  item := h'.item.trans h.item
  get d := (h'.get d).trans (h.get d)

/-- An assignment leaves the other keys alone. -/
theorem sameAt_of_setItem {v v' w : PyVal} {k k' : String} (h : v.setItem k w = .ok v')
    (hne : k ≠ k') : v.SameAt v' k' where
  item := by rw [item_of_setItem h, if_neg hne]
  get d := by rw [get_of_setItem h, if_neg hne]

theorem lookupKey_filter {k k' : String} (hne : k ≠ k') (kvs : List (String × PyVal)) :
    lookupKey k' (kvs.filter fun kv => kv.1 ≠ k) = lookupKey k' kvs := by
  induction kvs with
  | nil => rfl
  | cons kv kvs ih =>
      by_cases hk : kv.1 = k
      · have hk' : kv.1 ≠ k' := by rwa [hk]
        rw [List.filter_cons_of_neg (by simpa using hk), ih, lookupKey, if_neg hk']
      · rw [List.filter_cons_of_pos (by simpa using hk), lookupKey, lookupKey, ih]

/-- So does a removal. -/
theorem sameAt_of_popItem {v v' : PyVal} {k k' : String} (h : v.popItem k = .ok v')
    (hne : k ≠ k') : v.SameAt v' k' := by
  cases v with
  | dict kvs =>
      rw [← Except.ok.inj h]
      exact ⟨by simp only [item, lookupKey_filter hne], fun d => by
        simp only [get, lookupKey_filter hne]⟩
  | none | bool _ | int _ | float _ | str _ | list _ => cases h

/-- The values read the same everywhere but at the end of the path. -/
def SameBut : List String → PyVal → PyVal → Prop
  | [], _, _ => True
  | k :: ks, v, v' => (∀ k', k ≠ k' → v.SameAt v' k') ∧
      ∀ w', v'.item k = .ok w' → ∃ w, v.item k = .ok w ∧ SameBut ks w w'

theorem SameBut.refl (path : List String) (v : PyVal) : SameBut path v v := by
  induction path generalizing v with
  | nil => trivial
  | cons k ks ih => exact ⟨fun k' _ => SameAt.refl v k', fun w hw => ⟨w, hw, ih w⟩⟩

theorem item_self_of_setItem {v v' w : PyVal} {k : String} (h : v.setItem k w = .ok v') :
    v'.item k = .ok w := by
  rw [item_of_setItem h, if_pos rfl]

/-- A change in place: the value under the key is changed, the others are left
alone. -/
theorem modifyItem_spec {v v' : PyVal} {k : String} {f : PyVal → Except PyErr PyVal}
    (h : v.modifyItem k f = .ok v') :
    ∃ w w', v.item k = .ok w ∧ f w = .ok w' ∧ v'.item k = .ok w' ∧
      ∀ k', k ≠ k' → v.SameAt v' k' := by
  obtain ⟨w, hw, h⟩ := Except.bind_eq_ok_iff.mp h
  obtain ⟨w', hf, h⟩ := Except.bind_eq_ok_iff.mp h
  exact ⟨w, w', hw, hf, item_self_of_setItem h, fun k' => sameAt_of_setItem h⟩

theorem itemAt_cons {v w : PyVal} {k : String} (h : v.item k = .ok w) (ks : List String) :
    itemAt (k :: ks) v = itemAt ks w := by
  simp [itemAt, h]

end PyVal
