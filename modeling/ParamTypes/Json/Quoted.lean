/-!
String literals of JSON.

A literal is a sequence of characters and escaped code units. Two escaped
surrogates side by side make up one character.
-/

namespace ParamTypes.Json.Quoted

/-- A character of a literal, or a code unit escaped by its number. -/
inductive Element
  | char (character : Char)
  | unit (code : Nat)
deriving DecidableEq, Repr

/-! ## Escapes -/

def escape? : Char → Option Char
  | '\x22' => some '\x22'
  | '\\' => some '\\'
  | '/' => some '/'
  | 'b' => some '\x08'
  | 'f' => some '\x0c'
  | 'n' => some '\n'
  | 'r' => some '\r'
  | 't' => some '\t'
  | _ => none

def hexDigit? (character : Char) : Option Nat :=
  let code := character.toNat
  if '0'.toNat ≤ code && code ≤ '9'.toNat then some (code - '0'.toNat)
  else if 'a'.toNat ≤ code && code ≤ 'f'.toNat then some (code - 'a'.toNat + 10)
  else if 'A'.toNat ≤ code && code ≤ 'F'.toNat then some (code - 'A'.toNat + 10)
  else none

def codeUnit? (first second third fourth : Char) : Option Nat := do
  let first ← hexDigit? first
  let second ← hexDigit? second
  let third ← hexDigit? third
  let fourth ← hexDigit? fourth
  return ((first * 16 + second) * 16 + third) * 16 + fourth

/-! ## Literals -/

/-- The elements before the closing quote, and the text behind it. Control
characters must be escaped. -/
def elements? : (text : List Char) → Option (List Element × List Char)
  | [] => none
  | '\x22' :: rest => some ([], rest)
  | '\\' :: 'u' :: first :: second :: third :: fourth :: rest => do
      let code ← codeUnit? first second third fourth
      let (elements, behind) ← elements? rest
      return (.unit code :: elements, behind)
  | '\\' :: letter :: rest => do
      let character ← escape? letter
      let (elements, behind) ← elements? rest
      return (.char character :: elements, behind)
  | character :: rest =>
      if character.toNat < 0x20 || character == '\\' then
        none
      else do
        let (elements, behind) ← elements? rest
        return (.char character :: elements, behind)

theorem length_lt_of_elements? {text behind : List Char} {elements : List Element}
    (read : elements? text = some (elements, behind)) : behind.length < text.length := by
  fun_induction elements? text generalizing elements with
  | case1 => contradiction
  | case2 => simp_all
  | case3 first second third fourth rest induction
  | case4 letter rest _ induction =>
      simp only [Option.bind_eq_bind, Option.bind_eq_some_iff] at read
      obtain ⟨_, _, ⟨inner, after⟩, found, same⟩ := read
      obtain ⟨rfl, rfl⟩ : _ ∧ after = behind := by simpa using same
      have shorter := induction found
      simp only [List.length_cons]
      omega
  | case5 => contradiction
  | case6 character rest _ _ _ _ induction =>
      simp only [Option.bind_eq_bind, Option.bind_eq_some_iff] at read
      obtain ⟨⟨inner, after⟩, found, same⟩ := read
      obtain ⟨rfl, rfl⟩ : _ ∧ after = behind := by simpa using same
      have shorter := induction found
      simp only [List.length_cons]
      omega

/-! ## Texts -/

def isHighSurrogate (code : Nat) : Bool :=
  0xD800 ≤ code && code ≤ 0xDBFF

def isLowSurrogate (code : Nat) : Bool :=
  0xDC00 ≤ code && code ≤ 0xDFFF

def joinSurrogates (high low : Nat) : Char :=
  Char.ofNat (0x10000 + (high - 0xD800) * 0x400 + (low - 0xDC00))

/-- The text that elements make up, unless a surrogate lacks its partner. -/
def text? : List Element → Option (List Char)
  | [] => some []
  | .char character :: rest => (text? rest).map (character :: ·)
  | .unit high :: .unit low :: rest =>
      if isHighSurrogate high then
        if isLowSurrogate low then
          (text? rest).map (joinSurrogates high low :: ·)
        else
          none
      else if isLowSurrogate high then
        none
      else
        (text? (.unit low :: rest)).map (Char.ofNat high :: ·)
  | .unit code :: rest =>
      if isHighSurrogate code || isLowSurrogate code then
        none
      else
        (text? rest).map (Char.ofNat code :: ·)

example : text? [.unit 0xD83D, .unit 0xDE00] = some ['😀'] := by decide

example : text? [.unit 0xD83D, .char 'x'] = none := by decide

end ParamTypes.Json.Quoted
