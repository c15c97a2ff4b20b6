import ProofStack.Checks
import ProofStack.Contracts.Evaluation.DefinitionBytes
import ProofStack.Json.Grammar

/-!
This module contains the scanner of bounded JSON texts.
-/

namespace ProofStack
namespace Evaluation

open Host Json Json.Grammar

def maxBoundedJsonDepth : Nat := 64

inductive ScanFailure where
  | parse (characterOffset : Nat) (message : String)
  -- more rounds are needed
  | unfinished
  deriving DecidableEq

def boundedJsonParseError (characterOffset : Nat) (message : String) : ScanFailure :=
  .parse characterOffset (message ++ " at character offset " ++ toString characterOffset)

structure JsonScanner where
  index : Nat
  nodes : Nat
  deriving DecidableEq

def isHexDigit (digit : UInt16) : Bool :=
  (0x30 ≤ digit && digit ≤ 0x39) || (0x61 ≤ digit && digit ≤ 0x66) || (0x41 ≤ digit && digit ≤ 0x46)

def escapeCodes : Text :=
  [0x22, 0x5C, 0x2F, 0x62, 0x66, 0x6E, 0x72, 0x74]

/-- The host reads the characters of a string literal, up to the mark that ends the text. -/
def readCharacters : Text → Option Text
  | [] => none
  | u :: rest =>
    if u = 0x22 then if rest = [] then some [] else none
    else if u = 0x5C then
      match rest with
      | [] => none
      | letter :: rest =>
        if letter = 0x75 then
          match rest with
          | u₁ :: u₂ :: u₃ :: u₄ :: rest => do
            let d₁ ← hexDigitValue u₁
            let d₂ ← hexDigitValue u₂
            let d₃ ← hexDigitValue u₃
            let d₄ ← hexDigitValue u₄
            let units ← readCharacters rest
            return hexUnit d₁ d₂ d₃ d₄ :: units
          | _ => none
        else do
          let u ← unescape letter
          let units ← readCharacters rest
          return u :: units
    else if u < 0x20 then none
    else do
      let units ← readCharacters rest
      return u :: units

/-- The loop over the text that is left after the opening quote, up to the index after the closing one. -/
def closingQuote : Text → Nat → Except ScanFailure Nat
  | [], index => .error (boundedJsonParseError index "Unterminated JSON string")
  | character :: rest, index =>
    if character = 0x22 then .ok (index + 1)
    else if character = 0x5C then
      match rest with
      | [] => .error (boundedJsonParseError (index + 1) "Invalid escape in JSON string")
      | escapeCode :: rest =>
        if escapeCode = 0x75 then
          match rest with
          | digit₁ :: digit₂ :: digit₃ :: digit₄ :: rest =>
            if isHexDigit digit₁ && isHexDigit digit₂ && isHexDigit digit₃ && isHexDigit digit₄ then
              closingQuote rest (index + 6)
            else
              .error (boundedJsonParseError (index + 1) "Invalid Unicode escape in JSON string")
          | _ => .error (boundedJsonParseError (index + 1) "Invalid Unicode escape in JSON string")
        else if escapeCode ∈ escapeCodes then closingQuote rest (index + 2)
        else .error (boundedJsonParseError (index + 1) "Invalid escape in JSON string")
    else if character < 0x20 then .error (boundedJsonParseError index "Unescaped control character in JSON string")
    else closingQuote rest (index + 1)

section Scanner

variable (text : Text) (maximumNodes : Nat)

def parseString (index : Nat) : Except ScanFailure (Text × Nat) := do
  let stop ← closingQuote (text.drop (index + 1)) (index + 1)
  let key ← Checks.found (readCharacters ((text.drop (index + 1)).take (stop - (index + 1))))
    (boundedJsonParseError index "Invalid JSON string")
  return (key, stop)

def skipWhile (holds : UInt16 → Bool) : Text → Nat → Nat
  | [], index => index
  | character :: rest, index => if holds character then skipWhile holds rest (index + 1) else index

def skipWhitespace (index : Nat) : Nat :=
  skipWhile isWhitespace (text.drop index) index

def consumeDigits (requireOne : Bool) (start : Nat) : Except ScanFailure Nat := do
  let index := skipWhile Grammar.isDigit (text.drop start) start
  Checks.failIf (requireOne ∧ index = start) (boundedJsonParseError index "Expected a digit in JSON number")
  return index

def parseInteger (index : Nat) : Except ScanFailure Nat :=
  if text[index]? = some 0x30 then do
    Checks.failIf (text[index + 1]?.any Grammar.isDigit)
      (boundedJsonParseError (index + 1) "JSON numbers cannot contain leading zeroes")
    return index + 1
  else
    consumeDigits text true index

def parseFraction (index : Nat) : Except ScanFailure Nat :=
  if text[index]? = some 0x2E then consumeDigits text true (index + 1) else .ok index

def parseExponent (index : Nat) : Except ScanFailure Nat :=
  if text[index]? = some 0x65 ∨ text[index]? = some 0x45 then
    if text[index + 1]? = some 0x2B ∨ text[index + 1]? = some 0x2D then consumeDigits text true (index + 2)
    else consumeDigits text true (index + 1)
  else
    .ok index

def parseNumber (start : Nat) : Except ScanFailure Nat := do
  let integer := if text[start]? = some 0x2D then start + 1 else start
  let fraction ← parseInteger text integer
  let exponent ← parseFraction text fraction
  let index ← parseExponent text exponent
  Checks.failIf (index = start) (boundedJsonParseError index "Invalid JSON number")
  return index

def parseLiteral (literal : String) (index : Nat) : Except ScanFailure Nat :=
  if Host.text literal <+: text.drop index then .ok (index + (Host.text literal).length)
  else .error (boundedJsonParseError index ("Invalid " ++ literal ++ " literal"))

def countNode (s : JsonScanner) : Except ScanFailure JsonScanner := do
  Checks.failIf (maximumNodes < s.nodes + 1) (boundedJsonParseError s.index "JSON node limit exceeded")
  return { s with nodes := s.nodes + 1 }

def parseContainer (close : UInt16) (loop : JsonScanner → Except ScanFailure JsonScanner) (s : JsonScanner)
    : Except ScanFailure JsonScanner :=
  let index := skipWhitespace text (s.index + 1)
  if text[index]? = some close then .ok { s with index := index + 1 } else loop { s with index }

def parseStart (object array : JsonScanner → Except ScanFailure JsonScanner) (s : JsonScanner)
    : Except ScanFailure JsonScanner :=
  let character := text[s.index]?
  if character = some 0x7B then parseContainer text 0x7D object s
  else if character = some 0x5B then parseContainer text 0x5D array s
  else if character = some 0x22 then do
    let (_, index) ← parseString text s.index
    return { s with index }
  else if character = some 0x74 then do
    let index ← parseLiteral text "true" s.index
    return { s with index }
  else if character = some 0x66 then do
    let index ← parseLiteral text "false" s.index
    return { s with index }
  else if character = some 0x6E then do
    let index ← parseLiteral text "null" s.index
    return { s with index }
  else if character = some 0x2D ∨ character.any Grammar.isDigit then do
    let index ← parseNumber text s.index
    return { s with index }
  else .error (boundedJsonParseError s.index "Expected a JSON value")

mutual

def parseValue : Nat → Nat → JsonScanner → Except ScanFailure JsonScanner
  | 0, _, _ => .error .unfinished
  | rounds + 1, depth, s => do
    Checks.failIf (maxBoundedJsonDepth < depth) (boundedJsonParseError s.index "JSON nesting depth exceeded")
    let s ← countNode maximumNodes s
    parseStart text (parseObject rounds depth []) (parseArray rounds depth) s

def parseObject : Nat → Nat → List Text → JsonScanner → Except ScanFailure JsonScanner
  | 0, _, _, _ => .error .unfinished
  | rounds + 1, depth, keys, s => do
    Checks.failIf (text[s.index]? ≠ some 0x22) (boundedJsonParseError s.index "Expected an object property name")
    let (key, index) ← parseString text s.index
    Checks.failIf (key ∈ keys)
      (boundedJsonParseError index ("Duplicate object property " ++ String.ofList (quote key)))
    let colon := skipWhitespace text index
    Checks.failIf (text[colon]? ≠ some 0x3A) (boundedJsonParseError colon "Expected a colon after the property name")
    let s ← parseValue rounds (depth + 1) { s with index := skipWhitespace text (colon + 1) }
    let separator := skipWhitespace text s.index
    if text[separator]? = some 0x7D then return { s with index := separator + 1 }
    Checks.failIf (text[separator]? ≠ some 0x2C)
      (boundedJsonParseError separator "Expected a comma or closing object brace")
    parseObject rounds depth (keys ++ [key]) { s with index := skipWhitespace text (separator + 1) }

def parseArray : Nat → Nat → JsonScanner → Except ScanFailure JsonScanner
  | 0, _, _ => .error .unfinished
  | rounds + 1, depth, s => do
    let s ← parseValue rounds (depth + 1) s
    let separator := skipWhitespace text s.index
    if text[separator]? = some 0x5D then return { s with index := separator + 1 }
    Checks.failIf (text[separator]? ≠ some 0x2C)
      (boundedJsonParseError separator "Expected a comma or closing array bracket")
    parseArray rounds depth { s with index := skipWhitespace text (separator + 1) }

end

/-- The number of values of the text, where so many rounds of the loops are made. -/
def JsonScanner.parse (rounds : Nat) : Except ScanFailure Nat := do
  let s ← parseValue text maximumNodes rounds 0 { index := skipWhitespace text 0, nodes := 0 }
  let index := skipWhitespace text s.index
  Checks.failIf (index ≠ text.length) (boundedJsonParseError index "Unexpected content after the JSON value")
  return s.nodes

end Scanner

variable {text : Text} {index : Nat} {rest : Text}

def Rests (text : Text) (index : Nat) (rest : Text) : Prop :=
  ∃ before, text = before ++ rest ∧ before.length = index

namespace Rests

theorem start (text : Text) : Rests text 0 text :=
  ⟨[], rfl, rfl⟩

theorem drop (h : Rests text index rest) : text.drop index = rest := by
  obtain ⟨before, rfl, rfl⟩ := h
  exact List.drop_left

theorem get (h : Rests text index rest) : text[index]? = rest.head? := by
  rw [← h.drop, List.head?_drop]

theorem get_cons {u : UInt16} (h : Rests text index (u :: rest)) : text[index]? = some u :=
  h.get

theorem append {taken : Text} (h : Rests text index (taken ++ rest)) : Rests text (index + taken.length) rest := by
  obtain ⟨before, rfl, rfl⟩ := h
  exact ⟨before ++ taken, by rw [List.append_assoc], List.length_append⟩

theorem tail {u : UInt16} (h : Rests text index (u :: rest)) : Rests text (index + 1) rest :=
  @append text index rest [u] h

theorem length (h : Rests text index rest) : index + rest.length = text.length := by
  obtain ⟨before, rfl, rfl⟩ := h
  rw [List.length_append]

theorem exists_cons {u : UInt16} (h : Rests text index rest) (hu : text[index]? = some u)
    : ∃ others, rest = u :: others := by
  rw [h.get] at hu
  exact List.head?_eq_some_iff.mp hu

end Rests

theorem rests_skipWhile {holds : UInt16 → Bool} (h : Rests text index rest)
    : Rests text (skipWhile holds rest index) (rest.dropWhile holds) := by
  induction rest generalizing index with
  | nil => exact h
  | cons u rest ih =>
    rw [skipWhile, List.dropWhile_cons]
    split
    . exact ih h.tail
    . exact h

theorem rests_skipWhitespace (h : Rests text index rest)
    : Rests text (skipWhitespace text index) (rest.dropWhile isWhitespace) := by
  rw [skipWhitespace, h.drop]
  exact rests_skipWhile h

theorem rests_of_whitespace {after : Text} (h : Rests text index rest) (hspace : Whitespace rest after)
    (hafter : NonSpace after)
    : Rests text (skipWhitespace text index) after := by
  have hskip := rests_skipWhitespace h
  rw [hspace.dropWhile_eq hafter] at hskip
  exact hskip

theorem nonSpace_cons {u : UInt16} (h : isWhitespace u = false) (rest : Text) : NonSpace (u :: rest) := by
  intro first hfirst
  cases hfirst
  exact h

theorem consumeDigits_sound {stop : Nat} (h : Rests text index rest) (hrun : consumeDigits text true index = .ok stop)
    : ∃ after, Digits rest after ∧ Rests text stop after := by
  unfold consumeDigits at hrun
  rw [h.drop] at hrun
  obtain ⟨_, hsome, hstop⟩ := Checks.bind_eq_ok.mp hrun
  rw [Checks.failIf_eq_ok] at hsome
  obtain rfl := Checks.pure_eq_ok.mp hstop
  have hskip := @rests_skipWhile text index rest Grammar.isDigit h
  cases rest with
  | nil => exact absurd ⟨rfl, rfl⟩ hsome
  | cons u rest =>
    by_cases hu : Grammar.isDigit u
    . exact ⟨_, digits_dropWhile hu, hskip⟩
    . rw [skipWhile, if_neg hu] at hsome
      exact absurd ⟨rfl, rfl⟩ hsome

theorem consumeDigits_complete {after : Text} (h : Rests text index rest) (hdigits : Digits rest after)
    (hafter : NonDigit after)
    : ∃ stop, consumeDigits text true index = .ok stop ∧ Rests text stop after := by
  have hskip := @rests_skipWhile text index rest Grammar.isDigit h
  rw [hdigits.dropWhile_eq hafter] at hskip
  refine ⟨_, ?_, hskip⟩
  have hlt := hdigits.length_lt
  have hlength := h.length
  have hstop := hskip.length
  unfold consumeDigits
  rw [h.drop, Checks.failIf_bind_of_false (by omega)]
  rfl

theorem parseInteger_sound {stop : Nat} (h : Rests text index rest) (hrun : parseInteger text index = .ok stop)
    : ∃ after, Integer rest after ∧ Rests text stop after := by
  unfold parseInteger at hrun
  split at hrun
  . next hzero =>
    obtain ⟨others, rfl⟩ := h.exists_cons hzero
    obtain ⟨_, _, hstop⟩ := Checks.bind_eq_ok.mp hrun
    obtain rfl := Checks.pure_eq_ok.mp hstop
    exact ⟨others, .zero others, h.tail⟩
  . next hzero =>
    obtain ⟨after, hdigits, hafter⟩ := consumeDigits_sound h hrun
    obtain ⟨u, others, rfl, _⟩ := hdigits.exists_cons
    refine ⟨after, .digits ?_ hdigits, hafter⟩
    rintro rfl
    exact hzero h.get

theorem parseInteger_complete {after : Text} (h : Rests text index rest) (hinteger : Integer rest after)
    (hafter : NonDigit after)
    : ∃ stop, parseInteger text index = .ok stop ∧ Rests text stop after := by
  unfold parseInteger
  cases hinteger with
  | zero =>
    have hnone : ¬text[index + 1]?.any Grammar.isDigit = true := by
      rw [h.tail.get]
      intro hany
      rw [Option.any_eq_true] at hany
      obtain ⟨u, hu, hdigit⟩ := hany
      rw [hafter u hu] at hdigit
      contradiction
    rw [if_pos h.get_cons, Checks.failIf_bind_of_false hnone]
    exact ⟨_, rfl, h.tail⟩
  | digits hu hdigits =>
    have hne : text[index]? ≠ some 0x30 := by
      rw [h.get]
      simpa using hu
    rw [if_neg hne]
    exact consumeDigits_complete h hdigits hafter

theorem parseFraction_sound {stop : Nat} (h : Rests text index rest) (hrun : parseFraction text index = .ok stop)
    : ∃ after, Fraction rest after ∧ Rests text stop after := by
  unfold parseFraction at hrun
  split at hrun
  . next hpoint =>
    obtain ⟨others, rfl⟩ := h.exists_cons hpoint
    obtain ⟨after, hdigits, hafter⟩ := consumeDigits_sound h.tail hrun
    exact ⟨after, .present hdigits, hafter⟩
  . cases hrun
    exact ⟨rest, .absent rest, h⟩

theorem parseFraction_complete {after : Text} (h : Rests text index rest) (hfraction : Fraction rest after)
    (hafter : NonDigit after ∧ after.head? ≠ some 0x2E)
    : ∃ stop, parseFraction text index = .ok stop ∧ Rests text stop after := by
  unfold parseFraction
  cases hfraction with
  | absent =>
    rw [h.get, if_neg hafter.2]
    exact ⟨_, rfl, h⟩
  | present hdigits =>
    rw [if_pos h.get_cons]
    exact consumeDigits_complete h.tail hdigits hafter.1

theorem parseExponent_sound {stop : Nat} (h : Rests text index rest) (hrun : parseExponent text index = .ok stop)
    : ∃ after, Exponent rest after ∧ Rests text stop after := by
  unfold parseExponent at hrun
  split at hrun
  . next hletter =>
    obtain ⟨u, hu, hget⟩ : ∃ u : UInt16, (u = 0x65 ∨ u = 0x45) ∧ text[index]? = some u := by
      rcases hletter with hletter | hletter
      . exact ⟨_, .inl rfl, hletter⟩
      . exact ⟨_, .inr rfl, hletter⟩
    obtain ⟨others, rfl⟩ := h.exists_cons hget
    split at hrun
    . next hsigned =>
      obtain ⟨sign, hsign, hget'⟩ : ∃ u : UInt16, (u = 0x2B ∨ u = 0x2D) ∧ text[index + 1]? = some u := by
        rcases hsigned with hsigned | hsigned
        . exact ⟨_, .inl rfl, hsigned⟩
        . exact ⟨_, .inr rfl, hsigned⟩
      obtain ⟨others, rfl⟩ := h.tail.exists_cons hget'
      obtain ⟨after, hdigits, hafter⟩ := consumeDigits_sound h.tail.tail hrun
      exact ⟨after, .signed hu hsign hdigits, hafter⟩
    . obtain ⟨after, hdigits, hafter⟩ := consumeDigits_sound h.tail hrun
      exact ⟨after, .unsigned hu hdigits, hafter⟩
  . cases hrun
    exact ⟨rest, .absent rest, h⟩

theorem parseExponent_complete {after : Text} (h : Rests text index rest) (hexponent : Exponent rest after)
    (hafter : NumberEnds after)
    : ∃ stop, parseExponent text index = .ok stop ∧ Rests text stop after := by
  unfold parseExponent
  cases hexponent with
  | absent =>
    rw [h.get, if_neg (by rw [not_or]; exact hafter.exponent)]
    exact ⟨_, rfl, h⟩
  | unsigned hu hdigits =>
    obtain ⟨digit, others, rfl, hdigit⟩ := hdigits.exists_cons
    have hletter : text[index]? = some 0x65 ∨ text[index]? = some 0x45 := by
      rw [h.get]
      rcases hu with rfl | rfl
      . exact .inl rfl
      . exact .inr rfl
    have hsign : ¬(text[index + 1]? = some 0x2B ∨ text[index + 1]? = some 0x2D) := by
      rw [h.tail.get, List.head?_cons, Option.some_inj, Option.some_inj]
      rintro (rfl | rfl) <;> revert hdigit <;> decide
    rw [if_pos hletter, if_neg hsign]
    exact consumeDigits_complete h.tail hdigits hafter.digit
  | signed hu hsign hdigits =>
    have hletter : text[index]? = some 0x65 ∨ text[index]? = some 0x45 := by
      rw [h.get]
      rcases hu with rfl | rfl
      . exact .inl rfl
      . exact .inr rfl
    have hsigned : text[index + 1]? = some 0x2B ∨ text[index + 1]? = some 0x2D := by
      rw [h.tail.get]
      rcases hsign with rfl | rfl
      . exact .inl rfl
      . exact .inr rfl
    rw [if_pos hletter, if_pos hsigned]
    exact consumeDigits_complete h.tail.tail hdigits hafter.digit

theorem rests_sign {after : Text} (h : Rests text index rest) (hnumber : Number rest after)
    : ∃ magnitude, Magnitude magnitude after
        ∧ Rests text (if text[index]? = some 0x2D then index + 1 else index) magnitude := by
  cases hnumber with
  | positive hmagnitude =>
    refine ⟨rest, hmagnitude, ?_⟩
    cases hmagnitude with
    | parts hinteger _ _ =>
      obtain ⟨u, others, rfl, hu⟩ := hinteger.exists_cons
      rw [if_neg ?_]
      . exact h
      . rw [h.get, List.head?_cons, Option.some_inj]
        rintro rfl
        revert hu
        decide
  | negative hmagnitude =>
    rw [if_pos h.get_cons]
    exact ⟨_, hmagnitude, h.tail⟩

theorem parseNumber_sound {stop : Nat} (h : Rests text index rest) (hrun : parseNumber text index = .ok stop)
    : ∃ after, Number rest after ∧ Rests text stop after := by
  obtain ⟨fraction, hinteger, hrun⟩ := Checks.bind_eq_ok.mp hrun
  obtain ⟨exponent, hfraction, hrun⟩ := Checks.bind_eq_ok.mp hrun
  obtain ⟨stop, hexponent, hrun⟩ := Checks.bind_eq_ok.mp hrun
  obtain ⟨_, _, hstop⟩ := Checks.bind_eq_ok.mp hrun
  obtain rfl := Checks.pure_eq_ok.mp hstop
  have hmagnitude : ∀ start magnitude, Rests text start magnitude → parseInteger text start = .ok fraction →
      ∃ after, Magnitude magnitude after ∧ Rests text stop after := by
    intro start magnitude hstart hrun
    obtain ⟨_, hinteger, hrests⟩ := parseInteger_sound hstart hrun
    obtain ⟨_, hfraction, hrests⟩ := parseFraction_sound hrests hfraction
    obtain ⟨after, hexponent, hrests⟩ := parseExponent_sound hrests hexponent
    exact ⟨after, .parts hinteger hfraction hexponent, hrests⟩
  split at hinteger
  . next hminus =>
    obtain ⟨others, rfl⟩ := h.exists_cons hminus
    obtain ⟨after, hnumber, hrests⟩ := hmagnitude _ _ h.tail hinteger
    exact ⟨after, .negative hnumber, hrests⟩
  . obtain ⟨after, hnumber, hrests⟩ := hmagnitude _ _ h hinteger
    exact ⟨after, .positive hnumber, hrests⟩

theorem parseNumber_complete {after : Text} (h : Rests text index rest) (hnumber : Number rest after)
    (hafter : NumberEnds after)
    : ∃ stop, parseNumber text index = .ok stop ∧ Rests text stop after := by
  have hlt := hnumber.length_lt
  obtain ⟨magnitude, ⟨hinteger, hfraction, hexponent⟩, hrests⟩ := rests_sign h hnumber
  have hnonDigit := hexponent.nonDigit hafter
  obtain ⟨fraction, hrun, hrests⟩ := parseInteger_complete hrests hinteger (hfraction.nonDigit hnonDigit.1)
  obtain ⟨exponent, hrun', hrests⟩ := parseFraction_complete hrests hfraction hnonDigit
  obtain ⟨stop, hrun'', hrests⟩ := parseExponent_complete hrests hexponent hafter
  refine ⟨stop, ?_, hrests⟩
  have hlength := h.length
  have hstop := hrests.length
  unfold parseNumber
  dsimp only
  rw [Checks.bind_of_ok hrun, Checks.bind_of_ok hrun', Checks.bind_of_ok hrun'',
    Checks.failIf_bind_of_false (by omega)]
  rfl

theorem isHexDigit_iff {u : UInt16} : isHexDigit u = true ↔ ∃ d, hexDigitValue u = some d := by
  unfold isHexDigit hexDigitValue
  by_cases h : (0x30 ≤ u && u ≤ 0x39) = true
  . simp only [h, Bool.true_or, if_true, Option.some_inj, exists_eq']
  . by_cases h' : (0x61 ≤ u && u ≤ 0x66) = true
    . simp only [h, h', Bool.true_or, Bool.or_true, if_true, if_false, Option.some_inj, exists_eq', Bool.false_eq_true]
    . simp [h, h']

theorem unescape_ne_unicode {letter u : UInt16} (h : unescape letter = some u) : letter ≠ 0x75 := by
  rintro rfl
  cases h

theorem mem_escapeCodes {u : UInt16} : u ∈ escapeCodes ↔ ∃ unit, unescape u = some unit := by
  unfold escapeCodes
  simp only [List.mem_cons, List.not_mem_nil, or_false]
  constructor
  . rintro (rfl | rfl | rfl | rfl | rfl | rfl | rfl | rfl) <;> exact ⟨_, rfl⟩
  . rintro ⟨unit, h⟩
    unfold unescape at h
    grind

theorem readCharacters_sound {raw units : Text} (h : readCharacters raw = some units) : Characters units raw [] := by
  fun_induction readCharacters raw generalizing units with
  | case1 | case3 | case4 | case6 | case8 => contradiction
  | case2 =>
    cases h
    exact .done []
  | case5 u₁ u₂ u₃ u₄ rest _ ih =>
    simp only [bind, Option.bind_eq_some_iff, pure, Option.some_inj] at h
    obtain ⟨d₁, h₁, d₂, h₂, d₃, h₃, d₄, h₄, others, hothers, rfl⟩ := h
    exact .unicode h₁ h₂ h₃ h₄ (ih hothers)
  | case7 letter rest _ _ ih =>
    simp only [bind, Option.bind_eq_some_iff, pure, Option.some_inj] at h
    obtain ⟨u, hu, others, hothers, rfl⟩ := h
    exact .escape hu (ih hothers)
  | case9 u rest hquote hbackslash hu ih =>
    simp only [bind, Option.bind_eq_some_iff, pure, Option.some_inj] at h
    obtain ⟨others, hothers, rfl⟩ := h
    exact .unescaped hquote hbackslash (UInt16.not_lt.mp hu) (ih hothers)

theorem readCharacters_complete {raw units rest : Text} (h : Characters units raw rest) (hrest : rest = [])
    : readCharacters raw = some units := by
  induction h with
  | done rest =>
    rw [readCharacters.eq_def]
    dsimp only
    rw [if_pos rfl, if_pos hrest]
  | unescaped hquote hbackslash hu _ ih =>
    rw [readCharacters.eq_def]
    dsimp only
    rw [if_neg hquote, if_neg hbackslash, if_neg (UInt16.not_lt.mpr hu), ih hrest]
    rfl
  | @escape letter u units text rest hletter _ ih =>
    have hne : letter ≠ 0x75 := unescape_ne_unicode hletter
    rw [readCharacters.eq_def]
    dsimp only
    rw [if_neg (by decide), if_pos rfl, if_neg hne, hletter, ih hrest]
    rfl
  | unicode hu₁ hu₂ hu₃ hu₄ _ ih =>
    rw [readCharacters.eq_def]
    dsimp only
    rw [if_neg (by decide), if_pos rfl, if_pos rfl, hu₁, hu₂, hu₃, hu₄, ih hrest]
    rfl

theorem closingQuote_sound {stop : Nat} (h : closingQuote rest index = .ok stop)
    : ∃ taken after, rest = taken ++ after ∧ stop = index + taken.length := by
  fun_induction closingQuote rest index with
  | case2 rest index =>
    cases h
    exact ⟨[0x22], rest, rfl, rfl⟩
  | case4 index u₁ u₂ u₃ u₄ rest _ _ ih =>
    obtain ⟨taken, after, rfl, rfl⟩ := ih h
    exact ⟨0x5C :: 0x75 :: u₁ :: u₂ :: u₃ :: u₄ :: taken, after, rfl, by simp only [List.length_cons]; omega⟩
  | case7 index letter rest _ _ _ ih =>
    obtain ⟨taken, after, rfl, rfl⟩ := ih h
    exact ⟨0x5C :: letter :: taken, after, rfl, by simp only [List.length_cons]; omega⟩
  | case10 u rest index _ _ _ ih =>
    obtain ⟨taken, after, rfl, rfl⟩ := ih h
    exact ⟨u :: taken, after, rfl, by simp only [List.length_cons]; omega⟩
  | _ => contradiction

theorem closingQuote_complete {units after : Text} (h : Characters units rest after) (index : Nat)
    : ∃ stop, closingQuote rest index = .ok stop ∧ stop + after.length = index + rest.length := by
  induction h generalizing index with
  | done rest =>
    refine ⟨index + 1, by rw [closingQuote.eq_def]; exact if_pos rfl, ?_⟩
    rw [List.length_cons]
    omega
  | unescaped hquote hbackslash hu _ ih =>
    obtain ⟨stop, hstop, hlength⟩ := ih (index + 1)
    refine ⟨stop, ?_, ?_⟩
    . rw [closingQuote.eq_def]
      dsimp only
      rw [if_neg hquote, if_neg hbackslash, if_neg (UInt16.not_lt.mpr hu), hstop]
    . rw [List.length_cons]
      omega
  | @escape letter u units text rest hletter _ ih =>
    obtain ⟨stop, hstop, hlength⟩ := ih (index + 2)
    have hne : letter ≠ 0x75 := unescape_ne_unicode hletter
    refine ⟨stop, ?_, ?_⟩
    . rw [closingQuote.eq_def]
      dsimp only
      rw [if_neg (by decide), if_pos rfl, if_neg hne, if_pos (mem_escapeCodes.mpr ⟨_, hletter⟩), hstop]
    . simp only [List.length_cons]
      omega
  | unicode hu₁ hu₂ hu₃ hu₄ _ ih =>
    obtain ⟨stop, hstop, hlength⟩ := ih (index + 6)
    refine ⟨stop, ?_, ?_⟩
    . rw [closingQuote.eq_def]
      dsimp only
      rw [if_neg (by decide), if_pos rfl, if_pos rfl, isHexDigit_iff.mpr ⟨_, hu₁⟩,
        isHexDigit_iff.mpr ⟨_, hu₂⟩, isHexDigit_iff.mpr ⟨_, hu₃⟩, isHexDigit_iff.mpr ⟨_, hu₄⟩, hstop]
      rfl
    . simp only [List.length_cons]
      omega

theorem parseString_sound {key : Text} {stop : Nat} (h : Rests text index (0x22 :: rest))
    (hrun : parseString text index = .ok (key, stop))
    : ∃ after, Characters key rest after ∧ Rests text stop after := by
  unfold parseString at hrun
  rw [h.tail.drop] at hrun
  obtain ⟨stop, hstop, hrun⟩ := Checks.bind_eq_ok.mp hrun
  obtain ⟨key, hkey, hrun⟩ := Checks.bind_eq_ok.mp hrun
  cases Checks.pure_eq_ok.mp hrun
  obtain ⟨taken, after, rfl, rfl⟩ := closingQuote_sound hstop
  rw [Checks.found_eq_ok, Nat.add_sub_cancel_left, List.take_left] at hkey
  exact ⟨after, (readCharacters_sound hkey).append after, h.tail.append⟩

theorem parseString_complete {key after : Text} (h : Rests text index (0x22 :: rest))
    (hkey : Characters key rest after)
    : ∃ stop, parseString text index = .ok (key, stop) ∧ Rests text stop after := by
  obtain ⟨stop, hstop, hlength⟩ := closingQuote_complete hkey (index + 1)
  obtain ⟨raw, rfl, hraw⟩ := hkey.exists_append
  obtain rfl : stop = index + 1 + raw.length := by
    rw [List.length_append] at hlength
    omega
  refine ⟨_, ?_, h.tail.append⟩
  unfold parseString
  rw [h.tail.drop, Checks.bind_of_ok hstop, Nat.add_sub_cancel_left, List.take_left, readCharacters_complete hraw rfl]
  rfl

theorem parseLiteral_sound {literal : String} {stop : Nat} (h : Rests text index rest)
    (hrun : parseLiteral text literal index = .ok stop)
    : ∃ after, rest = Host.text literal ++ after ∧ Rests text stop after := by
  unfold parseLiteral at hrun
  rw [h.drop] at hrun
  split at hrun
  . next hprefix =>
    cases hrun
    obtain ⟨after, rfl⟩ := hprefix
    exact ⟨after, rfl, h.append⟩
  . contradiction

theorem parseLiteral_complete {literal : String} {after : Text} (h : Rests text index (Host.text literal ++ after))
    : ∃ stop, parseLiteral text literal index = .ok stop ∧ Rests text stop after := by
  refine ⟨_, ?_, h.append⟩
  unfold parseLiteral
  rw [h.drop, if_pos (List.prefix_append _ _)]

section Runs

variable {maximumNodes rounds depth : Nat} {s s' : JsonScanner}

theorem countNode_eq_ok
    : countNode maximumNodes s = .ok s' ↔ s.nodes + 1 ≤ maximumNodes ∧ s' = { s with nodes := s.nodes + 1 } := by
  unfold countNode
  simp only [Checks.bind_eq_ok, Checks.failIf_eq_ok, Checks.pure_eq_ok, Nat.not_lt, exists_and_left, exists_const]
  exact and_congr_right (fun _ => eq_comm)

variable {close : UInt16}

theorem parseContainer_eq_ok {loop : JsonScanner → Except ScanFailure JsonScanner}
    : parseContainer text close loop s = .ok s'
        ↔ (text[skipWhitespace text (s.index + 1)]? = some close
            ∧ s' = { s with index := skipWhitespace text (s.index + 1) + 1 })
          ∨ (text[skipWhitespace text (s.index + 1)]? ≠ some close
            ∧ loop { s with index := skipWhitespace text (s.index + 1) } = .ok s') := by
  unfold parseContainer
  dsimp only
  split
  . next hclose => simp [hclose, eq_comm]
  . next hclose => simp [hclose]

theorem parseValue_eq_ok
    : parseValue text maximumNodes (rounds + 1) depth s = .ok s'
        ↔ depth ≤ maxBoundedJsonDepth ∧ s.nodes + 1 ≤ maximumNodes
          ∧ parseStart text (parseObject text maximumNodes rounds depth [])
              (parseArray text maximumNodes rounds depth) { s with nodes := s.nodes + 1 } = .ok s' := by
  rw [parseValue]
  simp only [Checks.bind_eq_ok, Checks.failIf_eq_ok, countNode_eq_ok, Nat.not_lt, exists_and_left, exists_const,
    and_assoc, exists_eq_left]

def Separated (text : Text) (close : UInt16) (loop : JsonScanner → Except ScanFailure JsonScanner)
    (s s' : JsonScanner) : Prop :=
  (text[skipWhitespace text s.index]? = some close ∧ s' = { s with index := skipWhitespace text s.index + 1 })
    ∨ (text[skipWhitespace text s.index]? = some 0x2C
      ∧ loop { s with index := skipWhitespace text (skipWhitespace text s.index + 1) } = .ok s')

theorem separated_iff {loop : JsonScanner → Except ScanFailure JsonScanner} {message : ScanFailure}
    (hclose : close ≠ 0x2C)
    : (if text[skipWhitespace text s.index]? = some close then
          (pure { s with index := skipWhitespace text s.index + 1 } : Except ScanFailure JsonScanner)
        else do
          Checks.failIf (text[skipWhitespace text s.index]? ≠ some 0x2C) message
          loop { s with index := skipWhitespace text (skipWhitespace text s.index + 1) }) = .ok s'
        ↔ Separated text close loop s s' := by
  unfold Separated
  split
  . next heq =>
    rw [heq, Checks.pure_eq_ok]
    simp [hclose, eq_comm]
  . next hne => simp [hne, Checks.bind_eq_ok]

theorem parseArray_eq_ok
    : parseArray text maximumNodes (rounds + 1) depth s = .ok s'
        ↔ ∃ item, parseValue text maximumNodes rounds (depth + 1) s = .ok item
          ∧ Separated text 0x5D (parseArray text maximumNodes rounds depth) item s' := by
  rw [parseArray, Checks.bind_eq_ok]
  simp only [separated_iff (show (0x5D : UInt16) ≠ 0x2C by decide)]

theorem parseObject_eq_ok {keys : List Text}
    : parseObject text maximumNodes (rounds + 1) depth keys s = .ok s'
        ↔ text[s.index]? = some 0x22
          ∧ ∃ key index, parseString text s.index = .ok (key, index) ∧ key ∉ keys
            ∧ text[skipWhitespace text index]? = some 0x3A
            ∧ ∃ value, parseValue text maximumNodes rounds (depth + 1)
                  { s with index := skipWhitespace text (skipWhitespace text index + 1) } = .ok value
              ∧ Separated text 0x7D (parseObject text maximumNodes rounds depth (keys ++ [key])) value s' := by
  rw [parseObject]
  simp only [Checks.bind_eq_ok, Checks.failIf_eq_ok, not_not, exists_and_left, exists_const, Prod.exists,
    separated_iff (show (0x7D : UInt16) ≠ 0x2C by decide)]

/-- The scanner has read up to here, with so many values and with so many containers around them. -/
structure Scanned (text : Text) (maximumNodes depth : Nat) (s s' : JsonScanner) (after : Text) (count nest : Nat)
    : Prop where
  rests : Rests text s'.index after
  nodes : s'.nodes = s.nodes + count
  bounded : s'.nodes ≤ maximumNodes
  depth : depth + nest ≤ maxBoundedJsonDepth

def ValueSound (text : Text) (maximumNodes rounds : Nat) : Prop :=
  ∀ depth s s' rest, Rests text s.index rest → parseValue text maximumNodes rounds depth s = .ok s' →
    ∃ tree after, Derives (.value tree) rest after ∧ KeysOnce tree
      ∧ Scanned text maximumNodes depth s s' after (valueCount tree) (nesting tree)

def ArraySound (text : Text) (maximumNodes rounds : Nat) : Prop :=
  ∀ depth s s' rest, Rests text s.index rest → parseArray text maximumNodes rounds depth s = .ok s' →
    ∃ items after, Derives (.items items) rest after ∧ (∀ item ∈ items, KeysOnce item)
      ∧ Scanned text maximumNodes depth s s' after (itemsCount items) (itemsNesting items)

def ObjectSound (text : Text) (maximumNodes rounds : Nat) : Prop :=
  ∀ depth keys s s' rest, keys.Nodup → Rests text s.index rest →
    parseObject text maximumNodes rounds depth keys s = .ok s' →
    ∃ members after, Derives (.members members) rest after ∧ (keys ++ members.map Prod.fst).Nodup
      ∧ (∀ member ∈ members, KeysOnce member.2)
      ∧ Scanned text maximumNodes depth s s' after (membersCount members) (membersNesting members)

theorem rests_cons_of_skip {u : UInt16} (h : Rests text index rest) (hu : text[skipWhitespace text index]? = some u)
    : ∃ after, Whitespace rest (u :: after) ∧ Rests text (skipWhitespace text index + 1) after := by
  have hskip := rests_skipWhitespace h
  obtain ⟨after, hafter⟩ := hskip.exists_cons hu
  refine ⟨after, ?_, ?_⟩
  . rw [← hafter]
    exact whitespace_dropWhile rest
  . rw [hafter] at hskip
    exact hskip.tail

theorem separated_sound {loop : JsonScanner → Except ScanFailure JsonScanner}
    (h : Rests text s.index rest) (hrun : Separated text close loop s s')
    : (∃ after, Whitespace rest (close :: after) ∧ Rests text s'.index after ∧ s'.nodes = s.nodes)
        ∨ ∃ space next index, Whitespace rest (0x2C :: space) ∧ Whitespace space next ∧ Rests text index next
          ∧ loop { s with index } = .ok s' := by
  rcases hrun with ⟨hclose, rfl⟩ | ⟨hcomma, hloop⟩
  . obtain ⟨after, hspace, hafter⟩ := rests_cons_of_skip h hclose
    exact .inl ⟨after, hspace, hafter, rfl⟩
  . obtain ⟨space, hspace, hafter⟩ := rests_cons_of_skip h hcomma
    exact .inr ⟨space, _, _, hspace, whitespace_dropWhile space, rests_skipWhitespace hafter, hloop⟩

theorem arraySound_succ (hvalue : ValueSound text maximumNodes rounds) (harray : ArraySound text maximumNodes rounds)
    : ArraySound text maximumNodes (rounds + 1) := by
  intro depth s s' rest h hrun
  obtain ⟨item, hitem, hseparated⟩ := parseArray_eq_ok.mp hrun
  obtain ⟨tree, after, hderives, honce, hscanned⟩ := hvalue (depth + 1) s item rest h hitem
  have hnodes := hscanned.nodes
  have hbounded := hscanned.bounded
  have hdepth := hscanned.depth
  rcases separated_sound hscanned.rests hseparated with
    ⟨last, hclose, hlast, hsame⟩ | ⟨space, next, index, hcomma, hspace, hnext, hloop⟩
  . refine ⟨[tree], last, .lastItem hderives hclose, by simpa using honce, hlast, ?_, ?_, ?_⟩
    . rw [itemsCount, itemsCount]
      omega
    . omega
    . rw [itemsNesting, itemsNesting]
      omega
  . obtain ⟨items, last, hitems, hall, hrest⟩ := harray depth _ s' next hnext hloop
    have hnodes' := hrest.nodes
    have hdepth' := hrest.depth
    refine ⟨tree :: items, last, .item hderives hcomma hspace hitems, List.forall_mem_cons.mpr ⟨honce, hall⟩,
      hrest.rests, ?_, hrest.bounded, ?_⟩
    . rw [itemsCount]
      dsimp only at hnodes'
      omega
    . rw [itemsNesting]
      omega

theorem objectSound_succ (hvalue : ValueSound text maximumNodes rounds)
    (hobject : ObjectSound text maximumNodes rounds)
    : ObjectSound text maximumNodes (rounds + 1) := by
  intro depth keys s s' rest hkeys h hrun
  obtain ⟨hquote, key, index, hstring, hnew, hcolon, value, hrun, hseparated⟩ := parseObject_eq_ok.mp hrun
  obtain ⟨others, rfl⟩ := h.exists_cons hquote
  obtain ⟨before, hkey, hbefore⟩ := parseString_sound h hstring
  obtain ⟨space, hcolon, hspace⟩ := rests_cons_of_skip hbefore hcolon
  obtain ⟨tree, after, hderives, honce, hscanned⟩ := hvalue (depth + 1) _ value _ (rests_skipWhitespace hspace) hrun
  have hnodes := hscanned.nodes
  have hbounded := hscanned.bounded
  have hdepth := hscanned.depth
  have hkeys' : (keys ++ [key]).Nodup := by
    rw [List.nodup_append]
    refine ⟨hkeys, List.nodup_singleton key, ?_⟩
    rintro other hother _ hmem rfl
    rw [List.mem_singleton] at hmem
    exact hnew (hmem ▸ hother)
  dsimp only at hnodes
  rcases separated_sound hscanned.rests hseparated with
    ⟨last, hclose, hlast, hsame⟩ | ⟨space', next, index, hcomma, hspace', hnext, hloop⟩
  . refine ⟨[(key, tree)], last, .lastMember hkey hcolon (whitespace_dropWhile space) hderives hclose, hkeys',
      by simpa using honce, hlast, ?_, ?_, ?_⟩
    . rw [membersCount, membersCount]
      omega
    . omega
    . rw [membersNesting, membersNesting]
      omega
  . obtain ⟨members, last, hmembers, hnodup, hall, hrest⟩ := hobject depth _ _ s' next hkeys' hnext hloop
    have hnodes' := hrest.nodes
    have hdepth' := hrest.depth
    rw [List.append_assoc] at hnodup
    refine ⟨(key, tree) :: members, last,
      .member hkey hcolon (whitespace_dropWhile space) hderives hcomma hspace' hmembers, hnodup,
      List.forall_mem_cons.mpr ⟨honce, hall⟩, hrest.rests, ?_, hrest.bounded, ?_⟩
    . rw [membersCount]
      dsimp only at hnodes'
      omega
    . rw [membersNesting]
      omega

theorem container_sound {loop : JsonScanner → Except ScanFailure JsonScanner} {u : UInt16}
    (h : Rests text s.index (u :: rest)) (hrun : parseContainer text close loop s = .ok s')
    : (∃ after, Whitespace rest (close :: after) ∧ Rests text s'.index after ∧ s'.nodes = s.nodes)
        ∨ ∃ first index, Whitespace rest first ∧ Rests text index first ∧ loop { s with index } = .ok s' := by
  rcases parseContainer_eq_ok.mp hrun with ⟨hclose, rfl⟩ | ⟨_, hloop⟩
  . obtain ⟨after, hspace, hafter⟩ := rests_cons_of_skip h.tail hclose
    exact .inl ⟨after, hspace, hafter, rfl⟩
  . exact .inr ⟨_, _, whitespace_dropWhile rest, rests_skipWhitespace h.tail, hloop⟩

theorem literal_sound {literal : String} {tree : Json Text}
    (hderives : ∀ after, Derives (.value tree) (Host.text literal ++ after) after) (honce : KeysOnce tree)
    (hcount : valueCount tree = 1) (hnesting : nesting tree = 0) (h : Rests text s.index rest)
    (hnodes : s.nodes + 1 ≤ maximumNodes) (hdepth : depth ≤ maxBoundedJsonDepth) {stop : Nat}
    (hrun : parseLiteral text literal s.index = .ok stop)
    : ∃ tree after, Derives (.value tree) rest after ∧ KeysOnce tree
        ∧ Scanned text maximumNodes depth s { index := stop, nodes := s.nodes + 1 } after (valueCount tree)
          (nesting tree) := by
  obtain ⟨after, rfl, hafter⟩ := parseLiteral_sound h hrun
  exact ⟨tree, after, hderives after, honce, hafter, by rw [hcount], hnodes, by rw [hnesting]; exact hdepth⟩

theorem valueSound_succ (hobject : ObjectSound text maximumNodes rounds) (harray : ArraySound text maximumNodes rounds)
    : ValueSound text maximumNodes (rounds + 1) := by
  intro depth s s' rest h hrun
  obtain ⟨hdepth, hnodes, hrun⟩ := parseValue_eq_ok.mp hrun
  unfold parseStart at hrun
  dsimp only at hrun
  split at hrun
  . next hopen =>
    obtain ⟨others, rfl⟩ := h.exists_cons hopen
    have hopened : Rests text { s with nodes := s.nodes + 1 }.index _ := h
    rcases container_sound hopened hrun with
      ⟨after, hclose, hafter, hsame⟩ | ⟨first, index, hspace, hfirst, hloop⟩
    . refine ⟨.object [], after, .emptyObject hclose, .object [] .nil nofun, hafter,
        hsame, hsame ▸ hnodes, hdepth⟩
    . obtain ⟨members, after, hmembers, hnodup, hall, hscanned⟩ :=
        hobject depth [] _ s' first .nil hfirst hloop
      have hcount := hscanned.nodes
      refine ⟨.object members, after, .object hspace hmembers, .object members hnodup hall, hscanned.rests, ?_,
        hscanned.bounded, hscanned.depth⟩
      rw [valueCount]
      dsimp only at hcount
      omega
  split at hrun
  . next hopen =>
    obtain ⟨others, rfl⟩ := h.exists_cons hopen
    have hopened : Rests text { s with nodes := s.nodes + 1 }.index _ := h
    rcases container_sound hopened hrun with
      ⟨after, hclose, hafter, hsame⟩ | ⟨first, index, hspace, hfirst, hloop⟩
    . refine ⟨.array [], after, .emptyArray hclose, .array [] nofun, hafter,
        hsame, hsame ▸ hnodes, hdepth⟩
    . obtain ⟨items, after, hitems, hall, hscanned⟩ := harray depth _ s' first hfirst hloop
      have hcount := hscanned.nodes
      refine ⟨.array items, after, .array hspace hitems, .array items hall, hscanned.rests, ?_,
        hscanned.bounded, hscanned.depth⟩
      rw [valueCount]
      dsimp only at hcount
      omega
  split at hrun
  . next hquote =>
    obtain ⟨others, rfl⟩ := h.exists_cons hquote
    obtain ⟨⟨key, stop⟩, hstring, hstop⟩ := Checks.bind_eq_ok.mp hrun
    obtain rfl := Checks.pure_eq_ok.mp hstop
    obtain ⟨after, hkey, hafter⟩ := parseString_sound h hstring
    exact ⟨.string key, after, .string hkey, .string key, hafter, rfl, hnodes, hdepth⟩
  split at hrun
  . obtain ⟨stop, hliteral, hstop⟩ := Checks.bind_eq_ok.mp hrun
    obtain rfl := Checks.pure_eq_ok.mp hstop
    exact literal_sound (fun after => .trueLiteral after) (.bool true) rfl rfl h hnodes hdepth hliteral
  split at hrun
  . obtain ⟨stop, hliteral, hstop⟩ := Checks.bind_eq_ok.mp hrun
    obtain rfl := Checks.pure_eq_ok.mp hstop
    exact literal_sound (fun after => .falseLiteral after) (.bool false) rfl rfl h hnodes hdepth hliteral
  split at hrun
  . obtain ⟨stop, hliteral, hstop⟩ := Checks.bind_eq_ok.mp hrun
    obtain rfl := Checks.pure_eq_ok.mp hstop
    exact literal_sound (fun after => .nullLiteral after) .null rfl rfl h hnodes hdepth hliteral
  split at hrun
  . obtain ⟨stop, hnumber, hstop⟩ := Checks.bind_eq_ok.mp hrun
    obtain rfl := Checks.pure_eq_ok.mp hstop
    obtain ⟨after, hnumber, hafter⟩ := parseNumber_sound h hnumber
    obtain ⟨raw, rfl⟩ := hnumber.suffix
    exact ⟨.number raw, after, .number hnumber, .number raw, hafter, rfl, hnodes, hdepth⟩
  . contradiction

theorem sound (text : Text) (maximumNodes rounds : Nat)
    : ValueSound text maximumNodes rounds ∧ ArraySound text maximumNodes rounds
        ∧ ObjectSound text maximumNodes rounds := by
  induction rounds with
  | zero =>
    refine ⟨?_, ?_, ?_⟩
    . intro depth s s' rest _ hrun
      contradiction
    . intro depth s s' rest _ hrun
      contradiction
    . intro depth keys s s' rest _ _ hrun
      contradiction
  | succ rounds ih =>
    obtain ⟨hvalue, harray, hobject⟩ := ih
    exact ⟨valueSound_succ hobject harray, arraySound_succ hvalue harray, objectSound_succ hvalue hobject⟩

theorem keysOnce_array {items : List (Json Text)} : KeysOnce (.array items) ↔ ∀ item ∈ items, KeysOnce item := by
  constructor
  . rintro ⟨⟩
    assumption
  . exact .array items

theorem keysOnce_object {members : List (Text × Json Text)}
    : KeysOnce (.object members) ↔ (members.map Prod.fst).Nodup ∧ ∀ member ∈ members, KeysOnce member.2 := by
  constructor
  . rintro ⟨⟩
    exact ⟨by assumption, by assumption⟩
  . rintro ⟨hkeys, hvalues⟩
    exact .object members hkeys hvalues

def parsePhrase (text : Text) (maximumNodes rounds depth : Nat) (keys : List Text)
    : Phrase → JsonScanner → Except ScanFailure JsonScanner
  | .value _ => parseValue text maximumNodes rounds depth
  | .items _ => parseArray text maximumNodes rounds depth
  | .members _ => parseObject text maximumNodes rounds depth keys

def Allowed (maximumNodes depth : Nat) (keys : List Text) (nodes : Nat) : Phrase → Prop
  | .value tree =>
    KeysOnce tree ∧ depth + nesting tree ≤ maxBoundedJsonDepth ∧ nodes + valueCount tree ≤ maximumNodes
  | .items items =>
    (∀ item ∈ items, KeysOnce item) ∧ depth + itemsNesting items ≤ maxBoundedJsonDepth
      ∧ nodes + itemsCount items ≤ maximumNodes
  | .members members =>
    ((keys ++ members.map Prod.fst).Nodup ∧ ∀ member ∈ members, KeysOnce member.2)
      ∧ depth + membersNesting members ≤ maxBoundedJsonDepth ∧ nodes + membersCount members ≤ maximumNodes

def phraseCount : Phrase → Nat
  | .value tree => valueCount tree
  | .items items => itemsCount items
  | .members members => membersCount members

def enoughRounds (length : Nat) : Phrase → Nat
  | .value _ => 3 * length + 1
  | .items _ | .members _ => 3 * length + 2

def Completes (text : Text) (maximumNodes : Nat) (phrase : Phrase) (rest after : Text) : Prop :=
  ∀ rounds depth keys s, enoughRounds rest.length phrase ≤ rounds → keys.Nodup → Rests text s.index rest →
    ∃ stop, Rests text stop after
      ∧ ∀ s', parsePhrase text maximumNodes rounds depth keys phrase s = .ok s'
        ↔ Allowed maximumNodes depth keys s.nodes phrase
          ∧ s' = { index := stop, nodes := s.nodes + phraseCount phrase }

theorem scalar_complete {tree : Json Text} {after : Text}
    (hcount : valueCount tree = 1) (hnesting : nesting tree = 0) (honce : KeysOnce tree)
    (hstart : ∀ s object array, Rests text s.index rest →
      ∃ stop, parseStart text object array s = .ok { s with index := stop } ∧ Rests text stop after)
    : Completes text maximumNodes (.value tree) rest after := by
  intro rounds depth keys s hrounds _ h
  obtain ⟨rounds, rfl⟩ : ∃ n, rounds = n + 1 := ⟨rounds - 1, by rw [enoughRounds] at hrounds; omega⟩
  obtain ⟨stop, hrun, hstop⟩ := hstart { s with nodes := s.nodes + 1 }
    (parseObject text maximumNodes rounds depth []) (parseArray text maximumNodes rounds depth) h
  refine ⟨stop, hstop, fun s' => ?_⟩
  simp only [parsePhrase, parseValue_eq_ok, hrun, Allowed, phraseCount, hcount, hnesting, Except.ok.injEq]
  rw [eq_comm]
  exact ⟨fun ⟨hdepth, hnodes, hend⟩ => ⟨⟨honce, hdepth, hnodes⟩, hend⟩,
    fun ⟨⟨_, hdepth, hnodes⟩, hend⟩ => ⟨hdepth, hnodes, hend⟩⟩

theorem parseStart_literal {literal : String} {u : UInt16} {after : Text}
    (hliteral : rest = Host.text literal ++ after) (hhead : (Host.text literal).head? = some u)
    {object array : JsonScanner → Except ScanFailure JsonScanner} (h : Rests text s.index rest)
    (hstart : text[s.index]? = some u → parseStart text object array s = (do
      let index ← parseLiteral text literal s.index
      return { s with index }))
    : ∃ stop, parseStart text object array s = .ok { s with index := stop } ∧ Rests text stop after := by
  subst hliteral
  obtain ⟨stop, hrun, hstop⟩ := parseLiteral_complete h
  refine ⟨stop, ?_, hstop⟩
  rw [hstart ?_, Checks.bind_of_ok hrun]
  . rfl
  . rw [h.get, List.head?_append, hhead]
    rfl

theorem separated_close {loop : JsonScanner → Except ScanFailure JsonScanner} {after : Text}
    (h : Rests text s.index rest) (hspace : Whitespace rest (close :: after))
    (hclose : isWhitespace close = false ∧ close ≠ 0x2C)
    : ∃ stop, Rests text stop after ∧ ∀ s', Separated text close loop s s' ↔ s' = { s with index := stop } := by
  have hskip := rests_of_whitespace h hspace (nonSpace_cons hclose.1 after)
  refine ⟨_, hskip.tail, fun s' => ?_⟩
  unfold Separated
  rw [hskip.get_cons]
  simp only [Option.some_inj, true_and, hclose.2, false_and, or_false]

theorem separated_comma {loop : JsonScanner → Except ScanFailure JsonScanner} {space next : Text}
    (h : Rests text s.index rest) (hcomma : Whitespace rest (0x2C :: space)) (hspace : Whitespace space next)
    (hnext : NonSpace next) (hclose : close ≠ 0x2C)
    : ∃ index, Rests text index next
        ∧ ∀ s', Separated text close loop s s' ↔ loop { s with index } = .ok s' := by
  have hskip := rests_of_whitespace h hcomma (nonSpace_cons (by decide) space)
  refine ⟨_, rests_of_whitespace hskip.tail hspace hnext, fun s' => ?_⟩
  unfold Separated
  rw [hskip.get_cons, Option.some_inj]
  simp only [hclose.symm, false_and, true_and, false_or]

theorem emptyContainer_complete {loop : JsonScanner → Except ScanFailure JsonScanner} {u : UInt16}
    {after : Text} (h : Rests text s.index (u :: rest)) (hspace : Whitespace rest (close :: after))
    (hclose : isWhitespace close = false)
    : ∃ stop, parseContainer text close loop s = .ok { s with index := stop } ∧ Rests text stop after := by
  have hskip := rests_of_whitespace h.tail hspace (nonSpace_cons hclose after)
  exact ⟨_, parseContainer_eq_ok.mpr (.inl ⟨hskip.get_cons, rfl⟩), hskip.tail⟩

theorem container_complete {loop : JsonScanner → Except ScanFailure JsonScanner} {u : UInt16}
    {first : Text} (h : Rests text s.index (u :: rest)) (hspace : Whitespace rest first) (hfirst : NonSpace first)
    (hclose : first.head? ≠ some close)
    : ∃ index, Rests text index first ∧ parseContainer text close loop s = loop { s with index } := by
  have hskip := rests_of_whitespace h.tail hspace hfirst
  refine ⟨_, hskip, ?_⟩
  unfold parseContainer
  dsimp only
  rw [hskip.get, if_neg hclose]

theorem lastItem_complete {item : Json Text} {start after last : Text}
    (hclose : Whitespace after (0x5D :: last)) (ih : Completes text maximumNodes (.value item) start after)
    : Completes text maximumNodes (.items [item]) start last := by
  intro rounds depth keys s hrounds hkeys h
  obtain ⟨rounds, rfl⟩ : ∃ n, rounds = n + 1 := ⟨rounds - 1, by rw [enoughRounds] at hrounds; omega⟩
  rw [enoughRounds] at hrounds
  obtain ⟨stop, hstop, hvalue⟩ := ih rounds (depth + 1) keys s (by rw [enoughRounds]; omega) hkeys h
  obtain ⟨close, hlast, hseparated⟩ := @separated_close text after
    { index := stop, nodes := s.nodes + valueCount item } 0x5D (parseArray text maximumNodes rounds depth) last hstop
    hclose (by decide)
  refine ⟨close, hlast, fun s' => ?_⟩
  simp only [parsePhrase, Allowed, phraseCount] at hvalue
  simp only [parsePhrase, parseArray_eq_ok, hvalue, Allowed, phraseCount, itemsCount, itemsNesting,
    List.forall_mem_singleton, and_assoc, exists_and_left, exists_eq_left, hseparated, Nat.add_zero]
  constructor
  . rintro ⟨honce, hdepth, hnodes, hend⟩
    exact ⟨honce, by omega, hnodes, hend⟩
  . rintro ⟨honce, hdepth, hnodes, hend⟩
    exact ⟨honce, by omega, hnodes, hend⟩

theorem items_complete {item : Json Text} {items : List (Json Text)} {start after next last space : Text}
    (hitem : Derives (.value item) start after) (hcomma : Whitespace after (0x2C :: space))
    (hspace : Whitespace space next) (hitems : Derives (.items items) next last)
    (ih : Completes text maximumNodes (.value item) start after)
    (ih' : Completes text maximumNodes (.items items) next last)
    : Completes text maximumNodes (.items (item :: items)) start last := by
  intro rounds depth keys s hrounds hkeys h
  obtain ⟨rounds, rfl⟩ : ∃ n, rounds = n + 1 := ⟨rounds - 1, by rw [enoughRounds] at hrounds; omega⟩
  have hlt := hitem.length_lt
  have hcommaLength := hcomma.length_le
  have hspaceLength := hspace.length_le
  rw [List.length_cons] at hcommaLength
  rw [enoughRounds] at hrounds
  obtain ⟨stop, hstop, hvalue⟩ := ih rounds (depth + 1) keys s (by rw [enoughRounds]; omega) hkeys h
  obtain ⟨index, hindex, hseparated⟩ := @separated_comma text after
    { index := stop, nodes := s.nodes + valueCount item } 0x5D (parseArray text maximumNodes rounds depth) space next
    hstop hcomma hspace hitems.nonSpace (by decide)
  obtain ⟨stop', hlast, hrest⟩ := ih' rounds depth keys { index, nodes := s.nodes + valueCount item }
    (by rw [enoughRounds]; omega) hkeys hindex
  refine ⟨stop', hlast, fun s' => ?_⟩
  simp only [parsePhrase, Allowed, phraseCount] at hvalue hrest
  simp only [parsePhrase, parseArray_eq_ok, hvalue, Allowed, phraseCount, itemsCount, itemsNesting,
    List.forall_mem_cons, and_assoc, exists_and_left, exists_eq_left, hseparated, hrest, Nat.add_assoc]
  constructor
  . rintro ⟨honce, hdepth, _, hall, hdepth', hnodes, hend⟩
    exact ⟨honce, hall, by omega, hnodes, hend⟩
  . rintro ⟨honce, hall, hdepth, hnodes, hend⟩
    exact ⟨honce, by omega, by omega, hall, by omega, hnodes, hend⟩

theorem nodup_append_singleton {keys : List Text} {key : Text} (hkeys : keys.Nodup)
    : (keys ++ [key]).Nodup ↔ key ∉ keys := by
  rw [List.nodup_append]
  constructor
  . intro h hmem
    exact h.2.2 key hmem key (List.mem_singleton_self key) rfl
  . intro hnew
    refine ⟨hkeys, List.nodup_singleton key, ?_⟩
    rintro other hother _ hmem rfl
    rw [List.mem_singleton] at hmem
    exact hnew (hmem ▸ hother)

theorem member_complete {key : Text} {tree : Json Text} {start before space first after : Text}
    (hkey : Characters key start before) (hcolon : Whitespace before (0x3A :: space))
    (hspace : Whitespace space first) (hvalue : Derives (.value tree) first after)
    (ih : Completes text maximumNodes (.value tree) first after) {keys : List Text} (hkeys : keys.Nodup)
    (hrounds : 3 * start.length ≤ rounds) (h : Rests text s.index (0x22 :: start))
    : ∃ stop, Rests text stop after
        ∧ ∀ s', parseObject text maximumNodes (rounds + 1) depth keys s = .ok s'
          ↔ key ∉ keys ∧ Allowed maximumNodes (depth + 1) keys s.nodes (.value tree)
            ∧ Separated text 0x7D (parseObject text maximumNodes rounds depth (keys ++ [key]))
                { index := stop, nodes := s.nodes + valueCount tree } s' := by
  obtain ⟨index, hstring, hindex⟩ := parseString_complete h hkey
  have hmark := rests_of_whitespace hindex hcolon (nonSpace_cons (by decide) space)
  have hfirst := rests_of_whitespace hmark.tail hspace hvalue.nonSpace
  have hlt := hkey.length_lt
  have hcolonLength := hcolon.length_le
  have hspaceLength := hspace.length_le
  rw [List.length_cons] at hcolonLength
  obtain ⟨stop, hstop, hrun⟩ := ih rounds (depth + 1) keys
    { s with index := skipWhitespace text (skipWhitespace text index + 1) } (by rw [enoughRounds]; omega) hkeys hfirst
  refine ⟨stop, hstop, fun s' => ?_⟩
  simp only [parsePhrase, phraseCount] at hrun
  simp only [parseObject_eq_ok, h.get_cons, hstring, Except.ok.injEq, Prod.mk.injEq, true_and, and_assoc,
    exists_and_left, exists_eq_left', hmark.get_cons, hrun, exists_eq_left]

theorem lastMember_complete {key : Text} {tree : Json Text} {start before space first after last : Text}
    (hkey : Characters key start before) (hcolon : Whitespace before (0x3A :: space))
    (hspace : Whitespace space first) (hvalue : Derives (.value tree) first after)
    (hclose : Whitespace after (0x7D :: last)) (ih : Completes text maximumNodes (.value tree) first after)
    : Completes text maximumNodes (.members [(key, tree)]) (0x22 :: start) last := by
  intro rounds depth keys s hrounds hkeys h
  obtain ⟨rounds, rfl⟩ : ∃ n, rounds = n + 1 := ⟨rounds - 1, by rw [enoughRounds] at hrounds; omega⟩
  rw [enoughRounds, List.length_cons] at hrounds
  obtain ⟨stop, hstop, hrun⟩ := @member_complete text maximumNodes rounds depth s key tree start before space first
    after hkey hcolon hspace hvalue ih keys hkeys (by omega) h
  obtain ⟨close, hlast, hseparated⟩ := @separated_close text after
    { index := stop, nodes := s.nodes + valueCount tree } 0x7D
    (parseObject text maximumNodes rounds depth (keys ++ [key])) last hstop hclose (by decide)
  refine ⟨close, hlast, fun s' => ?_⟩
  simp only [parsePhrase, hrun, hseparated, Allowed, phraseCount, membersCount, membersNesting, List.map_cons,
    List.map_nil, nodup_append_singleton hkeys, List.forall_mem_singleton, and_assoc, Nat.add_zero]
  constructor
  . rintro ⟨hnew, honce, hdepth, hnodes, hend⟩
    exact ⟨hnew, honce, by omega, hnodes, hend⟩
  . rintro ⟨hnew, honce, hdepth, hnodes, hend⟩
    exact ⟨hnew, honce, by omega, hnodes, hend⟩

theorem members_complete {key : Text} {tree : Json Text} {members : List (Text × Json Text)}
    {start before space first after space' next last : Text} (hkey : Characters key start before)
    (hcolon : Whitespace before (0x3A :: space)) (hspace : Whitespace space first)
    (hvalue : Derives (.value tree) first after) (hcomma : Whitespace after (0x2C :: space'))
    (hspace' : Whitespace space' next) (hmembers : Derives (.members members) next last)
    (ih : Completes text maximumNodes (.value tree) first after)
    (ih' : Completes text maximumNodes (.members members) next last)
    : Completes text maximumNodes (.members ((key, tree) :: members)) (0x22 :: start) last := by
  intro rounds depth keys s hrounds hkeys h
  obtain ⟨rounds, rfl⟩ : ∃ n, rounds = n + 1 := ⟨rounds - 1, by rw [enoughRounds] at hrounds; omega⟩
  rw [enoughRounds, List.length_cons] at hrounds
  have hlength : next.length < start.length := by
    have hlt := hkey.length_lt
    have hcolonLength := hcolon.length_le
    have hspaceLength := hspace.length_le
    have hvalueLength := hvalue.length_lt
    have hcommaLength := hcomma.length_le
    have hnextLength := hspace'.length_le
    rw [List.length_cons] at hcolonLength hcommaLength
    omega
  obtain ⟨stop, hstop, hrun⟩ := @member_complete text maximumNodes rounds depth s key tree start before space first
    after hkey hcolon hspace hvalue ih keys hkeys (by omega) h
  obtain ⟨index, hindex, hseparated⟩ := @separated_comma text after
    { index := stop, nodes := s.nodes + valueCount tree } 0x7D
    (parseObject text maximumNodes rounds depth (keys ++ [key])) space' next hstop hcomma hspace' hmembers.nonSpace
    (by decide)
  by_cases hnew : key ∈ keys
  . obtain ⟨stop', hlast, _⟩ := ih' rounds depth [] { index, nodes := s.nodes + valueCount tree }
      (by rw [enoughRounds]; omega) .nil hindex
    refine ⟨stop', hlast, fun s' => ?_⟩
    simp only [parsePhrase, hrun, hnew, not_true_eq_false, false_and, Allowed, List.map_cons, false_iff]
    rintro ⟨⟨⟨hnodup, _⟩, _⟩, _⟩
    exact (List.nodup_append.mp hnodup).2.2 key hnew key List.mem_cons_self rfl
  . obtain ⟨stop', hlast, hrest⟩ := ih' rounds depth (keys ++ [key]) { index, nodes := s.nodes + valueCount tree }
      (by rw [enoughRounds]; omega) ((nodup_append_singleton hkeys).mpr hnew) hindex
    refine ⟨stop', hlast, fun s' => ?_⟩
    simp only [parsePhrase, Allowed, phraseCount] at hrest
    simp only [parsePhrase, hrun, hseparated, hrest, Allowed, phraseCount, membersCount, membersNesting, List.map_cons,
      List.forall_mem_cons, and_assoc, Nat.add_assoc, List.append_assoc, List.singleton_append]
    constructor
    . rintro ⟨_, honce, hdepth, _, hnodup, hall, hdepth', hnodes, hend⟩
      exact ⟨hnodup, honce, hall, by omega, hnodes, hend⟩
    . rintro ⟨hnodup, honce, hall, hdepth, hnodes, hend⟩
      exact ⟨hnew, honce, by omega, by omega, hnodup, hall, by omega, hnodes, hend⟩

theorem Allowed.bounds {keys : List Text} {nodes : Nat} {phrase : Phrase}
    (h : Allowed maximumNodes depth keys nodes phrase)
    : depth ≤ maxBoundedJsonDepth ∧ nodes ≤ maximumNodes := by
  cases phrase <;> simp only [Allowed] at h <;> omega

theorem container_value {start close : UInt16} {tree : Json Text} {phrase : Phrase} {text' first last : Text}
    (hcount : valueCount tree = 1 + phraseCount phrase)
    (hallowed : ∀ depth nodes, Allowed maximumNodes depth [] nodes (.value tree)
      ↔ Allowed maximumNodes depth [] (nodes + 1) phrase)
    (hrun : ∀ rounds depth s, text[s.index]? = some start →
      parseStart text (parseObject text maximumNodes rounds depth []) (parseArray text maximumNodes rounds depth) s
        = parseContainer text close (parsePhrase text maximumNodes rounds depth [] phrase) s)
    (hrounds : ∀ length, enoughRounds length phrase = 3 * length + 2) (hclose : close = 0x5D ∨ close = 0x7D)
    (hspace : Whitespace text' first) (hphrase : Derives phrase first last)
    (ih : Completes text maximumNodes phrase first last)
    : Completes text maximumNodes (.value tree) (start :: text') last := by
  intro rounds depth keys s hle hkeys h
  obtain ⟨rounds, rfl⟩ : ∃ n, rounds = n + 1 := ⟨rounds - 1, by rw [enoughRounds] at hle; omega⟩
  rw [enoughRounds, List.length_cons] at hle
  have hlength := hspace.length_le
  have hhead : first.head? ≠ some close := by
    obtain ⟨u, others, rfl, _, harray, hobject⟩ := hphrase.exists_cons
    rw [List.head?_cons, Ne, Option.some_inj]
    rcases hclose with rfl | rfl
    . exact harray
    . exact hobject
  obtain ⟨index, hindex, hcontainer⟩ := @container_complete text text' { s with nodes := s.nodes + 1 } close
    (parsePhrase text maximumNodes rounds depth [] phrase) start first h hspace hphrase.nonSpace hhead
  obtain ⟨stop, hstop, hloop⟩ := ih rounds depth [] { index, nodes := s.nodes + 1 } (by rw [hrounds]; omega) .nil
    hindex
  refine ⟨stop, hstop, fun s' => ?_⟩
  have hstart := hrun rounds depth { s with nodes := s.nodes + 1 } h.get_cons
  have hvalue : Allowed maximumNodes depth keys s.nodes (.value tree)
      ↔ Allowed maximumNodes depth [] (s.nodes + 1) phrase := hallowed depth s.nodes
  rw [parsePhrase, parseValue_eq_ok, hstart, hcontainer, hloop, hvalue, phraseCount, hcount, ← Nat.add_assoc]
  constructor
  . rintro ⟨_, _, hend⟩
    exact hend
  . intro hend
    exact ⟨hend.1.bounds.1, hend.1.bounds.2, hend⟩

theorem emptyContainer_value {start close : UInt16} {tree : Json Text} {text' last : Text}
    (hcount : valueCount tree = 1) (hnesting : nesting tree = 0) (honce : KeysOnce tree)
    (hrun : ∀ object array s, text[s.index]? = some start →
      ∃ loop, parseStart text object array s = parseContainer text close loop s)
    (hclose : isWhitespace close = false) (hspace : Whitespace text' (close :: last))
    : Completes text maximumNodes (.value tree) (start :: text') last := by
  refine scalar_complete hcount hnesting honce (fun s object array h => ?_)
  obtain ⟨loop, hstart⟩ := hrun object array s h.get_cons
  rw [hstart]
  exact emptyContainer_complete h hspace hclose

theorem number_complete {raw after : Text} (hnumber : Number (raw ++ after) after) (hafter : NumberEnds after)
    : Completes text maximumNodes (.value (.number raw)) (raw ++ after) after := by
  refine scalar_complete rfl rfl (.number raw) (fun s object array h => ?_)
  obtain ⟨stop, hrun, hstop⟩ := parseNumber_complete h hnumber hafter
  refine ⟨stop, ?_, hstop⟩
  obtain ⟨u, others, heq, hu⟩ := hnumber.exists_cons
  rw [heq] at h
  have hother : u ≠ 0x7B ∧ u ≠ 0x5B ∧ u ≠ 0x22 ∧ u ≠ 0x74 ∧ u ≠ 0x66 ∧ u ≠ 0x6E := by
    rcases hu with rfl | hu
    . decide
    . revert hu
      unfold Grammar.isDigit
      grind
  obtain ⟨h₁, h₂, h₃, h₄, h₅, h₆⟩ := hother
  have hstart : some u = some 0x2D ∨ (some u).any Grammar.isDigit = true := by
    rw [Option.some_inj]
    exact hu
  unfold parseStart
  dsimp only
  simp only [h.get_cons, Option.some_inj, h₁, h₂, h₃, h₄, h₅, h₆, if_false]
  rw [Option.some_inj] at hstart
  rw [if_pos hstart, Checks.bind_of_ok hrun]
  rfl

theorem string_complete {key start after : Text} (hkey : Characters key start after)
    : Completes text maximumNodes (.value (.string key)) (0x22 :: start) after := by
  refine scalar_complete rfl rfl (.string key) (fun s object array h => ?_)
  obtain ⟨stop, hrun, hstop⟩ := parseString_complete h hkey
  refine ⟨stop, ?_, hstop⟩
  unfold parseStart
  dsimp only
  rw [h.get_cons, if_neg (by decide), if_neg (by decide), if_pos rfl, Checks.bind_of_ok hrun]
  rfl

theorem complete {phrase : Phrase} {after : Text} (h : Derives phrase rest after) (hafter : NumberEnds after)
    : Completes text maximumNodes phrase rest after := by
  induction h with
  | nullLiteral after =>
    refine scalar_complete rfl rfl .null (fun s object array h => ?_)
    have hhead : (Host.text "null").head? = some 0x6E := rfl
    exact parseStart_literal rfl hhead h (fun hget => by simp [parseStart, hget])
  | trueLiteral after =>
    refine scalar_complete rfl rfl (.bool true) (fun s object array h => ?_)
    have hhead : (Host.text "true").head? = some 0x74 := rfl
    exact parseStart_literal rfl hhead h (fun hget => by simp [parseStart, hget])
  | falseLiteral after =>
    refine scalar_complete rfl rfl (.bool false) (fun s object array h => ?_)
    have hhead : (Host.text "false").head? = some 0x66 := rfl
    exact parseStart_literal rfl hhead h (fun hget => by simp [parseStart, hget])
  | number hnumber => exact number_complete hnumber hafter
  | string hkey => exact string_complete hkey
  | emptyArray hclose =>
    exact emptyContainer_value rfl rfl (.array [] nofun)
      (fun object array s hget => ⟨array, by simp [parseStart, hget]⟩) (by decide) hclose
  | emptyObject hclose =>
    exact emptyContainer_value rfl rfl (.object [] .nil nofun)
      (fun object array s hget => ⟨object, by simp [parseStart, hget]⟩) (by decide) hclose
  | @array items start first last hspace hitems ih =>
    refine container_value (by rw [valueCount, phraseCount]) (fun depth nodes => ?_)
      (fun rounds depth s hget => by simp [parseStart, hget, parsePhrase]) (fun _ => rfl) (.inl rfl) hspace hitems
      (ih hafter)
    simp only [Allowed, keysOnce_array, nesting, valueCount, Nat.add_assoc]
  | @object members start first last hspace hmembers ih =>
    refine container_value (by rw [valueCount, phraseCount]) (fun depth nodes => ?_)
      (fun rounds depth s hget => by simp [parseStart, hget, parsePhrase]) (fun _ => rfl) (.inr rfl) hspace hmembers
      (ih hafter)
    simp only [Allowed, keysOnce_object, nesting, valueCount, Nat.add_assoc, List.nil_append]
  | lastItem _ hclose ih =>
    exact lastItem_complete hclose (ih (hclose.numberEnds (numberEnds_cons _ (by decide) (by decide))))
  | item hitem hcomma hspace hitems ih ih' =>
    exact items_complete hitem hcomma hspace hitems
      (ih (hcomma.numberEnds (numberEnds_cons _ (by decide) (by decide)))) (ih' hafter)
  | lastMember hkey hcolon hspace hvalue hclose ih =>
    exact lastMember_complete hkey hcolon hspace hvalue hclose
      (ih (hclose.numberEnds (numberEnds_cons _ (by decide) (by decide))))
  | member hkey hcolon hspace hvalue hcomma hspace' hmembers ih ih' =>
    exact members_complete hkey hcolon hspace hvalue hcomma hspace' hmembers
      (ih (hcomma.numberEnds (numberEnds_cons _ (by decide) (by decide)))) (ih' hafter)

def Finishes {α : Type} (run : Except ScanFailure α) : Prop :=
  run ≠ .error .unfinished

namespace Finishes

variable {α β : Type}

theorem error (index : Nat) (message : String)
    : Finishes (.error (boundedJsonParseError index message) : Except ScanFailure α) := by
  intro h
  cases h

theorem ok (a : α) : Finishes (.ok a) := by
  intro h
  cases h

theorem failIf (condition : Prop) [Decidable condition] (index : Nat) (message : String)
    : Finishes (Checks.failIf condition (boundedJsonParseError index message)) := by
  unfold Checks.failIf
  split
  . exact error index message
  . exact ok ()

theorem bind {run : Except ScanFailure α} {next : α → Except ScanFailure β} (h : Finishes run)
    (hnext : ∀ a, run = .ok a → Finishes (next a))
    : Finishes (run >>= next) := by
  intro herror
  rcases Checks.bind_eq_error.mp herror with hrun | ⟨a, hrun, herror⟩
  . exact h hrun
  . exact hnext a hrun herror

theorem ite {condition : Prop} [Decidable condition] {run other : Except ScanFailure α}
    (h : condition → Finishes run) (hother : ¬condition → Finishes other)
    : Finishes (if condition then run else other) := by
  split
  . next hcondition => exact h hcondition
  . next hcondition => exact hother hcondition

end Finishes

theorem closingQuote_finishes (rest : Text) (index : Nat) : Finishes (closingQuote rest index) := by
  fun_induction closingQuote rest index with
  | case2 => exact .ok _
  | case4 _ _ _ _ _ _ _ _ ih | case7 _ _ _ _ _ _ ih | case10 _ _ _ _ _ _ ih => exact ih
  | _ => exact .error _ _

theorem parseString_finishes (text : Text) (index : Nat) : Finishes (parseString text index) := by
  refine .bind (closingQuote_finishes _ _) (fun stop _ => .bind ?_ (fun key _ => .ok _))
  unfold Checks.found
  split
  . exact .ok _
  . exact .error _ _

theorem parseLiteral_finishes (text : Text) (literal : String) (index : Nat)
    : Finishes (parseLiteral text literal index) :=
  .ite (fun _ => .ok _) (fun _ => .error _ _)

theorem consumeDigits_finishes (text : Text) (requireOne : Bool) (index : Nat)
    : Finishes (consumeDigits text requireOne index) :=
  .bind (.failIf _ _ _) (fun _ _ => .ok _)

theorem parseNumber_finishes (text : Text) (index : Nat) : Finishes (parseNumber text index) := by
  refine .bind ?_ (fun _ _ => .bind ?_ (fun _ _ => .bind ?_ (fun _ _ => .bind (.failIf _ _ _) (fun _ _ => .ok _))))
  . exact .ite (fun _ => .bind (.failIf _ _ _) (fun _ _ => .ok _)) (fun _ => consumeDigits_finishes _ _ _)
  . exact .ite (fun _ => consumeDigits_finishes _ _ _) (fun _ => .ok _)
  . exact .ite (fun _ => .ite (fun _ => consumeDigits_finishes _ _ _) (fun _ => consumeDigits_finishes _ _ _))
      (fun _ => .ok _)

theorem parseContainer_finishes {loop : JsonScanner → Except ScanFailure JsonScanner} {u : UInt16}
    (h : Rests text s.index (u :: rest))
    (hloop : ∀ s first, first.length ≤ rest.length → Rests text s.index first → Finishes (loop s))
    : Finishes (parseContainer text close loop s) :=
  .ite (fun _ => .ok _) (fun _ => hloop _ _ (List.length_dropWhile_le _ _) (rests_skipWhitespace h.tail))

theorem parseStart_finishes {object array : JsonScanner → Except ScanFailure JsonScanner}
    (h : Rests text s.index rest)
    (hobject : ∀ s first, first.length < rest.length → Rests text s.index first → Finishes (object s))
    (harray : ∀ s first, first.length < rest.length → Rests text s.index first → Finishes (array s))
    : Finishes (parseStart text object array s) := by
  refine .ite (fun hopen => ?_) (fun _ => .ite (fun hopen => ?_) (fun _ => ?_))
  . obtain ⟨others, rfl⟩ := h.exists_cons hopen
    exact parseContainer_finishes h (fun s first hle => hobject s first (Nat.lt_succ_of_le hle))
  . obtain ⟨others, rfl⟩ := h.exists_cons hopen
    exact parseContainer_finishes h (fun s first hle => harray s first (Nat.lt_succ_of_le hle))
  . refine .ite (fun _ => .bind (parseString_finishes _ _) (fun _ _ => .ok _)) (fun _ => ?_)
    refine .ite (fun _ => .bind (parseLiteral_finishes _ _ _) (fun _ _ => .ok _)) (fun _ => ?_)
    refine .ite (fun _ => .bind (parseLiteral_finishes _ _ _) (fun _ _ => .ok _)) (fun _ => ?_)
    refine .ite (fun _ => .bind (parseLiteral_finishes _ _ _) (fun _ _ => .ok _)) (fun _ => ?_)
    exact .ite (fun _ => .bind (parseNumber_finishes _ _) (fun _ _ => .ok _)) (fun _ => .error _ _)

theorem finishes (text : Text) (maximumNodes rounds : Nat)
    : (∀ depth s rest, 3 * rest.length + 1 ≤ rounds → Rests text s.index rest →
          Finishes (parseValue text maximumNodes rounds depth s))
        ∧ (∀ depth s rest, 3 * rest.length + 2 ≤ rounds → Rests text s.index rest →
          Finishes (parseArray text maximumNodes rounds depth s))
        ∧ ∀ depth keys s rest, 3 * rest.length + 2 ≤ rounds → Rests text s.index rest →
          Finishes (parseObject text maximumNodes rounds depth keys s) := by
  induction rounds with
  | zero => exact ⟨fun _ _ _ h => by omega, fun _ _ _ h => by omega, fun _ _ _ _ h => by omega⟩
  | succ rounds ih =>
    obtain ⟨hvalue, harray, hobject⟩ := ih
    -- what is left after a value and a separator
    have hafter : ∀ depth s value rest, Rests text s.index rest →
        parseValue text maximumNodes rounds depth s = .ok value →
        ∀ index, text[skipWhitespace text value.index]? = some index →
          ∃ next, next.length < rest.length
            ∧ Rests text (skipWhitespace text (skipWhitespace text value.index + 1)) next := by
      intro depth s value rest h hrun index hindex
      obtain ⟨tree, after, hderives, _, hscanned⟩ := (sound text maximumNodes rounds).1 depth s value rest h hrun
      obtain ⟨space, hspace, hrests⟩ := rests_cons_of_skip hscanned.rests hindex
      refine ⟨_, ?_, rests_skipWhitespace hrests⟩
      have hlt := hderives.length_lt
      have hle := hspace.length_le
      have hle' := List.length_dropWhile_le isWhitespace space
      rw [List.length_cons] at hle
      omega
    refine ⟨?_, ?_, ?_⟩
    . intro depth s rest hrounds h
      rw [parseValue]
      refine .bind (.failIf _ _ _) (fun _ _ => .bind (.bind (.failIf _ _ _) (fun _ _ => .ok _)) ?_)
      intro counted hcount
      obtain ⟨_, rfl⟩ := countNode_eq_ok.mp hcount
      exact parseStart_finishes h
        (fun s first hlt hfirst => hobject depth [] s first (by omega) hfirst)
        (fun s first hlt hfirst => harray depth s first (by omega) hfirst)
    . intro depth s rest hrounds h
      rw [parseArray]
      refine .bind (hvalue (depth + 1) s rest (by omega) h) (fun item hitem => ?_)
      refine .ite (fun _ => .ok _) (fun _ => .bind (.failIf _ _ _) (fun _ hcomma => ?_))
      rw [Checks.failIf_eq_ok, not_not] at hcomma
      obtain ⟨next, hlt, hnext⟩ := hafter (depth + 1) s item rest h hitem _ hcomma
      exact harray depth _ next (by omega) hnext
    . intro depth keys s rest hrounds h
      rw [parseObject]
      refine .bind (.failIf _ _ _) (fun _ hquote => .bind (parseString_finishes _ _) (fun key hstring => ?_))
      rw [Checks.failIf_eq_ok, not_not] at hquote
      obtain ⟨others, rfl⟩ := h.exists_cons hquote
      obtain ⟨before, hkey, hbefore⟩ := @parseString_sound text s.index others key.1 key.2 h hstring
      refine .bind (.failIf _ _ _) (fun _ _ => .bind (.failIf _ _ _) (fun _ hcolon => ?_))
      rw [Checks.failIf_eq_ok, not_not] at hcolon
      obtain ⟨space, hspace, hrests⟩ := rests_cons_of_skip hbefore hcolon
      have hlength : (space.dropWhile isWhitespace).length < others.length := by
        have hlt := hkey.length_lt
        have hle := hspace.length_le
        have hle' := List.length_dropWhile_le isWhitespace space
        rw [List.length_cons] at hle
        omega
      rw [List.length_cons] at hrounds
      refine .bind (hvalue (depth + 1) _ _ (by omega) (rests_skipWhitespace hrests)) (fun value hrun => ?_)
      refine .ite (fun _ => .ok _) (fun _ => .bind (.failIf _ _ _) (fun _ hcomma => ?_))
      rw [Checks.failIf_eq_ok, not_not] at hcomma
      obtain ⟨next, hlt, hnext⟩ := hafter (depth + 1) _ value _ (rests_skipWhitespace hrests) hrun _ hcomma
      exact hobject depth _ _ next (by omega) hnext

theorem parse_eq_ok {nodes : Nat}
    : JsonScanner.parse text maximumNodes rounds = .ok nodes
        ↔ ∃ s, parseValue text maximumNodes rounds 0 { index := skipWhitespace text 0, nodes := 0 } = .ok s
          ∧ skipWhitespace text s.index = text.length ∧ s.nodes = nodes := by
  unfold JsonScanner.parse
  simp only [Checks.bind_eq_ok, Checks.failIf_eq_ok, Checks.pure_eq_ok, not_not, exists_and_left, exists_const]

theorem parse_finishes (hrounds : 3 * text.length + 1 ≤ rounds)
    : JsonScanner.parse text maximumNodes rounds ≠ .error .unfinished := by
  refine Finishes.bind ?_ (fun s _ => .bind (.failIf _ _ _) (fun _ _ => .ok _))
  have hle := List.length_dropWhile_le isWhitespace text
  exact (finishes text maximumNodes rounds).1 0 _ _ (by omega) (rests_skipWhitespace (.start text))

theorem parse_sound {nodes : Nat} (h : JsonScanner.parse text maximumNodes rounds = .ok nodes)
    : ∃ tree, JsonText tree text ∧ KeysOnce tree ∧ nesting tree ≤ maxBoundedJsonDepth
        ∧ valueCount tree ≤ maximumNodes ∧ valueCount tree = nodes := by
  obtain ⟨s, hrun, hend, rfl⟩ := parse_eq_ok.mp h
  obtain ⟨tree, after, hderives, honce, hrests, hnodes, hbounded, hdepth⟩ :=
    (sound text maximumNodes rounds).1 0 _ s _ (rests_skipWhitespace (.start text)) hrun
  have hafter := rests_skipWhitespace hrests
  have hlength := hafter.length
  have hnil : after.dropWhile isWhitespace = [] := List.eq_nil_of_length_eq_zero (by omega)
  refine ⟨tree, ⟨whitespace_dropWhile text, hderives, hnil ▸ whitespace_dropWhile after⟩, honce, ?_, ?_, ?_⟩
  . rw [Nat.zero_add] at hdepth
    exact hdepth
  . dsimp only at hnodes
    omega
  . dsimp only at hnodes
    omega

theorem parse_complete {tree : Json Text} (h : JsonText tree text) (hrounds : 3 * text.length + 1 ≤ rounds)
    {nodes : Nat}
    : JsonScanner.parse text maximumNodes rounds = .ok nodes
        ↔ KeysOnce tree ∧ nesting tree ≤ maxBoundedJsonDepth ∧ valueCount tree ≤ maximumNodes
          ∧ valueCount tree = nodes := by
  obtain ⟨hbefore, hvalue, hafter⟩ := h
  have hstart := rests_of_whitespace (.start text) hbefore hvalue.nonSpace
  have hle := hbefore.length_le
  have hcomplete : Completes text maximumNodes (.value tree) _ _ :=
    complete hvalue (hafter.numberEnds numberEnds_nil)
  obtain ⟨stop, hstop, hrun⟩ := hcomplete rounds 0 []
    { index := skipWhitespace text 0, nodes := 0 } (by rw [enoughRounds]; omega) .nil hstart
  have hend := (rests_of_whitespace hstop hafter (fun u hu => absurd hu (by simp))).length
  rw [List.length_nil, Nat.add_zero] at hend
  simp only [parsePhrase, Allowed, phraseCount, Nat.zero_add] at hrun
  rw [parse_eq_ok]
  simp only [hrun, and_assoc, exists_and_left, exists_eq_left, hend, true_and]

/-- The scanner terminates, accepts the JSON texts within the bounds and no others, and counts the values of the
tree. -/
theorem parse_accepts_exactly (text : Text) (maximumNodes : Nat) {rounds : Nat}
    (hrounds : 3 * text.length + 1 ≤ rounds)
    : JsonScanner.parse text maximumNodes rounds ≠ .error .unfinished
        ∧ (∀ nodes, JsonScanner.parse text maximumNodes rounds = .ok nodes
          ↔ ∃ tree, JsonText tree text ∧ KeysOnce tree ∧ nesting tree ≤ maxBoundedJsonDepth
            ∧ valueCount tree ≤ maximumNodes ∧ valueCount tree = nodes)
        ∧ ∀ tree, JsonText tree text → ∀ nodes, JsonScanner.parse text maximumNodes rounds = .ok nodes →
          KeysOnce tree ∧ nesting tree ≤ maxBoundedJsonDepth ∧ valueCount tree = nodes := by
  refine ⟨parse_finishes hrounds, fun nodes => ⟨parse_sound, ?_⟩, ?_⟩
  . rintro ⟨tree, htext, hallowed⟩
    exact (parse_complete htext hrounds).mpr hallowed
  . intro tree htext nodes h
    obtain ⟨honce, hdepth, _, hcount⟩ := (parse_complete htext hrounds).mp h
    exact ⟨honce, hdepth, hcount⟩

end Runs

namespace ScanSample

def sampleText : Text :=
  Host.text "[-1.5e3, \x7b\"a\": \"\\u0061\"\x7d]"

theorem parse_accepts_exactly_sampleText
    : ∃ tree, JsonText tree sampleText ∧ KeysOnce tree ∧ nesting tree ≤ maxBoundedJsonDepth ∧ valueCount tree ≤ 4
        ∧ valueCount tree = 4 :=
  ((@parse_accepts_exactly sampleText 4 90 (by decide +kernel)).2.1 4).mp (by decide +kernel)

end ScanSample

end Evaluation
end ProofStack
