import ProofStack.Json.Canonical
import ProofStack.Json.Utf8

/-!
This module contains the number of bytes that the text of a JSON value has, computed from the value
without its text.
-/

namespace ProofStack
namespace Json

def byteLength (text : List Char) : Nat :=
  (encodeUtf8 text).length

theorem byteLength_nil : byteLength [] = 0 :=
  rfl

theorem byteLength_append (left right : List Char)
    : byteLength (left ++ right) = byteLength left + byteLength right := by
  rw [byteLength, encodeUtf8, List.flatMap_append, List.length_append]
  rfl

theorem byteLength_cons (c : Char) (rest : List Char)
    : byteLength (c :: rest) = c.utf8Size + byteLength rest := by
  rw [byteLength, encodeUtf8, List.flatMap_cons, List.length_append, String.length_utf8EncodeChar]
  rfl

theorem byteLength_pos {text : List Char} (h : text ≠ []) : 0 < byteLength text := by
  cases text with
  | nil => contradiction
  | cons c rest =>
    have hpos := c.utf8Size_pos
    rw [byteLength_cons]
    omega

theorem quoteUnit_ne_nil (u : UInt16) : quoteUnit u ≠ [] := by
  unfold quoteUnit
  repeat' split
  all_goals simp

theorem two_le_utf8Size_pairChar {high low : UInt16} (hhigh : isHighSurrogate high)
    (hlow : isLowSurrogate low)
    : 2 ≤ (pairChar high low).utf8Size := by
  have hle := (charUnits_pairChar hhigh hlow).1
  have hpos := (pairChar high low).utf8Size_pos
  have hone : (pairChar high low).utf8Size ≠ 1 := by
    intro heq
    have hval := Nat.le_of_lt_succ (Nat.lt_succ_of_le (Char.utf8Size_eq_one_iff.mp heq))
    have htoNat : (pairChar high low).toNat ≤ 127 := hval
    omega
  omega

theorem length_le_byteLength_quoteUnits (units : List UInt16)
    : units.length ≤ byteLength (quoteUnits units) := by
  fun_induction quoteUnits units with
  | case1 => exact Nat.le_refl 0
  | case2 u => exact byteLength_pos (quoteUnit_ne_nil u)
  | case3 u v rest hpair ih =>
    rw [Bool.and_eq_true] at hpair
    have htwo := two_le_utf8Size_pairChar hpair.1 hpair.2
    rw [byteLength_cons, List.length_cons, List.length_cons]
    omega
  | case4 u v rest _ ih =>
    have hpos := byteLength_pos (quoteUnit_ne_nil u)
    rw [byteLength_append, List.length_cons]
    omega

theorem length_add_two_le_byteLength_quote (units : List UInt16)
    : units.length + 2 ≤ byteLength (quote units) := by
  have hunits := length_le_byteLength_quoteUnits units
  have hquote := Char.utf8Size_pos '"'
  rw [quote, byteLength_append, byteLength_cons, byteLength_cons, byteLength_nil]
  omega

def joinedLength : Nat → List Nat → Nat
  | _, [] => 0
  | count, length :: lengths =>
    (if count = 0 then 0 else 1) + (length + joinedLength (count + 1) lengths)

variable {ν : Type} [NumberText ν]

def tokensLength (tokens : List (Token ν)) : Nat :=
  byteLength (tokens.flatMap Token.text)

def size (value : Json ν) : Nat :=
  byteLength value.stringify

def memberSize (member : List UInt16 × Json ν) : Nat :=
  byteLength (quote member.1) + 1 + member.2.size

theorem tokensLength_nil : tokensLength ([] : List (Token ν)) = 0 :=
  rfl

theorem tokensLength_cons (token : Token ν) (tokens : List (Token ν))
    : tokensLength (token :: tokens) = byteLength token.text + tokensLength tokens := by
  rw [tokensLength, List.flatMap_cons, byteLength_append]
  rfl

theorem tokensLength_append (left right : List (Token ν))
    : tokensLength (left ++ right) = tokensLength left + tokensLength right := by
  rw [tokensLength, List.flatMap_append, byteLength_append]
  rfl

theorem tokensLength_tokens (value : Json ν) : tokensLength value.tokens = value.size :=
  rfl

theorem byteLength_comma : byteLength (Token.comma (ν := ν)).text = 1 :=
  rfl

theorem joinedLength_succ (count : Nat) (lengths : List Nat)
    : joinedLength (count + 1) lengths = (lengths.map (1 + ·)).sum := by
  induction lengths generalizing count with
  | nil => rfl
  | cons length lengths ih =>
    rw [joinedLength, if_neg (Nat.succ_ne_zero count), ih, List.map_cons, List.sum_cons]
    omega

theorem tokensLength_flatMap_comma (parts : List (List (Token ν)))
    : tokensLength (parts.flatMap (fun part => .comma :: part))
        = ((parts.map tokensLength).map (1 + ·)).sum := by
  induction parts with
  | nil => rfl
  | cons part parts ih =>
    rw [List.flatMap_cons, tokensLength_append, tokensLength_cons, byteLength_comma, ih, List.map_cons,
      List.map_cons, List.sum_cons]

theorem tokensLength_intercalate (parts : List (List (Token ν)))
    : tokensLength ([Token.comma].intercalate parts) = joinedLength 0 (parts.map tokensLength) := by
  cases parts with
  | nil => rfl
  | cons part parts =>
    rw [intercalate_cons, tokensLength_append, tokensLength_flatMap_comma, List.map_cons, joinedLength,
      if_pos rfl, joinedLength_succ, Nat.zero_add]

theorem size_array (items : List (Json ν))
    : (Json.array items).size = 2 + joinedLength 0 (items.map size) := by
  rw [← tokensLength_tokens, tokens, List.cons_append, tokensLength_cons, tokensLength_append,
    tokensLength_intercalate, itemTokens_eq_map, List.map_map, tokensLength_cons, tokensLength_nil]
  have hopen : byteLength (Token.openArray (ν := ν)).text = 1 := rfl
  have hclose : byteLength (Token.closeArray (ν := ν)).text = 1 := rfl
  have hitems : items.map (tokensLength ∘ tokens) = items.map size := rfl
  rw [hopen, hclose, hitems]
  omega

theorem tokensLength_member (member : List UInt16 × Json ν)
    : tokensLength (.string member.1 :: .colon :: member.2.tokens) = memberSize member := by
  have hcolon : byteLength (Token.colon (ν := ν)).text = 1 := rfl
  rw [tokensLength_cons, tokensLength_cons, tokensLength_tokens, hcolon, memberSize, Token.text]
  omega

theorem size_object (members : List (List UInt16 × Json ν))
    : (Json.object members).size = 2 + joinedLength 0 (members.map memberSize) := by
  rw [← tokensLength_tokens, tokens, List.cons_append, tokensLength_cons, tokensLength_append,
    tokensLength_intercalate, memberTokens_eq_map, List.map_map, tokensLength_cons, tokensLength_nil]
  have hopen : byteLength (Token.openObject (ν := ν)).text = 1 := rfl
  have hclose : byteLength (Token.closeObject (ν := ν)).text = 1 := rfl
  have hmembers : members.map (tokensLength ∘ fun member => .string member.1 :: .colon :: member.2.tokens)
      = members.map memberSize := by
    apply List.map_congr_left
    intro member _
    exact tokensLength_member member
  rw [hopen, hclose, hmembers]
  omega

theorem size_token {value : Json ν} {token : Token ν} (h : value.tokens = [token])
    : value.size = byteLength token.text := by
  rw [← tokensLength_tokens, h, tokensLength_cons, tokensLength_nil, Nat.add_zero]

theorem joinedLength_perm {lefts rights : List Nat} (h : lefts.Perm rights)
    : joinedLength 0 lefts = joinedLength 0 rights := by
  have hsum : ∀ lengths : List Nat, joinedLength 0 lengths = (lengths.map (1 + ·)).sum - 1 := by
    intro lengths
    cases lengths with
    | nil => rfl
    | cons length lengths =>
      rw [joinedLength, if_pos rfl, joinedLength_succ, List.map_cons, List.sum_cons]
      omega
  rw [hsum, hsum, (h.map (1 + ·)).sum_nat]

theorem size_canonical [PrintedNumber ν] {value : Json ν} (h : WellFormed value)
    : value.canonical.size = value.size := by
  induction h with
  | null => rfl
  | bool value => rfl
  | string units => rfl
  | number n hn =>
    have hsource : tokens (.number n) = [.number n] := by rw [tokens, if_pos hn]
    have hcanonical : (Json.number n).canonical.tokens = [.number (NumberText.read (NumberText.text n))] := by
      rw [canonical, tokens, if_pos (PrintedNumber.finite_read hn)]
    rw [size_token hcanonical, size_token hsource, Token.text, Token.text, text_read_text hn]
  | array items _ ih =>
    rw [canonical_array, size_array, size_array, List.map_map]
    exact congrArg (fun lengths => 2 + joinedLength 0 lengths) (List.map_congr_left ih)
  | object members _ _ ih =>
    have hmembers : (members.map (mapValue canonical)).map memberSize = members.map memberSize := by
      rw [List.map_map]
      exact List.map_congr_left (fun member hmember =>
        congrArg (byteLength (quote member.1) + 1 + ·) (ih member hmember))
    rw [canonical_object, size_object, size_object, ← hmembers,
      joinedLength_perm ((sortMembers_perm (members.map (mapValue canonical))).map memberSize)]

end Json
end ProofStack
