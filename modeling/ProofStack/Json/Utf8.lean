import ProofStack.Json.RoundTrip

/-!
This module contains the bytes of JSON texts.
-/

namespace ProofStack
namespace Json

def encodeUtf8 (text : List Char) : List UInt8 :=
  text.flatMap String.utf8EncodeChar

def decodeUtf8 (bytes : List UInt8) : Option (List Char) :=
  bytes.toByteArray.utf8Decode?.map Array.toList

theorem decodeUtf8_encodeUtf8 (text : List Char) : decodeUtf8 (encodeUtf8 text) = some text := by
  have h := List.utf8Decode?_utf8Encode (l := text)
  rw [List.utf8Encode] at h
  rw [decodeUtf8, encodeUtf8, h]
  rfl

theorem le_of_mem_utf8EncodeChar {c : Char} {byte : UInt8} (h : byte ∈ String.utf8EncodeChar c)
    : byte.toNat = c.toNat ∨ 0x80 ≤ byte.toNat := by
  have hc : c.toNat = c.val.toNat := rfl
  simp only [String.utf8EncodeChar] at h
  split at h
  . next hone =>
    rw [List.mem_singleton] at h
    rw [h, UInt8.toNat_ofNat']
    omega
  . right
    split at h
    . simp only [List.mem_cons, List.not_mem_nil, or_false] at h
      rcases h with rfl | rfl <;> rw [UInt8.toNat_ofNat'] <;> omega
    . split at h
      . simp only [List.mem_cons, List.not_mem_nil, or_false] at h
        rcases h with rfl | rfl | rfl <;> rw [UInt8.toNat_ofNat'] <;> omega
      . simp only [List.mem_cons, List.not_mem_nil, or_false] at h
        rcases h with rfl | rfl | rfl | rfl <;> rw [UInt8.toNat_ofNat'] <;> omega

theorem exists_of_mem_encodeUtf8 {text : List Char} {byte : UInt8} (hbyte : byte.toNat < 0x80)
    (h : byte ∈ encodeUtf8 text)
    : ∃ c ∈ text, c.toNat = byte.toNat := by
  rcases List.mem_flatMap.mp h with ⟨c, hc, hmem⟩
  refine ⟨c, hc, ?_⟩
  cases le_of_mem_utf8EncodeChar hmem with
  | inl heq => exact heq.symm
  | inr hle => omega

theorem digitChar_ne_newline {d : Nat} (h : d < 16) : d.digitChar ≠ '\n' := by
  have hall : ∀ d : Fin 16, Nat.digitChar d ≠ '\n' := by decide
  exact hall ⟨d, h⟩

theorem newline_not_mem_quoteUnit (u : UInt16) : '\n' ∉ quoteUnit u := by
  have hu := u.toNat_lt
  unfold quoteUnit
  iterate 7
    split
    . decide
  split
  . simp only [hexDigits, List.map_cons, List.map_nil, List.mem_cons, List.not_mem_nil, or_false,
      not_or]
    have hfirst := digitChar_ne_newline (d := u.toNat / 4096) (by omega)
    have hsecond := digitChar_ne_newline (d := u.toNat / 256 % 16) (by omega)
    have hthird := digitChar_ne_newline (d := u.toNat / 16 % 16) (by omega)
    have hfourth := digitChar_ne_newline (d := u.toNat % 16) (by omega)
    exact ⟨by decide, by decide, hfirst.symm, hsecond.symm, hthird.symm, hfourth.symm⟩
  . next hother =>
    simp only [Bool.or_eq_true, decide_eq_true_eq, not_or, Bool.not_eq_true] at hother
    have hunits := charUnits_ofNat hother.1.2 hother.2
    rw [List.mem_singleton]
    intro heq
    rw [← heq] at hunits
    have hlow := hunits.1
    simp only [Char.reduceToNat] at hlow
    omega

theorem newline_not_mem_quoteUnits (units : List UInt16) : '\n' ∉ quoteUnits units := by
  fun_induction quoteUnits units with
  | case1 => simp
  | case2 u => exact newline_not_mem_quoteUnit u
  | case3 u v others hpair ih =>
    rw [Bool.and_eq_true] at hpair
    have hchar := charUnits_pairChar hpair.1 hpair.2
    rw [List.mem_cons, not_or]
    constructor
    . intro heq
      rw [← heq] at hchar
      exact absurd hchar.1 (by decide)
    . exact ih
  | case4 u v others _ ih =>
    rw [List.mem_append, not_or]
    exact ⟨newline_not_mem_quoteUnit u, ih⟩

variable {ν : Type} [NumberText ν]

def OneLine (tokens : List (Token ν)) : Prop :=
  ∀ token ∈ tokens, '\n' ∉ token.text

theorem newline_not_mem_quote (units : List UInt16) : '\n' ∉ quote units := by
  simp [quote, newline_not_mem_quoteUnits]

theorem newline_not_mem_number [LawfulNumberText ν] {n : ν} (h : NumberText.finite n)
    : '\n' ∉ NumberText.text n := by
  have htext := LawfulNumberText.isNumber_text n h
  unfold isNumber at htext
  cases hfold : (NumberText.text n).foldlM NumberState.next .start with
  | none =>
    rw [hfold] at htext
    contradiction
  | some s =>
    intro hmem
    exact absurd (all_isNumberChar hfold _ hmem) (by decide)

theorem OneLine.intercalate {items : List (List (Token ν))} (h : ∀ item ∈ items, OneLine item)
    : OneLine ([Token.comma].intercalate items) := by
  cases items with
  | nil => simp [OneLine, List.intercalate]
  | cons first others =>
    rw [intercalate_cons]
    intro token htoken
    rcases List.mem_append.mp htoken with hfirst | hothers
    . exact h first (by simp) token hfirst
    . rcases List.mem_flatMap.mp hothers with ⟨other, hother, hmem⟩
      cases List.mem_cons.mp hmem with
      | inl heq =>
        rw [heq]
        simp [Token.text]
      | inr hmem => exact h other (by simp [hother]) token hmem

theorem Serializable.oneLine [LawfulNumberText ν] {value : Json ν} (h : Serializable value)
    : OneLine value.tokens := by
  induction h with
  | null => simp [tokens, OneLine, Token.text]
  | bool value => cases value <;> simp [tokens, OneLine, Token.text]
  | string units => simp [tokens, OneLine, Token.text, newline_not_mem_quote]
  | number n hfinite => simp [tokens, OneLine, Token.text, hfinite, newline_not_mem_number]
  | array items _ ih =>
    have hitems : OneLine ([Token.comma].intercalate (items.map tokens)) := by
      apply OneLine.intercalate
      intro item hitem
      rcases List.mem_map.mp hitem with ⟨value, hvalue, rfl⟩
      exact ih value hvalue
    rw [tokens, itemTokens_eq_map]
    intro token htoken
    simp only [List.cons_append, List.mem_cons, List.mem_append, List.not_mem_nil, or_false] at htoken
    rcases htoken with rfl | hmem | rfl
    . simp [Token.text]
    . exact hitems token hmem
    . simp [Token.text]
  | object members _ _ ih =>
    have hmembers : OneLine ([Token.comma].intercalate
        (members.map (fun member => .string member.1 :: .colon :: tokens member.2))) := by
      apply OneLine.intercalate
      intro item hitem
      rcases List.mem_map.mp hitem with ⟨member, hmember, rfl⟩
      intro token htoken
      simp only [List.mem_cons] at htoken
      rcases htoken with rfl | rfl | hmem
      . exact newline_not_mem_quote member.1
      . simp [Token.text]
      . exact ih member hmember token hmem
    rw [tokens, memberTokens_eq_map]
    intro token htoken
    simp only [List.cons_append, List.mem_cons, List.mem_append, List.not_mem_nil, or_false] at htoken
    rcases htoken with rfl | hmem | rfl
    . simp [Token.text]
    . exact hmembers token hmem
    . simp [Token.text]

theorem line_feed_not_mem [LawfulNumberText ν] {value : Json ν} (h : Serializable value)
    : 0x0A ∉ encodeUtf8 value.stringify := by
  intro hmem
  rcases exists_of_mem_encodeUtf8 (by decide) hmem with ⟨c, hc, heq⟩
  rcases List.mem_flatMap.mp hc with ⟨token, htoken, hchar⟩
  have hnewline : c = '\n' := Char.ext (UInt32.toNat_inj.mp heq)
  exact h.oneLine token htoken (hnewline ▸ hchar)

end Json
end ProofStack
