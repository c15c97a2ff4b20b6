import Mathlib.Data.List.TakeWhile
import ProofStack.Json.Reader

/-!
This module contains the round trip of JSON values through their texts, and the equivalence of values.
-/

namespace ProofStack
namespace Json

variable {ν : Type}

theorem intercalate_cons {α : Type} (separator : α) (first : List α) (others : List (List α))
    : [separator].intercalate (first :: others)
        = first ++ others.flatMap (fun other => separator :: other) := by
  induction others generalizing first with
  | nil => simp [List.intercalate]
  | cons second others ih =>
    have hothers := ih second
    simp only [List.intercalate] at hothers ⊢
    simp [hothers]

theorem tokens_ne_nil [NumberText ν] (value : Json ν) : value.tokens ≠ [] := by
  cases value with
  | number n =>
    rw [tokens]
    split <;> simp
  | _ => simp [tokens]

variable {token : Token ν}

theorem head_tokens_ne_closeArray [NumberText ν] (value : Json ν)
    {others : List (Token ν)} (h : value.tokens = token :: others)
    : token ≠ .closeArray := by
  rintro rfl
  cases value with
  | number n =>
    rw [tokens] at h
    split at h <;> simp at h
  | _ => simp [tokens] at h

theorem parseToken_firstItem {stack : List (Frame ν)} (h : token ≠ .closeArray)
    : parseToken (.firstItem stack) token = parseToken (.value (.array [] :: stack)) token := by
  cases token <;> simp_all [parseToken]

theorem not_isIndexBelow_self (key : List UInt16) {index : Nat} (h : arrayIndex key = some index)
    : isIndexBelow index key = false := by
  simp [isIndexBelow, h]

theorem Precedes.ne {left right : List UInt16} (h : Precedes left right) : left ≠ right := by
  rintro rfl
  unfold Precedes at h
  split at h
  . next hindex =>
    rw [not_isIndexBelow_self _ hindex] at h
    contradiction
  . contradiction

variable {members : List (List UInt16 × Json ν)}

theorem define_eq_append {key : List UInt16}
    (value : Json ν) (h : ∀ member ∈ members, Precedes member.1 key)
    : define members key value = members ++ [(key, value)] := by
  have habsent : members.any (·.1 = key) = false := by
    simp only [List.any_eq_false, decide_eq_true_eq]
    intro member hmember
    exact (h member hmember).ne
  unfold define
  rw [habsent]
  simp only [Bool.false_eq_true, if_false]
  split
  . next index hindex =>
    have hbelow : ∀ member ∈ members, isIndexBelow index member.1 = true := by
      intro member hmember
      have hprecedes := h member hmember
      simpa only [Precedes, hindex] using hprecedes
    have hfirst : members.takeWhile (isIndexBelow index ·.1) = members := by
      rw [List.takeWhile_eq_self_iff]
      exact hbelow
    have hothers : members.dropWhile (isIndexBelow index ·.1) = [] := by
      rw [List.dropWhile_eq_nil_iff]
      exact hbelow
    rw [hfirst, hothers]
  . rfl

def Reads (tokens : List (Token ν)) (s s' : ParserState ν) : Prop :=
  tokens.foldlM parseToken s = some s'

theorem Reads.nil (s : ParserState ν) : Reads [] s s :=
  rfl

theorem Reads.cons {tokens : List (Token ν)} {s s' s'' : ParserState ν}
    (htoken : parseToken s token = some s') (htokens : Reads tokens s' s'')
    : Reads (token :: tokens) s s'' := by
  unfold Reads
  rw [List.foldlM_cons, htoken]
  exact htokens

theorem Reads.append {left right : List (Token ν)} {s s' s'' : ParserState ν}
    (hleft : Reads left s s') (hright : Reads right s' s'')
    : Reads (left ++ right) s s'' := by
  unfold Reads
  rw [List.foldlM_append, hleft]
  exact hright

theorem itemsInOrder_eq_map (items : List (Json ν)) : itemsInOrder items = items.map inOrder := by
  induction items with
  | nil => rfl
  | cons item items ih => rw [itemsInOrder, List.map_cons, ih]

theorem membersInOrder_eq_append {done members : List (List UInt16 × Json ν)}
    (hkeys : (done ++ members).Pairwise (fun left right => Precedes left.1 right.1))
    (h : ∀ member ∈ members, member.2.inOrder = member.2)
    : membersInOrder done members = done ++ members := by
  induction members generalizing done with
  | nil => rw [membersInOrder, List.append_nil]
  | cons member members ih =>
    have hdefine : define done member.1 member.2 = done ++ [member] :=
      define_eq_append member.2 (fun other hother =>
        (List.pairwise_append.mp hkeys).2.2 other hother member List.mem_cons_self)
    rw [membersInOrder, h member List.mem_cons_self, hdefine,
      ih (by simpa using hkeys) (fun other hother => h other (List.mem_cons_of_mem _ hother)),
      List.append_assoc, List.singleton_append]

section Parser

variable [NumberText ν]

/-- The parser takes the tokens of the value to the value in order, whatever containers are open. -/
def Parses (value : Json ν) : Prop :=
  ∀ stack : List (Frame ν), Reads value.tokens (.value stack) (.after stack value.inOrder)

theorem Parses.firstItem {value : Json ν} (h : Parses value) (stack : List (Frame ν))
    : Reads value.tokens (.firstItem stack) (.after (.array [] :: stack) value.inOrder) := by
  have hvalue := h (.array [] :: stack)
  unfold Reads at hvalue ⊢
  cases htokens : value.tokens with
  | nil => exact absurd htokens (tokens_ne_nil value)
  | cons token others =>
    rw [htokens, List.foldlM_cons] at hvalue
    rw [List.foldlM_cons, parseToken_firstItem (head_tokens_ne_closeArray value htokens)]
    exact hvalue

def itemsAfter (items : List (Json ν)) : List (Token ν) :=
  items.flatMap (fun item => .comma :: item.tokens) ++ [.closeArray]

def membersAfter (members : List (List UInt16 × Json ν)) : List (Token ν) :=
  members.flatMap (fun member => .comma :: .string member.1 :: .colon :: member.2.tokens)
    ++ [.closeObject]

theorem reads_itemsAfter {items : List (Json ν)} (h : ∀ item ∈ items, Parses item)
    (done : List (Json ν)) (value : Json ν) (stack : List (Frame ν))
    : Reads (itemsAfter items) (.after (.array done :: stack) value)
        (.after stack (.array (done ++ value :: itemsInOrder items))) := by
  induction items generalizing done value with
  | nil => exact Reads.cons rfl (Reads.nil _)
  | cons item items ih =>
    have hitem := h item (by simp)
    have hitems := ih (fun other hother => h other (by simp [hother])) (done ++ [value]) item.inOrder
    rw [List.append_assoc, List.singleton_append] at hitems
    simp only [itemsAfter, List.flatMap_cons, List.append_assoc, List.cons_append]
    apply Reads.cons rfl
    apply Reads.append (hitem _)
    exact hitems

theorem reads_membersAfter
    (h : ∀ member ∈ members, Parses member.2) (done : List (List UInt16 × Json ν))
    (key : List UInt16) (value : Json ν) (stack : List (Frame ν))
    : Reads (membersAfter members) (.after (.object done key :: stack) value)
        (.after stack (.object (membersInOrder (define done key value) members))) := by
  induction members generalizing done key value with
  | nil => exact Reads.cons rfl (Reads.nil _)
  | cons member members ih =>
    have hmember := h member (by simp)
    have hmembers := ih (fun other hother => h other (by simp [hother])) (define done key value)
      member.1 member.2.inOrder
    simp only [membersAfter, List.flatMap_cons, List.append_assoc, List.cons_append]
    apply Reads.cons rfl
    apply Reads.cons rfl
    apply Reads.cons rfl
    apply Reads.append (hmember _)
    exact hmembers

theorem ReadBack.parses {value : Json ν} (h : ReadBack value) : Parses value := by
  induction h with
  | null => exact fun _ => rfl
  | bool value => exact fun _ => rfl
  | string units => exact fun _ => rfl
  | number n hfinite =>
    intro stack
    rw [tokens, hfinite, if_pos rfl]
    rfl
  | array items _ ih =>
    intro stack
    rw [tokens, itemTokens_eq_map]
    cases items with
    | nil => rfl
    | cons item items =>
      rw [List.map_cons, intercalate_cons, List.flatMap_map, List.cons_append, List.append_assoc]
      apply Reads.cons rfl
      apply Reads.append ((ih item (by simp)).firstItem stack)
      have hitems : ∀ other ∈ items, Parses other := fun other hother => ih other (by simp [hother])
      exact reads_itemsAfter hitems [] item.inOrder stack
  | object members _ ih =>
    intro stack
    rw [tokens, memberTokens_eq_map]
    cases members with
    | nil => rfl
    | cons member members =>
      rw [List.map_cons, intercalate_cons, List.flatMap_map, List.cons_append, List.append_assoc]
      apply Reads.cons rfl
      apply Reads.cons rfl
      apply Reads.cons rfl
      apply Reads.append (ih member (by simp) _)
      have hmembers : ∀ other ∈ members, Parses other.2 :=
        fun other hother => ih other (by simp [hother])
      exact reads_membersAfter hmembers [] member.1 member.2.inOrder stack

end Parser

def Delimited : List Char → Bool
  | [] => true
  | c :: _ => !isLetter c && !isNumberChar c

theorem begin_number {c : Char} (h : (isDigit c || c = '-') = true)
    : begin (ν := ν) c = some ([], .number [c]) := by
  have hspace : isSpace c = false := by
    by_contra hspace
    simp only [isSpace, Bool.not_eq_false, Bool.or_eq_true, decide_eq_true_eq] at hspace
    rcases hspace with ((rfl | rfl) | rfl) | rfl <;> simp [isDigit] at h
  have hquote : c ≠ '"' := by
    rintro rfl
    simp [isDigit] at h
  have hletter : isLetter c = false := by
    by_contra hletter
    simp only [isLetter, Bool.not_eq_false, Bool.and_eq_true, decide_eq_true_eq] at hletter
    simp only [isDigit, Bool.or_eq_true, Bool.and_eq_true, decide_eq_true_eq] at h
    cases h with
    | inl h =>
      have hle := Char.le_trans hletter.1 h.2
      exact absurd hle (by decide)
    | inr h => exact absurd (h ▸ hletter.1) (by decide)
  simp [begin, hspace, hquote, hletter, h]

theorem toNat_ofNat {n : Nat} (h : n < 0xD800 ∨ (0xDFFF < n ∧ n < 0x110000))
    : (Char.ofNat n).toNat = n := by
  have hvalid : n.isValidChar := h
  rw [Char.ofNat, dif_pos hvalid]
  rfl

theorem charUnits_ofNat {u : UInt16} (hhigh : isHighSurrogate u = false)
    (hlow : isLowSurrogate u = false)
    : (Char.ofNat u.toNat).toNat = u.toNat ∧ charUnits (Char.ofNat u.toNat) = [u] := by
  have hu := u.toNat_lt
  simp only [isHighSurrogate, isLowSurrogate, Bool.and_eq_false_imp, decide_eq_true_eq,
    decide_eq_false_iff_not] at hhigh hlow
  have hchar : (Char.ofNat u.toNat).toNat = u.toNat := toNat_ofNat (by omega)
  constructor
  . exact hchar
  . rw [charUnits, hchar, if_pos (by omega), UInt16.ofNat_toNat]

theorem charUnits_pairChar {high low : UInt16} (hhigh : isHighSurrogate high)
    (hlow : isLowSurrogate low)
    : 0x10000 ≤ (pairChar high low).toNat ∧ charUnits (pairChar high low) = [high, low] := by
  simp only [isHighSurrogate, isLowSurrogate, Bool.and_eq_true, decide_eq_true_eq] at hhigh hlow
  have hchar : (pairChar high low).toNat
      = 0x10000 + (high.toNat - 0xD800) * 0x400 + (low.toNat - 0xDC00) := toNat_ofNat (by omega)
  have hfirst : 0xD800 + ((pairChar high low).toNat - 0x10000) / 0x400 = high.toNat := by omega
  have hsecond : 0xDC00 + ((pairChar high low).toNat - 0x10000) % 0x400 = low.toNat := by omega
  constructor
  . omega
  . rw [charUnits, if_neg (by omega), hfirst, hsecond, UInt16.ofNat_toNat, UInt16.ofNat_toNat]

theorem hexValue_digitChar {d : Nat} (h : d < 16) : hexValue d.digitChar = some d := by
  have hall : ∀ d : Fin 16, hexValue (Nat.digitChar d) = some d.val := by decide
  exact hall ⟨d, h⟩

section Scanner

variable [NumberText ν]
variable {rest : List Char}

theorem scan_cons {mode : Mode} (mode' : Mode) {c : Char}
    (h : scanChar (ν := ν) mode c = some ([], mode'))
    : scan (ν := ν) mode (c :: rest) = scan mode' rest := by
  rw [scan, h]
  cases hscan : scan (ν := ν) mode' rest <;> simp [hscan]

theorem scan_cons_token {mode : Mode} {c : Char}
    (h : scanChar mode c = some ([token], .between))
    : scan mode (c :: rest) = (scan .between rest).map (token :: ·) := by
  rw [scan, h]
  cases hscan : scan (ν := ν) .between rest <;> simp [hscan]

theorem scan_flush {mode : Mode} (token : Option (Token ν))
    (hend : scanEnd mode = token.map ([·]))
    (hnext : ∀ c others, rest = c :: others → scanChar mode c = flush token c)
    : scan mode rest = token.bind (fun token => (scan .between rest).map (token :: ·)) := by
  cases rest with
  | nil =>
    rw [scan, hend]
    cases token <;> rfl
  | cons c others =>
    rw [scan, hnext c others rfl, scan, scanChar]
    cases token with
    | none => rfl
    | some token =>
      cases hbegin : begin (ν := ν) c with
      | none => simp [flush, hbegin]
      | some begun =>
        obtain ⟨tokens, mode'⟩ := begun
        cases hscan : scan (ν := ν) mode' others <;> simp [flush, hbegin, hscan]

theorem scan_word {letters : List Char}
    (htoken : wordToken letters = some token) (hrest : Delimited rest)
    : scan (.word letters) rest = (scan .between rest).map (token :: ·) := by
  rw [scan_flush (some token)]
  . rfl
  . rw [scanEnd, htoken]
  . rintro c others rfl
    simp only [Delimited, Bool.and_eq_true, Bool.not_eq_true'] at hrest
    simp [scanChar, hrest.1, htoken]

theorem scan_word_append {letters others rest : List Char} (h : ∀ c ∈ others, isLetter c = true)
    : scan (ν := ν) (.word letters) (others ++ rest) = scan (.word (letters ++ others)) rest := by
  induction others generalizing letters with
  | nil => simp
  | cons c others ih =>
    have hc := h c (by simp)
    have hscan : scanChar (ν := ν) (.word letters) c = some ([], .word (letters ++ [c])) := by
      simp [scanChar, hc]
    rw [List.cons_append, scan_cons _ hscan, ih (fun c' hc' => h c' (by simp [hc']))]
    simp

theorem scan_letters {c : Char} {others rest : List Char}
    (hbegin : begin (ν := ν) c = some ([], .word [c])) (hothers : ∀ c ∈ others, isLetter c = true)
    (htoken : wordToken (c :: others) = some token) (hrest : Delimited rest)
    : scan .between ((c :: others) ++ rest) = (scan .between rest).map (token :: ·) := by
  rw [List.cons_append, scan_cons (.word [c]) (show scanChar .between c = _ from hbegin), scan_word_append hothers]
  exact scan_word htoken hrest

theorem scan_number {text : List Char} (htext : isNumber text)
    (hrest : Delimited rest)
    : scan (ν := ν) (.number text) rest
        = (scan .between rest).map (.number (NumberText.read text) :: ·) := by
  rw [scan_flush (some (.number (NumberText.read text)))]
  . rfl
  . rw [scanEnd, numberToken, if_pos htext]
  . rintro c others rfl
    simp only [Delimited, Bool.and_eq_true, Bool.not_eq_true'] at hrest
    simp [scanChar, hrest.2, numberToken, htext]

theorem NumberState.next_isNumberChar {s s' : NumberState} {c : Char} (h : s.next c = some s')
    : isNumberChar c = true := by
  by_contra hc
  simp only [isNumberChar, Bool.or_eq_true, decide_eq_true_eq, not_or] at hc
  have hzero : c ≠ '0' := by
    rintro rfl
    exact absurd rfl hc.1.1.1.1.1
  cases s <;> simp_all [NumberState.next, NumberState.next.integerPart, NumberState.next.rest,
    NumberState.next.power, NumberState.next.digits]

theorem all_isNumberChar {text : List Char} {s s' : NumberState}
    (h : text.foldlM NumberState.next s = some s')
    : ∀ c ∈ text, isNumberChar c = true := by
  induction text generalizing s with
  | nil => simp
  | cons c text ih =>
    rw [List.foldlM_cons, Option.bind_eq_bind, Option.bind_eq_some_iff] at h
    rcases h with ⟨next, hnext, htext⟩
    intro c' hc'
    cases List.mem_cons.mp hc' with
    | inl heq =>
      rw [heq]
      exact NumberState.next_isNumberChar hnext
    | inr hmem => exact ih htext c' hmem

theorem isNumber_cases {text : List Char} (h : isNumber text)
    : ∃ c others, text = c :: others
        ∧ (isDigit c || c = '-') = true
        ∧ ∀ c' ∈ others, isNumberChar c' = true := by
  unfold isNumber at h
  cases hfold : text.foldlM NumberState.next .start with
  | none =>
    rw [hfold] at h
    contradiction
  | some s =>
    cases text with
    | nil =>
      cases hfold
      rw [List.foldlM_nil] at h
      contradiction
    | cons c others =>
      rw [List.foldlM_cons, Option.bind_eq_bind, Option.bind_eq_some_iff] at hfold
      rcases hfold with ⟨next, hnext, hothers⟩
      refine ⟨c, others, rfl, ?_, all_isNumberChar hothers⟩
      by_contra hc
      have hzero : c ≠ '0' := by
        rintro rfl
        exact absurd rfl hc
      simp_all [NumberState.next, NumberState.next.integerPart]

theorem scan_number_append {text others rest : List Char}
    (h : ∀ c ∈ others, isNumberChar c = true)
    : scan (ν := ν) (.number text) (others ++ rest) = scan (.number (text ++ others)) rest := by
  induction others generalizing text with
  | nil => simp
  | cons c others ih =>
    have hc := h c (by simp)
    have hscan : scanChar (ν := ν) (.number text) c = some ([], .number (text ++ [c])) := by
      simp [scanChar, hc]
    rw [List.cons_append, scan_cons _ hscan, ih (fun c' hc' => h c' (by simp [hc']))]
    simp

theorem scan_text_number {n : ν} (htext : isNumber (NumberText.text n))
    (hread : NumberText.read (NumberText.text n) = n) (hrest : Delimited rest)
    : scan .between (NumberText.text n ++ rest)
        = (scan .between rest).map (Token.number n :: ·) := by
  rcases isNumber_cases htext with ⟨c, others, heq, hc, hothers⟩
  have hbegin : scanChar (ν := ν) .between c = some ([], .number [c]) := begin_number hc
  calc scan .between (NumberText.text n ++ rest)
      = scan (.number [c]) (others ++ rest) := by
        rw [heq, List.cons_append, scan_cons _ hbegin]
    _ = scan (.number (NumberText.text n)) rest := by
        rw [scan_number_append hothers, heq, List.singleton_append]
    _ = (scan .between rest).map (Token.number n :: ·) := by
        rw [scan_number htext hrest, hread]

theorem scan_plain {units : List UInt16} {c : Char} (hc : 0x20 ≤ c.toNat)
    (hquote : c ≠ '"') (hescape : c ≠ '\\')
    : scan (ν := ν) (.string units) (c :: rest) = scan (.string (units ++ charUnits c)) rest := by
  apply scan_cons
  simp [scanChar, hquote, hescape, hc]

theorem scan_escaped {units : List UInt16} {c : Char} {u : UInt16}
    (h : escaped c = some u)
    : scan (ν := ν) (.string units) ('\\' :: c :: rest) = scan (.string (units ++ [u])) rest := by
  have hc : c ≠ 'u' := by
    rintro rfl
    contradiction
  rw [scan_cons (.escape units) (by simp [scanChar])]
  apply scan_cons
  simp [scanChar, hc, h]

theorem scan_hex {units : List UInt16} {u : UInt16}
    : scan (ν := ν) (.string units) ('\\' :: 'u' :: (hexDigits u).map Nat.digitChar ++ rest)
        = scan (.string (units ++ [u])) rest := by
  have hu := u.toNat_lt
  have hvalue : ((u.toNat / 4096 * 16 + u.toNat / 256 % 16) * 16 + u.toNat / 16 % 16) * 16
      + u.toNat % 16 = u.toNat := by omega
  have hfirst := hexValue_digitChar (d := u.toNat / 4096) (by omega)
  have hsecond := hexValue_digitChar (d := u.toNat / 256 % 16) (by omega)
  have hthird := hexValue_digitChar (d := u.toNat / 16 % 16) (by omega)
  have hfourth := hexValue_digitChar (d := u.toNat % 16) (by omega)
  simp only [hexDigits, List.map_cons, List.map_nil, List.cons_append, List.nil_append]
  rw [scan_cons (.escape units) (by simp [scanChar])]
  rw [scan_cons (.hex units []) (by simp [scanChar])]
  rw [scan_cons (.hex units [u.toNat / 4096]) (by simp [scanChar, hfirst])]
  rw [scan_cons (.hex units [u.toNat / 4096, u.toNat / 256 % 16])
    (by simp [scanChar, hsecond])]
  rw [scan_cons (.hex units [u.toNat / 4096, u.toNat / 256 % 16, u.toNat / 16 % 16])
    (by simp [scanChar, hthird])]
  apply scan_cons
  simp only [scanChar, hfourth, Option.bind_eq_bind, Option.bind_some, hvalue, UInt16.ofNat_toNat]

theorem scan_quoteUnit (units : List UInt16) (u : UInt16) (rest : List Char)
    : scan (ν := ν) (.string units) (quoteUnit u ++ rest) = scan (.string (units ++ [u])) rest := by
  unfold quoteUnit
  split
  . next h => exact h ▸ scan_escaped rfl
  split
  . next h => exact h ▸ scan_escaped rfl
  split
  . next h => exact h ▸ scan_escaped rfl
  split
  . next h => exact h ▸ scan_escaped rfl
  split
  . next h => exact h ▸ scan_escaped rfl
  split
  . next h => exact h ▸ scan_escaped rfl
  split
  . next h => exact h ▸ scan_escaped rfl
  split
  . exact scan_hex
  . next hbackspace htab hline hform hreturn hquote hescape hother =>
    simp only [Bool.or_eq_true, decide_eq_true_eq, not_or, Bool.not_eq_true] at hother
    have hunits := charUnits_ofNat hother.1.2 hother.2
    rw [List.singleton_append, scan_plain (by omega), hunits.2]
    . rintro heq
      rw [heq] at hunits
      exact hquote (UInt16.toNat_inj.mp hunits.1.symm)
    . rintro heq
      rw [heq] at hunits
      exact hescape (UInt16.toNat_inj.mp hunits.1.symm)

theorem scan_quoteUnits (units others : List UInt16) (rest : List Char)
    : scan (ν := ν) (.string units) (quoteUnits others ++ rest)
        = scan (.string (units ++ others)) rest := by
  fun_induction quoteUnits others generalizing units with
  | case1 => simp
  | case2 u => exact scan_quoteUnit units u rest
  | case3 u v others hpair ih =>
    rw [Bool.and_eq_true] at hpair
    have hchar := charUnits_pairChar hpair.1 hpair.2
    rw [List.cons_append, scan_plain (by omega), hchar.2, ih]
    . simp
    . intro heq
      rw [heq] at hchar
      exact absurd hchar.1 (by decide)
    . intro heq
      rw [heq] at hchar
      exact absurd hchar.1 (by decide)
  | case4 u v others _ ih =>
    rw [List.append_assoc, scan_quoteUnit, ih]
    simp

theorem scan_quote (units : List UInt16) (rest : List Char)
    : scan .between (quote units ++ rest)
        = (scan .between rest).map (Token.string (ν := ν) units :: ·) := by
  rw [quote, List.cons_append, List.cons_append, List.append_assoc]
  rw [scan_cons (.string []) (by rfl)]
  rw [scan_quoteUnits, List.nil_append, List.singleton_append]
  apply scan_cons_token
  simp [scanChar]

/-- The scanner takes the text of the tokens to the tokens, whatever follows. -/
def Scans (tokens : List (Token ν)) : Prop :=
  ∀ rest, Delimited rest →
    scan .between (tokens.flatMap Token.text ++ rest) = (scan .between rest).map (tokens ++ ·)

theorem Scans.nil : Scans (ν := ν) [] := by
  intro rest _
  simp

def Token.separates : Token ν → Bool
  | .null | .bool _ | .number _ => false
  | _ => true

theorem scan_separator (h : token.separates) (rest : List Char)
    : scan .between (token.text ++ rest) = (scan .between rest).map (token :: ·) := by
  cases token with
  | null | bool | number => contradiction
  | string units => exact scan_quote units rest
  | _ => exact scan_cons_token rfl

theorem delimited_separator (h : token.separates) (rest : List Char)
    : Delimited (token.text ++ rest) := by
  cases token with
  | null | bool | number => contradiction
  | _ => rfl

theorem Scans.cons {tokens : List (Token ν)} (htoken : token.separates)
    (htokens : Scans tokens)
    : Scans (token :: tokens) := by
  intro rest hrest
  rw [List.flatMap_cons, List.append_assoc, scan_separator htoken, htokens rest hrest, Option.map_map]
  rfl

theorem Scans.append_cons {left right : List (Token ν)} (hleft : Scans left)
    (htoken : token.separates) (hright : Scans right)
    : Scans (left ++ token :: right) := by
  intro rest hrest
  rw [List.flatMap_append, List.append_assoc, hleft, hright.cons htoken rest hrest, Option.map_map]
  . simp only [Function.comp_def, List.append_assoc]
  . rw [List.flatMap_cons, List.append_assoc]
    exact delimited_separator htoken _

theorem scans_itemsAfter {items : List (Json ν)} (h : ∀ item ∈ items, Scans item.tokens)
    : ∃ token others, itemsAfter items = token :: others ∧ token.separates ∧ Scans others := by
  induction items with
  | nil => exact ⟨.closeArray, [], rfl, rfl, Scans.nil⟩
  | cons item items ih =>
    have hitem := h item (by simp)
    rcases ih (fun other hother => h other (by simp [hother])) with ⟨token, others, heq, htoken, hscans⟩
    refine ⟨.comma, item.tokens ++ itemsAfter items, by simp [itemsAfter], rfl, ?_⟩
    rw [heq]
    exact hitem.append_cons htoken hscans

theorem scans_membersAfter
    (h : ∀ member ∈ members, Scans member.2.tokens)
    : ∃ token others, membersAfter members = token :: others ∧ token.separates ∧ Scans others := by
  induction members with
  | nil => exact ⟨.closeObject, [], rfl, rfl, Scans.nil⟩
  | cons member members ih =>
    have hmember := h member (by simp)
    rcases ih (fun other hother => h other (by simp [hother])) with ⟨token, others, heq, htoken, hscans⟩
    refine ⟨.comma, .string member.1 :: .colon :: (member.2.tokens ++ membersAfter members),
      by simp [membersAfter], rfl, ?_⟩
    rw [heq]
    exact ((hmember.append_cons htoken hscans).cons rfl).cons rfl

variable {value : Json ν}

theorem ReadBack.scans (h : ReadBack value)
    : Scans value.tokens := by
  induction h with
  | null =>
    intro rest hrest
    rw [tokens, List.flatMap_singleton]
    exact scan_letters rfl (by simp [isLetter]) rfl hrest
  | bool value =>
    intro rest hrest
    rw [tokens, List.flatMap_singleton]
    cases value with
    | false => exact scan_letters rfl (by simp [isLetter]) rfl hrest
    | true => exact scan_letters rfl (by simp [isLetter]) rfl hrest
  | string units => exact Scans.nil.cons rfl
  | number n hfinite htext hread =>
    intro rest hrest
    rw [tokens, hfinite, if_pos rfl, List.flatMap_singleton]
    exact scan_text_number htext hread hrest
  | array items _ ih =>
    rw [tokens, itemTokens_eq_map]
    cases items with
    | nil => exact (Scans.nil.cons rfl).cons rfl
    | cons item items =>
      rw [List.map_cons, intercalate_cons, List.flatMap_map, List.cons_append, List.append_assoc]
      rcases scans_itemsAfter (fun other hother => ih other (List.mem_cons_of_mem item hother))
        with ⟨token, others, heq, htoken, hscans⟩
      apply Scans.cons rfl
      change Scans (item.tokens ++ itemsAfter items)
      rw [heq]
      exact (ih item (by simp)).append_cons htoken hscans
  | object members _ ih =>
    rw [tokens, memberTokens_eq_map]
    cases members with
    | nil => exact (Scans.nil.cons rfl).cons rfl
    | cons member members =>
      rw [List.map_cons, intercalate_cons, List.flatMap_map, List.cons_append, List.append_assoc]
      rcases scans_membersAfter (fun other hother => ih other (List.mem_cons_of_mem member hother))
        with ⟨token, others, heq, htoken, hscans⟩
      apply Scans.cons rfl
      apply Scans.cons rfl
      apply Scans.cons rfl
      change Scans (member.2.tokens ++ membersAfter members)
      rw [heq]
      exact (ih member (by simp)).append_cons htoken hscans

theorem ReadBack.parse_stringify (h : ReadBack value)
    : parse value.stringify = some value.inOrder := by
  have hscan := h.scans [] rfl
  have hparse := h.parses []
  unfold Reads at hparse
  rw [List.append_nil, scan, scanEnd] at hscan
  rw [parse, stringify, hscan]
  simp [hparse, parseEnd]

theorem Serializable.readBack [LawfulNumberText ν] (h : Serializable value)
    : ReadBack value := by
  induction h with
  | null => exact .null
  | bool value => exact .bool value
  | number n hfinite =>
    exact .number n hfinite (LawfulNumberText.isNumber_text n hfinite)
      (LawfulNumberText.read_text n hfinite)
  | string units => exact .string units
  | array items _ ih => exact .array items ih
  | object members _ _ ih => exact .object members ih

theorem Serializable.inOrder_eq (h : Serializable value) : value.inOrder = value := by
  induction h with
  | null | bool | number | string => rfl
  | array items _ ih =>
    rw [inOrder, itemsInOrder_eq_map, List.map_congr_left ih, List.map_id']
  | object members hkeys _ ih =>
    rw [inOrder, membersInOrder_eq_append (List.pairwise_map.mp hkeys) ih, List.nil_append]

theorem parse_stringify [LawfulNumberText ν] (h : Serializable value)
    : parse value.stringify = some value := by
  rw [h.readBack.parse_stringify, h.inOrder_eq]

end Scanner

instance : NumberText Nat where
  finite _ := true
  text n := Nat.toDigits 10 n
  read text := Nat.ofDigitChars 10 text 0

theorem isDigit_digitChar {d : Nat} (h : d < 10) : isDigit d.digitChar = true := by
  have hall : ∀ d : Fin 10, isDigit (Nat.digitChar d) = true := by decide
  exact hall ⟨d, h⟩

theorem next_start_digitChar {d : Nat} (h : d < 10) (hpos : 0 < d)
    : NumberState.next .start d.digitChar = some .integer := by
  have hall : ∀ d : Fin 10, 0 < d.val → NumberState.next .start (Nat.digitChar d) = some .integer := by
    decide
  exact hall ⟨d, h⟩ hpos

theorem foldlM_toDigits {n : Nat} (hpos : 0 < n)
    : (Nat.toDigits 10 n).foldlM NumberState.next .start = some .integer := by
  induction n using Nat.strong_induction_on with
  | h n ih =>
    rw [Nat.toDigits_eq_if (by decide)]
    split
    . next hlt => simp [next_start_digitChar hlt hpos]
    . next hle =>
      have hdigit := isDigit_digitChar (d := n % 10) (by omega)
      rw [List.foldlM_append, ih (n / 10) (by omega) (by omega)]
      simp [NumberState.next, hdigit]

instance : LawfulNumberText Nat where
  isNumber_text n _ := by
    cases n with
    | zero => rfl
    | succ n =>
      unfold isNumber
      rw [NumberText.text, instNumberTextNat, foldlM_toDigits (by omega)]
      rfl
  read_text n _ := Nat.ofDigitChars_ten_toDigits

def valueOf (key : List UInt16) (members : List (List UInt16 × Json ν)) : Option (Json ν) :=
  (members.find? (·.1 = key)).map Prod.snd

theorem valueOf_of_mem
    (hkeys : (members.map Prod.fst).Pairwise Precedes) {member : List UInt16 × Json ν}
    (h : member ∈ members)
    : valueOf member.1 members = some member.2 := by
  induction members with
  | nil => simp at h
  | cons first others ih =>
    rw [List.map_cons, List.pairwise_cons] at hkeys
    rcases List.mem_cons.mp h with rfl | hmem
    . simp [valueOf]
    . have hne : first.1 ≠ member.1 := (hkeys.1 member.1 (List.mem_map_of_mem hmem)).ne
      have hothers := ih hkeys.2 hmem
      simpa [valueOf, hne] using hothers

variable [DecidableEq ν]

mutual

/-- Two objects that have the same keys once these are sorted have keys that are a permutation of each
other. -/
def isJsonEquivalent : Json ν → Json ν → Bool
  | .null, .null => true
  | .bool left, .bool right => left = right
  | .number left, .number right => left = right
  | .string left, .string right => left = right
  | .array left, .array right => itemsEquivalent left right
  | .object left, .object right =>
    (left.map Prod.fst).isPerm (right.map Prod.fst) && membersEquivalent left right
  | _, _ => false

def itemsEquivalent : List (Json ν) → List (Json ν) → Bool
  | [], [] => true
  | left :: lefts, right :: rights => isJsonEquivalent left right && itemsEquivalent lefts rights
  | _, _ => false

def membersEquivalent : List (List UInt16 × Json ν) → List (List UInt16 × Json ν) → Bool
  | [], _ => true
  | (key, left) :: lefts, rights =>
    (match valueOf key rights with
      | some right => isJsonEquivalent left right
      | none => false)
    && membersEquivalent lefts rights

end

theorem itemsEquivalent_self {items : List (Json ν)}
    (h : ∀ item ∈ items, isJsonEquivalent item item = true)
    : itemsEquivalent items items = true := by
  induction items with
  | nil => rfl
  | cons item items ih =>
    rw [itemsEquivalent, h item List.mem_cons_self,
      ih (fun other hother => h other (List.mem_cons_of_mem _ hother))]
    rfl

theorem membersEquivalent_self {members lefts : List (List UInt16 × Json ν)}
    (hkeys : (members.map Prod.fst).Pairwise Precedes)
    (h : ∀ member ∈ members, isJsonEquivalent member.2 member.2 = true)
    (hsubset : ∀ member ∈ lefts, member ∈ members)
    : membersEquivalent lefts members = true := by
  induction lefts with
  | nil => rfl
  | cons member lefts ih =>
    have hmem := hsubset member List.mem_cons_self
    rw [membersEquivalent, valueOf_of_mem hkeys hmem]
    dsimp only
    rw [h member hmem, ih (fun other hother => hsubset other (List.mem_cons_of_mem _ hother))]
    rfl

theorem Serializable.isJsonEquivalent_self [NumberText ν] {value : Json ν} (h : Serializable value)
    : isJsonEquivalent value value = true := by
  induction h with
  | null => rfl
  | bool value => simp [isJsonEquivalent]
  | number value _ => simp [isJsonEquivalent]
  | string units => simp [isJsonEquivalent]
  | array items _ ih =>
    rw [isJsonEquivalent]
    exact itemsEquivalent_self ih
  | object members hkeys _ ih =>
    rw [isJsonEquivalent, membersEquivalent_self hkeys ih (fun _ hmem => hmem), Bool.and_true,
      List.isPerm_iff]

end Json
end ProofStack
