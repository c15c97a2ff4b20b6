import ProofStack.Contracts.Evaluation.CriterionSetStatus

/-!
This module contains the bytes of the canonical text of a definition, as the encoder writes them itself where the
host has no encoder for texts, and the strings for which there is no such text.
-/

namespace ProofStack
namespace Evaluation

open Host Json StateMachine

def encodedUnitLength (code : UInt16) : Nat :=
  if code.toNat ≤ 0x7f then 1
  else if code.toNat ≤ 0x7ff then 2
  else if 0xd800 ≤ code.toNat ∧ code.toNat ≤ 0xdbff then 4
  else 3

/-- The first pass: the unit after a high surrogate is skipped, whatever it is. -/
def encodedByteLength : Text → Nat
  | [] => 0
  | [code] => encodedUnitLength code
  | code :: next :: rest =>
    if 0xd800 ≤ code.toNat ∧ code.toNat ≤ 0xdbff then 4 + encodedByteLength rest
    else encodedUnitLength code + encodedByteLength (next :: rest)

def codePointAt : Text → Nat
  | [] => 0
  | [code] => code.toNat
  | code :: next :: _ =>
    if Host.isHighSurrogate code && Host.isLowSurrogate next then
      0x10000 + (code.toNat - 0xD800) * 0x400 + (next.toNat - 0xDC00)
    else
      code.toNat

abbrev Written := List UInt8 × Nat

-- a byte after the end of the array is not written
def put (written : Written) (byte : Nat) : Written :=
  (written.1.set written.2 (UInt8.ofNat byte), written.2 + 1)

def putCodePoint (written : Written) (codePoint : Nat) : Written :=
  if codePoint ≤ 0x7f then put written codePoint
  else if codePoint ≤ 0x7ff then
    put (put written (0xc0 ||| (codePoint >>> 6))) (0x80 ||| (codePoint &&& 0x3f))
  else if codePoint ≤ 0xffff then
    put (put (put written (0xe0 ||| (codePoint >>> 12))) (0x80 ||| ((codePoint >>> 6) &&& 0x3f)))
      (0x80 ||| (codePoint &&& 0x3f))
  else
    put (put (put (put written (0xf0 ||| (codePoint >>> 18))) (0x80 ||| ((codePoint >>> 12) &&& 0x3f)))
      (0x80 ||| ((codePoint >>> 6) &&& 0x3f))) (0x80 ||| (codePoint &&& 0x3f))

/-- The second pass: the unit after a code point of four bytes is skipped. -/
def writeUnits (written : Written) : Text → Written
  | [] => written
  | [code] => putCodePoint written (codePointAt [code])
  | code :: next :: rest =>
    if codePointAt (code :: next :: rest) ≤ 0xffff then
      writeUnits (putCodePoint written (codePointAt (code :: next :: rest))) (next :: rest)
    else
      writeUnits (putCodePoint written (codePointAt (code :: next :: rest))) rest

def encodeUnits (value : Text) : Written :=
  writeUnits (List.replicate (encodedByteLength value) 0, 0) value

def encodeUtf8Fallback (value : Text) : List UInt8 :=
  (encodeUnits value).1

def encodeCanonicalJsonFallback {ν : Type} [NumberText ν] (value : Json ν)
    : Except CanonicalJsonError (List UInt8) :=
  (serializeEvaluationCanonicalJson value).map (fun chars => encodeUtf8Fallback (text (String.ofList chars)))

def writtenBytes (bytes : List UInt8) (count : Nat) : Written :=
  (bytes ++ List.replicate count 0, bytes.length)

theorem put_writtenBytes (bytes : List UInt8) (count byte : Nat)
    : put (writtenBytes bytes (count + 1)) byte = writtenBytes (bytes ++ [UInt8.ofNat byte]) count := by
  simp [put, writtenBytes, List.replicate_succ]

theorem or_eq_add {high : Nat} (bits : Nat) {low : Nat} (hlow : low < 2 ^ bits)
    : 2 ^ bits * high ||| low = low + 2 ^ bits * high := by
  rw [← Nat.two_pow_add_eq_or_of_lt hlow, Nat.add_comm]

theorem lead_eq {value : Nat} (shift bits high : Nat) (hvalue : value < 2 ^ (shift + bits))
    : 2 ^ bits * high ||| (value >>> shift) = value / 2 ^ shift % 2 ^ bits + 2 ^ bits * high := by
  have hlow : value / 2 ^ shift < 2 ^ bits := by
    rw [Nat.div_lt_iff_lt_mul (Nat.two_pow_pos shift), ← Nat.pow_add, Nat.add_comm]
    exact hvalue
  rw [Nat.shiftRight_eq_div_pow, Nat.mod_eq_of_lt hlow]
  exact or_eq_add bits hlow

theorem tail_eq (value : Nat) : 0x80 ||| (value &&& 0x3f) = value % 0x40 + 0x80 := by
  rw [show value &&& 0x3f = value % 0x40 from Nat.and_two_pow_sub_one_eq_mod value 6]
  exact @or_eq_add 2 6 (value % 0x40) (Nat.mod_lt _ (by decide))

theorem tail_shift_eq (value shift : Nat)
    : 0x80 ||| ((value >>> shift) &&& 0x3f) = value / 2 ^ shift % 0x40 + 0x80 := by
  rw [tail_eq, Nat.shiftRight_eq_div_pow]

theorem putCodePoint_writtenBytes (c : Char) (bytes : List UInt8) (count : Nat)
    : putCodePoint (writtenBytes bytes ((String.utf8EncodeChar c).length + count)) c.toNat
        = writtenBytes (bytes ++ String.utf8EncodeChar c) count := by
  have hvalue : c.val.toNat = c.toNat := rfl
  have hvalid : c.toNat < 55296 ∨ 57343 < c.toNat ∧ c.toNat < 1114112 := c.valid
  unfold putCodePoint String.utf8EncodeChar
  rw [hvalue]
  dsimp only
  split
  . rw [show [UInt8.ofNat c.toNat].length + count = count + 1 from Nat.add_comm _ _, put_writtenBytes]
  . split
    . have hlead : 0xc0 ||| (c.toNat >>> 6) = c.toNat / 64 % 0x20 + 0xc0 := lead_eq 6 5 6 (by omega)
      rw [hlead, tail_eq, show ∀ a b : UInt8, [a, b].length + count = count + 1 + 1 from
        fun _ _ => Nat.add_comm 2 count, put_writtenBytes, put_writtenBytes, List.append_assoc]
      rfl
    . split
      . have hlead : 0xe0 ||| (c.toNat >>> 12) = c.toNat / 4096 % 0x10 + 0xe0 := lead_eq 12 4 14 (by omega)
        rw [hlead, tail_shift_eq c.toNat 6, tail_eq c.toNat,
          show ∀ a b c : UInt8, [a, b, c].length + count = count + 1 + 1 + 1 from
          fun _ _ _ => Nat.add_comm 3 count, put_writtenBytes, put_writtenBytes, put_writtenBytes, List.append_assoc,
          List.append_assoc]
        rfl
      . have hlead : 0xf0 ||| (c.toNat >>> 18) = c.toNat / 262144 % 0x08 + 0xf0 := lead_eq 18 3 30 (by omega)
        rw [hlead, tail_shift_eq c.toNat 12, tail_shift_eq c.toNat 6, tail_eq c.toNat,
          show ∀ a b c d : UInt8, [a, b, c, d].length + count = count + 1 + 1 + 1 + 1 from
            fun _ _ _ _ => Nat.add_comm 4 count, put_writtenBytes, put_writtenBytes, put_writtenBytes,
          put_writtenBytes, List.append_assoc, List.append_assoc, List.append_assoc]
        rfl

theorem length_utf8EncodeChar (c : Char)
    : (String.utf8EncodeChar c).length
        = if c.toNat ≤ 0x7f then 1 else if c.toNat ≤ 0x7ff then 2 else if c.toNat ≤ 0xffff then 3 else 4 := by
  have hvalue : c.val.toNat = c.toNat := rfl
  unfold String.utf8EncodeChar
  rw [hvalue]
  dsimp only
  split
  . rfl
  . split
    . rfl
    . split <;> rfl

theorem isHighSurrogate_iff {unit : UInt16}
    : Host.isHighSurrogate unit = true ↔ 0xd800 ≤ unit.toNat ∧ unit.toNat ≤ 0xdbff := by
  simp only [Host.isHighSurrogate, Bool.and_eq_true, decide_eq_true_eq, UInt16.le_iff_toNat_le, UInt16.reduceToNat]

theorem isLowSurrogate_iff {unit : UInt16}
    : Host.isLowSurrogate unit = true ↔ 0xdc00 ≤ unit.toNat ∧ unit.toNat ≤ 0xdfff := by
  simp only [Host.isLowSurrogate, Bool.and_eq_true, decide_eq_true_eq, UInt16.le_iff_toNat_le, UInt16.reduceToNat]

theorem toNat_scalarOf {unit : UInt16} (hhigh : Host.isHighSurrogate unit = false)
    (hlow : Host.isLowSurrogate unit = false)
    : (scalarOf unit).toNat = unit.toNat := by
  have hunit := unit.toNat_lt
  rw [← Bool.not_eq_true, isHighSurrogate_iff] at hhigh
  rw [← Bool.not_eq_true, isLowSurrogate_iff] at hlow
  unfold scalarOf
  rw [if_neg (by simp only [Bool.or_eq_true, isHighSurrogate_iff, isLowSurrogate_iff]; omega)]
  apply toNat_charOfNat
  unfold Nat.isValidChar
  omega

theorem toNat_scalarOfPair {high low : UInt16} (hhigh : Host.isHighSurrogate high = true)
    (hlow : Host.isLowSurrogate low = true)
    : (scalarOfPair high low).toNat = 0x10000 + (high.toNat - 0xD800) * 0x400 + (low.toNat - 0xDC00) := by
  rw [isHighSurrogate_iff] at hhigh
  rw [isLowSurrogate_iff] at hlow
  apply toNat_charOfNat
  unfold Nat.isValidChar
  omega

theorem length_scalarOf {unit : UInt16} (hhigh : Host.isHighSurrogate unit = false)
    (hlow : Host.isLowSurrogate unit = false)
    : (String.utf8EncodeChar (scalarOf unit)).length = encodedUnitLength unit := by
  have hunit := unit.toNat_lt
  rw [length_utf8EncodeChar, toNat_scalarOf hhigh hlow]
  rw [← Bool.not_eq_true, isHighSurrogate_iff] at hhigh
  unfold encodedUnitLength
  split
  . rfl
  . split
    . rfl
    . simp only [if_pos (show unit.toNat ≤ 65535 by omega)]

theorem length_scalarOfPair {high low : UInt16} (hhigh : Host.isHighSurrogate high = true)
    (hlow : Host.isLowSurrogate low = true)
    : (String.utf8EncodeChar (scalarOfPair high low)).length = 4 := by
  rw [length_utf8EncodeChar, toNat_scalarOfPair hhigh hlow, if_neg (by omega), if_neg (by omega), if_neg (by omega)]

theorem writeUnits_writtenBytes {units : Text} (h : validUnicode units = true) (bytes : List UInt8) (count : Nat)
    : writeUnits (writtenBytes bytes (encodedByteLength units + count)) units
        = writtenBytes (bytes ++ Json.encodeUtf8 (scalars units)) count := by
  fun_induction scalars units generalizing bytes with
  | case1 =>
    rw [encodedByteLength, Nat.zero_add, writeUnits, Json.encodeUtf8, List.flatMap_nil, List.append_nil]
  | case2 unit =>
    rw [validUnicode, Bool.and_eq_true, Bool.not_eq_true', Bool.not_eq_true'] at h
    rw [encodedByteLength, writeUnits, codePointAt, ← length_scalarOf h.1 h.2, ← toNat_scalarOf h.1 h.2,
      putCodePoint_writtenBytes, Json.encodeUtf8, List.flatMap_singleton]
  | case3 unit next rest hpair ih =>
    have hboth := Bool.and_eq_true_iff.mp hpair
    rw [validUnicode, if_pos hboth.1, Bool.and_eq_true] at h
    have hcode : codePointAt (unit :: next :: rest) = (scalarOfPair unit next).toNat := by
      rw [codePointAt, if_pos hpair, toNat_scalarOfPair hboth.1 hboth.2]
    have hlarge : ¬codePointAt (unit :: next :: rest) ≤ 0xffff := by
      rw [codePointAt, if_pos hpair]
      omega
    rw [encodedByteLength, if_pos (isHighSurrogate_iff.mp hboth.1), writeUnits, if_neg hlarge, hcode,
      ← length_scalarOfPair hboth.1 hboth.2, Nat.add_assoc, putCodePoint_writtenBytes, ih h.2, List.append_assoc]
    rfl
  | case4 unit next rest hpair ih =>
    rw [validUnicode] at h
    split at h
    . next hhigh =>
      rw [Bool.and_eq_true] at h
      exact absurd (Bool.and_eq_true_iff.mpr ⟨hhigh, h.1⟩) hpair
    . next hhigh =>
      have hhigh' : Host.isHighSurrogate unit = false := Bool.eq_false_iff.mpr hhigh
      rw [Bool.and_eq_true, Bool.not_eq_true'] at h
      have hsmall := unit.toNat_lt
      have hcode : codePointAt (unit :: next :: rest) = (scalarOf unit).toNat := by
        rw [codePointAt, if_neg hpair, toNat_scalarOf hhigh' h.1]
      have hle : codePointAt (unit :: next :: rest) ≤ 0xffff := by
        rw [codePointAt, if_neg hpair]
        omega
      rw [encodedByteLength, if_neg (by rw [← isHighSurrogate_iff]; exact hhigh), writeUnits, if_pos hle, hcode,
        ← length_scalarOf hhigh' h.1, Nat.add_assoc, putCodePoint_writtenBytes, ih h.2, List.append_assoc]
      rfl

theorem encodeUnits_eq {units : Text} (h : validUnicode units = true)
    : encodeUnits units = (Json.encodeUtf8 (scalars units), (Json.encodeUtf8 (scalars units)).length) := by
  have hrun := writeUnits_writtenBytes h [] 0
  rw [Nat.add_zero, List.nil_append] at hrun
  unfold encodeUnits
  refine Eq.trans hrun ?_
  rw [writtenBytes, List.replicate_zero, List.append_nil]

theorem length_put (written : Written) (byte : Nat) : (put written byte).1.length = written.1.length :=
  List.length_set

theorem length_putCodePoint (written : Written) (codePoint : Nat)
    : (putCodePoint written codePoint).1.length = written.1.length := by
  unfold putCodePoint
  split
  . exact length_put _ _
  . split
    . rw [length_put, length_put]
    . split
      . rw [length_put, length_put, length_put]
      . rw [length_put, length_put, length_put, length_put]

theorem length_writeUnits (written : Written) (units : Text)
    : (writeUnits written units).1.length = written.1.length := by
  fun_induction writeUnits written units with
  | case1 => rfl
  | case2 => exact length_putCodePoint _ _
  | case3 _ _ _ _ _ ih => rw [ih, length_putCodePoint]
  | case4 _ _ _ _ _ ih => rw [ih, length_putCodePoint]

/-- The array is never longer or shorter than allocated, so the first pass has counted the bytes of the second. -/
theorem encodedByteLength_eq {units : Text} (h : validUnicode units = true)
    : encodedByteLength units = (encodeUnits units).2 := by
  have hlength : (encodeUnits units).1.length = encodedByteLength units := by
    unfold encodeUnits
    rw [length_writeUnits, List.length_replicate]
  rw [← hlength, encodeUnits_eq h]

section Rejection

variable {ν : Type}

inductive LoneSurrogate : Json ν → Prop where
  | string (units : List UInt16) (hunits : validUnicode units = false) : LoneSurrogate (.string units)
  | item (items : List (Json ν)) (item : Json ν) (hmem : item ∈ items) (h : LoneSurrogate item)
    : LoneSurrogate (.array items)
  | key (members : List (Member ν)) (member : Member ν) (hmem : member ∈ members)
    (hunits : validUnicode member.1 = false)
    : LoneSurrogate (.object members)
  | value (members : List (Member ν)) (hkeys : (members.map Prod.fst).Nodup) (member : Member ν)
    (hmem : member ∈ members) (h : LoneSurrogate member.2)
    : LoneSurrogate (.object members)

def CachedKeys (keyEncodings : List (List UInt16 × List Char)) : Prop :=
  ∀ entry ∈ keyEncodings, entry.2 = quote entry.1 ∧ validUnicode entry.1 = true

theorem cachedKeys_nil : CachedKeys [] :=
  nofun

theorem encodeKey_eq_ok {key : List UInt16} {keyEncodings after : List (List UInt16 × List Char)}
    {encoded : List Char} (hcached : CachedKeys keyEncodings) (h : encodeKey key keyEncodings = .ok encoded after)
    : CachedKeys after ∧ encoded = quote key ∧ validUnicode key = true := by
  unfold encodeKey at h
  rw [get_bind_run] at h
  cases hlookup : keyEncodings.lookup key with
  | some encodedKey =>
    rw [hlookup] at h
    cases h
    obtain ⟨hquote, hvalid⟩ := hcached _ (mem_of_lookup_eq_some hlookup)
    exact ⟨hcached, hquote, hvalid⟩
  | none =>
    rw [hlookup] at h
    unfold containsUnpairedSurrogate at h
    cases hvalid : validUnicode key with
    | false =>
      rw [hvalid] at h
      cases h
    | true =>
      rw [hvalid] at h
      by_cases hsize : keyEncodings.length < maxCanonicalKeyEncodings
      . simp only [hsize, if_true, Bool.not_true, Bool.false_eq_true, if_false] at h
        cases h
        refine ⟨?_, rfl, rfl⟩
        intro entry hentry
        rcases List.mem_append.mp hentry with hentry | hentry
        . exact hcached entry hentry
        . rw [List.mem_singleton.mp hentry]
          exact ⟨rfl, hvalid⟩
      . simp only [hsize, Bool.not_true, Bool.false_eq_true, if_false] at h
        cases h
        exact ⟨hcached, rfl, rfl⟩

theorem attests_encodeKey (key : List UInt16) : Attests CachedKeys (validUnicode key = true) (encodeKey key) := by
  intro keyEncodings encoded after hcached h
  obtain ⟨hafter, _, hvalid⟩ := encodeKey_eq_ok hcached h
  exact ⟨hafter, hvalid⟩

theorem attests_encodeMember {encode : Json ν → Encoding (List Char)} {members : List (Member ν)}
    {key : List UInt16 × Nat} {facts : Json ν → Prop}
    (hvalues : ∀ value, Attests CachedKeys (facts value) (encode value)) (result : List Char)
    : Attests CachedKeys (validUnicode key.1 = true ∧ ∀ value, valueOf key.1 members = some value → facts value)
        (encodeMember encode members result key) := by
  unfold encodeMember
  refine Attests.bind (attests_encodeKey key.1) (fun encodedKey => ?_)
  cases hvalue : valueOf key.1 members with
  | none => exact Attests.throw _
  | some value =>
    refine Attests.mono (Attests.bind (hvalues value) (fun encoded => Attests.pure True.intro _)) ?_
    rintro ⟨hvalid, _⟩ other hother
    cases hother
    exact hvalid

theorem attests_encodeMembers {encode : Json ν → Encoding (List Char)} {members : List (Member ν)}
    {facts : Json ν → Prop} (hvalues : ∀ value, Attests CachedKeys (facts value) (encode value))
    : Attests CachedKeys (∀ member ∈ members, validUnicode member.1 = true
          ∧ ((members.map Prod.fst).Nodup → facts member.2))
        ((((members.map Prod.fst).mergeSort (fun left right => left ≤ right)).zipIdx).foldlM
          (encodeMember encode members) ['{']) := by
  refine Attests.mono (Attests.foldlM (fun key _ result => attests_encodeMember hvalues result) ['{']) ?_
  intro hkeys member hmem
  have hkey : member.1 ∈ (members.map Prod.fst).mergeSort (fun left right => left ≤ right) :=
    List.mem_mergeSort.mpr (List.mem_map_of_mem hmem)
  obtain ⟨index, hindex⟩ := List.mem_iff_getElem?.mp hkey
  obtain ⟨hvalid, hvalue⟩ := hkeys (member.1, index) (List.mem_zipIdx_iff_getElem?.mpr hindex)
  exact ⟨hvalid, fun hnodup => hvalue member.2 (valueOf_of_mem_of_nodup hnodup hmem)⟩

variable [NumberText ν]

theorem attests_canonicalJson (levels : Nat) (value : Json ν)
    : Attests CachedKeys (¬LoneSurrogate value) (canonicalJson levels value) := by
  induction levels generalizing value with
  | zero =>
    rw [canonicalJson]
    exact Attests.throw _
  | succ levels ih =>
    cases value with
    | null => exact Attests.pure (fun h => by cases h) _
    | bool value => exact Attests.pure (fun h => by cases h) _
    | number value =>
      rw [canonicalJson]
      split
      . exact Attests.pure (fun h => by cases h) _
      . exact Attests.throw _
    | string units =>
      rw [canonicalJson]
      unfold containsUnpairedSurrogate
      cases hvalid : validUnicode units with
      | false => exact Attests.throw _
      | true =>
        refine Attests.pure ?_ _
        rintro ⟨_, hunits⟩
        rw [hvalid] at hunits
        cases hunits
    | array items =>
      rw [canonicalJson]
      refine Attests.mono (Attests.bind (Attests.mapM (fun item _ => ih item)) (fun _ => Attests.pure True.intro _)) ?_
      rintro ⟨hitems, _⟩ hlone
      cases hlone with
      | item _ item hmem h => exact hitems item hmem h
    | object members =>
      rw [canonicalJson]
      refine Attests.mono (Attests.bind (attests_encodeMembers ih) (fun _ => Attests.pure True.intro _)) ?_
      rintro ⟨hmembers, _⟩ hlone
      cases hlone with
      | key _ member hmem hunits =>
        rw [(hmembers member hmem).1] at hunits
        cases hunits
      | value _ hnodup member hmem h => exact (hmembers member hmem).2 hnodup h

theorem canonicalJson_rejects {levels : Nat} {value : Json ν} {keyEncodings : List (List UInt16 × List Char)}
    (hcached : CachedKeys keyEncodings) (h : LoneSurrogate value)
    : ∃ error after, canonicalJson levels value keyEncodings = .error error after := by
  cases hrun : canonicalJson levels value keyEncodings with
  | ok chars after => exact absurd h (attests_canonicalJson levels value keyEncodings chars after hcached hrun).2
  | error error after => exact ⟨error, after, rfl⟩

omit [NumberText ν] in
inductive KeysOnce : Json ν → Prop where
  | null : KeysOnce .null
  | bool (value : Bool) : KeysOnce (.bool value)
  | number (value : ν) : KeysOnce (.number value)
  | string (units : List UInt16) : KeysOnce (.string units)
  | array (items : List (Json ν)) (hitems : ∀ item ∈ items, KeysOnce item) : KeysOnce (.array items)
  | object (members : List (Member ν)) (hkeys : (members.map Prod.fst).Nodup)
    (hvalues : ∀ member ∈ members, KeysOnce member.2)
    : KeysOnce (.object members)

theorem serializeEvaluationCanonicalJson_rejects {value : Json ν} (h : LoneSurrogate value)
    : ∃ error, serializeEvaluationCanonicalJson value = .error error := by
  obtain ⟨error, after, hrun⟩ := @canonicalJson_rejects ν _ (maxCanonicalNestingDepth + 1) value [] cachedKeys_nil h
  refine ⟨error, ?_⟩
  rw [serializeEvaluationCanonicalJson, hrun]

theorem scalars_text (literal : String) : scalars (text literal) = literal.toList := by
  have hsame : wellFormed (text literal) = literal := by
    apply text_injective
    rw [text_wellFormed, toWellFormed_of_validUnicode (validUnicode_text literal)]
  calc
    scalars (text literal) = (wellFormed (text literal)).toList := String.toList_ofList.symm
    _ = literal.toList := congrArg String.toList hsame

theorem encodeCanonicalJsonFallback_eq (value : Json ν)
    : encodeCanonicalJsonFallback value = encodeEvaluationCanonicalJson value := by
  unfold encodeCanonicalJsonFallback encodeEvaluationCanonicalJson
  refine congrArg (fun f => Except.map f (serializeEvaluationCanonicalJson value)) (funext (fun chars => ?_))
  rw [encodeUtf8Fallback, encodeUnits_eq (validUnicode_text _), scalars_text, String.toList_ofList]

theorem quote_injective {left right : List UInt16} (h : quote left = quote right) : left = right := by
  have hleft := scan_quote (ν := Nat) left []
  rw [h, scan_quote] at hleft
  simpa [scan, scanEnd] using hleft.symm

theorem serializeEvaluationCanonicalJson_string {units : List UInt16} {chars : List Char}
    (h : serializeEvaluationCanonicalJson (.string units : Json ν) = .ok chars)
    : chars = quote units := by
  unfold serializeEvaluationCanonicalJson at h
  rw [canonicalJson] at h
  unfold containsUnpairedSurrogate at h
  cases hvalid : validUnicode units with
  | false =>
    rw [hvalid] at h
    cases h
  | true =>
    rw [hvalid] at h
    cases h
    rfl

theorem encodeCanonicalJsonFallback_string {left right : List UInt16} {bytes : List UInt8}
    (hleft : encodeCanonicalJsonFallback (.string left : Json ν) = .ok bytes)
    (hright : encodeCanonicalJsonFallback (.string right : Json ν) = .ok bytes)
    : left = right := by
  rw [encodeCanonicalJsonFallback_eq] at hleft hright
  unfold encodeEvaluationCanonicalJson at hleft hright
  cases hl : serializeEvaluationCanonicalJson (.string left : Json ν) with
  | error error =>
    rw [hl] at hleft
    cases hleft
  | ok leftChars =>
    cases hr : serializeEvaluationCanonicalJson (.string right : Json ν) with
    | error error =>
      rw [hr] at hright
      cases hright
    | ok rightChars =>
      rw [hl] at hleft
      rw [hr] at hright
      have hbytes : Json.encodeUtf8 leftChars = Json.encodeUtf8 rightChars :=
        (Except.ok.inj hleft).trans (Except.ok.inj hright).symm
      have hchars : leftChars = rightChars := by
        have hdecoded := congrArg decodeUtf8 hbytes
        rw [decodeUtf8_encodeUtf8, decodeUtf8_encodeUtf8] at hdecoded
        exact Option.some.inj hdecoded
      apply quote_injective
      rw [← serializeEvaluationCanonicalJson_string hl, ← serializeEvaluationCanonicalJson_string hr, hchars]

/-- The encoder of the definitions writes standard bytes, and rejects every string that has none. -/
theorem encoding_of_strings (ν : Type) [NumberText ν]
    : (∀ units : Text, validUnicode units = true →
          encodeUtf8Fallback units = Json.encodeUtf8 (scalars units)
            ∧ encodedByteLength units = (encodeUnits units).2
            ∧ (encodeUnits units).2 = (encodeUtf8Fallback units).length)
        ∧ (∀ value : Json ν, encodeCanonicalJsonFallback value = encodeEvaluationCanonicalJson value)
        ∧ (∀ value : Json ν, LoneSurrogate value → ∃ error, serializeEvaluationCanonicalJson value = .error error)
        ∧ (∀ (levels : Nat) (value : Json ν) (keyEncodings : List (List UInt16 × List Char)),
            CachedKeys keyEncodings →
            (LoneSurrogate value → ∃ error after, canonicalJson levels value keyEncodings = .error error after)
              ∧ ∀ chars after, canonicalJson levels value keyEncodings = .ok chars after → CachedKeys after)
        ∧ (∀ (left right : List UInt16) (bytes : List UInt8),
            encodeCanonicalJsonFallback (.string left : Json ν) = .ok bytes →
            encodeCanonicalJsonFallback (.string right : Json ν) = .ok bytes → left = right)
        ∧ ∀ (left right : List UInt16) (encoded : List Char)
            (leftCache rightCache leftAfter rightAfter : List (List UInt16 × List Char)),
            CachedKeys leftCache → CachedKeys rightCache → encodeKey left leftCache = .ok encoded leftAfter →
            encodeKey right rightCache = .ok encoded rightAfter → left = right := by
  refine ⟨?_, encodeCanonicalJsonFallback_eq, fun value => serializeEvaluationCanonicalJson_rejects, ?_,
    fun left right bytes => encodeCanonicalJsonFallback_string, ?_⟩
  . intro units h
    have hunits := encodeUnits_eq h
    refine ⟨?_, encodedByteLength_eq h, ?_⟩
    . rw [encodeUtf8Fallback, hunits]
    . rw [encodeUtf8Fallback, hunits]
  . intro levels value keyEncodings hcached
    exact ⟨canonicalJson_rejects hcached,
      fun chars after hrun => (attests_canonicalJson levels value keyEncodings chars after hcached hrun).1⟩
  . intro left right encoded leftCache rightCache leftAfter rightAfter hleft hright hl hr
    obtain ⟨_, hquote, _⟩ := encodeKey_eq_ok hleft hl
    obtain ⟨_, hquote', _⟩ := encodeKey_eq_ok hright hr
    exact quote_injective (hquote.symm.trans hquote')

end Rejection

namespace BytesSample

-- characters of one, two, three and four bytes, the last one as a pair of surrogates
def units : Text :=
  [0x41, 0xE9, 0x20AC, 0xD83D, 0xDE00]

def lone : Json Nat :=
  .array [.object [([0x61], .null), ([0xD83D, 0x61], .null)]]

theorem loneSurrogate_lone : LoneSurrogate lone :=
  .item _ _ List.mem_cons_self (.key _ ([0xD83D, 0x61], .null) (by simp) (by decide))

theorem encoding_of_strings_units
    : encodeUtf8Fallback units = Json.encodeUtf8 (scalars units)
        ∧ encodedByteLength units = (encodeUnits units).2
        ∧ ∃ error, serializeEvaluationCanonicalJson lone = .error error := by
  obtain ⟨hbytes, _, hrejects, _⟩ := encoding_of_strings Nat
  have hunits := hbytes units (by decide)
  exact ⟨hunits.1, hunits.2.1, hrejects lone loneSurrogate_lone⟩

end BytesSample

end Evaluation
end ProofStack
