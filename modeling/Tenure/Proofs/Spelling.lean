import Mathlib.Data.List.Forall2
import Tenure.Store

/-!
# Texts are read as they were written

A text is written as a row of escaped characters between double quotes. The lexer takes the bytes
of each escaped character for the character again, so what was written is read back, whatever the
characters are. An identity that was put into a store is found there.
-/
namespace Tenure

/-! ## Bytes of a text -/

theorem toList_loop (bytes : ByteArray) (i : Nat) (done : List UInt8) :
    ByteArray.toList.loop bytes i done = done.reverse ++ bytes.data.toList.drop i := by
  fun_induction ByteArray.toList.loop bytes i done with
  | case1 i done lt ih =>
    have lt' : i < bytes.data.toList.length := by simpa using lt
    rw [ih, List.drop_eq_getElem_cons lt']
    simp [ByteArray.get!, lt]
  | case2 i done le =>
    rw [List.drop_eq_nil_of_le (by simpa using Nat.le_of_not_lt le)]
    simp

theorem toList_toUTF8 (cs : List Char) :
    (String.ofList cs).toUTF8.toList = cs.flatMap String.utf8EncodeChar := by
  rw [String.toUTF8_eq_toByteArray, String.toByteArray_ofList, ByteArray.toList, toList_loop]
  simp [List.utf8Encode]

/-- The bytes of a character are above those of ASCII, or there is one, the character itself. -/
theorem mem_utf8EncodeChar {c : Char} {b : UInt8} (mem : b ∈ String.utf8EncodeChar c) :
    b.toNat = c.toNat ∨ 0x80 ≤ b.toNat := by
  have value : c.val.toNat = c.toNat := rfl
  rw [String.utf8EncodeChar, value] at mem
  split at mem
  · refine .inl ?_
    rw [List.mem_singleton.mp mem, UInt8.toNat_ofNat']
    omega
  · refine .inr ?_
    repeat' split at mem
    all_goals
      simp only [List.mem_cons, List.not_mem_nil, or_false] at mem
      rcases mem with rfl | rfl | rfl | rfl <;> rw [UInt8.toNat_ofNat'] <;> omega

theorem toNat_ofNat_of_valid {n : Nat} (valid : n.isValidChar) : (Char.ofNat n).toNat = n := by
  rw [Char.ofNat, dif_pos valid]
  rfl

namespace Json

/-! ## Ways to write a text -/

/-- A digit to the base 16, of which a letter may be small or capital. -/
def IsHexDigit (c : Char) (d : Nat) : Prop :=
  d < 16 ∧ (c = Nat.digitChar d ∨ c = (Nat.digitChar d).toUpper)

/-- A number of sixteen bits in four digits. -/
inductive IsUnit : Nat → List Char → Prop
  | digits {a b c d : Char} {i j k l : Nat} (first : IsHexDigit a i) (second : IsHexDigit b j)
      (third : IsHexDigit c k) (fourth : IsHexDigit d l) :
      IsUnit (((i * 16 + j) * 16 + k) * 16 + l) [a, b, c, d]

/-- The letters that stand for a character behind a backslash. -/
def shortEscapes : List (Char × Char) :=
  [('"', '"'), ('\\', '\\'), ('/', '/'), ('b', '\x08'), ('f', '\x0c'), ('n', '\n'), ('r', '\r'),
    ('t', '\t')]

/-- The ways to write a character of a text: as it is, behind a backslash, by its number, or, if
that takes more than sixteen bits, by the numbers of two surrogates. -/
inductive Writes : Char → List Char → Prop
  | plain {c : Char} (high : 0x20 ≤ c.toNat) (quote : c ≠ '"') (slash : c ≠ '\\') : Writes c [c]
  | short {x c : Char} (mem : (x, c) ∈ shortEscapes) : Writes c ['\\', x]
  | unit {c : Char} {digits : List Char} (isUnit : IsUnit c.toNat digits) :
      Writes c ('\\' :: 'u' :: digits)
  | pair {c : Char} {high low : Nat} {digits digits' : List Char}
      (isHigh : 0xD800 ≤ high ∧ high < 0xDC00) (isLow : 0xDC00 ≤ low ∧ low < 0xE000)
      (number : c.toNat = 0x10000 + (high - 0xD800) * 0x400 + (low - 0xDC00))
      (first : IsUnit high digits) (second : IsUnit low digits') :
      Writes c ('\\' :: 'u' :: digits ++ '\\' :: 'u' :: digits')

/-- The ways to write a text. -/
def WritesText (s : String) (cs : List Char) : Prop :=
  ∃ parts, List.Forall₂ Writes s.toList parts ∧ cs = '"' :: parts.flatten ++ ['"']

/-- What has the form of a text: written characters and any numbers of sixteen bits. -/
inductive Loose : List Char → Prop
  | nil : Loose []
  | char {c : Char} {part cs : List Char} (writes : Writes c part) (rest : Loose cs) :
      Loose (part ++ cs)
  | unit {n : Nat} {digits cs : List Char} (isUnit : IsUnit n digits) (rest : Loose cs) :
      Loose ('\\' :: 'u' :: digits ++ cs)

/-- What has the form of a text and is none, because a surrogate in it is not one of a pair. -/
def WritesNoText (cs : List Char) : Prop :=
  (∃ body, Loose body ∧ cs = '"' :: body ++ ['"']) ∧ ∀ s, ¬ WritesText s cs

theorem IsUnit.lt {n : Nat} {digits : List Char} (h : IsUnit n digits) : n < 0x10000 := by
  obtain ⟨⟨_, -⟩, ⟨_, -⟩, ⟨_, -⟩, ⟨_, -⟩⟩ := h
  omega

/-- A control character is written by its number, which has two digits. -/
theorem writes_escapeChar (c : Char) : Writes c (escapeChar c) := by
  fun_cases escapeChar c
  · next eq => exact .short (by simp [eq, shortEscapes])
  · next eq => exact .short (by simp [eq, shortEscapes])
  · next eq => exact .short (by simp [eq, shortEscapes])
  · next eq => exact .short (by simp [eq, shortEscapes])
  · next eq => exact .short (by simp [eq, shortEscapes])
  · next eq => exact .short (by simp [eq, shortEscapes])
  · next eq => exact .short (by simp [eq, shortEscapes])
  · next low =>
    have zero : IsHexDigit '0' 0 := ⟨by decide, .inl rfl⟩
    have digits := IsUnit.digits zero zero (d := Nat.digitChar (c.toNat % 16))
      (c := Nat.digitChar (c.toNat / 16)) (k := c.toNat / 16) (l := c.toNat % 16)
      ⟨by omega, .inl rfl⟩ ⟨by omega, .inl rfl⟩
    have number : ((0 * 16 + 0) * 16 + c.toNat / 16) * 16 + c.toNat % 16 = c.toNat := by omega
    rw [number] at digits
    exact .unit digits
  · next quote slash _ _ _ _ _ high => exact .plain (Nat.not_lt.mp high) quote slash

theorem writesText_spellText (s : String) : WritesText s (spellText s) := by
  refine ⟨s.toList.map escapeChar, ?_, by rw [spellText, List.flatMap_def]⟩
  rw [List.forall₂_map_right_iff, List.forall₂_same]
  exact fun c _ => writes_escapeChar c

/-! ## Pieces of a text -/

/-- Whether a character is read as these pieces: its bytes, its number, or its surrogates. -/
inductive Piece.Spells : List Piece → Char → Prop
  | bytes (c : Char) : Spells ((String.utf8EncodeChar c).map .byte) c
  | unit (c : Char) : Spells [.unit c.toNat] c
  | pair {c : Char} {high low : Nat} (isHigh : isHighSurrogate high = true)
      (isLow : isLowSurrogate low = true) (number : c.toNat = pair high low) :
      Spells [.unit high, .unit low] c

namespace Piece

variable {pieces : List Piece} {c : Char}

theorem bytes?_bytes (bytes : List UInt8) (rest : List Piece) :
    bytes? (bytes.map .byte ++ rest) = (bytes? rest).map (bytes ++ ·) := by
  induction bytes with
  | nil => simp
  | cons b bytes ih => simp [bytes?, ih, Function.comp_def]

/-- A number that is no surrogate is no part of a pair. -/
theorem bytes?_unit {n : Nat} (notHigh : isHighSurrogate n = false)
    (notLow : isLowSurrogate n = false) (rest : List Piece) :
    bytes? (.unit n :: rest) = (bytes? rest).map (encodePoint n ++ ·) := by
  cases rest with
  | nil => simp [bytes?, notHigh, notLow]
  | cons piece rest => cases piece <;> simp [bytes?, notHigh, notLow]

theorem encodePoint_toNat (c : Char) : encodePoint c.toNat = String.utf8EncodeChar c := by
  rw [encodePoint, Char.ofNat_toNat]

/-- The number of a character is no surrogate. -/
theorem surrogates_toNat (c : Char) :
    isHighSurrogate c.toNat = false ∧ isLowSurrogate c.toNat = false := by
  have valid : c.toNat < 0xD800 ∨ 0xDFFF < c.toNat ∧ c.toNat < 0x110000 := c.valid
  simp only [isHighSurrogate, isLowSurrogate, Bool.and_eq_false_iff, decide_eq_false_iff_not]
  omega

theorem bytes?_of_spells (h : Spells pieces c) (rest : List Piece) :
    bytes? (pieces ++ rest) = (bytes? rest).map (String.utf8EncodeChar c ++ ·) := by
  cases h with
  | bytes => exact bytes?_bytes _ rest
  | unit =>
    obtain ⟨notHigh, notLow⟩ := surrogates_toNat c
    rw [List.singleton_append, bytes?_unit notHigh notLow, encodePoint_toNat]
  | pair isHigh isLow number =>
    simp [bytes?, isHigh, isLow, ← number, encodePoint_toNat]

theorem bytes?_high_end {n : Nat} (high : isHighSurrogate n = true) : bytes? [.unit n] = none := by
  simp [bytes?, high]

theorem bytes?_high_char {n : Nat} (high : isHighSurrogate n = true) (c : Char)
    (rest : List Piece) :
    bytes? (.unit n :: ((String.utf8EncodeChar c).map .byte ++ rest)) = none := by
  have some : String.utf8EncodeChar c ≠ [] := String.utf8EncodeChar_ne_nil
  obtain ⟨b, bytes, eq⟩ := List.exists_cons_of_ne_nil some
  simp [eq, bytes?, high]

theorem bytes?_high_unit {n m : Nat} (high : isHighSurrogate n = true) (rest : List Piece) :
    bytes? (.unit n :: .unit m :: rest) =
      if isLowSurrogate m then (bytes? rest).map (encodePoint (pair n m) ++ ·) else none := by
  simp [bytes?, high]

theorem bytes?_low {n : Nat} (notHigh : isHighSurrogate n = false)
    (low : isLowSurrogate n = true) (rest : List Piece) : bytes? (.unit n :: rest) = none := by
  cases rest with
  | nil => simp [bytes?, low]
  | cons piece rest => cases piece <;> simp [bytes?, notHigh, low]

theorem toNat_ofNat {n : Nat} (lt : n < 0x10000) (notHigh : isHighSurrogate n = false)
    (notLow : isLowSurrogate n = false) : (Char.ofNat n).toNat = n := by
  have valid : n.isValidChar := by
    simp only [isHighSurrogate, isLowSurrogate, Bool.and_eq_false_iff, decide_eq_false_iff_not]
      at notHigh notLow
    simp only [Nat.isValidChar]
    omega
  exact toNat_ofNat_of_valid valid

theorem toNat_ofNat_pair {high low : Nat} (isHigh : isHighSurrogate high = true)
    (isLow : isLowSurrogate low = true) : (Char.ofNat (pair high low)).toNat = pair high low := by
  simp only [isHighSurrogate, isLowSurrogate, Bool.and_eq_true, decide_eq_true_eq] at isHigh isLow
  have valid : 0xDFFF < pair high low ∧ pair high low < 0x110000 := by
    unfold pair
    omega
  exact toNat_ofNat_of_valid (.inr valid)

theorem string?_of_bytes? {cs : List Char}
    (h : bytes? pieces = some (cs.flatMap String.utf8EncodeChar)) :
    string? pieces = some (.ofList cs) := by
  have valid : (ByteArray.mk (cs.flatMap String.utf8EncodeChar).toArray).IsValidUTF8 := by
    rw [← List.data_toByteArray]
    exact (String.ofList cs).isValidUTF8
  rw [string?, h, Option.bind_some, String.fromUTF8?, dif_pos valid, Option.some.injEq,
    ← String.toByteArray_inj]
  exact ByteArray.ext List.data_toByteArray.symm

end Piece

/-! ## Reading what was written -/

namespace LexMode

variable {before : List Piece}

theorem toNat_ofNat_byte (b : UInt8) : (Char.ofNat b.toNat).toNat = b.toNat := by
  have := b.toNat_lt
  have valid : b.toNat.isValidChar := .inl (by omega)
  exact toNat_ofNat_of_valid valid

/-- A byte that is no double quote, no backslash and no control character is read as it is. -/
theorem step_text_byte {b : UInt8} (high : 0x20 ≤ b.toNat) (quote : b.toNat ≠ 0x22)
    (slash : b.toNat ≠ 0x5C) : (text before).step b = (text (.byte b :: before), []) := by
  have notQuote : Char.ofNat b.toNat ≠ '"' := fun eq =>
    quote ((toNat_ofNat_byte b).symm.trans (congrArg Char.toNat eq))
  have notSlash : Char.ofNat b.toNat ≠ '\\' := fun eq =>
    slash ((toNat_ofNat_byte b).symm.trans (congrArg Char.toNat eq))
  have notControl : ¬ b < 0x20 := by
    rw [UInt8.lt_iff_toNat_lt]
    exact Nat.not_lt.mpr high
  rw [step, if_neg notQuote, if_neg notSlash, if_neg notControl]

theorem run_text_bytes {bytes : List UInt8}
    (plain : ∀ b ∈ bytes, 0x20 ≤ b.toNat ∧ b.toNat ≠ 0x22 ∧ b.toNat ≠ 0x5C) (rest : List UInt8) :
    (text before).run (bytes ++ rest) = (text ((bytes.map .byte).reverse ++ before)).run rest := by
  induction bytes generalizing before with
  | nil => rfl
  | cons b bytes ih =>
    obtain ⟨high, quote, slash⟩ := plain b List.mem_cons_self
    rw [List.cons_append, run, step_text_byte high quote slash]
    simpa using ih fun b mem => plain b (List.mem_cons_of_mem _ mem)

/-- A digit of a code point is read. -/
theorem run_hex_digit {c : Char} {digit : Nat} (h : IsHexDigit c digit) (left value : Nat)
    (rest : List UInt8) :
    (hex before left value).run (String.utf8EncodeChar c ++ rest) =
      (if left ≤ 1 then text (.unit (value * 16 + digit) :: before)
        else hex before (left - 1) (value * 16 + digit)).run rest := by
  obtain ⟨lt, eq⟩ := h
  have reads : ∀ d : Fin 16, ∀ c, c = Nat.digitChar d ∨ c = (Nat.digitChar d).toUpper →
      String.utf8EncodeChar c = [UInt8.ofNat c.toNat] ∧
        Text.hexValue? (Char.ofNat (UInt8.ofNat c.toNat).toNat) = some d.val := by
    rintro d c (rfl | rfl) <;> revert d <;> decide
  obtain ⟨bytes, value⟩ := reads ⟨digit, lt⟩ c eq
  rw [bytes, List.singleton_append, run, step, value]
  by_cases last : left ≤ 1 <;> simp [last]

theorem run_unit {n : Nat} {digits : List Char} (h : IsUnit n digits) (before : List Piece)
    (rest : List UInt8) :
    (text before).run (('\\' :: 'u' :: digits).flatMap String.utf8EncodeChar ++ rest) =
      (text (.unit n :: before)).run rest := by
  obtain ⟨first, second, third, fourth⟩ := h
  simp only [List.flatMap_cons, List.flatMap_nil, List.append_assoc, List.nil_append]
  show (hex before 4 0).run (String.utf8EncodeChar _ ++ _) = _
  rw [run_hex_digit first, if_neg (by decide), run_hex_digit second, if_neg (by decide),
    run_hex_digit third, if_neg (by decide), run_hex_digit fourth, if_pos (by decide)]
  simp

end LexMode

/-- A part of what has the form of a text, with the pieces as which it is read. -/
inductive Segment : List Char × List Piece → Prop
  | plain {c : Char} (high : 0x20 ≤ c.toNat) (quote : c ≠ '"') (slash : c ≠ '\\') :
      Segment ([c], (String.utf8EncodeChar c).map .byte)
  | short {x c : Char} (mem : (x, c) ∈ shortEscapes) :
      Segment (['\\', x], (String.utf8EncodeChar c).map .byte)
  | unit {n : Nat} {digits : List Char} (isUnit : IsUnit n digits) :
      Segment ('\\' :: 'u' :: digits, [.unit n])

namespace Segment

theorem run {segment : List Char × List Piece} (h : Segment segment) (before : List Piece)
    (rest : List UInt8) :
    (LexMode.text before).run (segment.1.flatMap String.utf8EncodeChar ++ rest) =
      (LexMode.text (segment.2.reverse ++ before)).run rest := by
  cases h with
  | @plain c high quote slash =>
    rw [List.flatMap_singleton]
    refine LexMode.run_text_bytes (fun b mem => ?_) rest
    have noQuote : c.toNat ≠ 0x22 := fun eq => quote (Char.toNat_inj.mp eq)
    have noSlash : c.toNat ≠ 0x5C := fun eq => slash (Char.toNat_inj.mp eq)
    rcases mem_utf8EncodeChar mem with eq | above <;> omega
  | short mem =>
    simp only [shortEscapes, List.mem_cons, Prod.mk.injEq, List.not_mem_nil, or_false] at mem
    rcases mem with ⟨rfl, rfl⟩ | ⟨rfl, rfl⟩ | ⟨rfl, rfl⟩ | ⟨rfl, rfl⟩ | ⟨rfl, rfl⟩ | ⟨rfl, rfl⟩ |
      ⟨rfl, rfl⟩ | ⟨rfl, rfl⟩ <;> rfl
  | unit isUnit => exact LexMode.run_unit isUnit before rest

theorem run_all {segments : List (List Char × List Piece)}
    (all : ∀ segment ∈ segments, Segment segment) (before : List Piece) (rest : List UInt8) :
    (LexMode.text before).run
        ((segments.flatMap Prod.fst).flatMap String.utf8EncodeChar ++ rest) =
      (LexMode.text ((segments.flatMap Prod.snd).reverse ++ before)).run rest := by
  induction segments generalizing before with
  | nil => rfl
  | cons segment segments ih =>
    obtain ⟨first, all⟩ := List.forall_mem_cons.mp all
    rw [List.flatMap_cons, List.flatMap_append, List.append_assoc, first.run, ih all,
      List.flatMap_cons, List.reverse_append, List.append_assoc]

theorem of_writes {c : Char} {part : List Char} (h : Writes c part) :
    ∃ segments : List (List Char × List Piece), (∀ segment ∈ segments, Segment segment) ∧
      segments.flatMap Prod.fst = part ∧ Piece.Spells (segments.flatMap Prod.snd) c := by
  cases h with
  | plain high quote slash =>
    exact ⟨[_], List.forall_mem_singleton.mpr (.plain high quote slash), by simp,
      by simpa using .bytes c⟩
  | short mem =>
    exact ⟨[_], List.forall_mem_singleton.mpr (.short mem), by simp, by simpa using .bytes c⟩
  | unit isUnit => exact ⟨[_], List.forall_mem_singleton.mpr (.unit isUnit), by simp, .unit c⟩
  | pair isHigh isLow number first second =>
    refine ⟨[_, _], List.forall_mem_cons.mpr
      ⟨.unit first, List.forall_mem_singleton.mpr (.unit second)⟩, by simp, ?_⟩
    exact .pair (by simpa [Piece.isHighSurrogate] using isHigh)
      (by simpa [Piece.isLowSurrogate] using isLow) number

theorem of_written {cs : List Char} {parts : List (List Char)}
    (h : List.Forall₂ Writes cs parts) :
    ∃ segments : List (List Char × List Piece), (∀ segment ∈ segments, Segment segment) ∧
      segments.flatMap Prod.fst = parts.flatten ∧
      Piece.bytes? (segments.flatMap Prod.snd) = some (cs.flatMap String.utf8EncodeChar) := by
  induction h with
  | nil => exact ⟨[], nofun, rfl, rfl⟩
  | cons writes _ ih =>
    obtain ⟨first, all, rfl, spells⟩ := of_writes writes
    obtain ⟨others, all', eq, bytes⟩ := ih
    refine ⟨first ++ others, List.forall_mem_append.mpr ⟨all, all'⟩, ?_, ?_⟩
    · rw [List.flatMap_append, eq, List.flatten_cons]
    · rw [List.flatMap_append, Piece.bytes?_of_spells spells, bytes]
      rfl

theorem of_loose {cs : List Char} (h : Loose cs) :
    ∃ segments : List (List Char × List Piece), (∀ segment ∈ segments, Segment segment) ∧
      segments.flatMap Prod.fst = cs := by
  induction h with
  | nil => exact ⟨[], nofun, rfl⟩
  | char writes _ ih =>
    obtain ⟨first, all, rfl, -⟩ := of_writes writes
    obtain ⟨others, all', rfl⟩ := ih
    exact ⟨first ++ others, List.forall_mem_append.mpr ⟨all, all'⟩, List.flatMap_append⟩
  | unit isUnit _ ih =>
    obtain ⟨others, all, rfl⟩ := ih
    exact ⟨_ :: others, List.forall_mem_cons.mpr ⟨.unit isUnit, all⟩, rfl⟩

/-- Either no text is read, or what was read are characters as they may be written. -/
def NoneOrWritten (segments : List (List Char × List Piece)) : Prop :=
  Piece.bytes? (segments.flatMap Prod.snd) = none ∨
    ∃ cs parts, List.Forall₂ Writes cs parts ∧ parts.flatten = segments.flatMap Prod.fst

theorem NoneOrWritten.append {c : Char} (first : List (List Char × List Piece))
    {rest : List (List Char × List Piece)} (writes : Writes c (first.flatMap Prod.fst))
    (spells : Piece.Spells (first.flatMap Prod.snd) c) (h : NoneOrWritten rest) :
    NoneOrWritten (first ++ rest) := by
  rcases h with none | ⟨cs, parts, written, eq⟩
  · refine .inl ?_
    rw [List.flatMap_append, Piece.bytes?_of_spells spells, none]
    rfl
  · refine .inr ⟨c :: cs, _ :: parts, .cons writes written, ?_⟩
    rw [List.flatten_cons, eq, List.flatMap_append]

/-- The first segment is a character, or it takes the second to make one, or there is none. -/
theorem noneOrWritten (segments : List (List Char × List Piece))
    (all : ∀ segment ∈ segments, Segment segment) : NoneOrWritten segments := by
  match segments with
  | [] => exact .inr ⟨[], [], .nil, rfl⟩
  | segment :: rest =>
    obtain ⟨first, others⟩ := List.forall_mem_cons.mp all
    cases first with
    | plain high quote slash =>
      exact .append [_] (by simpa using .plain high quote slash) (by simpa using .bytes _)
        (noneOrWritten rest others)
    | short mem =>
      exact .append [_] (by simpa using .short mem) (by simpa using .bytes _)
        (noneOrWritten rest others)
    | @unit n digits isUnit =>
      cases high : Piece.isHighSurrogate n with
      | false =>
        cases low : Piece.isLowSurrogate n with
        | true => exact .inl (Piece.bytes?_low high low _)
        | false =>
          have number := Piece.toNat_ofNat isUnit.lt high low
          rw [← number] at isUnit ⊢
          exact .append [_] (by simpa using .unit isUnit) (.unit _) (noneOrWritten rest others)
      | true =>
        match rest with
        | [] => exact .inl (Piece.bytes?_high_end high)
        | next :: rest =>
          obtain ⟨second, left⟩ := List.forall_mem_cons.mp others
          cases second with
          | plain | short => exact .inl (Piece.bytes?_high_char high _ _)
          | @unit m digits' isUnit' =>
            cases low : Piece.isLowSurrogate m with
            | false => exact .inl (by simp [Piece.bytes?_high_unit high, low])
            | true =>
              have number := Piece.toNat_ofNat_pair high low
              refine .append [_, _] ?_ (.pair high low number) (noneOrWritten rest left)
              have writes := Writes.pair (by simpa [Piece.isHighSurrogate] using high)
                (by simpa [Piece.isLowSurrogate] using low) number isUnit isUnit'
              simpa using writes

end Segment

namespace LexMode

/-- A text is read up to its closing quote. -/
theorem run_quoted {body : List Char} {pieces : List Piece}
    (h : ∀ before rest, (text before).run (body.flatMap String.utf8EncodeChar ++ rest) =
      (text (pieces.reverse ++ before)).run rest) (rest : List UInt8) :
    between.run (('"' :: body ++ ['"']).flatMap String.utf8EncodeChar ++ rest) =
      .text (Piece.string? pieces) :: between.run rest := by
  rw [List.cons_append, List.flatMap_cons, List.flatMap_append, List.append_assoc,
    List.append_assoc]
  show (text []).run (body.flatMap String.utf8EncodeChar ++ _) = _
  rw [h, List.append_nil]
  show .text (Piece.string? pieces.reverse.reverse) :: between.run rest = _
  rw [List.reverse_reverse]

theorem run_text {s : String} {cs : List Char} (h : WritesText s cs) (rest : List UInt8) :
    between.run (cs.flatMap String.utf8EncodeChar ++ rest) =
      .text (some s) :: between.run rest := by
  obtain ⟨parts, writes, rfl⟩ := h
  obtain ⟨segments, all, eq, bytes⟩ := Segment.of_written writes
  rw [← eq, run_quoted (Segment.run_all all), Piece.string?_of_bytes? bytes, String.ofList_toList]

theorem run_noText {cs : List Char} (h : WritesNoText cs) (rest : List UInt8) :
    between.run (cs.flatMap String.utf8EncodeChar ++ rest) = .text none :: between.run rest := by
  obtain ⟨⟨body, loose, rfl⟩, noText⟩ := h
  obtain ⟨segments, all, rfl⟩ := Segment.of_loose loose
  rw [run_quoted (Segment.run_all all)]
  rcases Segment.noneOrWritten segments all with none | ⟨cs, parts, written, eq⟩
  · rw [Piece.string?, none]
    rfl
  · refine (noText (.ofList cs) ⟨parts, ?_, by rw [eq]⟩).elim
    rwa [String.toList_ofList]

end LexMode

/-- The one token of a text is the text. -/
theorem lex_encode_text (s : String) : lex (Json.text s).encode = [.text (some s)] := by
  have spelled : (Json.text s).encode = (spellText s).flatMap String.utf8EncodeChar ++ [] := by
    rw [encode, render, toList_toUTF8]
    show (spellText s ++ []).flatMap String.utf8EncodeChar = _
    rw [List.append_nil, List.append_nil]
  rw [spelled, lex, LexMode.run_text (writesText_spellText s)]
  rfl

end Json

/-! ## What is read of what was written -/

/-- A text is read as it was written. -/
theorem decodeText_encodeText (s : String) : decodeText (encodeText s) = .ok s := by
  have tree : Json.Tree.ofBytes (encodeText s) = ⟨.text (some s), false⟩ := by
    rw [Json.Tree.ofBytes, encodeText, Json.lex_encode_text]
    rfl
  rw [decodeText, tree]
  rfl

/-- The identity that was kept last is what is read of a store. -/
theorem Store.frameworkId_setFrameworkId (s : Store) (id : String) :
    (s.setFrameworkId id).frameworkId = .ok (some id) := by
  rw [frameworkId, setFrameworkId, Table.get?_insert_self]
  show (orCorrupt identityKey Json.Scan.asText (encodeText id) (decodeText (encodeText id))).map
    some = _
  rw [decodeText_encodeText]
  rfl

end Tenure
