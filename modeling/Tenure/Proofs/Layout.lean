import Mathlib.Tactic.IntervalCases
import Tenure.Proofs.Spelling

/-!
# Rows of tokens

A row of tokens may be laid out in many ways: each token is written in one of the ways that it has,
and any number of blanks may stand around it. The lexer finds the tokens in every layout. Each token
but a number shows its own end, and a number ends where a comma, a closing bracket, a blank or
nothing follows.
-/
namespace Tenure.Json

/-! ## Digits -/

theorem valueOfDigits_toDigits (n : Nat) : valueOfDigits (Nat.toDigits 10 n) = n := by
  have agrees : valueOfDigits (Nat.toDigits 10 n) = Nat.ofDigitChars 10 (Nat.toDigits 10 n) 0 := by
    simp [valueOfDigits, Nat.ofDigitChars_eq_foldl, digitValue, Nat.mul_comm]
  rw [agrees, Nat.ofDigitChars_ten_toDigits]

theorem Numeral.integer?_ofNat {n : Nat} (fits : n < UInt64.size) :
    (Numeral.ofNat n).integer? = some n := by
  simp [integer?, ofNat, isPlain, valueOfDigits_toDigits, fits]

/-- The digits of a number that is not zero do not begin with a zero. -/
theorem toDigits_of_pos {n : Nat} (pos : 0 < n) :
    ∃ d digits, 0 < d ∧ d < 10 ∧ Nat.toDigits 10 n = Nat.digitChar d :: digits := by
  induction n using Nat.strongRecOn with
  | ind n ih =>
    by_cases small : n < 10
    · exact ⟨n, [], pos, small, Nat.toDigits_of_lt_base small⟩
    · obtain ⟨d, digits, dPos, dLt, eq⟩ := ih (n / 10) (by omega) (by omega)
      rw [Nat.toDigits_of_base_le (by decide) (by omega), eq]
      exact ⟨d, digits ++ [Nat.digitChar (n % 10)], dPos, dLt, rfl⟩

/-! ## Ways to write a number -/

def AreDigits (cs : List Char) : Prop := ∀ c ∈ cs, c.isDigit = true

/-- Digits before a point: a zero alone, or digits of which the first is none. -/
inductive IsWhole : List Char → Prop
  | zero : IsWhole ['0']
  | digits {c : Char} {cs : List Char} (digit : c.isDigit = true) (nonzero : c ≠ '0')
      (rest : AreDigits cs) : IsWhole (c :: cs)

/-- An exponent may have a small or a capital letter, and a plus. -/
inductive WritesExponent : Option Exponent → List Char → Prop
  | absent : WritesExponent none []
  | bare {e c : Char} {cs : List Char} (mark : e = 'e' ∨ e = 'E') (digits : AreDigits (c :: cs)) :
      WritesExponent (some ⟨false, c :: cs⟩) (e :: c :: cs)
  | plus {e c : Char} {cs : List Char} (mark : e = 'e' ∨ e = 'E') (digits : AreDigits (c :: cs)) :
      WritesExponent (some ⟨false, c :: cs⟩) (e :: '+' :: c :: cs)
  | minus {e c : Char} {cs : List Char} (mark : e = 'e' ∨ e = 'E') (digits : AreDigits (c :: cs)) :
      WritesExponent (some ⟨true, c :: cs⟩) (e :: '-' :: c :: cs)

/-- The ways to write a number; they differ in the exponent only. -/
def Numeral.Writes (n : Numeral) (cs : List Char) : Prop :=
  IsWhole n.whole ∧ AreDigits n.fraction ∧ ∃ exponent, WritesExponent n.exponent exponent ∧
    cs = (if n.negative then ['-'] else []) ++ n.whole ++
      (if n.fraction = [] then [] else '.' :: n.fraction) ++ exponent

theorem exists_digitChar {c : Char} (digit : c.isDigit = true) :
    ∃ d < 10, c = Nat.digitChar d := by
  have lower : '0'.val ≤ c.val := by simp_all [Char.isDigit]
  have upper : c.val ≤ '9'.val := by simp_all [Char.isDigit]
  have lower : '0'.toNat ≤ c.toNat := UInt32.le_iff_toNat_le.mp lower
  have upper : c.toNat ≤ '9'.toNat := UInt32.le_iff_toNat_le.mp upper
  have zero : '0'.toNat = 48 := rfl
  have nine : '9'.toNat = 57 := rfl
  have digits : ∀ d : Fin 10, (Nat.digitChar d).toNat = 48 + d := by decide
  refine ⟨c.toNat - 48, by omega, Char.toNat_inj.mp ?_⟩
  rw [digits ⟨c.toNat - 48, by omega⟩]
  dsimp only
  omega

theorem isWhole_toDigits (n : Nat) : IsWhole (Nat.toDigits 10 n) := by
  rcases Nat.eq_zero_or_pos n with rfl | pos
  · exact .zero
  · have all : AreDigits (Nat.toDigits 10 n) := fun c mem =>
      Nat.isDigit_of_mem_toDigits (by decide) (Nat.le_refl 10) mem
    obtain ⟨d, digits, dPos, dLt, eq⟩ := toDigits_of_pos pos
    rw [eq] at all ⊢
    obtain ⟨digit, rest⟩ := List.forall_mem_cons.mp all
    refine .digits digit (fun zero => ?_) rest
    interval_cases d <;> simp_all

theorem Numeral.writes_ofNat (n : Nat) : (ofNat n).Writes (ofNat n).spell :=
  ⟨isWhole_toDigits n, nofun, [], .absent, rfl⟩

/-! ## Reading a number -/

/-- Whether bytes end a number that stands before them. -/
def Delimited : List UInt8 → Prop
  | [] => True
  | b :: _ => b ∈ [0x2C, 0x5D, 0x7D, 0x20, 0x0A, 0x09, 0x0D]

namespace LexMode

variable {part : NumeralPart} {n : Numeral}

/-- A complete numeral ends where a delimiter or nothing follows. -/
theorem run_numeral_end (complete : part.isComplete = true) {rest : List UInt8}
    (delimited : Delimited rest) :
    (numeral part n).run rest = .number n :: between.run rest := by
  cases rest with
  | nil => rw [run, finish, if_pos complete]; rfl
  | cons b rest =>
    simp only [Delimited, List.mem_cons, List.not_mem_nil, or_false] at delimited
    cases part with
    | sign | point | mark | exponentSign => cases complete
    | zero | whole | fraction | exponent =>
      rcases delimited with rfl | rfl | rfl | rfl | rfl | rfl | rfl <;> rfl

theorem run_numeral_char {c : Char} {part' : NumeralPart} {n' : Numeral} (low : c.toNat < 0x80)
    (step : part.step n c = some (part', n')) (rest : List UInt8) :
    (numeral part n).run (String.utf8EncodeChar c ++ rest) = (numeral part' n').run rest := by
  have bytes : String.utf8EncodeChar c = [.ofNat c.toNat] := by
    have value : c.val.toNat = c.toNat := rfl
    rw [String.utf8EncodeChar, value, if_pos (by omega)]
  have char : Char.ofNat (UInt8.ofNat c.toNat).toNat = c := by
    rw [UInt8.toNat_ofNat', Nat.mod_eq_of_lt (by omega), Char.ofNat_toNat]
  rw [bytes, List.singleton_append, run, LexMode.step, char]
  simp only [step]
  rfl

theorem toNat_lt_of_isDigit {c : Char} (digit : c.isDigit = true) : c.toNat < 0x80 := by
  obtain ⟨d, lt, rfl⟩ := exists_digitChar digit
  interval_cases d <;> decide

/-- Digits are taken in one by one where each of them leaves the numeral in the same part. -/
theorem run_numeral_digits {grown : List Char → Numeral}
    (grows : ∀ digits c, c.isDigit = true →
      part.step (grown digits) c = some (part, grown (digits ++ [c])))
    {digits : List Char} (all : AreDigits digits) (before : List Char) (rest : List UInt8) :
    (numeral part (grown before)).run (digits.flatMap String.utf8EncodeChar ++ rest) =
      (numeral part (grown (before ++ digits))).run rest := by
  induction digits generalizing before with
  | nil => simp
  | cons c digits ih =>
    obtain ⟨digit, all⟩ := List.forall_mem_cons.mp all
    rw [List.flatMap_cons, List.append_assoc,
      run_numeral_char (toNat_lt_of_isDigit digit) (grows before c digit), ih all]
    simp

/-- A number begins with its sign and its digits before the point. -/
theorem run_whole {whole : List Char} (h : IsWhole whole) (negative : Bool) :
    ∃ part, (part = .zero ∨ part = .whole) ∧ ∀ rest,
      between.run (((if negative then ['-'] else []) ++ whole).flatMap String.utf8EncodeChar ++
        rest) = (numeral part { negative, whole }).run rest := by
  have grows (digits : List Char) (c : Char) (digit : c.isDigit = true) :
      NumeralPart.whole.step { negative, whole := digits } c =
        some (.whole, { negative, whole := digits ++ [c] }) := by
    simp [NumeralPart.step, digit]
  cases h with
  | zero => exact ⟨.zero, .inl rfl, fun rest => by cases negative <;> rfl⟩
  | @digits c cs digit nonzero all =>
    refine ⟨.whole, .inr rfl, fun rest => ?_⟩
    have first : between.run (((if negative then ['-'] else []) ++ [c]).flatMap
        String.utf8EncodeChar ++ (cs.flatMap String.utf8EncodeChar ++ rest)) =
          (numeral .whole { negative, whole := [c] }).run
            (cs.flatMap String.utf8EncodeChar ++ rest) := by
      obtain ⟨d, lt, rfl⟩ := exists_digitChar digit
      have pos : d ≠ 0 := fun eq => nonzero (by rw [eq]; rfl)
      cases negative <;> interval_cases d <;> first | rfl | exact absurd rfl pos
    have eq : (if negative then ['-'] else []) ++ c :: cs =
        ((if negative then ['-'] else []) ++ [c]) ++ cs := by simp
    rw [eq, List.flatMap_append, List.append_assoc, first, run_numeral_digits grows all]
    rfl

theorem run_fraction (wasWhole : part = .zero ∨ part = .whole) (unset : n.fraction = [])
    {fraction : List Char} (all : AreDigits fraction) :
    ∃ part', part' ∈ [.zero, .whole, .fraction] ∧ ∀ rest,
      (numeral part n).run ((if fraction = [] then [] else '.' :: fraction).flatMap
        String.utf8EncodeChar ++ rest) = (numeral part' { n with fraction }).run rest := by
  cases fraction with
  | nil =>
    refine ⟨part, by rcases wasWhole with rfl | rfl <;> simp, fun rest => ?_⟩
    cases n
    cases unset
    rfl
  | cons c cs =>
    obtain ⟨digit, all⟩ := List.forall_mem_cons.mp all
    refine ⟨.fraction, by simp, fun rest => ?_⟩
    have point : part.step n '.' = some (.point, n) := by
      rcases wasWhole with rfl | rfl <;> rfl
    have first : NumeralPart.point.step n c = some (.fraction, { n with fraction := [c] }) := by
      simp [NumeralPart.step, digit]
    have grows (digits : List Char) (c : Char) (digit : c.isDigit = true) :
        NumeralPart.fraction.step { n with fraction := digits } c =
          some (.fraction, { n with fraction := digits ++ [c] }) := by
      simp [NumeralPart.step, digit]
    rw [if_neg nofun, List.flatMap_cons, List.flatMap_cons, List.append_assoc, List.append_assoc,
      run_numeral_char (by decide) point, run_numeral_char (toNat_lt_of_isDigit digit) first,
      run_numeral_digits grows all]
    rfl

/-- The digits of an exponent, from where its sign is known. -/
theorem run_exponent_digits {negative : Bool} {c : Char} {cs : List Char}
    (all : AreDigits (c :: cs))
    (first : part.step n c = some (.exponent, { n with exponent := some ⟨negative, [c]⟩ }))
    (rest : List UInt8) :
    (numeral part n).run ((c :: cs).flatMap String.utf8EncodeChar ++ rest) =
      (numeral .exponent { n with exponent := some ⟨negative, c :: cs⟩ }).run rest := by
  obtain ⟨digit, all⟩ := List.forall_mem_cons.mp all
  have grows (digits : List Char) (c : Char) (digit : c.isDigit = true) :
      NumeralPart.exponent.step { n with exponent := some ⟨negative, digits⟩ } c =
        some (.exponent, { n with exponent := some ⟨negative, digits ++ [c]⟩ }) := by
    simp [NumeralPart.step, digit]
  rw [List.flatMap_cons, List.append_assoc, run_numeral_char (toNat_lt_of_isDigit digit) first,
    run_numeral_digits grows all]
  rfl

theorem run_exponent (before : part ∈ [.zero, .whole, .fraction]) (unset : n.exponent = none)
    {exponent : Option Exponent} {cs : List Char} (h : WritesExponent exponent cs) :
    ∃ part', part'.isComplete = true ∧ ∀ rest,
      (numeral part n).run (cs.flatMap String.utf8EncodeChar ++ rest) =
        (numeral part' { n with exponent }).run rest := by
  have marked {e : Char} (mark : e = 'e' ∨ e = 'E') (rest : List UInt8) :
      (numeral part n).run (String.utf8EncodeChar e ++ rest) = (numeral .mark n).run rest := by
    refine run_numeral_char (by rcases mark with rfl | rfl <;> decide) ?_ rest
    simp only [List.mem_cons, List.not_mem_nil, or_false] at before
    rcases before with rfl | rfl | rfl <;> rcases mark with rfl | rfl <;> rfl
  cases h with
  | absent =>
    refine ⟨part, ?_, fun rest => by rw [← unset]; rfl⟩
    simp only [List.mem_cons, List.not_mem_nil, or_false] at before
    rcases before with rfl | rfl | rfl <;> rfl
  | @bare e c _ mark all =>
    refine ⟨.exponent, rfl, fun rest => ?_⟩
    rw [List.flatMap_cons, List.append_assoc, marked mark]
    refine run_exponent_digits all ?_ rest
    have digit := all _ List.mem_cons_self
    have plus : c ≠ '+' := by rintro rfl; cases digit
    have minus : c ≠ '-' := by rintro rfl; cases digit
    simp [NumeralPart.step, digit, plus, minus, unset]
  | plus mark all =>
    refine ⟨.exponent, rfl, fun rest => ?_⟩
    have sign : NumeralPart.mark.step n '+' =
        some (.exponentSign, { n with exponent := some ⟨false, []⟩ }) := by
      simp [NumeralPart.step, unset]
    have first := all _ List.mem_cons_self
    rw [List.flatMap_cons, List.flatMap_cons, List.append_assoc, List.append_assoc, marked mark,
      run_numeral_char (by decide) sign]
    exact run_exponent_digits all (by simp [NumeralPart.step, first]) rest
  | minus mark all =>
    refine ⟨.exponent, rfl, fun rest => ?_⟩
    have sign : NumeralPart.mark.step n '-' =
        some (.exponentSign, { n with exponent := some ⟨true, []⟩ }) := rfl
    have first := all _ List.mem_cons_self
    rw [List.flatMap_cons, List.flatMap_cons, List.append_assoc, List.append_assoc, marked mark,
      run_numeral_char (by decide) sign]
    exact run_exponent_digits all (by simp [NumeralPart.step, first]) rest

theorem run_number {cs : List Char} (h : n.Writes cs) {rest : List UInt8}
    (delimited : Delimited rest) :
    between.run (cs.flatMap String.utf8EncodeChar ++ rest) = .number n :: between.run rest := by
  obtain ⟨negative, whole, fraction, exponent⟩ := n
  obtain ⟨isWhole, digits, cs', writes, rfl⟩ := h
  obtain ⟨part, wasWhole, first⟩ := run_whole isWhole negative
  obtain ⟨part', before, second⟩ :=
    run_fraction (n := { negative, whole }) wasWhole rfl digits
  obtain ⟨part'', complete, third⟩ :=
    run_exponent (n := { negative, whole, fraction }) before rfl writes
  rw [List.flatMap_append, List.append_assoc, List.flatMap_append, List.append_assoc, first, second,
    third, run_numeral_end complete delimited]

end LexMode

/-! ## Ways to write a token -/

/-- Whether a token is a sign or a word of the language. -/
def Token.isFixed : Token → Bool
  | number _ | text _ | bad => false
  | _ => true

/-- The ways to write a token. -/
inductive Token.Writes : Token → List Char → Prop
  | fixed {t : Token} (isFixed : t.isFixed = true) : Writes t t.spell
  | number {n : Numeral} {cs : List Char} (writes : n.Writes cs) : Writes (.number n) cs
  | text {s : String} {cs : List Char} (writes : WritesText s cs) : Writes (.text (some s)) cs
  | noText {cs : List Char} (writes : WritesNoText cs) : Writes (.text none) cs

def Token.isNumber : Token → Bool
  | number _ => true
  | _ => false

theorem LexMode.run_token {t : Token} {cs : List Char} (h : t.Writes cs) {rest : List UInt8}
    (delimited : t.isNumber = true → Delimited rest) :
    between.run (cs.flatMap String.utf8EncodeChar ++ rest) = t :: between.run rest := by
  cases h with
  | fixed isFixed =>
    cases t with
    | number _ | text _ | bad => cases isFixed
    | bool b => cases b <;> rfl
    | _ => rfl
  | number writes => exact run_number writes (delimited rfl)
  | text writes => exact run_text writes rest
  | noText writes => exact run_noText writes rest

/-! ## Ways to lay out tokens -/

def AreBlank (cs : List Char) : Prop := ∀ c ∈ cs, c ∈ [' ', '\n', '\t', '\r']

instance : DecidablePred AreBlank := List.decidableBAll fun c => c ∈ [' ', '\n', '\t', '\r']

/-- The ways to write tokens in a row, with any blanks before, between and behind them. -/
inductive Layout : List Token → List Char → Prop
  | nil {blanks : List Char} (blank : AreBlank blanks) : Layout [] blanks
  | cons {t : Token} {tokens : List Token} {blanks cs rest : List Char} (blank : AreBlank blanks)
      (writes : t.Writes cs) (others : Layout tokens rest) :
      Layout (t :: tokens) (blanks ++ cs ++ rest)

/-- The tokens that may follow a number. -/
def Token.endsNumber (t : Token) : Bool := t = .comma ∨ t = .closeArray ∨ t = .closeObject

/-- Whether every number is the last token, or a token that ends it follows. -/
def Separated (tokens : List Token) : Prop :=
  tokens.IsChain fun t u => t.isNumber = true → u.endsNumber = true

namespace Layout

theorem run_blanks {blanks : List Char} (blank : AreBlank blanks) (rest : List UInt8) :
    LexMode.between.run (blanks.flatMap String.utf8EncodeChar ++ rest) =
      LexMode.between.run rest := by
  induction blanks with
  | nil => rfl
  | cons c blanks ih =>
    obtain ⟨first, blank⟩ := List.forall_mem_cons.mp blank
    rw [List.flatMap_cons, List.append_assoc, ← ih blank]
    simp only [List.mem_cons, List.not_mem_nil, or_false] at first
    rcases first with rfl | rfl | rfl | rfl <;> rfl

/-- A layout that begins with a token that ends a number, or with none, ends a number. -/
theorem delimited {tokens : List Token} {cs : List Char} (h : Layout tokens cs)
    (ends : ∀ t ∈ tokens.head?, t.endsNumber = true) :
    Delimited (cs.flatMap String.utf8EncodeChar) := by
  have blanks {blanks : List Char} (blank : AreBlank blanks) (others : List UInt8)
      (h : Delimited others) : Delimited (blanks.flatMap String.utf8EncodeChar ++ others) := by
    cases blanks with
    | nil => exact h
    | cons c blanks =>
      have first := blank c List.mem_cons_self
      simp only [List.mem_cons, List.not_mem_nil, or_false] at first
      rcases first with rfl | rfl | rfl | rfl <;>
        simp [Delimited, String.utf8EncodeChar]
  cases h with
  | nil blank => simpa using blanks blank [] trivial
  | @cons t tokens _ cs rest blank writes others =>
    rw [List.append_assoc, List.flatMap_append]
    refine blanks blank _ ?_
    have ends := ends t rfl
    simp only [Token.endsNumber, Bool.decide_or, Bool.or_eq_true, decide_eq_true_eq] at ends
    rcases ends with rfl | rfl | rfl <;> cases writes <;>
      simp [Delimited, Token.spell, String.utf8EncodeChar]

/-- The tokens are found again, however they are laid out. -/
theorem lex {tokens : List Token} {cs : List Char} (h : Layout tokens cs)
    (separated : Separated tokens) : lex (cs.flatMap String.utf8EncodeChar) = tokens := by
  induction h with
  | nil blank =>
    have run := run_blanks blank []
    rwa [List.append_nil] at run
  | @cons t tokens blanks cs rest blank writes others ih =>
    have follows : ∀ u ∈ tokens.head?, t.isNumber = true → u.endsNumber = true := by
      cases tokens with
      | nil => simp
      | cons u tokens => simpa using (List.isChain_cons_cons.mp separated).1
    rw [List.append_assoc, List.flatMap_append, List.flatMap_append, Json.lex, run_blanks blank,
      LexMode.run_token writes fun number => others.delimited fun u mem => follows u mem number]
    exact congrArg (t :: ·) (ih separated.of_cons)

end Layout

end Tenure.Json
