import Mathlib.Data.List.DropRight
import Mathlib.Data.Nat.Digits.Defs
import Tenure.Limits

/-!
# Spans of time as they are written

The grammar of a span, said without the reader: blanks, a sign or none, digits, blanks, a unit or
none, blanks. A text in it tells a number and a unit, and measures their product if both the number
and the product fit a word. The reader finds this product in just the texts that measure one, however
long they are, and limits are made of two texts that measure no less than nothing. A text with a minus
sign is none of them, unless it says that there is minus nothing.
-/
namespace Tenure

/-! ## Blanks around a text -/

namespace Text

def AreBlank (cs : List Char) : Prop := ∀ c ∈ cs, isBlank c = true

theorem AreBlank.append {cs ds : List Char} (h : AreBlank cs) (h' : AreBlank ds) :
    AreBlank (cs ++ ds) :=
  List.forall_mem_append.mpr ⟨h, h'⟩

/-- Only blanks are trimmed. -/
theorem exists_trim (s : List Char) :
    ∃ before after, AreBlank before ∧ AreBlank after ∧ s = before ++ trim s ++ after := by
  refine ⟨s.takeWhile isBlank, (s.dropWhile isBlank).rtakeWhile isBlank,
    fun c mem => List.mem_takeWhile_imp mem, fun c mem => List.mem_rtakeWhile_imp mem, ?_⟩
  rw [List.append_assoc]
  show _ = _ ++ ((s.dropWhile isBlank).rdropWhile isBlank ++ _)
  rw [List.rdropWhile_append_rtakeWhile, List.takeWhile_append_dropWhile]

theorem AreBlank.dropWhile_append {blanks cs : List Char} (blank : AreBlank blanks)
    (stops : ∀ c ∈ cs.head?, isBlank c = false) : (blanks ++ cs).dropWhile isBlank = cs := by
  rw [List.dropWhile_append_of_pos blank]
  cases cs with
  | nil => rfl
  | cons c cs => rw [List.dropWhile_cons_of_neg (by simp [stops c rfl])]

/-- Trimming ends at what is not blank. -/
theorem trim_append {before core after : List Char} (blankBefore : AreBlank before)
    (blankAfter : AreBlank after) (first : ∀ c ∈ core.head?, isBlank c = false)
    (last : ∀ c ∈ core.getLast?, isBlank c = false) : trim (before ++ core ++ after) = core := by
  cases core with
  | nil =>
    have all : AreBlank (before ++ [] ++ after) := by simpa using blankBefore.append blankAfter
    rw [trim, List.dropWhile_eq_nil_iff.mpr all]
    rfl
  | cons c core =>
    have front : (before ++ (c :: core ++ after)).dropWhile isBlank = c :: core ++ after :=
      blankBefore.dropWhile_append first
    have behind : AreBlank after.reverse := fun c mem => blankAfter c (List.mem_reverse.mp mem)
    rw [trim, List.append_assoc, front, List.reverse_append, behind.dropWhile_append,
      List.reverse_reverse]
    rwa [List.head?_reverse]

end Text

namespace Span

open Text (AreBlank isBlank)

/-! ## The grammar -/

/-- The number that digits make, the last of them the ones. -/
def valueOf (digits : List Char) : Nat :=
  Nat.ofDigits 10 (digits.reverse.map fun d => d.toNat - '0'.toNat)

def AreDigits (cs : List Char) : Prop := cs ≠ [] ∧ ∀ c ∈ cs, c.isDigit = true

/-- A number may have a sign. -/
inductive Writes : Int → List Char → Prop
  | bare {digits : List Char} (areDigits : AreDigits digits) : Writes (valueOf digits) digits
  | plus {digits : List Char} (areDigits : AreDigits digits) :
      Writes (valueOf digits) ('+' :: digits)
  | minus {digits : List Char} (areDigits : AreDigits digits) :
      Writes (-valueOf digits) ('-' :: digits)

/-- What may be written for a unit. -/
def TimeUnit.spellings : TimeUnit → List (List Char)
  | millisecond => [['m', 's']]
  | second => [['s'], []]
  | minute => [['m']]
  | hour => [['h']]
  | day => [['d']]

theorem TimeUnit.last_dark {unit : TimeUnit} {suffix : List Char}
    (spelling : suffix ∈ unit.spellings) : ∀ c ∈ suffix.getLast?, isBlank c = false := by
  have dark : ∀ suffix ∈ unit.spellings, suffix.getLast?.all (fun c => !isBlank c) = true := by
    cases unit <;> decide
  intro c last
  simpa [Option.mem_def.mp last] using dark suffix spelling

/-- A text says that there are `n` of a unit. -/
def Tells (cs : List Char) (n : Int) (unit : TimeUnit) : Prop :=
  ∃ before number gap suffix after, cs = before ++ number ++ gap ++ suffix ++ after ∧
    AreBlank before ∧ Writes n number ∧ AreBlank gap ∧ suffix ∈ unit.spellings ∧ AreBlank after

/-- The signed numbers of 64 bits. -/
def FitsWord (n : Int) : Prop := -2 ^ 63 ≤ n ∧ n < 2 ^ 63

/-- A text says how many milliseconds there are, by a number that fits a word as the product with its
unit does. -/
def Measures (cs : List Char) (millis : Int) : Prop :=
  ∃ n unit, Tells cs n unit ∧ FitsWord n ∧ millis = n * unit.millis ∧ FitsWord millis

/-! ## Reading a number -/

theorem valueOf_eq_foldl (digits : List Char) :
    digits.foldl (fun n d => n * 10 + (d.toNat - '0'.toNat)) 0 = valueOf digits := by
  induction digits using List.reverseRecOn with
  | nil => rfl
  | append_singleton digits d ih =>
    rw [List.foldl_append, ih, List.foldl_cons, List.foldl_nil, valueOf, valueOf,
      List.reverse_append, List.reverse_singleton, List.singleton_append, List.map_cons,
      Nat.ofDigits_cons]
    omega

theorem natural?_eq_some_iff {digits : List Char} {n : Nat} :
    natural? digits = some n ↔ AreDigits digits ∧ n = valueOf digits := by
  rw [natural?, valueOf_eq_foldl, Option.ite_none_right_eq_some, List.all_eq_true, AreDigits,
    Option.some_inj, eq_comm]

theorem signed?_minus (digits : List Char) :
    signed? ('-' :: digits) = (natural? digits).map fun n : Nat => -(n : Int) := by
  rw [signed?]
  cases natural? digits <;> rfl

theorem signed?_eq_some_iff {cs : List Char} {n : Int} : signed? cs = some n ↔ Writes n cs := by
  constructor
  · intro read
    unfold signed? at read
    split at read
    · next digits =>
      obtain ⟨value, natural, rfl⟩ := Option.map_eq_some_iff.mp read
      obtain ⟨areDigits, rfl⟩ := natural?_eq_some_iff.mp natural
      exact .plus areDigits
    · next digits =>
      obtain ⟨value, natural, rfl⟩ := Option.map_eq_some_iff.mp
        ((signed?_minus digits).symm.trans read)
      obtain ⟨areDigits, rfl⟩ := natural?_eq_some_iff.mp natural
      exact .minus areDigits
    · obtain ⟨value, natural, rfl⟩ := Option.map_eq_some_iff.mp read
      obtain ⟨areDigits, rfl⟩ := natural?_eq_some_iff.mp natural
      exact .bare areDigits
  · rintro (areDigits | areDigits | areDigits)
    all_goals have natural := natural?_eq_some_iff.mpr ⟨areDigits, rfl⟩
    · rw [signed?, natural]
      · rfl
      · rintro digits rfl
        exact absurd (areDigits.2 '+' List.mem_cons_self) (by decide)
      · rintro digits rfl
        exact absurd (areDigits.2 '-' List.mem_cons_self) (by decide)
    · rw [signed?, natural]
      rfl
    · rw [signed?_minus, natural]
      rfl

theorem word?_eq_some_iff {n m : Int} : word? n = some m ↔ FitsWord n ∧ m = n := by
  rw [word?, Option.ite_none_right_eq_some, Option.some_inj, eq_comm (a := m)]
  simp only [inWord, FitsWord, Bool.and_eq_true, decide_eq_true_eq]
  omega

/-! ## Reading a unit -/

/-- What is taken off a span is one of the ways to write the unit. -/
theorem exists_suffix (s : List Char) :
    ∃ suffix ∈ (splitUnit s).2.spellings, s = (splitUnit s).1 ++ suffix := by
  have back {rest tail : List Char} (reversed : s.reverse = tail.reverse ++ rest) :
      s = rest.reverse ++ tail := by
    rw [← s.reverse_reverse, reversed, List.reverse_append, List.reverse_reverse]
  rw [splitUnit]
  split
  · next rest reversed => exact ⟨['m', 's'], by simp [TimeUnit.spellings], back reversed⟩
  · next rest _ reversed => exact ⟨['s'], by simp [TimeUnit.spellings], back reversed⟩
  · next rest reversed => exact ⟨['m'], by simp [TimeUnit.spellings], back reversed⟩
  · next rest reversed => exact ⟨['h'], by simp [TimeUnit.spellings], back reversed⟩
  · next rest reversed => exact ⟨['d'], by simp [TimeUnit.spellings], back reversed⟩
  · exact ⟨[], by simp [TimeUnit.spellings], by simp⟩

/-- The unit behind a number is found whole, if the number does not end in a letter of one. -/
theorem splitUnit_append {number suffix : List Char} {unit : TimeUnit}
    (written : suffix ∈ unit.spellings)
    (ends : ∀ c ∈ number.getLast?, c ∉ ['s', 'm', 'h', 'd']) :
    splitUnit (number ++ suffix) = (number, unit) := by
  rw [← List.head?_reverse] at ends
  rw [splitUnit, List.reverse_append]
  generalize reversed : number.reverse = r at ends
  obtain rfl : number = r.reverse := by rw [← reversed, List.reverse_reverse]
  cases unit
  all_goals
    simp only [TimeUnit.spellings, List.mem_cons, List.not_mem_nil, or_false] at written
  case second =>
    rcases written with rfl | rfl
    · cases r with
      | nil => rfl
      | cons c r =>
        have other : c ≠ 'm' := fun same => ends c rfl (by simp [same])
        simp [other]
    · cases r with
      | nil => rfl
      | cons c r =>
        have other := ends c rfl
        simp only [List.mem_cons, List.not_mem_nil, or_false, not_or] at other
        obtain ⟨s, m, h, d⟩ := other
        simp [s, m, h, d]
  all_goals
    subst written
    simp

/-! ## Reading a span -/

theorem not_isBlank_of_isDigit {c : Char} (digit : c.isDigit = true) : isBlank c = false := by
  obtain ⟨low, high⟩ : 48 ≤ c.toNat ∧ c.toNat ≤ 57 := Char.isDigit_iff_toNat.mp digit
  simp only [isBlank, Bool.or_eq_false_iff, Bool.and_eq_false_iff, decide_eq_false_iff_not,
    beq_eq_false_iff_ne]
  omega

/-- A number is written in signs and digits. -/
theorem Writes.dark {n : Int} {cs : List Char} (written : Writes n cs) :
    ∀ c ∈ cs, isBlank c = false := by
  have dark {digits : List Char} (areDigits : AreDigits digits) : ∀ c ∈ digits, isBlank c = false :=
    fun c mem => not_isBlank_of_isDigit (areDigits.2 c mem)
  cases written with
  | bare areDigits => exact dark areDigits
  | plus areDigits | minus areDigits => exact List.forall_mem_cons.mpr ⟨by decide, dark areDigits⟩

theorem Writes.head_dark {n : Int} {cs : List Char} (written : Writes n cs) :
    ∀ c ∈ cs.head?, isBlank c = false :=
  fun c mem => written.dark c (List.mem_of_head? mem)

theorem Writes.last_dark {n : Int} {cs : List Char} (written : Writes n cs) :
    ∀ c ∈ cs.getLast?, isBlank c = false :=
  fun c mem => written.dark c (List.mem_of_getLast? mem)

/-- A number ends with a digit. -/
theorem Writes.last {n : Int} {cs : List Char} (written : Writes n cs) :
    ∃ c, cs.getLast? = some c ∧ c.isDigit = true := by
  have ends {digits : List Char} (areDigits : AreDigits digits) (signed : List Char) :
      ∃ c, (signed ++ digits).getLast? = some c ∧ c.isDigit = true := by
    refine ⟨digits.getLast areDigits.1, ?_, areDigits.2 _ (List.getLast_mem _)⟩
    rw [List.getLast?_append_of_ne_nil _ areDigits.1, List.getLast?_eq_getLast_of_ne_nil]
  cases written with
  | bare areDigits => exact ends areDigits []
  | plus areDigits => exact ends areDigits ['+']
  | minus areDigits => exact ends areDigits ['-']

/-- A number with blanks behind it does not end in a letter of a unit. -/
theorem Writes.last_append {n : Int} {cs gap : List Char} (written : Writes n cs)
    (blank : AreBlank gap) : ∀ c ∈ (cs ++ gap).getLast?, c ∉ ['s', 'm', 'h', 'd'] := by
  intro c mem letter
  have dark : isBlank c = false ∧ c.isDigit = false := by
    simp only [List.mem_cons, List.not_mem_nil, or_false] at letter
    rcases letter with rfl | rfl | rfl | rfl <;> decide
  by_cases none : gap = []
  · obtain ⟨d, last, digit⟩ := written.last
    rw [none, List.append_nil, last] at mem
    cases mem
    simp [digit] at dark
  · rw [List.getLast?_append_of_ne_nil _ none] at mem
    simp [blank c (List.mem_of_getLast? mem)] at dark

theorem readTrimmed?_eq_some_iff {s : List Char} {millis : Int} :
    readTrimmed? s = some millis ↔
      ∃ n, Writes n (Text.trim (splitUnit s).1) ∧ FitsWord n ∧
        millis = n * (splitUnit s).2.millis ∧ FitsWord millis := by
  simp only [readTrimmed?, Option.bind_eq_bind, Option.bind_eq_some_iff, word?_eq_some_iff,
    signed?_eq_some_iff]
  constructor
  · rintro ⟨n, writes, _, ⟨fits, rfl⟩, fits', rfl⟩
    exact ⟨_, writes, fits, rfl, fits'⟩
  · rintro ⟨n, writes, fits, rfl, fits'⟩
    exact ⟨n, writes, n, ⟨fits, rfl⟩, fits', rfl⟩

/-- A text that is trimmed begins with its number and ends with its unit, or with the number. -/
theorem Tells.trim {cs : List Char} {n : Int} {unit : TimeUnit} (tells : Tells cs n unit) :
    ∃ number gap suffix, Text.trim cs = number ++ gap ++ suffix ∧ Writes n number ∧
      AreBlank gap ∧ suffix ∈ unit.spellings := by
  obtain ⟨before, number, gap, suffix, after, rfl, blankBefore, writes, blankGap, spelling,
    blankAfter⟩ := tells
  by_cases bare : suffix = []
  · subst bare
    refine ⟨number, [], [], ?_, writes, nofun, spelling⟩
    rw [List.append_nil, List.append_assoc,
      Text.trim_append blankBefore (blankGap.append blankAfter) writes.head_dark writes.last_dark]
    simp
  · refine ⟨number, gap, suffix, ?_, writes, blankGap, spelling⟩
    rw [List.append_assoc before, List.append_assoc before]
    refine Text.trim_append blankBefore blankAfter ?_ ?_
    · obtain ⟨d, last, -⟩ := writes.last
      have some : number ≠ [] := by
        rintro rfl
        cases last
      rw [List.append_assoc, List.head?_append_of_ne_nil _ some]
      exact writes.head_dark
    · rw [List.getLast?_append_of_ne_nil _ bare]
      exact TimeUnit.last_dark spelling

/-- The reader finds the number and the unit that a text tells. -/
theorem Tells.splits {cs : List Char} {n : Int} {unit : TimeUnit} (tells : Tells cs n unit) :
    (splitUnit (Text.trim cs)).2 = unit ∧
      Writes n (Text.trim (splitUnit (Text.trim cs)).1) := by
  obtain ⟨number, gap, suffix, trimmed, writes, blank, spelling⟩ := tells.trim
  rw [trimmed, splitUnit_append spelling (writes.last_append blank)]
  have alone : Text.trim (number ++ gap) = number := by
    have front : AreBlank [] := nofun
    simpa using Text.trim_append front blank writes.head_dark writes.last_dark
  exact ⟨rfl, alone.symm ▸ writes⟩

/-- What the reader finds is told. -/
theorem tells_of_writes {cs : List Char} {n : Int}
    (writes : Writes n (Text.trim (splitUnit (Text.trim cs)).1)) :
    Tells cs n (splitUnit (Text.trim cs)).2 := by
  obtain ⟨before, after, blankBefore, blankAfter, whole⟩ := Text.exists_trim cs
  obtain ⟨suffix, spelling, unit⟩ := exists_suffix (Text.trim cs)
  obtain ⟨lead, gap, blankLead, blankGap, number⟩ :=
    Text.exists_trim (splitUnit (Text.trim cs)).1
  refine ⟨before ++ lead, _, gap, suffix, after, ?_, blankBefore.append blankLead, writes,
    blankGap, spelling, blankAfter⟩
  calc
    cs = before ++ Text.trim cs ++ after := whole
    _ = before ++ ((splitUnit (Text.trim cs)).1 ++ suffix) ++ after := by rw [← unit]
    _ = before ++ (lead ++ Text.trim (splitUnit (Text.trim cs)).1 ++ gap ++ suffix) ++ after := by
      rw [← number]
    _ = _ := by simp only [List.append_assoc]

/-- The reader finds what a text measures, and nothing in a text that measures nothing. -/
theorem read?_eq_some_iff {cs : List Char} {millis : Int} :
    read? cs = some millis ↔ Measures cs millis := by
  rw [read?, readTrimmed?_eq_some_iff]
  constructor
  · rintro ⟨n, writes, fits, product, fits'⟩
    exact ⟨n, _, tells_of_writes writes, fits, product, fits'⟩
  · rintro ⟨n, unit, tells, fits, product, fits'⟩
    obtain ⟨rfl, writes⟩ := tells.splits
    exact ⟨n, writes, fits, product, fits'⟩

/-- A text measures one span at most. -/
theorem Measures.unique {cs : List Char} {m n : Int} (h : Measures cs m) (h' : Measures cs n) :
    m = n :=
  Option.some.inj ((read?_eq_some_iff.mpr h).symm.trans (read?_eq_some_iff.mpr h'))

/-! ## A minus sign -/

/-- A text begins with a minus sign, blanks apart. -/
def HasMinus (cs : List Char) : Prop := (Text.trim cs).head? = some '-'

instance (cs : List Char) : Decidable (HasMinus cs) :=
  inferInstanceAs (Decidable ((Text.trim cs).head? = some '-'))

/-- A text says that there is minus nothing of a unit. -/
def IsMinusZero (cs : List Char) : Prop :=
  ∃ zeros gap suffix unit, Text.trim cs = '-' :: zeros ++ gap ++ suffix ∧ zeros ≠ [] ∧
    (∀ c ∈ zeros, c = '0') ∧ AreBlank gap ∧ suffix ∈ TimeUnit.spellings unit

theorem TimeUnit.millis_pos (unit : TimeUnit) : 0 < unit.millis := by
  cases unit <;> decide

/-- Digits make zero just if each of them is one. -/
theorem valueOf_eq_zero_iff {digits : List Char} (areDigits : AreDigits digits) :
    valueOf digits = 0 ↔ ∀ c ∈ digits, c = '0' := by
  constructor
  · intro zero c mem
    have value : c.toNat - '0'.toNat = 0 :=
      Nat.digits_zero_of_eq_zero (by decide) zero _
        (List.mem_map_of_mem (List.mem_reverse.mpr mem))
    obtain ⟨low, -⟩ := Char.isDigit_iff_toNat.mp (areDigits.2 c mem)
    exact Char.toNat_inj.mp (by omega)
  · intro zeros
    rw [List.eq_replicate_of_mem zeros, valueOf, List.reverse_replicate, List.map_replicate]
    exact Nat.ofDigits_replicate_zero

/-- What a text with a minus sign tells is not positive. -/
theorem HasMinus.tells {cs : List Char} {n : Int} {unit : TimeUnit} (minus : HasMinus cs)
    (tells : Tells cs n unit) :
    ∃ digits gap suffix, Text.trim cs = '-' :: digits ++ gap ++ suffix ∧ AreDigits digits ∧
      n = -valueOf digits ∧ AreBlank gap ∧ suffix ∈ unit.spellings := by
  obtain ⟨number, gap, suffix, trimmed, writes, blank, spelling⟩ := tells.trim
  rw [HasMinus, trimmed] at minus
  cases writes with
  | bare areDigits =>
    rw [List.append_assoc, List.head?_append_of_ne_nil _ areDigits.1] at minus
    exact absurd (areDigits.2 '-' (List.mem_of_head? minus)) (by decide)
  | plus => cases minus
  | minus areDigits => exact ⟨_, gap, suffix, trimmed, areDigits, rfl, blank, spelling⟩

theorem HasMinus.measures_nonpos {cs : List Char} {millis : Int} (minus : HasMinus cs)
    (measures : Measures cs millis) : millis ≤ 0 := by
  obtain ⟨n, unit, tells, -, rfl, -⟩ := measures
  obtain ⟨digits, -, -, -, -, rfl, -⟩ := minus.tells tells
  exact mul_nonpos_of_nonpos_of_nonneg (by omega) unit.millis_pos.le

/-- Minus zero is what measures nothing behind a minus sign. -/
theorem isMinusZero_iff {cs : List Char} : IsMinusZero cs ↔ HasMinus cs ∧ Measures cs 0 := by
  constructor
  · rintro ⟨zeros, gap, suffix, unit, trimmed, some, areZeros, blank, spelling⟩
    have areDigits : AreDigits zeros := ⟨some, fun c mem => areZeros c mem ▸ by decide⟩
    have writes : Writes 0 ('-' :: zeros) := by
      simpa [(valueOf_eq_zero_iff areDigits).mpr areZeros] using Writes.minus areDigits
    obtain ⟨before, after, blankBefore, blankAfter, whole⟩ := Text.exists_trim cs
    have fits : FitsWord 0 := ⟨by decide, by decide⟩
    refine ⟨by rw [HasMinus, trimmed]; rfl, 0, unit, ?_, fits, by simp, fits⟩
    exact ⟨before, '-' :: zeros, gap, suffix, after, by rw [whole, trimmed]; simp, blankBefore,
      writes, blank, spelling, blankAfter⟩
  · rintro ⟨minus, n, unit, tells, -, product, -⟩
    obtain ⟨digits, gap, suffix, trimmed, areDigits, rfl, blank, spelling⟩ := minus.tells tells
    have none : valueOf digits = 0 := by
      have pos := unit.millis_pos
      have zero := (mul_eq_zero.mp product.symm).resolve_right (by omega)
      omega
    exact ⟨digits, gap, suffix, unit, trimmed, areDigits.1,
      (valueOf_eq_zero_iff areDigits).mp none, blank, spelling⟩

end Span

/-! ## Reading limits -/

namespace Limits

/-- A fault that is in the text of a limit. -/
def Fault.IsOf (text : String) : Fault → Prop
  | unreadable shown =>
    shown = .ofList (Text.trim text.toList) ∧ ∀ millis, ¬ Span.Measures text.toList millis
  | negative millis => Span.Measures text.toList millis ∧ millis < 0

theorem readMillis_eq_ok_iff {text : String} {millis : Int} :
    readMillis text = .ok millis ↔ Span.Measures text.toList millis := by
  rw [← Span.read?_eq_some_iff, Span.read?, readMillis]
  cases Span.readTrimmed? (Text.trim text.toList) <;> simp

theorem readMillis_eq_error {text : String} {fault : Fault}
    (failed : readMillis text = .error fault) : fault.IsOf text := by
  have unread (millis : Int) : ¬ Span.Measures text.toList millis := by
    rw [← readMillis_eq_ok_iff, failed]
    nofun
  rw [readMillis] at failed
  split at failed <;> cases failed
  exact ⟨rfl, unread⟩

theorem nonNegative_natCast (n : Nat) : nonNegative n = .ok (.ofMillis n) := by
  rw [nonNegative, if_neg (by omega), Int.toNat_natCast]

theorem nonNegative_of_neg {millis : Int} (neg : millis < 0) :
    nonNegative millis = .error (.negative millis) := by
  rw [nonNegative, if_pos neg]

theorem readMillis_of_isMinusZero {text : String} (zero : Span.IsMinusZero text.toList) :
    readMillis text = readMillis "0" := by
  have measures : Span.Measures "0".toList 0 := Span.read?_eq_some_iff.mp (by decide +kernel)
  rw [readMillis_eq_ok_iff.mpr (Span.isMinusZero_iff.mp zero).2, readMillis_eq_ok_iff.mpr measures]

/-- Two texts that measure no less than nothing make limits. -/
theorem parse_of_measures {registration leading : String} {m n : Nat}
    (h : Span.Measures registration.toList m) (h' : Span.Measures leading.toList n) :
    parse registration leading = .ok ⟨.ofMillis m, .ofMillis n⟩ := by
  rw [parse, readMillis_eq_ok_iff.mpr h, readMillis_eq_ok_iff.mpr h']
  show ofMillis m n = _
  rw [ofMillis, nonNegative_natCast, nonNegative_natCast]
  rfl

/-- What a reading of two texts comes to: limits of what they measure, or a fault of one of them. -/
theorem parse_cases (registration leading : String) :
    (∃ m n : Nat, Span.Measures registration.toList m ∧ Span.Measures leading.toList n) ∨
    ∃ name text fault,
      (name, text) ∈ [(registrationName, registration), (leadingName, leading)] ∧
      Fault.IsOf text fault ∧
      parse registration leading = .error (.invalidOptions (fault.message name)) := by
  cases read : readMillis registration with
  | error fault =>
    refine .inr ⟨_, _, fault, List.mem_cons_self, readMillis_eq_error read, ?_⟩
    rw [parse, read]
    rfl
  | ok m =>
  cases read' : readMillis leading with
  | error fault =>
    refine .inr ⟨_, _, fault, List.mem_cons_of_mem _ List.mem_cons_self,
      readMillis_eq_error read', ?_⟩
    rw [parse, read, read']
    rfl
  | ok n =>
    have both : parse registration leading = ofMillis m n := by
      rw [parse, read, read']
      rfl
    have measures := readMillis_eq_ok_iff.mp read
    have measures' := readMillis_eq_ok_iff.mp read'
    by_cases neg : m < 0
    · refine .inr ⟨_, _, .negative m, List.mem_cons_self, ⟨measures, neg⟩, ?_⟩
      rw [both, ofMillis, nonNegative_of_neg neg]
      rfl
    obtain ⟨m, rfl⟩ := Int.eq_ofNat_of_zero_le (Int.not_lt.mp neg)
    by_cases neg : n < 0
    · refine .inr ⟨_, _, .negative n, List.mem_cons_of_mem _ List.mem_cons_self,
        ⟨measures', neg⟩, ?_⟩
      rw [both, ofMillis, nonNegative_natCast, nonNegative_of_neg neg]
      rfl
    obtain ⟨n, rfl⟩ := Int.eq_ofNat_of_zero_le (Int.not_lt.mp neg)
    exact .inl ⟨m, n, measures, measures'⟩

/-- Two texts make limits just if each measures a time, and that is no less than nothing; the limits
are then these times, to the millisecond. All other texts, of whatever length, are refused, and the
refusal names a limit and tells what is wrong with its text: that it measures nothing, or what it
measures, which is less than nothing. -/
theorem parses_exactly (registration leading : String) :
    (∀ l, parse registration leading = .ok l ↔
      ∃ m n : Nat, Span.Measures registration.toList m ∧ Span.Measures leading.toList n ∧
        l = ⟨.ofMillis m, .ofMillis n⟩) ∧
    ((∃ l, parse registration leading = .ok l) ∨
      ∃ name text fault,
        (name, text) ∈ [(registrationName, registration), (leadingName, leading)] ∧
        Fault.IsOf text fault ∧
        parse registration leading = .error (.invalidOptions (fault.message name))) := by
  rcases parse_cases registration leading with ⟨m, n, h, h'⟩ | refused
  · have done := parse_of_measures h h'
    refine ⟨fun l => ⟨fun read => ?_, ?_⟩, .inl ⟨_, done⟩⟩
    · exact ⟨m, n, h, h', Except.ok.inj (read.symm.trans done)⟩
    · rintro ⟨m, n, h, h', rfl⟩
      exact parse_of_measures h h'
  · refine ⟨fun l => ⟨fun read => ?_, ?_⟩, .inr refused⟩
    · obtain ⟨_, _, _, -, -, failed⟩ := refused
      cases read.symm.trans failed
    · rintro ⟨m, n, h, h', rfl⟩
      exact parse_of_measures h h'

/-- A number of days that fits a word is not enough. -/
example : parse " +90 s" "106751991168d" =
    .error (.invalidOptions "leading time limit: cannot parse duration \"106751991168d\"") := by
  decide +kernel

/-- Two texts of which one has a minus sign are refused, and the refusal names a limit and what is
wrong with its text, unless the text with the sign says minus zero. That is read as zero is. -/
theorem refuses_minus {registration leading text : String} (one : text ∈ [registration, leading])
    (minus : Span.HasMinus text.toList) :
    (¬ Span.IsMinusZero text.toList →
      ∃ name culprit fault,
        (name, culprit) ∈ [(registrationName, registration), (leadingName, leading)] ∧
        Fault.IsOf culprit fault ∧
        parse registration leading = .error (.invalidOptions (fault.message name))) ∧
    (Span.IsMinusZero registration.toList → parse registration leading = parse "0" leading) ∧
    (Span.IsMinusZero leading.toList → parse registration leading = parse registration "0") := by
  refine ⟨fun notZero => ?_, fun zero => ?_, fun zero => ?_⟩
  · rcases parse_cases registration leading with ⟨m, n, h, h'⟩ | refused
    · obtain ⟨k, measures⟩ : ∃ k : Nat, Span.Measures text.toList k := by
        rcases List.mem_pair.mp one with rfl | rfl
        · exact ⟨m, h⟩
        · exact ⟨n, h'⟩
      obtain rfl : k = 0 := by
        have nonpos := minus.measures_nonpos measures
        omega
      exact absurd (Span.isMinusZero_iff.mpr ⟨minus, measures⟩) notZero
    · exact refused
  · rw [parse, parse, readMillis_of_isMinusZero zero]
  · rw [parse, parse, readMillis_of_isMinusZero zero]

theorem refuses_minus_of_blank :
    " -5s" ∈ ["1m", " -5s"] ∧ Span.HasMinus " -5s".toList ∧ ¬ Span.IsMinusZero " -5s".toList ∧
      ∃ reason, parse "1m" " -5s" = .error (.invalidOptions reason) := by
  have one : " -5s" ∈ ["1m", " -5s"] := by decide
  have minus : Span.HasMinus " -5s".toList := by decide +kernel
  have notZero : ¬ Span.IsMinusZero " -5s".toList := by
    rw [Span.isMinusZero_iff, ← Span.read?_eq_some_iff]
    decide +kernel
  obtain ⟨_, _, _, -, -, refused⟩ := (refuses_minus one minus).1 notZero
  exact ⟨one, minus, notZero, _, refused⟩

/-- A minus sign is no bar to a limit of nothing. -/
theorem accepted_minus_zero :
    Span.HasMinus "-0s".toList ∧ parse "-0s" "1d" = .ok ⟨.zero, .ofSeconds 86400⟩ := by
  decide +kernel

end Limits
end Tenure
