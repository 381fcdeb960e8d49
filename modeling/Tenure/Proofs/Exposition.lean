import Mathlib.Data.Set.Function
import Tenure.Gauge
import Tenure.Proofs.Timespan

/-!
# Reading an exposition

A reader of the text in which gauges are shown: the text falls into lines, three of which make a
gauge. The last of the three has the name up to the first blank, and with the name it is known where
the help begins. So names may hold no blank, and neither names nor help a newline; of such gauges the
reader finds just those that were written, whatever the help says and however large the values are.
-/
namespace Tenure

/-! ## Lines -/

namespace Text

/-- The lines of a text in which each line is ended by a newline. -/
def lines? : List Char → Option (List (List Char))
  | [] => some []
  | c :: cs =>
    if c = '\n' then (lines? cs).map ([] :: ·)
    else
      match lines? cs with
      | some (line :: rest) => some ((c :: line) :: rest)
      | _ => none

theorem lines?_append {line : List Char} (whole : '\n' ∉ line) (cs : List Char) :
    lines? (line ++ '\n' :: cs) = (lines? cs).map (line :: ·) := by
  induction line with
  | nil => simp [lines?]
  | cons c line ih =>
    obtain ⟨other, whole⟩ := not_or.mp (mt List.mem_cons.mpr whole)
    rw [List.cons_append, lines?, if_neg (Ne.symm other), ih whole]
    cases lines? cs <;> rfl

/-- Lines are found as they were written. -/
theorem lines?_flatMap {lines : List (List Char)} (whole : ∀ line ∈ lines, '\n' ∉ line) :
    lines? (lines.flatMap fun line => line ++ ['\n']) = some lines := by
  induction lines with
  | nil => rfl
  | cons line lines ih =>
    obtain ⟨here, rest⟩ := List.forall_mem_cons.mp whole
    rw [List.flatMap_cons, List.append_assoc, List.singleton_append, lines?_append here, ih rest]
    rfl

end Text

namespace Span

/-- A number is written in its digits, behind a sign if it is negative. -/
theorem writes_toString (n : Int) : Writes n (toString n).toList := by
  have digits (m : Nat) : AreDigits (Nat.repr m).toList ∧ valueOf (Nat.repr m).toList = m := by
    rw [Nat.toList_repr]
    refine ⟨⟨Nat.toDigits_ne_nil, fun c => Nat.isDigit_of_mem_toDigits (by decide) (by decide)⟩, ?_⟩
    rw [← valueOf_eq_foldl]
    simpa [Nat.ofDigitChars_eq_foldl, Nat.mul_comm] using Nat.ofDigitChars_ten_toDigits (n := m)
  cases n with
  | ofNat m =>
    obtain ⟨areDigits, value⟩ := digits m
    have written := Writes.bare areDigits
    rwa [value] at written
  | negSucc m =>
    obtain ⟨areDigits, value⟩ := digits (m + 1)
    have written := Writes.minus areDigits
    rw [value] at written
    have text : (toString (Int.negSucc m)).toList = '-' :: (Nat.repr (m + 1)).toList :=
      String.toList_append
    rwa [text]

end Span

/-! ## Gauges -/

namespace Gauge

/-- The gauge that three lines show. -/
def ofThree? (help kind sample : List Char) : Option Gauge := do
  let sample ← sample.dropPrefix? "warpgrid_".toList
  let name := sample.takeWhile (· ≠ ' ')
  let value ← Span.signed? (sample.drop (name.length + 1))
  let help ← help.dropPrefix? ("# HELP warpgrid_".toList ++ name ++ [' '])
  if kind = "# TYPE warpgrid_".toList ++ name ++ " gauge".toList then
    some ⟨.ofList name, .ofList help, value⟩
  else none

def ofLines? : List (List Char) → Option (List Gauge)
  | [] => some []
  | help :: kind :: sample :: rest => do
    let gauge ← ofThree? help kind sample
    let gauges ← ofLines? rest
    return gauge :: gauges
  | _ => none

/-- The gauges that a text shows. -/
def ofExposition? (text : String) : Option (List Gauge) := (Text.lines? text.toList).bind ofLines?

/-- The name of a gauge has no blank in it, and neither name nor help is broken into lines. -/
structure Plain (g : Gauge) : Prop where
  unspaced : ' ' ∉ g.name.toList
  name_unbroken : '\n' ∉ g.name.toList
  help_unbroken : '\n' ∉ g.help.toList

/-- The lines of a gauge, letter by letter. -/
theorem map_toList_lines (g : Gauge) :
    g.lines.map String.toList =
      ["# HELP warpgrid_".toList ++ g.name.toList ++ [' '] ++ g.help.toList,
        "# TYPE warpgrid_".toList ++ g.name.toList ++ " gauge".toList,
        "warpgrid_".toList ++ g.name.toList ++ [' '] ++ (toString g.value).toList] := by
  simp [lines]

theorem dropPrefix?_append (l rest : List Char) : (l ++ rest).dropPrefix? l = some rest :=
  List.dropPrefix?_eq_some_iff.mpr ⟨l, rfl, BEq.rfl⟩

/-- A gauge is found in its lines, since its name ends at the first blank. -/
theorem ofThree?_written (g : Gauge) (unspaced : ' ' ∉ g.name.toList) :
    ofThree? ("# HELP warpgrid_".toList ++ g.name.toList ++ [' '] ++ g.help.toList)
      ("# TYPE warpgrid_".toList ++ g.name.toList ++ " gauge".toList)
      ("warpgrid_".toList ++ g.name.toList ++ [' '] ++ (toString g.value).toList) = some g := by
  have name (tail : List Char) :
      (g.name.toList ++ ' ' :: tail).takeWhile (· ≠ ' ') = g.name.toList := by
    rw [List.takeWhile_append_of_pos, List.takeWhile_cons_of_neg, List.append_nil]
    · simp
    · intro c mem
      have other : c ≠ ' ' := fun same => unspaced (same ▸ mem)
      simpa using other
  have value : Span.signed? ((g.name.toList ++ ' ' :: (toString g.value).toList).drop
      (g.name.toList.length + 1)) = some g.value := by
    rw [List.drop_length_add_append]
    exact Span.signed?_eq_some_iff.mpr (Span.writes_toString g.value)
  have help : ("# HELP warpgrid_".toList ++ g.name.toList ++ [' '] ++ g.help.toList).dropPrefix?
      ("# HELP warpgrid_".toList ++ g.name.toList ++ [' ']) = some g.help.toList :=
    dropPrefix?_append _ _
  have sample : "warpgrid_".toList ++ g.name.toList ++ [' '] ++ (toString g.value).toList =
      "warpgrid_".toList ++ (g.name.toList ++ ' ' :: (toString g.value).toList) := by
    simp only [List.append_assoc, List.singleton_append]
  rw [ofThree?, sample, dropPrefix?_append]
  simp only [Option.bind_eq_bind, Option.bind_some, name, value, help, if_true,
    String.ofList_toList]

theorem ofLines?_lines_append (g : Gauge) (unspaced : ' ' ∉ g.name.toList)
    (rest : List (List Char)) :
    ofLines? (g.lines.map String.toList ++ rest) = (ofLines? rest).map (g :: ·) := by
  rw [map_toList_lines, List.cons_append, List.cons_append, List.cons_append, List.nil_append,
    ofLines?, ofThree?_written g unspaced]
  cases ofLines? rest <;> rfl

theorem ofLines?_lines {gauges : List Gauge} (plain : ∀ g ∈ gauges, g.Plain) :
    ofLines? ((gauges.flatMap lines).map String.toList) = some gauges := by
  induction gauges with
  | nil => rfl
  | cons g gauges ih =>
    obtain ⟨here, rest⟩ := List.forall_mem_cons.mp plain
    rw [List.flatMap_cons, List.map_append, ofLines?_lines_append g here.unspaced, ih rest]
    rfl

/-- No line of a gauge is broken by a newline. -/
theorem Plain.unbroken {g : Gauge} (plain : g.Plain) :
    ∀ line ∈ g.lines.map String.toList, '\n' ∉ line := by
  have value : '\n' ∉ (toString g.value).toList := fun mem =>
    absurd ((Span.writes_toString g.value).dark _ mem) (by decide)
  rw [map_toList_lines]
  simp only [List.forall_mem_cons, List.mem_append, not_or, plain.name_unbroken,
    plain.help_unbroken, value, not_false_eq_true, and_true, List.not_mem_nil, false_implies,
    implies_true]
  decide

theorem toList_exposition (gauges : List Gauge) :
    (exposition gauges).toList =
      ((gauges.flatMap lines).map String.toList).flatMap fun line => line ++ ['\n'] := by
  simp [exposition, String.toList_join, List.flatMap_map]

/-- The lines of an exposition are those of the gauges, one gauge after the other. -/
theorem lines?_exposition {gauges : List Gauge} (plain : ∀ g ∈ gauges, g.Plain) :
    Text.lines? (exposition gauges).toList = some ((gauges.flatMap lines).map String.toList) := by
  rw [toList_exposition, Text.lines?_flatMap]
  intro line mem
  rw [List.map_flatMap, List.mem_flatMap] at mem
  obtain ⟨g, here, mem⟩ := mem
  exact (plain g here).unbroken line mem

theorem ofExposition?_exposition {gauges : List Gauge} (plain : ∀ g ∈ gauges, g.Plain) :
    ofExposition? (exposition gauges) = some gauges := by
  rw [ofExposition?, lines?_exposition plain]
  exact ofLines?_lines plain

end Gauge

theorem State.label_unbroken (s : State) : ' ' ∉ s.label.toList ∧ '\n' ∉ s.label.toList := by
  cases s <;> decide

theorem Text.not_mem_append {c : Char} {s t : String} (h : c ∉ s.toList) (h' : c ∉ t.toList) :
    c ∉ (s ++ t).toList := by
  rw [String.toList_append, List.mem_append]
  exact not_or.mpr ⟨h, h'⟩

/-- A replica shows plain gauges of itself. -/
theorem Snapshot.plain_gauges (s : Snapshot) : ∀ g ∈ s.gauges, g.Plain := by
  intro g mem
  rcases List.mem_cons.mp mem with rfl | mem
  · have name : ' ' ∉ "framework_registered".toList ∧ '\n' ∉ "framework_registered".toList := by
      decide
    have help : '\n' ∉ "Whether the resource manager acknowledged registration.".toList := by decide
    exact ⟨name.1, name.2, help⟩
  · obtain ⟨state, -, rfl⟩ := List.mem_map.mp mem
    obtain ⟨unspaced, unbroken⟩ := state.label_unbroken
    exact ⟨Text.not_mem_append (by decide) unspaced, Text.not_mem_append (by decide) unbroken,
      Text.not_mem_append (Text.not_mem_append (by decide) unbroken) (by decide)⟩

namespace Gauge

/-- Of plain gauges, as a replica shows them of itself, each makes three lines of an exposition, in
the order of the gauges, and the gauges are read from it as they were. So no others are shown
alike. -/
theorem exposition_determines {gauges : List Gauge} (plain : ∀ g ∈ gauges, g.Plain) :
    Text.lines? (exposition gauges).toList = some ((gauges.flatMap lines).map String.toList) ∧
    (gauges.flatMap lines).length = 3 * gauges.length ∧
    ofExposition? (exposition gauges) = some gauges ∧
    (∀ others : List Gauge, (∀ g ∈ others, g.Plain) → exposition others = exposition gauges →
      others = gauges) ∧
    ∀ s : Snapshot, ∀ g ∈ s.gauges, g.Plain := by
  have read := ofExposition?_exposition plain
  refine ⟨lines?_exposition plain, ?_, read, fun others plain' same => ?_, Snapshot.plain_gauges⟩
  · simp [List.length_flatMap, lines, Nat.mul_comm]
  · have read' := ofExposition?_exposition plain'
    rw [same, read] at read'
    exact (Option.some.inj read').symm

/-- Help may look like a line of its own. -/
theorem exposition_determines_of_misleading :
    (∀ g ∈ [(⟨"", "a 1", -1⟩ : Gauge), ⟨"a", "# TYPE warpgrid_a gauge", 9223372036854775807⟩],
      g.Plain) ∧
    ofExposition? ("# HELP warpgrid_ a 1\n# TYPE warpgrid_ gauge\nwarpgrid_ -1\n" ++
      "# HELP warpgrid_a # TYPE warpgrid_a gauge\n# TYPE warpgrid_a gauge\n" ++
      "warpgrid_a 9223372036854775807\n") =
        some [⟨"", "a 1", -1⟩, ⟨"a", "# TYPE warpgrid_a gauge", 9223372036854775807⟩] := by
  have plain : ∀ g ∈ [(⟨"", "a 1", -1⟩ : Gauge),
      ⟨"a", "# TYPE warpgrid_a gauge", 9223372036854775807⟩], g.Plain := by
    refine List.forall_mem_cons.mpr ⟨⟨by decide, by decide, by decide⟩,
      List.forall_mem_singleton.mpr ⟨by decide, by decide, by decide⟩⟩
  obtain ⟨-, -, read, -⟩ := exposition_determines plain
  exact ⟨plain, read⟩

end Gauge
end Tenure
