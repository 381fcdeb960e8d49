import Mathlib.Tactic.SplitIfs
import Tenure.Proofs.Spelling

/-!
# The order of keys

Tables list their entries in the order of the code points of the keys. The bytes of a character
compare as the characters do, and no character's bytes begin those of another, so this is the order
of the bytes of the keys.
-/
namespace Tenure.Text

/-- Numbers compare as their digits to the base 64 do, of which the first holds all that is left. -/
theorem lt_by_digits {v w : Nat} (lt : v < w) :
    v / 262144 < w / 262144 ∨ v / 262144 = w / 262144 ∧
      (v / 4096 % 64 < w / 4096 % 64 ∨ v / 4096 % 64 = w / 4096 % 64 ∧
        (v / 64 % 64 < w / 64 % 64 ∨ v / 64 % 64 = w / 64 % 64 ∧ v % 64 < w % 64)) := by
  rcases Nat.lt_trichotomy (v / 262144) (w / 262144) with first | first | first
  · exact .inl first
  · refine .inr ⟨first, ?_⟩
    rcases Nat.lt_trichotomy (v / 4096 % 64) (w / 4096 % 64) with second | second | second
    · exact .inl second
    · exact .inr ⟨second, by omega⟩
    · omega
  · omega

/-- Whatever follows, the bytes of a character come before those of a later one. -/
theorem utf8EncodeChar_append_lt {c d : Char} (lt : c < d) (rest rest' : List UInt8) :
    String.utf8EncodeChar c ++ rest < String.utf8EncodeChar d ++ rest' := by
  have below : c.val.toNat < d.val.toNat := lt
  have bound : d.val.toNat < 0x110000 := d.valid.elim (fun h => by omega) fun h => h.2
  simp only [String.utf8EncodeChar]
  generalize c.val.toNat = v at *
  generalize d.val.toNat = w at *
  have digits := lt_by_digits below
  have continuation (x : Nat) : (x % 64 + 128) % 256 = x % 64 + 128 := by omega
  have lead (x : Nat) (h : x < 0x110000) : (x / 262144 % 8 + 240) % 256 = x / 262144 + 240 := by
    omega
  have leadOfV := lead v (by omega)
  have leadOfW := lead w bound
  -- One case for each pair of lengths; the longer code never comes first.
  split_ifs <;>
    simp only [List.cons_append, List.nil_append, List.cons_lt_cons_iff, UInt8.lt_iff_toNat_lt,
      UInt8.toNat_ofNat', ← UInt8.toNat_inj, Nat.reducePow, continuation, leadOfV, leadOfW] <;>
    omega

theorem bytes_lt {cs ds : List Char} (lt : cs < ds) :
    cs.flatMap String.utf8EncodeChar < ds.flatMap String.utf8EncodeChar := by
  induction cs generalizing ds with
  | nil =>
    cases ds with
    | nil => cases lt
    | cons d ds =>
      have some : String.utf8EncodeChar d ≠ [] := String.utf8EncodeChar_ne_nil
      obtain ⟨b, rest, eq⟩ := List.exists_cons_of_ne_nil some
      rw [List.flatMap_cons, eq]
      exact List.nil_lt_cons ..
  | cons c cs ih =>
    cases ds with
    | nil => cases lt
    | cons d ds =>
      rw [List.flatMap_cons, List.flatMap_cons]
      rcases List.cons_lt_cons_iff.mp lt with first | ⟨rfl, rest⟩
      · exact utf8EncodeChar_append_lt first _ _
      · exact List.append_left_lt (ih rest)

/-- The order of texts is that of their bytes. -/
theorem lt_iff_bytes_lt (s t : String) : s < t ↔ s.toUTF8.toList < t.toUTF8.toList := by
  have bytes (s : String) : s.toUTF8.toList = s.toList.flatMap String.utf8EncodeChar := by
    rw [← toList_toUTF8, String.ofList_toList]
  rw [String.lt_iff, bytes, bytes]
  refine ⟨bytes_lt, fun lt => Classical.byContradiction fun notLess => ?_⟩
  rcases List.le_iff_lt_or_eq.mp (List.not_lt.mp notLess) with later | same
  · exact List.lt_asymm lt (bytes_lt later)
  · rw [same] at lt
    exact List.lt_irrefl _ lt

end Tenure.Text
