import Mathlib.Data.List.Chain
import Tenure.Json
import Tenure.Proofs.Layout

/-!
# Documents are read as they were written

The tokens of a tree, in whichever layout they stand, are arranged into the tree again. A value is
written as the tokens of its tree with nothing between them, so its tree is read back. Numbers of a
value are those that the store has: natural numbers in digits.
-/
namespace Tenure.Json

/-! ## The tokens of a tree -/

namespace Tree

mutual
/-- The tokens of a tree that is whole. -/
def tokens : Tree → List Token
  | null => [.null]
  | bool b => [.bool b]
  | number n => [.number n]
  | text s => [.text s]
  | array items _ => .openArray :: itemTokens items ++ [.closeArray]
  | object members _ => .openObject :: memberTokens members ++ [.closeObject]
  | broken => [.bad]

def itemTokens : List Tree → List Token
  | [] => []
  | [item] => item.tokens
  | item :: rest => item.tokens ++ .comma :: itemTokens rest

def memberTokens : List (Option String × Tree) → List Token
  | [] => []
  | [(key, value)] => .text key :: .colon :: value.tokens
  | (key, value) :: rest => .text key :: .colon :: value.tokens ++ .comma :: memberTokens rest
end

/-- The ways to write a document. -/
def Writes (t : Tree) (cs : List Char) : Prop := t.isWhole = true ∧ Layout t.tokens cs

end Tree

/-! ## Numbers are followed by what ends them -/

theorem Separated.cons {t : Token} {rest : List Token} (noNumber : t.isNumber = false)
    (h : Separated rest) : Separated (t :: rest) := by
  cases rest with
  | nil => exact .singleton t
  | cons u rest => exact List.isChain_cons_cons.mpr ⟨by simp [noNumber], h⟩

namespace Tree

mutual
theorem separated_tokens (t : Tree) {u : Token} {rest : List Token} (ends : u.endsNumber = true)
    (h : Separated (u :: rest)) : Separated (t.tokens ++ u :: rest) := by
  cases t with
  | null => exact .cons rfl h
  | bool b => exact .cons rfl h
  | number n => exact List.isChain_cons_cons.mpr ⟨fun _ => ends, h⟩
  | text s => exact .cons rfl h
  | array items _ =>
    rw [tokens, List.append_assoc]
    exact .cons rfl (separated_itemTokens items rfl (.cons rfl h))
  | object members _ =>
    rw [tokens, List.append_assoc]
    exact .cons rfl (separated_memberTokens members rfl (.cons rfl h))
  | broken => exact .cons rfl h

theorem separated_itemTokens (items : List Tree) {u : Token} {rest : List Token}
    (ends : u.endsNumber = true) (h : Separated (u :: rest)) :
    Separated (itemTokens items ++ u :: rest) := by
  cases items with
  | nil => exact h
  | cons item others =>
    cases others with
    | nil => exact separated_tokens item ends h
    | cons next others =>
      rw [itemTokens, List.append_assoc]
      · exact separated_tokens item rfl (.cons rfl (separated_itemTokens (next :: others) ends h))
      · nofun

theorem separated_memberTokens (members : List (Option String × Tree)) {u : Token}
    {rest : List Token} (ends : u.endsNumber = true) (h : Separated (u :: rest)) :
    Separated (memberTokens members ++ u :: rest) := by
  cases members with
  | nil => exact h
  | cons member others =>
    obtain ⟨key, value⟩ := member
    cases others with
    | nil => exact .cons rfl (.cons rfl (separated_tokens value ends h))
    | cons next others =>
      rw [memberTokens, List.append_assoc]
      · exact .cons rfl (.cons rfl (separated_tokens value rfl
          (.cons rfl (separated_memberTokens (next :: others) ends h))))
      · nofun
end

/-- Behind a whole document there is nothing that a number could run into. -/
theorem separated (t : Tree) : Separated t.tokens := by
  have last : Separated [.comma] := .singleton _
  have h := t.separated_tokens rfl last
  exact (List.isChain_append.mp h).1

/-! ## Building the tree again -/

namespace Build

/-- A value at the front of an array is taken as any other item. -/
theorem foldl_firstItem (item : Tree) (whole : item.isWhole = true) (others : List Tree)
    (done : List Tree) (frames : List Frame) (rest : List Token) :
    (itemTokens (item :: others) ++ rest).foldl step (going (.array done :: frames) .firstItem) =
      (itemTokens (item :: others) ++ rest).foldl step (going (.array done :: frames) .value) := by
  cases item with
  | broken => cases whole
  | _ => cases others <;> rfl

/-- A key at the front of an object is taken as any other key. -/
theorem foldl_firstKey (member : Option String × Tree) (others : List (Option String × Tree))
    (done : List (Option String × Tree)) (frames : List Frame) (rest : List Token) :
    (memberTokens (member :: others) ++ rest).foldl step
        (going (.object done :: frames) .firstKey) =
      (memberTokens (member :: others) ++ rest).foldl step
        (going (.object done :: frames) .key) := by
  cases others <;> rfl

mutual
/-- The tokens of a whole tree deliver it to the frames around it. -/
theorem foldl_tokens (t : Tree) (whole : t.isWhole = true) (frames : List Frame)
    (rest : List Token) :
    (t.tokens ++ rest).foldl step (going frames .value) =
      rest.foldl step (deliver t frames) := by
  cases t with
  | null => rfl
  | bool b => rfl
  | number n => rfl
  | text s => rfl
  | broken => cases whole
  | array items closed =>
    obtain ⟨areWhole, rfl⟩ : areWhole items = true ∧ closed = true := by
      simpa [isWhole] using whole
    rw [tokens, List.append_assoc, List.singleton_append, List.cons_append, List.foldl_cons]
    have inside := foldl_itemTokens items areWhole [] frames rest
    cases items with
    | nil => rfl
    | cons item others =>
      have first : item.isWhole = true := (Bool.and_eq_true_iff.mp areWhole).1
      exact (foldl_firstItem item first others [] frames _).trans (inside nofun)
  | object members stop =>
    obtain ⟨areWhole, rfl⟩ : haveWholeValues members = true ∧ stop = .closed := by
      simpa [isWhole] using whole
    rw [tokens, List.append_assoc, List.singleton_append, List.cons_append, List.foldl_cons]
    have inside := foldl_memberTokens members areWhole [] frames rest
    cases members with
    | nil => rfl
    | cons member others => exact (foldl_firstKey member others [] frames _).trans (inside nofun)

/-- The items that are left complete the array that holds those before them. -/
theorem foldl_itemTokens (items : List Tree) (whole : areWhole items = true) (done : List Tree)
    (frames : List Frame) (rest : List Token) (some : items ≠ []) :
    (itemTokens items ++ .closeArray :: rest).foldl step (going (.array done :: frames) .value) =
      rest.foldl step (deliver (.array (done.reverse ++ items) true) frames) := by
  cases items with
  | nil => exact absurd rfl some
  | cons item others =>
    obtain ⟨first, whole⟩ := Bool.and_eq_true_iff.mp whole
    cases others with
    | nil =>
      rw [itemTokens, foldl_tokens item first]
      simp [deliver, step]
    | cons next others =>
      have there := foldl_itemTokens (next :: others) whole (item :: done) frames rest nofun
      have tokens : itemTokens (item :: next :: others) =
          item.tokens ++ .comma :: itemTokens (next :: others) := rfl
      rw [tokens, List.append_assoc, foldl_tokens item first]
      simpa [deliver, step] using there

/-- The members that are left complete the object that holds those before them. -/
theorem foldl_memberTokens (members : List (Option String × Tree))
    (whole : haveWholeValues members = true) (done : List (Option String × Tree))
    (frames : List Frame) (rest : List Token) (some : members ≠ []) :
    (memberTokens members ++ .closeObject :: rest).foldl step
        (going (.object done :: frames) .key) =
      rest.foldl step (deliver (.object (done.reverse ++ members) .closed) frames) := by
  cases members with
  | nil => exact absurd rfl some
  | cons member others =>
    obtain ⟨key, value⟩ := member
    obtain ⟨first, whole⟩ := Bool.and_eq_true_iff.mp whole
    cases others with
    | nil =>
      show (value.tokens ++ .closeObject :: rest).foldl step
        (going (.member done key :: frames) .value) = _
      rw [foldl_tokens value first]
      simp [deliver, step]
    | cons next others =>
      have there :=
        foldl_memberTokens (next :: others) whole ((key, value) :: done) frames rest nofun
      show (value.tokens ++ (.comma :: memberTokens (next :: others)) ++ _).foldl step
        (going (.member done key :: frames) .value) = _
      rw [List.append_assoc, foldl_tokens value first]
      simpa [deliver, step] using there
end

end Build

/-- However a whole tree is written, it is what is read, with nothing behind it. -/
theorem ofBytes_of_writes {t : Tree} {s : String} (h : t.Writes s.toList) :
    ofBytes s.toUTF8.toList = ⟨t, false⟩ := by
  obtain ⟨whole, layout⟩ := h
  have bytes : s.toUTF8.toList = s.toList.flatMap String.utf8EncodeChar := by
    rw [← toList_toUTF8, String.ofList_toList]
  have built := Build.foldl_tokens t whole [] []
  rw [List.append_nil] at built
  rw [ofBytes, bytes, layout.lex t.separated, read, built]
  rfl

end Tree

/-! ## Values -/

mutual
theorem tokens_toTree (j : Json) : j.toTree.tokens = j.tokens := by
  cases j with
  | null | bool _ | number _ | text _ => rfl
  | array items => rw [toTree, Tree.tokens, itemTokens_itemTrees items, tokens]
  | object members => rw [toTree, Tree.tokens, memberTokens_memberTrees members, tokens]

theorem itemTokens_itemTrees (items : List Json) :
    Tree.itemTokens (itemTrees items) = itemTokens items := by
  cases items with
  | nil => rfl
  | cons item others =>
    cases others with
    | nil => exact tokens_toTree item
    | cons next others =>
      have there := itemTokens_itemTrees (next :: others)
      show item.toTree.tokens ++ .comma :: Tree.itemTokens (itemTrees (next :: others)) = _
      rw [tokens_toTree item, there]
      rfl

theorem memberTokens_memberTrees (members : List (String × Json)) :
    Tree.memberTokens (memberTrees members) = memberTokens members := by
  cases members with
  | nil => rfl
  | cons member others =>
    obtain ⟨key, value⟩ := member
    cases others with
    | nil => exact congrArg (.text (some key) :: .colon :: ·) (tokens_toTree value)
    | cons next others =>
      have there := memberTokens_memberTrees (next :: others)
      show .text (some key) :: .colon :: value.toTree.tokens ++
        .comma :: Tree.memberTokens (memberTrees (next :: others)) = _
      rw [tokens_toTree value, there]
      rfl
end

mutual
theorem isWhole_toTree (j : Json) : j.toTree.isWhole = true := by
  cases j with
  | null | bool _ | number _ | text _ => rfl
  | array items => simp [toTree, Tree.isWhole, areWhole_itemTrees items]
  | object members => simp [toTree, Tree.isWhole, haveWholeValues_memberTrees members]

theorem areWhole_itemTrees (items : List Json) : Tree.areWhole (itemTrees items) = true := by
  cases items with
  | nil => rfl
  | cons item others =>
    rw [itemTrees, Tree.areWhole, isWhole_toTree item, areWhole_itemTrees others]
    rfl

theorem haveWholeValues_memberTrees (members : List (String × Json)) :
    Tree.haveWholeValues (memberTrees members) = true := by
  cases members with
  | nil => rfl
  | cons member others =>
    obtain ⟨key, value⟩ := member
    rw [memberTrees, Tree.haveWholeValues, isWhole_toTree value,
      haveWholeValues_memberTrees others]
    rfl
end

/-- Whether tokens are spelled in one of the ways to write them. -/
def AreSpelled (tokens : List Token) : Prop := ∀ t ∈ tokens, t.Writes t.spell

/-- The same blanks may stand before each token. -/
theorem AreSpelled.layout {tokens : List Token} (h : AreSpelled tokens) {blanks : List Char}
    (blank : AreBlank blanks) : Layout tokens (tokens.flatMap fun t => blanks ++ t.spell) := by
  induction tokens with
  | nil => exact .nil nofun
  | cons t tokens ih =>
    obtain ⟨writes, h⟩ := List.forall_mem_cons.mp h
    exact .cons blank writes (ih h)

mutual
theorem areSpelled_tokens (j : Json) (naturals : ∀ n, .number n ∈ j.tokens → ∃ k, n = .ofNat k) :
    AreSpelled j.tokens := by
  cases j with
  | null => exact List.forall_mem_singleton.mpr (.fixed rfl)
  | bool b => exact List.forall_mem_singleton.mpr (.fixed (by cases b <;> rfl))
  | number n =>
    obtain ⟨k, rfl⟩ := naturals n List.mem_cons_self
    exact List.forall_mem_singleton.mpr (.number (Numeral.writes_ofNat k))
  | text s => exact List.forall_mem_singleton.mpr (.text (writesText_spellText s))
  | array items =>
    have inside := areSpelled_itemTokens items fun n mem => naturals n (by simp [tokens, mem])
    exact List.forall_mem_cons.mpr ⟨.fixed rfl, List.forall_mem_append.mpr
      ⟨inside, List.forall_mem_singleton.mpr (.fixed rfl)⟩⟩
  | object members =>
    have inside := areSpelled_memberTokens members fun n mem => naturals n (by simp [tokens, mem])
    exact List.forall_mem_cons.mpr ⟨.fixed rfl, List.forall_mem_append.mpr
      ⟨inside, List.forall_mem_singleton.mpr (.fixed rfl)⟩⟩

theorem areSpelled_itemTokens (items : List Json)
    (naturals : ∀ n, .number n ∈ itemTokens items → ∃ k, n = .ofNat k) :
    AreSpelled (itemTokens items) := by
  cases items with
  | nil => exact nofun
  | cons item others =>
    cases others with
    | nil => exact areSpelled_tokens item naturals
    | cons next others =>
      have here := areSpelled_tokens item fun n mem => naturals n (by simp [itemTokens, mem])
      have there := areSpelled_itemTokens (next :: others) fun n mem =>
        naturals n (by simp [itemTokens, mem])
      exact List.forall_mem_append.mpr ⟨here, List.forall_mem_cons.mpr ⟨.fixed rfl, there⟩⟩

theorem areSpelled_memberTokens (members : List (String × Json))
    (naturals : ∀ n, .number n ∈ memberTokens members → ∃ k, n = .ofNat k) :
    AreSpelled (memberTokens members) := by
  cases members with
  | nil => exact nofun
  | cons member others =>
    obtain ⟨key, value⟩ := member
    have named : Token.Writes (.text (some key)) (spellText key) :=
      .text (writesText_spellText key)
    cases others with
    | nil =>
      have here := areSpelled_tokens value fun n mem => naturals n (by simp [memberTokens, mem])
      exact List.forall_mem_cons.mpr ⟨named, List.forall_mem_cons.mpr ⟨.fixed rfl, here⟩⟩
    | cons next others =>
      have here := areSpelled_tokens value fun n mem => naturals n (by simp [memberTokens, mem])
      have there := areSpelled_memberTokens (next :: others) fun n mem =>
        naturals n (by simp [memberTokens, mem])
      exact List.forall_mem_cons.mpr ⟨named, List.forall_mem_cons.mpr ⟨.fixed rfl,
        List.forall_mem_append.mpr ⟨here, List.forall_mem_cons.mpr ⟨.fixed rfl, there⟩⟩⟩⟩
end

/-- The document of a value that was written is the value, with nothing behind it. -/
theorem Tree.ofBytes_encode (j : Json) (naturals : ∀ n, .number n ∈ j.tokens → ∃ k, n = .ofNat k) :
    Tree.ofBytes j.encode = ⟨j.toTree, false⟩ := by
  refine ofBytes_of_writes ⟨isWhole_toTree j, ?_⟩
  rw [tokens_toTree, render, String.toList_ofList]
  exact (areSpelled_tokens j naturals).layout (show AreBlank [] from fun _ mem => by cases mem)

end Tenure.Json
